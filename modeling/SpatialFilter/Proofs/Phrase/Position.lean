import SpatialFilter.Proofs.Number.Longest
import SpatialFilter.Proofs.Phrase.Geometry
import SpatialFilter.Proofs.Text.Separation

/-! The numbers of a body. A body is read to its end if its parts between commas are positions, and a position is
what is nothing but two longest tokens or more, with or without blanks around them. -/
namespace SpatialFilter

/-- The numbers of a text from left to right, each the longest token at its place. -/
inductive Numbers : List Char → List Numeral → Prop where
  | none {blanks : List Char} (blank : AllBlank blanks) : Numbers blanks []
  | more {blanks cs text rest : List Char} {n : Numeral} {ns : List Numeral} (blank : AllBlank blanks)
      (first : n.Longest cs text rest) (behind : Numbers rest ns) : Numbers (blanks ++ cs) (n :: ns)

structure IsPosition (cs : List Char) (ordinates : List Numeral) : Prop where
  numbers : Numbers cs ordinates
  enough : 2 ≤ ordinates.length

/-- Positions with a comma between each and the next. -/
def ArePositions (cs : List Char) (positions : List (List Numeral)) : Prop :=
  List.Forall₂ IsPosition (cs.splitOn ',') positions

namespace ArePositions
variable {cs : List Char} {positions : List (List Numeral)}

theorem nonempty (divided : ArePositions cs positions) : positions ≠ [] := by
  rintro rfl
  exact List.splitOn_ne_nil ',' cs (List.forall₂_nil_right_iff.mp divided)

theorem enough (divided : ArePositions cs positions) : ∀ position ∈ positions, 2 ≤ position.length := by
  unfold ArePositions at divided
  generalize cs.splitOn ',' = parts at divided
  induction divided with
  | nil => simp
  | cons first others ih => exact List.forall_mem_cons.mpr ⟨first.enough,ih⟩

end ArePositions

namespace Phrase
variable {cs part left : List Char}

/-! ### Numbers -/

theorem readNumber_longest {blanks text rest : List Char} {n : Numeral} (blank : AllBlank blanks)
    (longest : n.Longest cs text rest) : readNumber (blanks ++ cs) = some (n,rest) := by
  rw [readNumber,longest.split,← List.append_assoc,longest.spells.skipBlanks_text blank,← longest.split]
  exact longest.read

theorem longest_of_readNumber {rest : List Char} {n : Numeral} (ok : readNumber cs = some (n,rest)) :
    ∃ blanks behind text, AllBlank blanks ∧ cs = blanks ++ behind ∧ n.Longest behind text rest := by
  obtain ⟨blanks,blank,split⟩ := skipBlanks_split cs
  obtain ⟨text,longest⟩ := Numeral.longest_of_read ok
  exact ⟨blanks,skipBlanks cs,text,blank,split,longest⟩

theorem readNumber_blank (blank : AllBlank cs) : readNumber cs = none := by
  rw [readNumber,skipBlanks_eq_nil.mpr blank]
  rfl

/-- Numbers are read to the end of a text if it has no other characters than theirs and blanks. -/
theorem numbers_iff {ordinates : List Numeral} : Numbers cs ordinates ↔
    ∃ rest, readMany readNumber cs = (ordinates,rest) ∧ AllBlank rest := by
  constructor
  · intro numbers
    induction numbers with
    | none blank => exact ⟨_,readMany_none (readNumber_blank blank),blank⟩
    | more blank first behind ih =>
      obtain ⟨rest,many,ending⟩ := ih
      have read := readNumber_longest blank first
      exact ⟨rest,by rw [readMany_some read (readNumber_shortens _ _ _ read),many],ending⟩
  · rintro ⟨rest,many,blank⟩
    fun_induction readMany readNumber cs generalizing ordinates with
    | case1 cs refused =>
      cases many
      exact .none blank
    | case2 cs n behind read shorter ns last more ih =>
      cases many
      obtain ⟨blanks,front,text,isBlank,rfl,longest⟩ := longest_of_readNumber read
      exact .more isBlank longest (ih more)
    | case3 cs n behind read longer => exact absurd (readNumber_shortens _ _ _ read) longer

/-! ### Positions -/

theorem isPosition_iff {ordinates : List Numeral} : IsPosition cs ordinates ↔
    ∃ rest, readPosition cs = some (ordinates,rest) ∧ AllBlank rest := by
  simp only [readPosition_eq_some]
  constructor
  · intro ⟨numbers,enough⟩
    obtain ⟨rest,many,blank⟩ := numbers_iff.mp numbers
    exact ⟨rest,⟨many,enough⟩,blank⟩
  · intro ⟨rest,⟨many,enough⟩,blank⟩
    exact ⟨numbers_iff.mpr ⟨rest,many,blank⟩,enough⟩

theorem isPosition_of_read {ordinates other : List Numeral} (read : readPosition cs = some (ordinates,left)) :
    IsPosition cs other ↔ other = ordinates ∧ AllBlank left := by
  rw [isPosition_iff,read]
  constructor
  · rintro ⟨rest,⟨⟩,blank⟩
    exact ⟨rfl,blank⟩
  · rintro ⟨rfl,blank⟩
    exact ⟨left,rfl,blank⟩

theorem not_isPosition (refused : readPosition cs = none) (ordinates : List Numeral) : ¬ IsPosition cs ordinates := by
  simp [isPosition_iff,refused]

theorem not_mem_of_readPosition {c : Char} {ordinates : List Numeral} (free : c ∉ cs)
    (ok : readPosition cs = some (ordinates,left)) : c ∉ left := by
  obtain ⟨used,rfl,-⟩ := readPosition_consumes _ _ _ ok
  exact fun member => free (List.mem_append_right used member)

/-- Parts, each behind a comma. -/
def following (parts : List (List Char)) : List Char := parts.flatMap (',' :: ·)

theorem readPosition_following (part : List Char) (parts : List (List Char)) :
    readPosition (part ++ following parts) =
      (readPosition part).map fun found => (found.1,found.2 ++ following parts) := by
  cases parts with
  | nil => simp [following]
  | cons next parts => exact readPosition_stops (by decide) (by decide) part _

theorem readNextPosition_following (blank : AllBlank left) (part : List Char) (parts : List (List Char)) :
    readNextPosition (left ++ following (part :: parts)) =
      (readPosition part).map fun found => (found.1,found.2 ++ following parts) := by
  have marked : readMark ',' (left ++ following (part :: parts)) = some (part ++ following parts) :=
    readMark_behind rfl blank _
  simp [readNextPosition,marked,readPosition_following]

theorem readNextPosition_blank (blank : AllBlank cs) : readNextPosition cs = none := by
  simp [readNextPosition,readMark,skipBlanks_eq_nil.mpr blank]

/-- What is left of a part does not start with a comma. -/
theorem readNextPosition_visible (visible : ¬ AllBlank left) (free : ',' ∉ left) (rest : List Char) :
    readNextPosition (left ++ rest) = none := by
  obtain blank | ⟨blanks,c,more,blank,isVisible,rfl⟩ := blanks_or_visible left
  · exact absurd blank visible
  · have differ : c ≠ ',' := by
      rintro rfl
      simp at free
    rw [readNextPosition,List.append_assoc,List.cons_append,readMark_other differ isVisible blank]
    rfl

/-- Behind commas, positions are read to the end of a text if all of its parts are positions. -/
theorem positions_iff {parts : List (List Char)} (free : ∀ part ∈ parts, ',' ∉ part) (blank : AllBlank left)
    {positions : List (List Numeral)} : List.Forall₂ IsPosition parts positions ↔
      ∃ rest, readMany readNextPosition (left ++ following parts) = (positions,rest) ∧ AllBlank rest := by
  induction parts generalizing left positions with
  | nil =>
    rw [following,List.flatMap_nil,List.append_nil,readMany_none (readNextPosition_blank blank)]
    simp [blank,eq_comm]
  | cons part parts ih =>
    have read := readNextPosition_following blank part parts
    rw [List.forall₂_cons_left_iff]
    cases first : readPosition part with
    | none =>
      rw [first] at read
      rw [readMany_none read]
      apply iff_of_false
      · rintro ⟨ordinates,_,position,-⟩
        exact not_isPosition first ordinates position
      · rintro ⟨rest,⟨⟩,all⟩
        simpa [isBlank] using all ',' (by simp [following])
    | some found =>
      obtain ⟨ordinates,rest⟩ := found
      rw [first] at read
      rw [readMany_some read (readNextPosition_shortens _ _ _ read)]
      simp only [isPosition_of_read first]
      by_cases done : AllBlank rest
      · constructor
        · rintro ⟨_,more,⟨rfl,-⟩,tail,rfl⟩
          obtain ⟨last,many,ending⟩ := (ih (fun other member => free other (by simp [member])) done).mp tail
          exact ⟨last,by rw [many],ending⟩
        · rintro ⟨last,many,ending⟩
          cases many
          exact ⟨_,_,⟨rfl,done⟩,(ih (fun other member => free other (by simp [member])) done).mpr ⟨_,rfl,ending⟩,rfl⟩
      · -- Something of the part is left that is neither blank nor a comma, and no position follows.
        have unmarked := not_mem_of_readPosition (free part (by simp)) first
        rw [readMany_none (readNextPosition_visible done unmarked _)]
        apply iff_of_false
        · rintro ⟨_,_,⟨-,blank⟩,-⟩
          exact done blank
        · rintro ⟨last,⟨⟩,ending⟩
          exact done (allBlank_append.mp ending).1

theorem arePositions_iff {positions : List (List Numeral)} : ArePositions cs positions ↔
    ∃ rest, readMany readNextPosition (',' :: cs) = (positions,rest) ∧ AllBlank rest := by
  obtain ⟨joined,free⟩ := splitOn_parts ',' cs
  rw [ArePositions,positions_iff free allBlank_nil,following,joined,List.nil_append]

/-! ### Bodies -/

theorem readNextPosition_comma (cs : List Char) : readNextPosition (',' :: cs) = readPosition cs := by
  have marked : readMark ',' (',' :: cs) = some cs := readMark_behind rfl allBlank_nil cs
  simp [readNextPosition,marked]

theorem readBody_eq_some {α : Type} {body : Reader α} {value : α} : readBody body cs = some value ↔
    ∃ rest, body cs = some (value,rest) ∧ AllBlank rest := by
  unfold readBody
  cases body cs with
  | none => simp
  | some found =>
    obtain ⟨other,rest⟩ := found
    simp [skipBlanks_eq_nil,and_comm]

theorem readBody_point {phrase : GeometryPhrase} : readBody pointBody cs = some phrase ↔
    ∃ ordinates, IsPosition cs ordinates ∧ phrase = .point ordinates := by
  simp only [readBody_eq_some,isPosition_iff]
  constructor
  · rintro ⟨rest,ok,blank⟩
    obtain ⟨⟨ordinates,left⟩,read,⟨⟩⟩ := Option.bind_eq_some_iff.mp ok
    exact ⟨ordinates,⟨rest,read,blank⟩,rfl⟩
  · rintro ⟨ordinates,⟨rest,read,blank⟩,rfl⟩
    exact ⟨rest,by simp [pointBody,read],blank⟩

theorem readBody_lineString {phrase : GeometryPhrase} : readBody lineStringBody cs = some phrase ↔
    ∃ positions, ArePositions cs positions ∧ phrase = .lineString positions := by
  simp only [readBody_eq_some,arePositions_iff]
  have comma := readNextPosition_comma cs
  cases first : readPosition cs with
  | none =>
    rw [first] at comma
    simp [lineStringBody,first,readMany_none comma,AllBlank,isBlank]
  | some found =>
    obtain ⟨ordinates,behind⟩ := found
    rw [first] at comma
    rw [readMany_some comma (readNextPosition_shortens _ _ _ comma)]
    constructor
    · rintro ⟨rest,ok,blank⟩
      simp only [lineStringBody,first] at ok
      cases ok
      exact ⟨_,⟨_,rfl,blank⟩,rfl⟩
    · rintro ⟨_,⟨rest,⟨⟩,blank⟩,rfl⟩
      exact ⟨_,by simp [lineStringBody,first],blank⟩

theorem readBody_envelope {phrase : GeometryPhrase} : readBody envelopeBody cs = some phrase ↔
    ∃ lower upper, ArePositions cs [lower,upper] ∧ phrase = .envelope lower upper := by
  simp only [readBody_eq_some,arePositions_iff]
  constructor
  · rintro ⟨rest,ok,blank⟩
    obtain ⟨⟨lower,behind⟩,lowerRead,ok⟩ := Option.bind_eq_some_iff.mp ok
    obtain ⟨⟨upper,left⟩,upperRead,⟨⟩⟩ := Option.bind_eq_some_iff.mp ok
    rw [← readNextPosition_comma] at lowerRead
    refine ⟨lower,upper,⟨rest,?_,blank⟩,rfl⟩
    rw [readMany_some lowerRead (readNextPosition_shortens _ _ _ lowerRead),
      readMany_some upperRead (readNextPosition_shortens _ _ _ upperRead),readMany_none (readNextPosition_blank blank)]
  · rintro ⟨lower,upper,⟨rest,many,blank⟩,rfl⟩
    obtain ⟨behind,lowerRead,others⟩ := of_readMany_cons many
    obtain ⟨left,upperRead,none⟩ := of_readMany_cons others
    obtain rfl := of_readMany_nil none
    rw [readNextPosition_comma] at lowerRead
    exact ⟨rest,by simp [envelopeBody,lowerRead,upperRead],blank⟩

end Phrase

/-- What a group is read as follows from its body under each of the three tags, and from nothing under another one. -/
theorem GroupForm.phrase_cases (g : GroupForm) :
    (∃ ordinates, IsPosition g.body ordinates ∧ g.phrase = .point ordinates) ∨
    (∃ positions, ArePositions g.body positions ∧ g.phrase = .lineString positions) ∨
    (∃ lower upper, ArePositions g.body [lower,upper] ∧ g.phrase = .envelope lower upper) ∨
    g.phrase = .tagged g.tag := by
  rcases tag_cases g.tag with same | same | same | foreign
  · rw [phrase_point same]
    cases read : Phrase.readBody Phrase.pointBody g.body with
    | none => exact .inr (.inr (.inr rfl))
    | some phrase => exact .inl (Phrase.readBody_point.mp read)
  · rw [phrase_lineString same]
    cases read : Phrase.readBody Phrase.lineStringBody g.body with
    | none => exact .inr (.inr (.inr rfl))
    | some phrase => exact .inr (.inl (Phrase.readBody_lineString.mp read))
  · rw [phrase_envelope same]
    cases read : Phrase.readBody Phrase.envelopeBody g.body with
    | none => exact .inr (.inr (.inr rfl))
    | some phrase => exact .inr (.inr (.inl (Phrase.readBody_envelope.mp read)))
  · exact .inr (.inr (.inr (phrase_foreign foreign)))

end SpatialFilter
