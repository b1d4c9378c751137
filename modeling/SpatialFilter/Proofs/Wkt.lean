import SpatialFilter.Wkt
import SpatialFilter.Proofs.Number.Layout
import SpatialFilter.Proofs.Phrase.Geometry
import SpatialFilter.Proofs.Sequence

/-! Well-known text that is read back. A position is read up to its first number that is not finite; a
text whose positions are all finite and long enough is the text of one geometry, and any other text is
a mere tagged group. -/
namespace SpatialFilter

/-! ### Numbers -/

namespace Number

private theorem sqlText_infinite {n : Number} (infinite : n.isFinite = false) :
    n.sqlText = ['N','a','N'] ∨ n.sqlText = ['-','i','n','f'] ∨ n.sqlText = ['i','n','f'] := by
  cases n with
  | int i => cases infinite
  | float x =>
    unfold sqlText unboundedText
    simp only [show x.isFinite = false from infinite]
    cases x.isNaN <;> cases x.isNegative <;> simp

/-- Texts of numbers that are not finite do not start as a token does. -/
theorem sqlText_unread {n : Number} (infinite : n.isFinite = false) :
    ∃ c tail, n.sqlText = c :: tail ∧ isBlank c = false ∧ c ≠ ',' ∧
      ∀ rest, Numeral.read (c :: (tail ++ rest)) = none := by
  rcases sqlText_infinite infinite with text | text | text
  · exact ⟨_,_,text,rfl,by decide,fun rest => rfl⟩
  · exact ⟨_,_,text,rfl,by decide,fun rest => rfl⟩
  · exact ⟨_,_,text,rfl,by decide,fun rest => rfl⟩

theorem sqlText_plain (n : Number) : ∀ c ∈ n.sqlText, isPlain c = true := by
  cases finite : n.isFinite with
  | true => exact fun c member => isPlain_of_isNumeric ((sqlText_spells finite).numeric c member)
  | false => rcases sqlText_infinite finite with text | text | text <;> rw [text] <;> simp [isPlain]

end Number

namespace Phrase

theorem readNumber_sqlText {blanks : List Char} (blank : AllBlank blanks) {n : Number}
    (finite : n.isFinite = true) {rest : List Char} (boundary : Numeral.Boundary rest) :
    readNumber (blanks ++ n.sqlText ++ rest) = some (n.sqlNumeral,rest) :=
  readNumber_spelled blank (Number.sqlText_spells finite) boundary

theorem readNumber_infinite {blanks : List Char} (blank : AllBlank blanks) {n : Number}
    (infinite : n.isFinite = false) (rest : List Char) : readNumber (blanks ++ n.sqlText ++ rest) = none := by
  obtain ⟨c,tail,text,visible,-,unread⟩ := Number.sqlText_unread infinite
  unfold readNumber
  rw [text,List.append_assoc,List.cons_append,skipBlanks_behind blank visible]
  exact unread rest

end Phrase

/-! ### Positions -/

namespace Wkt

/-- A position that can be read back: long enough, and without infinities and NaN. -/
structure IsPlace (p : Position) : Prop where
  enough : 2 ≤ p.length
  finite : ∀ n ∈ p, n.isFinite = true

/-- What may follow a position in a text. -/
inductive Ends : List Char → Prop where
  | last : Ends []
  | next (more : List Char) : Ends (',' :: more)

/-- A text that is neither blank nor the start of another position. -/
structure Stuck (left : List Char) : Prop where
  visible : skipBlanks left ≠ []
  noPosition : readMark ',' left = none

def spaced (ns : List Number) : List Char := ns.flatMap fun n => ' ' :: n.sqlText

def positionText : Position → List Char
  | [] => []
  | n :: ns => n.sqlText ++ spaced ns

variable {p : Position} {ns : List Number} {blanks rest : List Char}

private theorem positionText_cons (blanks : List Char) (n : Number) (ns : List Number) (rest : List Char) :
    blanks ++ positionText (n :: ns) ++ rest = blanks ++ n.sqlText ++ (spaced ns ++ rest) := by
  simp [positionText]

theorem Ends.refused (ends : Ends rest) (blank : AllBlank blanks) : Phrase.readNumber (blanks ++ rest) = none := by
  unfold Phrase.readNumber
  cases ends with
  | last =>
    rw [List.append_nil,skipBlanks_eq_nil.mpr blank]
    rfl
  | next more =>
    rw [skipBlanks_behind blank rfl]
    rfl

theorem Ends.boundary (ends : Ends rest) (ns : List Number) : Numeral.Boundary (spaced ns ++ rest) := by
  intro c first
  cases ns with
  | cons n ns =>
    cases first
    decide
  | nil =>
    cases ends with
    | last => cases first
    | next more =>
      cases first
      decide

theorem stuck_infinite (blank : AllBlank blanks) {n : Number} (infinite : n.isFinite = false)
    (more : List Char) : Stuck (blanks ++ n.sqlText ++ more) := by
  obtain ⟨c,tail,text,visible,noComma,-⟩ := Number.sqlText_unread infinite
  rw [text,List.append_assoc,List.cons_append]
  exact ⟨by rw [skipBlanks_behind blank visible]; simp,readMark_other noComma visible blank _⟩

private theorem blank_space : AllBlank [' '] := by
  simp [AllBlank,isBlank]

/-- A finite number is read, and the numbers behind it as they would be read alone. -/
theorem readMany_cons (blank : AllBlank blanks) {n : Number} (finite : n.isFinite = true) (ns : List Number)
    (ends : Ends rest) : readMany Phrase.readNumber (blanks ++ positionText (n :: ns) ++ rest) =
      (n.sqlNumeral :: (readMany Phrase.readNumber (spaced ns ++ rest)).1,
        (readMany Phrase.readNumber (spaced ns ++ rest)).2) := by
  have shorter : (spaced ns ++ rest).length < (blanks ++ n.sqlText ++ (spaced ns ++ rest)).length := by
    obtain ⟨c,tail,text,-⟩ := (Number.sqlText_spells finite).head
    simp only [List.length_append,text,List.length_cons]
    omega
  rw [positionText_cons]
  exact readMany_some (Phrase.readNumber_sqlText blank finite (ends.boundary ns)) shorter

/-- Numbers are read up to the first one that is not finite. -/
theorem readMany_spaced (ns : List Number) (ends : Ends rest) :
    ∃ left, readMany Phrase.readNumber (spaced ns ++ rest) =
        ((ns.takeWhile Number.isFinite).map Number.sqlNumeral,left) ∧
      ((∀ n ∈ ns, n.isFinite = true) ∧ left = rest ∨ (∃ n ∈ ns, n.isFinite = false) ∧ Stuck left) := by
  -- What is left is `rest` as long as all numbers so far are finite; it is stuck from the first that is not.
  induction ns with
  | nil => exact ⟨rest,readMany_none (ends.refused allBlank_nil),.inl ⟨by simp,rfl⟩⟩
  | cons n ns ih =>
    have split : spaced (n :: ns) ++ rest = [' '] ++ positionText (n :: ns) ++ rest := by
      simp [spaced,positionText]
    rw [split]
    cases finite : n.isFinite with
    | false =>
      rw [positionText_cons]
      have stuck := stuck_infinite blank_space finite (spaced ns ++ rest)
      refine ⟨_,?_,.inr ⟨⟨n,by simp,finite⟩,stuck⟩⟩
      rw [readMany_none (Phrase.readNumber_infinite blank_space finite _)]
      simp [finite]
    | true =>
      obtain ⟨left,many,kind⟩ := ih
      refine ⟨left,?_,?_⟩
      · rw [readMany_cons blank_space finite ns ends,many]
        simp [finite]
      · rcases kind with ⟨all,done⟩ | ⟨⟨m,member,infinite⟩,stuck⟩
        · exact .inl ⟨by simpa [finite] using all,done⟩
        · exact .inr ⟨⟨m,by simp [member],infinite⟩,stuck⟩

theorem readPosition_place (blank : AllBlank blanks) (place : IsPlace p) (ends : Ends rest) :
    Phrase.readPosition (blanks ++ positionText p ++ rest) = some (p.map Number.sqlNumeral,rest) := by
  obtain ⟨enough,finite⟩ := place
  cases p with
  | nil => simp at enough
  | cons n ns =>
    have all : ∀ m ∈ ns, m.isFinite = true := fun m member => finite m (by simp [member])
    obtain ⟨left,many,⟨-,rfl⟩ | ⟨⟨m,member,infinite⟩,-⟩⟩ := readMany_spaced ns ends
    · rw [Phrase.readPosition_eq_some,readMany_cons blank (finite n (by simp)) ns ends,many,
        List.takeWhile_eq_self_iff.mpr all]
      exact ⟨rfl,by simpa using enough⟩
    · simp [all m member] at infinite

/-- What is left of a position that cannot be read back is no position either. -/
theorem readPosition_other (blank : AllBlank blanks) (other : ¬ IsPlace p) (ends : Ends rest)
    {ordinates : List Numeral} {left : List Char}
    (read : Phrase.readPosition (blanks ++ positionText p ++ rest) = some (ordinates,left)) : Stuck left := by
  obtain ⟨many,enough⟩ := Phrase.readPosition_eq_some.mp read
  cases p with
  | nil =>
    rw [positionText,List.append_nil,readMany_none (ends.refused blank)] at many
    cases many
    simp at enough
  | cons n ns =>
    cases finite : n.isFinite with
    | false =>
      rw [positionText_cons,readMany_none (Phrase.readNumber_infinite blank finite _)] at many
      cases many
      simp at enough
    | true =>
      obtain ⟨behind,spacedRead,kind⟩ := readMany_spaced ns ends
      rw [readMany_cons blank finite ns ends,spacedRead] at many
      cases many
      rcases kind with ⟨all,-⟩ | ⟨-,stuck⟩
      · rw [List.takeWhile_eq_self_iff.mpr all] at enough
        exact absurd ⟨by simpa using enough,by simpa [finite] using all⟩ other
      · exact stuck

/-! ### Bodies -/

private theorem readPosition_text (place : IsPlace p) (ends : Ends rest) :
    Phrase.readPosition (positionText p ++ rest) = some (p.map Number.sqlNumeral,rest) :=
  readPosition_place allBlank_nil place ends

private theorem stuck_text (other : ¬ IsPlace p) (ends : Ends rest) {ordinates : List Numeral} {left : List Char}
    (read : Phrase.readPosition (positionText p ++ rest) = some (ordinates,left)) : Stuck left :=
  readPosition_other allBlank_nil other ends read

theorem readBody_point (place : IsPlace p) :
    Phrase.readBody Phrase.pointBody (positionText p) = some (.point (p.map Number.sqlNumeral)) := by
  have read := readPosition_text place .last
  rw [List.append_nil] at read
  simp [Phrase.readBody,Phrase.pointBody,read,skipBlanks]

theorem readBody_point_other (other : ¬ IsPlace p) : Phrase.readBody Phrase.pointBody (positionText p) = none := by
  unfold Phrase.readBody Phrase.pointBody
  cases read : Phrase.readPosition (positionText p) with
  | none => rfl
  | some found =>
    obtain ⟨ordinates,left⟩ := found
    have stuck : Stuck left := stuck_text other .last (by rwa [List.append_nil])
    simp [stuck.visible]

def following (ps : List Position) : List Char := ps.flatMap fun p => ',' :: ' ' :: positionText p

def lineStringText : List Position → List Char
  | [] => []
  | p :: ps => positionText p ++ following ps

theorem following_ends (ps : List Position) : Ends (following ps) := by
  cases ps with
  | nil => exact .last
  | cons p ps => exact .next _

private theorem readNextPosition_following (p : Position) (ps : List Position) :
    Phrase.readNextPosition (following (p :: ps)) = Phrase.readPosition ([' '] ++ positionText p ++ following ps) := by
  have marked : readMark ',' (following (p :: ps)) = some ([' '] ++ positionText p ++ following ps) :=
    readMark_behind rfl allBlank_nil _
  simp [Phrase.readNextPosition,marked]

private theorem readNextPosition_place (place : IsPlace p) (ps : List Position) :
    Phrase.readNextPosition (following (p :: ps)) = some (p.map Number.sqlNumeral,following ps) := by
  rw [readNextPosition_following]
  exact readPosition_place blank_space place (following_ends ps)

private theorem following_shorter (p : Position) (ps : List Position) :
    (following ps).length < (following (p :: ps)).length := by
  simp [following]
  omega

theorem readMany_following {ps : List Position} (places : ∀ p ∈ ps, IsPlace p) :
    readMany Phrase.readNextPosition (following ps) = (ps.map (List.map Number.sqlNumeral),[]) := by
  induction ps with
  | nil => exact readMany_none rfl
  | cons p ps ih =>
    have read := readNextPosition_place (places p (by simp)) ps
    rw [readMany_some read (following_shorter p ps),ih fun q member => places q (by simp [member])]
    rfl

theorem readMany_stuck {left : List Char} (stuck : Stuck left) :
    readMany Phrase.readNextPosition left = ([],left) :=
  readMany_none (by simp [Phrase.readNextPosition,stuck.noPosition])

/-- Something is left of positions that cannot all be read back. -/
theorem readMany_following_other {ps : List Position} (other : ¬ ∀ p ∈ ps, IsPlace p) :
    skipBlanks (readMany Phrase.readNextPosition (following ps)).2 ≠ [] := by
  induction ps with
  | nil => simp at other
  | cons p ps ih =>
    have whole : skipBlanks (following (p :: ps)) ≠ [] := by simp [following,skipBlanks,isBlank]
    by_cases place : IsPlace p
    · rw [readMany_some (readNextPosition_place place ps) (following_shorter p ps)]
      exact ih (by simpa [place] using other)
    · -- A front of this position may still be read as one, but nothing behind it is.
      rw [readMany]
      split
      · exact whole
      · rename_i ordinates left read
        rw [readNextPosition_following] at read
        have stuck := readPosition_other blank_space place (following_ends ps) read
        split
        · simpa [readMany_stuck stuck] using stuck.visible
        · exact whole

theorem readBody_lineString {p : Position} {ps : List Position} (places : ∀ q ∈ p :: ps, IsPlace q) :
    Phrase.readBody Phrase.lineStringBody (lineStringText (p :: ps)) =
      some (.lineString ((p :: ps).map (List.map Number.sqlNumeral))) := by
  have first := readPosition_text (places p (by simp)) (following_ends ps)
  have more := readMany_following fun q member => places q (List.mem_cons_of_mem p member)
  simp [Phrase.readBody,Phrase.lineStringBody,lineStringText,first,more,skipBlanks]

theorem readBody_lineString_other {ps : List Position} (other : ps = [] ∨ ¬ ∀ p ∈ ps, IsPlace p) :
    Phrase.readBody Phrase.lineStringBody (lineStringText ps) = none := by
  cases ps with
  | nil =>
    have empty : readMany Phrase.readNumber [] = ([],[]) := readMany_none rfl
    simp [Phrase.readBody,Phrase.lineStringBody,Phrase.readPosition,lineStringText,empty]
  | cons p ps =>
    have missing : ¬ ∀ q ∈ p :: ps, IsPlace q := other.resolve_left (by simp)
    unfold Phrase.readBody Phrase.lineStringBody lineStringText
    by_cases place : IsPlace p
    · have rest : ¬ ∀ q ∈ ps, IsPlace q := by simpa [place] using missing
      have left := readMany_following_other rest
      simp [readPosition_text place (following_ends ps),left]
    · cases read : Phrase.readPosition (positionText p ++ following ps) with
      | none => rfl
      | some found =>
        obtain ⟨ordinates,left⟩ := found
        have stuck := stuck_text place (following_ends ps) read
        simp [readMany_stuck stuck,stuck.visible]

/-! ### Texts as groups -/

theorem position_toList (p : Position) : (position p).toList = positionText p := by
  rw [position,String.toList_intercalate,List.map_map]
  have text : String.toList ∘ toString = Number.sqlText := by
    funext n
    exact String.toList_ofList
  rw [text]
  cases p with
  | nil => rfl
  | cons n ns =>
    rw [List.map_cons,intercalate_cons,List.flatMap_map]
    rfl

theorem positions_toList (ps : List Position) :
    (String.intercalate ", " (ps.map position)).toList = lineStringText ps := by
  rw [String.toList_intercalate,List.map_map]
  have text : String.toList ∘ position = positionText := by
    funext p
    exact position_toList p
  rw [text]
  cases ps with
  | nil => rfl
  | cons p ps =>
    rw [List.map_cons,intercalate_cons,List.flatMap_map]
    rfl

private theorem spaced_plain (ns : List Number) : ∀ c ∈ spaced ns, isPlain c = true := by
  intro c member
  obtain ⟨n,-,inside⟩ := List.mem_flatMap.mp member
  rcases List.mem_cons.mp inside with rfl | inside
  · rfl
  · exact n.sqlText_plain c inside

theorem positionText_plain (p : Position) : ∀ c ∈ positionText p, isPlain c = true := by
  cases p with
  | nil => simp [positionText]
  | cons n ns => exact fun c member => (List.mem_append.mp member).elim (n.sqlText_plain c) (spaced_plain ns c)

private theorem following_plain (ps : List Position) : ∀ c ∈ following ps, isPlain c = true := by
  intro c member
  obtain ⟨p,-,inside⟩ := List.mem_flatMap.mp member
  rcases List.mem_cons.mp inside with rfl | inside
  · rfl
  · rcases List.mem_cons.mp inside with rfl | inside
    · rfl
    · exact positionText_plain p c inside

theorem lineStringText_plain (ps : List Position) : ∀ c ∈ lineStringText ps, isPlain c = true := by
  cases ps with
  | nil => simp [lineStringText]
  | cons p ps =>
    exact fun c member => (List.mem_append.mp member).elim (positionText_plain p c) (following_plain ps c)

def pointForm (p : Position) : GroupForm :=
  ⟨"POINT".toList,[],positionText p,Phrase.isWord_point,allBlank_nil,Balanced.of_plain (positionText_plain p)⟩

def lineStringForm (ps : List Position) : GroupForm :=
  ⟨"LINESTRING".toList,[],lineStringText ps,Phrase.isWord_lineString,allBlank_nil,
    Balanced.of_plain (lineStringText_plain ps)⟩

theorem pointForm_text (x y : Number) (z : Option Number) :
    (pointForm (x :: y :: z.toList)).text = (point x y z).toList := by
  unfold GroupForm.text pointForm point
  simp [position_toList]

theorem lineStringForm_text (ps : List Position) : (lineStringForm ps).text = (lineString ps).toList := by
  unfold GroupForm.text lineStringForm lineString
  simp only [String.toList_append,positions_toList]
  simp

theorem phrase_point (p : Position) : (pointForm p).phrase =
    (Phrase.readBody Phrase.pointBody (positionText p)).getD (.tagged "POINT".toList) :=
  GroupForm.phrase_point (by decide : sameLetters "POINT".toList "POINT".toList = true)

theorem phrase_lineString (ps : List Position) : (lineStringForm ps).phrase =
    (Phrase.readBody Phrase.lineStringBody (lineStringText ps)).getD (.tagged "LINESTRING".toList) :=
  GroupForm.phrase_lineString (by decide : sameLetters "LINESTRING".toList "LINESTRING".toList = true)

theorem readGeometry_point (x y : Number) (z : Option Number) : readGeometry (point x y z) =
    ((Phrase.readBody Phrase.pointBody (positionText (x :: y :: z.toList))).getD
      (.tagged "POINT".toList)).toGeometry := by
  rw [← phrase_point,← readGeometry_groupText,pointForm_text,String.ofList_toList]

theorem readGeometry_lineString (ps : List Position) : readGeometry (lineString ps) =
    ((Phrase.readBody Phrase.lineStringBody (lineStringText ps)).getD (.tagged "LINESTRING".toList)).toGeometry := by
  rw [← phrase_lineString,← readGeometry_groupText,lineStringForm_text,String.ofList_toList]

theorem readGeometry_point_fits (x y : Number) (z : Option Number) (found : Mismatch) :
    readGeometry (point x y z) ≠ .error (.mismatch found) :=
  readGeometry_point x y z ▸ GeometryPhrase.toGeometry_fits _ found

theorem readGeometry_lineString_fits (ps : List Position) (found : Mismatch) :
    readGeometry (lineString ps) ≠ .error (.mismatch found) :=
  readGeometry_lineString ps ▸ GeometryPhrase.toGeometry_fits _ found

/-! ### Round trips -/

theorem map_ofNumeral {ns : List Number} (finite : ∀ n ∈ ns, n.isFinite = true) :
    (ns.map Number.sqlNumeral).map Number.ofNumeral = ns := by
  rw [List.map_map]
  exact (List.map_congr_left fun n member => Number.ofNumeral_sqlNumeral (finite n member)).trans (List.map_id ns)

theorem isPlace_point {x y : Number} {z : Option Number} :
    IsPlace (x :: y :: z.toList) ↔ ∀ n ∈ x :: y :: z.toList, n.isFinite = true :=
  ⟨fun place => place.finite,fun finite => ⟨by simp,finite⟩⟩

private theorem tagged_point :
    (GeometryPhrase.tagged "POINT".toList).toGeometry = .error (.unknownGeometry "POINT") := by
  decide

private theorem tagged_lineString :
    (GeometryPhrase.tagged "LINESTRING".toList).toGeometry = .error (.unknownGeometry "LINESTRING") := by
  decide

theorem readGeometry_point_place {x y : Number} {z : Option Number} (place : IsPlace (x :: y :: z.toList)) :
    readGeometry (point x y z) = .ok (.point x y z) := by
  rw [readGeometry_point,readBody_point place,Option.getD_some,GeometryPhrase.toGeometry,
    map_ofNumeral place.finite]
  cases z <;> rfl

theorem readGeometry_point_other {x y : Number} {z : Option Number} (other : ¬ IsPlace (x :: y :: z.toList)) :
    readGeometry (point x y z) = .error (.unknownGeometry "POINT") := by
  rw [readGeometry_point,readBody_point_other other,Option.getD_none,tagged_point]

theorem readGeometry_point_eq_ok {x y : Number} {z : Option Number} :
    readGeometry (point x y z) = .ok (.point x y z) ↔ ∀ n ∈ x :: y :: z.toList, n.isFinite = true := by
  rw [← isPlace_point]
  by_cases place : IsPlace (x :: y :: z.toList)
  · exact iff_of_true (readGeometry_point_place place) place
  · exact iff_of_false (by simp [readGeometry_point_other place]) place

theorem readGeometry_lineString_places {ps : List Position} (some : ps ≠ []) (places : ∀ p ∈ ps, IsPlace p) :
    readGeometry (lineString ps) = if ps.length < 2 then .error .fewPositions else .ok (.lineString ps) := by
  obtain ⟨p,more,rfl⟩ := List.exists_cons_of_ne_nil some
  have numbers : ((p :: more).map (List.map Number.sqlNumeral)).map (List.map Number.ofNumeral) = p :: more := by
    rw [List.map_map]
    exact (List.map_congr_left fun q member => map_ofNumeral (places q member).finite).trans (List.map_id _)
  rw [readGeometry_lineString,readBody_lineString places,Option.getD_some,GeometryPhrase.toGeometry,numbers,
    List.length_map]

theorem readGeometry_lineString_many {ps : List Position} (many : 2 ≤ ps.length) (places : ∀ p ∈ ps, IsPlace p) :
    readGeometry (lineString ps) = .ok (.lineString ps) := by
  have some : ps ≠ [] := List.length_pos_iff.mp (by omega)
  rw [readGeometry_lineString_places some places]
  exact if_neg (Nat.not_lt_of_le many)

theorem readGeometry_lineString_one {p : Position} (place : IsPlace p) :
    readGeometry (lineString [p]) = .error .fewPositions :=
  readGeometry_lineString_places (List.cons_ne_nil p []) (by simpa using place)

theorem readGeometry_lineString_other {ps : List Position} (other : ps = [] ∨ ∃ p ∈ ps, ¬ IsPlace p) :
    readGeometry (lineString ps) = .error (.unknownGeometry "LINESTRING") := by
  have unread : ps = [] ∨ ¬ ∀ p ∈ ps, IsPlace p := by simpa using other
  rw [readGeometry_lineString,readBody_lineString_other unread,Option.getD_none,tagged_lineString]

/-- What the positions of a line string can be like, in the order of the three results. -/
theorem positions_cases (ps : List Position) : (2 ≤ ps.length ∧ ∀ p ∈ ps, IsPlace p) ∨
    (∃ p, ps = [p] ∧ IsPlace p) ∨ ps = [] ∨ ∃ p ∈ ps, ¬ IsPlace p := by
  by_cases places : ∀ p ∈ ps, IsPlace p
  · rcases ps with _ | ⟨p,_ | ⟨q,more⟩⟩
    · exact .inr (.inr (.inl rfl))
    · exact .inr (.inl ⟨p,rfl,places p (by simp)⟩)
    · exact .inl ⟨by simp,places⟩
  · exact .inr (.inr (.inr (by simpa using places)))

theorem readGeometry_lineString_eq_ok {ps : List Position} : readGeometry (lineString ps) = .ok (.lineString ps) ↔
    2 ≤ ps.length ∧ ∀ p ∈ ps, IsPlace p := by
  refine ⟨fun read => ?_,fun ⟨many,places⟩ => readGeometry_lineString_many many places⟩
  rcases positions_cases ps with many | ⟨p,rfl,place⟩ | other
  · exact many
  · simp [readGeometry_lineString_one place] at read
  · simp [readGeometry_lineString_other other] at read

theorem readGeometry_lineString_eq_few {ps : List Position} : readGeometry (lineString ps) = .error .fewPositions ↔
    ∃ p, ps = [p] ∧ IsPlace p := by
  refine ⟨fun read => ?_,fun ⟨p,one,place⟩ => one ▸ readGeometry_lineString_one place⟩
  rcases positions_cases ps with ⟨many,places⟩ | one | other
  · simp [readGeometry_lineString_many many places] at read
  · exact one
  · simp [readGeometry_lineString_other other] at read

theorem readGeometry_lineString_eq_unknown {ps : List Position} :
    readGeometry (lineString ps) = .error (.unknownGeometry "LINESTRING") ↔ ps = [] ∨ ∃ p ∈ ps, ¬ IsPlace p := by
  refine ⟨fun read => ?_,readGeometry_lineString_other⟩
  rcases positions_cases ps with ⟨many,places⟩ | ⟨p,rfl,place⟩ | other
  · simp [readGeometry_lineString_many many places] at read
  · simp [readGeometry_lineString_one place] at read
  · exact other

end Wkt

/-- Points are read back from their well-known text if their ordinates are finite, and line strings if
they have two positions that can be read back and no other positions. -/
theorem readGeometry_wkt :
    (∀ x y z, (readGeometry (Wkt.point x y z) = .ok (.point x y z) ↔
          ∀ n ∈ x :: y :: z.toList, n.isFinite = true) ∧
        ((∃ n ∈ x :: y :: z.toList, n.isFinite = false) →
          readGeometry (Wkt.point x y z) = .error (.unknownGeometry "POINT")) ∧
        ∀ found, readGeometry (Wkt.point x y z) ≠ .error (.mismatch found)) ∧
      (∀ positions, (readGeometry (Wkt.lineString positions) = .ok (.lineString positions) ↔
          2 ≤ positions.length ∧ ∀ p ∈ positions, Wkt.IsPlace p) ∧
        (readGeometry (Wkt.lineString positions) = .error .fewPositions ↔
          ∃ p, positions = [p] ∧ Wkt.IsPlace p) ∧
        (readGeometry (Wkt.lineString positions) = .error (.unknownGeometry "LINESTRING") ↔
          positions = [] ∨ ∃ p ∈ positions, ¬ Wkt.IsPlace p) ∧
        ∀ found, readGeometry (Wkt.lineString positions) ≠ .error (.mismatch found)) ∧
      (ReadError.unknownGeometry "POINT").message = "Syntax error: Unknown geometry type: POINT" ∧
      ReadError.fewPositions.message = "Syntax error: LINESTRING needs at least two positions" ∧
      (ReadError.unknownGeometry "LINESTRING").message = "Syntax error: Unknown geometry type: LINESTRING" := by
  refine ⟨fun x y z => ⟨Wkt.readGeometry_point_eq_ok,?_,Wkt.readGeometry_point_fits x y z⟩,
    fun positions => ⟨Wkt.readGeometry_lineString_eq_ok,Wkt.readGeometry_lineString_eq_few,
      Wkt.readGeometry_lineString_eq_unknown,Wkt.readGeometry_lineString_fits positions⟩,by decide,rfl,by decide⟩
  intro ⟨n,member,infinite⟩
  apply Wkt.readGeometry_point_other
  intro place
  simp [place.finite n member] at infinite

end SpatialFilter
