import SpatialFilter.Proofs.Number.Token

/-! Longest tokens. What is left behind a number is never more than what any token at the front of the text would
leave, so the number that is read is the longest token there. -/
namespace SpatialFilter

/-- A run that starts with these digits goes on as far as digits do. -/
theorem AllDigits.readRun_append {digits : List Char} (all : AllDigits digits) (rest : List Char) :
    readRun Char.isDigit (digits ++ rest) =
      some (digits ++ rest.takeWhile Char.isDigit,rest.dropWhile Char.isDigit) := by
  obtain ⟨c,tail,rfl⟩ := List.exists_cons_of_ne_nil all.nonempty
  unfold readRun
  rw [List.takeWhile_append_of_pos all.digits,List.dropWhile_append_of_pos all.digits]
  rfl

namespace Numeral

/-- The longest token at the front of a text. -/
structure Longest (cs : List Char) (n : Numeral) (text rest : List Char) : Prop where
  spells : n.Spells text
  split : cs = text ++ rest
  longest : ∀ m other, Spells m other → other <+: cs → other.length ≤ text.length

/-! ### Parts of a token in front of any text -/

section Parts
variable {letter : Char}

theorem readFraction_shrinks (cs : List Char) : (readFraction cs).2.length ≤ cs.length := by
  have suffix : (readFraction cs).2 <:+ cs := ⟨_,(readFraction_split rfl).1.symm⟩
  exact suffix.length_le

theorem readExponent_shrinks (cs : List Char) : (readExponent cs).2.length ≤ cs.length := by
  obtain ⟨letter,-,split⟩ := (@readExponent_split cs _ _ rfl).1
  have suffix : (readExponent cs).2 <:+ cs := ⟨_,split.symm⟩
  exact suffix.length_le

theorem dropWhile_exponent (isLetter : letter = 'e' ∨ letter = 'E') (exponent : Option (ExponentSign × List Char))
    (more : List Char) : ∃ left, left.length ≤ more.length ∧
      (exponentSpelling letter exponent ++ more).dropWhile Char.isDigit = exponentSpelling letter exponent ++ left := by
  cases exponent with
  | none => exact ⟨more.dropWhile Char.isDigit,(List.dropWhile_sublist _).length_le,rfl⟩
  | some part => exact ⟨more,Nat.le_refl _,by rcases isLetter with rfl | rfl <;> rfl⟩

theorem dropWhile_fraction (isLetter : letter = 'e' ∨ letter = 'E') (n : Numeral) (more : List Char) :
    ∃ left, left.length ≤ more.length ∧
      (fractionText n.fraction ++ (exponentSpelling letter n.exponent ++ more)).dropWhile Char.isDigit =
        fractionText n.fraction ++ (exponentSpelling letter n.exponent ++ left) := by
  cases n.fraction with
  | none => exact dropWhile_exponent isLetter n.exponent more
  | some digits => exact ⟨more,Nat.le_refl _,rfl⟩

theorem readFraction_reaches (isLetter : letter = 'e' ∨ letter = 'E') {n : Numeral} (wellFormed : n.WellFormed)
    (more : List Char) : ∃ left, left.length ≤ more.length ∧
      (readFraction (fractionText n.fraction ++ (exponentSpelling letter n.exponent ++ more))).2 =
        exponentSpelling letter n.exponent ++ left := by
  cases point : n.fraction with
  | some digits =>
    obtain ⟨left,shorter,dropped⟩ := dropWhile_exponent isLetter n.exponent more
    have run := (wellFormed.fraction digits (by rw [point]; rfl)).readRun_append (exponentSpelling letter n.exponent ++ more)
    exact ⟨left,shorter,by simp [fractionText,readFraction,run,dropped]⟩
  | none =>
    cases n.exponent with
    | none => exact ⟨_,readFraction_shrinks more,rfl⟩
    | some part => exact ⟨more,Nat.le_refl _,by rcases isLetter with rfl | rfl <;> rfl⟩

theorem readExponent_reaches (isLetter : letter = 'e' ∨ letter = 'E') {n : Numeral} (wellFormed : n.WellFormed)
    (more : List Char) : (readExponent (exponentSpelling letter n.exponent ++ more)).2.length ≤ more.length := by
  cases power : n.exponent with
  | none => exact readExponent_shrinks more
  | some part =>
    obtain ⟨sign,digits⟩ := part
    have all : AllDigits digits := wellFormed.exponent (sign,digits) (by rw [power]; rfl)
    have signRead := readExponentSign_spelling sign all more
    rw [List.append_assoc] at signRead
    simpa [exponentSpelling,readExponent,isLetter,signRead,all.readRun_append more]
      using (List.dropWhile_sublist Char.isDigit).length_le

end Parts

/-! ### Whole tokens -/

theorem read_reaches {m : Numeral} {other : List Char} (spells : m.Spells other) (more : List Char) :
    ∃ n rest, read (other ++ more) = some (n,rest) ∧ rest.length ≤ more.length := by
  obtain ⟨wellFormed,letter,isLetter,rfl⟩ := spells
  -- Each part may take more than it was spelled with, but only from what stands behind the whole token.
  obtain ⟨first,firstLe,wholeLeft⟩ := dropWhile_fraction isLetter m more
  obtain ⟨second,secondLe,fractionLeft⟩ := readFraction_reaches isLetter wellFormed first
  have third := readExponent_reaches isLetter wellFormed second
  have sign := readSign_spelling m.negative wellFormed.whole
    (fractionText m.fraction ++ (exponentSpelling letter m.exponent ++ more))
  have whole := wellFormed.whole.readRun_append (fractionText m.fraction ++ (exponentSpelling letter m.exponent ++ more))
  rw [wholeLeft] at whole
  unfold spelling read
  simp only [List.append_assoc] at sign ⊢
  rw [sign]
  simp only [whole,fractionLeft]
  exact ⟨_,_,rfl,by omega⟩

theorem Spells.unique {n m : Numeral} {text : List Char} (spells : n.Spells text) (other : m.Spells text) : n = m := by
  have ending : Boundary [] := by simp [Boundary]
  have same := (spells.read ending).symm.trans (other.read ending)
  exact (Prod.mk.inj (Option.some.inj same)).1

theorem longest_of_read {cs rest : List Char} {n : Numeral} (ok : read cs = some (n,rest)) :
    ∃ text, Longest cs n text rest := by
  obtain ⟨text,split,spells⟩ := spells_of_read ok
  refine ⟨text,spells,split,?_⟩
  rintro m other otherSpells ⟨more,rejoined⟩
  obtain ⟨k,left,read,shorter⟩ := read_reaches otherSpells more
  rw [rejoined,ok] at read
  cases read
  have lengths := congrArg List.length (split.symm.trans rejoined.symm)
  simp only [List.length_append] at lengths
  omega

theorem Longest.unique {cs text other rest left : List Char} {n m : Numeral} (first : Longest cs n text rest)
    (second : Longest cs m other left) : n = m ∧ text = other ∧ rest = left := by
  have front : text <+: cs := ⟨rest,first.split.symm⟩
  have front' : other <+: cs := ⟨left,second.split.symm⟩
  have same : text = other := (List.prefix_of_prefix_length_le front front' (second.longest n text first.spells front)).eq_of_length_le
    (first.longest m other second.spells front')
  subst same
  exact ⟨first.spells.unique second.spells,rfl,List.append_cancel_left (first.split.symm.trans second.split)⟩

theorem Longest.read {cs text rest : List Char} {n : Numeral} (longest : Longest cs n text rest) :
    Numeral.read cs = some (n,rest) := by
  obtain ⟨m,left,ok,-⟩ := read_reaches longest.spells rest
  rw [← longest.split] at ok
  obtain ⟨other,second⟩ := longest_of_read ok
  obtain ⟨rfl,-,rfl⟩ := longest.unique second
  exact ok

/-- Reading a number finds the longest token. -/
theorem read_eq_some_iff {cs rest : List Char} {n : Numeral} :
    read cs = some (n,rest) ↔ ∃ text, Longest cs n text rest :=
  ⟨longest_of_read,fun ⟨_,longest⟩ => longest.read⟩

/-- A token is the longest one in front of what cannot continue it. -/
theorem Spells.longest {n : Numeral} {text : List Char} (spells : n.Spells text) {rest : List Char}
    (boundary : Boundary rest) : n.Longest (text ++ rest) text rest := by
  obtain ⟨other,longest⟩ := longest_of_read (spells.read boundary)
  obtain rfl := List.append_cancel_right longest.split
  exact longest

/-! ### Where tokens end -/

theorem readExponent_undivided {cs rest : List Char} {exponent : Option (ExponentSign × List Char)}
    (ok : readExponent cs = (exponent,rest)) (undivided : ∀ c ∈ cs.head?, c.isDigit = false) :
    ∀ c ∈ rest.head?, c.isDigit = false := by
  unfold readExponent at ok
  split at ok
  · split at ok
    · dsimp only at ok
      split at ok
      · rename_i read
        cases ok
        exact (readRun_eq_some.mp read).2.2.2
      · cases ok
        exact undivided
    · cases ok
      exact undivided
  · cases ok
    exact undivided

theorem readFraction_undivided {cs rest : List Char} {fraction : Option (List Char)}
    (ok : readFraction cs = (fraction,rest)) (undivided : ∀ c ∈ cs.head?, c.isDigit = false) :
    ∀ c ∈ rest.head?, c.isDigit = false := by
  unfold readFraction at ok
  split at ok
  · split at ok
    · rename_i read
      cases ok
      exact (readRun_eq_some.mp read).2.2.2
    · cases ok
      exact undivided
  · cases ok
    exact undivided

/-- A run of digits is never divided between two numbers. -/
theorem read_undivided {cs rest : List Char} {n : Numeral} (ok : read cs = some (n,rest)) :
    ∀ c ∈ rest.head?, c.isDigit = false := by
  unfold read at ok
  dsimp only at ok
  split at ok
  · cases ok
  · rename_i read
    cases ok
    exact readExponent_undivided rfl (readFraction_undivided rfl (readRun_eq_some.mp read).2.2.2)

end Numeral
end SpatialFilter
