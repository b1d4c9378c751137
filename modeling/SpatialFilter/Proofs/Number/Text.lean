import SpatialFilter.Number.Text
import SpatialFilter.Proofs.Number.Token

/-! Tokens given alone as a text. Two readers of whole texts take a token, one of them for integers of 64 bits and one
for binary64 values; both allow more than tokens. What the first one refuses, the second one accepts. -/
namespace SpatialFilter.Number

/-- An integer that fits into 64 bits: a sign of either kind, and digits. -/
def integer? (cs : List Char) : Option Number :=
  let (negative,digits) := signOf cs
  if !digits.isEmpty && digits.all Char.isDigit then ofInt? (signed negative (Numeral.digitsValue digits)) else none

/-- A binary64 value: a sign of either kind, and digits with a point anywhere or the name of a value. -/
def float? (cs : List Char) : Option Number :=
  let (negative,cs) := signOf cs
  let whole := cs.takeWhile Char.isDigit
  let (fraction,rest) := fractionOf (cs.dropWhile Char.isDigit)
  let (exponent,rest) := Numeral.readExponent rest
  if whole.isEmpty && (fraction.getD []).isEmpty then special? negative cs
  else if rest.isEmpty then
    let n : Numeral := ⟨negative,whole,fraction,exponent⟩
    some (.float (Double.ofDecimal n.negative n.coefficient n.scale))
  else none

/-- A character that no integer has. -/
def marksFloat (c : Char) : Bool := c = '.' || c = 'e' || c = 'E'

/-- A text with a point or the letter of an exponent is not tried as an integer. -/
def ofToken? (cs : List Char) : Option Number :=
  (if cs.any marksFloat then none else integer? cs).or (float? cs)

theorem signOf_of_readSign {cs rest : List Char} {negative : Bool} (read : Numeral.readSign cs = (negative,rest))
    (digit : ∃ c ∈ rest.head?, c.isDigit = true) : signOf cs = (negative,rest) := by
  unfold Numeral.readSign at read
  split at read
  · cases read
    rfl
  · rename_i unsigned
    cases read
    obtain ⟨c,first,isDigit⟩ := digit
    cases cs with
    | nil => rfl
    | cons d more =>
      cases first
      have marks : c ≠ '+' ∧ c ≠ '-' := by
        constructor <;> rintro rfl <;> exact absurd isDigit (by decide)
      simp [signOf,marks]

/-- A point without digits is left where it stands, and no exponent is read in front of it. -/
theorem fractionOf_of_readFraction {cs rest : List Char} {fraction : Option (List Char)}
    {exponent : Option (ExponentSign × List Char)} (read : Numeral.readFraction cs = (fraction,rest))
    (ending : Numeral.readExponent rest = (exponent,[])) : fractionOf cs = (fraction,rest) := by
  unfold Numeral.readFraction at read
  split at read
  · rename_i behind
    split at read
    · rename_i digits left run
      cases read
      obtain ⟨rfl,-,inside,boundary⟩ := readRun_eq_some.mp run
      simp only [fractionOf]
      rw [takeWhile_run inside boundary,dropWhile_run inside boundary]
    · cases read
      simp [Numeral.readExponent] at ending
  · rename_i unpointed
    cases read
    unfold fractionOf
    split
    · exact absurd rfl (unpointed _)
    · rfl

theorem float?_of_read {cs : List Char} {n : Numeral} (read : Numeral.read cs = some (n,[])) :
    float? cs = some (.float (Double.ofDecimal n.negative n.coefficient n.scale)) := by
  unfold Numeral.read at read
  cases signed : Numeral.readSign cs with
  | mk negative unsigned =>
    rw [signed] at read
    dsimp only at read
    split at read
    · cases read
    · rename_i whole behind run
      cases pointed : Numeral.readFraction behind with
      | mk fraction powered =>
        cases ending : Numeral.readExponent powered with
        | mk exponent rest =>
          simp only [pointed,ending,Option.some.injEq,Prod.mk.injEq] at read
          obtain ⟨rfl,rfl⟩ := read
          obtain ⟨rfl,nonempty,inside,boundary⟩ := readRun_eq_some.mp run
          obtain ⟨c,more,rfl⟩ := List.exists_cons_of_ne_nil nonempty
          -- Each part stands where the more liberal reader looks for it.
          have sign := signOf_of_readSign signed ⟨c,rfl,inside c (by simp)⟩
          have digits := takeWhile_run inside boundary
          have left := dropWhile_run inside boundary
          have point := fractionOf_of_readFraction pointed ending
          simp only [float?,sign,digits,left,point,ending]
          rfl

theorem integer?_digits (negative : Bool) {digits : List Char} (all : AllDigits digits) :
    integer? ((if negative then ['-'] else []) ++ digits) =
      ofInt? (signed negative (Numeral.digitsValue digits)) := by
  have read := Numeral.readSign_spelling negative all []
  obtain ⟨c,more,rfl⟩ := List.exists_cons_of_ne_nil all.nonempty
  have sign := signOf_of_readSign read ⟨c,rfl,all.digits c (by simp)⟩
  rw [List.append_nil] at sign
  have isInteger : (!(c :: more).isEmpty && (c :: more).all Char.isDigit) = true := by
    simpa using all.digits
  simp only [integer?,sign,isInteger,if_true]

theorem not_marksFloat {c : Char} (digit : c.isDigit = true) : marksFloat c = false := by
  rw [Bool.eq_false_iff]
  intro marks
  have known : c = '.' ∨ c = 'e' ∨ c = 'E' := by simpa [marksFloat,or_assoc] using marks
  rcases known with rfl | rfl | rfl <;> exact absurd digit (by decide)

/-- A token shows by its characters whether it has a point or an exponent. -/
theorem any_marksFloat {n : Numeral} {text : List Char} (spells : n.Spells text) :
    text.any marksFloat = !n.isInteger := by
  obtain ⟨wellFormed,letter,isLetter,rfl⟩ := spells
  have plain : n.whole.any marksFloat = false := by
    rw [List.any_eq_false]
    exact fun c member => by simp [not_marksFloat (wellFormed.whole.digits c member)]
  have sign : (if n.negative then ['-'] else []).any marksFloat = false := by
    cases n.negative <;> rfl
  have power : marksFloat letter = true := by
    rcases isLetter with rfl | rfl <;> rfl
  rw [Numeral.spelling,List.any_append,List.any_append,List.any_append,sign,plain,Numeral.isInteger]
  cases n.fraction with
  | some digits => simp [Numeral.fractionText,marksFloat]
  | none =>
    cases n.exponent with
    | some part => simp [Numeral.fractionText,Numeral.exponentSpelling,power]
    | none => simp [Numeral.fractionText,Numeral.exponentSpelling]

/-- Every token is a number. -/
theorem ofToken?_of_spells {n : Numeral} {text : List Char} (spells : n.Spells text) :
    ofToken? text = some (ofNumeral n) := by
  have read : Numeral.read (text ++ []) = some (n,[]) := spells.read (by simp [Numeral.Boundary])
  rw [List.append_nil] at read
  rw [ofToken?,any_marksFloat spells,float?_of_read read,ofNumeral]
  cases integer : n.isInteger with
  | false => rfl
  | true =>
    -- A sign and digits are an integer, unless they are too large for one.
    obtain ⟨wellFormed,letter,-,rfl⟩ := spells
    obtain ⟨negative,whole,fraction,exponent⟩ := n
    obtain ⟨rfl,rfl⟩ : fraction = none ∧ exponent = none := by simpa [Numeral.isInteger] using integer
    have digits := integer?_digits negative wellFormed.whole
    have text : Numeral.spelling letter ⟨negative,whole,none,none⟩ = (if negative then ['-'] else []) ++ whole := by
      simp [Numeral.spelling,Numeral.fractionText,Numeral.exponentSpelling]
    have value : Numeral.coefficient ⟨negative,whole,none,none⟩ = Numeral.digitsValue whole := by
      simp [Numeral.coefficient]
    rw [text,digits,value]
    cases ofInt? (signed negative (Numeral.digitsValue whole)) <;> rfl

end SpatialFilter.Number
