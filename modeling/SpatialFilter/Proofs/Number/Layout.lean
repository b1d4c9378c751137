import SpatialFilter.Number
import SpatialFilter.Proofs.Number.Shortest
import SpatialFilter.Proofs.Number.Token

/-! The tokens of numbers. A token denotes the decimal that it was laid out from, so every finite number
is read back from its token, whatever the layout is. -/
namespace SpatialFilter

/-! ### Digits -/

theorem AllDigits.append {left right : List Char} (first : AllDigits left) (more : ∀ c ∈ right, c.isDigit = true) :
    AllDigits (left ++ right) where
  nonempty := by simp [first.nonempty]
  digits c member := (List.mem_append.mp member).elim (first.digits c) (more c)

theorem AllDigits.take {digits : List Char} (all : AllDigits digits) (count : Nat) : AllDigits (digits.take (count + 1)) where
  nonempty := by simp [all.nonempty]
  digits c member := all.digits c (List.mem_of_mem_take member)

theorem AllDigits.drop {digits : List Char} (all : AllDigits digits) {count : Nat} (more : count < digits.length) :
    AllDigits (digits.drop count) where
  nonempty := by
    rw [← List.length_pos_iff,List.length_drop]
    omega
  digits c member := all.digits c (List.mem_of_mem_drop member)

theorem allDigits_toDigits (n : Nat) : AllDigits (Nat.toDigits 10 n) where
  nonempty := Nat.toDigits_ne_nil
  digits _ member := Nat.isDigit_of_mem_toDigits (by decide) (by decide) member

namespace Numeral

theorem digitsValue_eq (digits : List Char) : digitsValue digits = Nat.ofDigitChars 10 digits 0 := rfl

theorem digitsValue_toDigits (n : Nat) : digitsValue (Nat.toDigits 10 n) = n := by
  rw [digitsValue_eq,Nat.ofDigitChars_ten_toDigits]

theorem digitsValue_zeros (digits : List Char) (count : Nat) :
    digitsValue (digits ++ List.replicate count '0') = digitsValue digits * 10 ^ count := by
  rw [digitsValue_eq,Nat.ofDigitChars_append,Nat.ofDigitChars_replicate_zero,Nat.mul_comm]
  rfl

theorem zeros_digitsValue (count : Nat) (digits : List Char) :
    digitsValue (List.replicate count '0' ++ digits) = digitsValue digits := by
  rw [digitsValue_eq,Nat.ofDigitChars_append,Nat.ofDigitChars_replicate_zero,Nat.mul_zero]
  rfl

/-- The number that a token denotes, its sign apart. -/
def magnitude (n : Numeral) : ℚ := n.coefficient * 10 ^ n.scale

/-- A token that is not an integer, with this sign and this magnitude. -/
structure IsDecimal (n : Numeral) (negative : Bool) (value : ℚ) : Prop where
  wellFormed : n.WellFormed
  sign : n.negative = negative
  notInteger : n.isInteger = false
  denotes : n.magnitude = value

theorem magnitude_point (negative : Bool) (whole fraction : List Char) :
    magnitude ⟨negative,whole,some fraction,none⟩ = digitsValue (whole ++ fraction) * 10 ^ (-(fraction.length : ℤ)) := by
  simp [magnitude,coefficient,scale,writtenExponent]

end Numeral

namespace Layout
open Numeral
variable {digits : List Char}

/-! ### Positional notation -/

theorem positional_short (negative : Bool) {e : Nat} (short : digits.length ≤ e + 1) :
    positional negative digits (.ofNat e) =
      ⟨negative,digits ++ List.replicate (e + 1 - digits.length) '0',some ['0'],none⟩ := by
  unfold positional
  simp only [List.take_of_length_le short,List.drop_of_length_le short]
  rfl

theorem positional_long (negative : Bool) {e : Nat} (long : e + 1 < digits.length) :
    positional negative digits (.ofNat e) = ⟨negative,digits.take (e + 1),some (digits.drop (e + 1)),none⟩ := by
  have full : (digits.take (e + 1)).length = e + 1 := List.length_take_of_le long.le
  have left : (digits.drop (e + 1)).isEmpty = false := by
    rw [List.isEmpty_eq_false_iff,← List.length_pos_iff,List.length_drop]
    omega
  unfold positional
  simp only [full,left,Nat.sub_self]
  change Numeral.mk negative (digits.take (e + 1) ++ []) _ none = _
  rw [List.append_nil]
  rfl

theorem positional_small (negative : Bool) (digits : List Char) (e : Nat) :
    positional negative digits (.negSucc e) = ⟨negative,['0'],some (List.replicate e '0' ++ digits),none⟩ := rfl

theorem positional_exponent (negative : Bool) (digits : List Char) (leading : ℤ) :
    (positional negative digits leading).exponent = none := by
  cases leading <;> rfl

private theorem zero_isDigit {count : Nat} : ∀ c ∈ List.replicate count '0', c.isDigit = true := by
  intro c member
  rw [List.eq_of_mem_replicate member]
  rfl

theorem positional_isDecimal (negative : Bool) (all : AllDigits digits) (leading : ℤ) :
    (positional negative digits leading).IsDecimal negative
      (digitsValue digits * 10 ^ (leading - ((digits.length - 1 : Nat) : ℤ))) := by
  have length := List.length_pos_iff.mpr all.nonempty
  cases leading with
  | ofNat e =>
    by_cases short : digits.length ≤ e + 1
    · rw [positional_short negative short]
      refine ⟨⟨all.append zero_isDigit,?_,by simp⟩,rfl,rfl,?_⟩
      · rintro _ ⟨⟩
        exact ⟨by simp,by simp⟩
      · have zeros : digits ++ List.replicate (e + 1 - digits.length) '0' ++ ['0'] =
            digits ++ List.replicate (e + 1 - digits.length + 1) '0' := by
          rw [List.append_assoc,List.replicate_succ']
        have exponent : Int.ofNat e - ((digits.length - 1 : Nat) : ℤ) = ((e + 1 - digits.length : Nat) : ℤ) := by
          rw [Int.ofNat_eq_natCast]
          omega
        rw [magnitude_point,zeros,digitsValue_zeros,exponent,zpow_natCast]
        push_cast
        rw [pow_succ,List.length_singleton,Nat.cast_one,zpow_neg_one]
        ring
    · rw [positional_long negative (by omega)]
      refine ⟨⟨all.take e,?_,by simp⟩,rfl,rfl,?_⟩
      · rintro _ ⟨⟩
        exact all.drop (by omega)
      · have exponent : -((digits.length - (e + 1) : Nat) : ℤ) = Int.ofNat e - ((digits.length - 1 : Nat) : ℤ) := by
          rw [Int.ofNat_eq_natCast]
          omega
        rw [magnitude_point,List.take_append_drop,List.length_drop,exponent]
  | negSucc e =>
    rw [positional_small]
    refine ⟨⟨⟨by simp,by simp⟩,?_,by simp⟩,rfl,rfl,?_⟩
    · rintro _ ⟨⟩
      exact ⟨by simp [all.nonempty],fun c member => (List.mem_append.mp member).elim (zero_isDigit c) (all.digits c)⟩
    · have exponent : -((e + digits.length : Nat) : ℤ) = Int.negSucc e - ((digits.length - 1 : Nat) : ℤ) := by
        rw [Int.negSucc_eq]
        omega
      have zeros := zeros_digitsValue (e + 1) digits
      rw [List.replicate_succ,List.cons_append] at zeros
      rw [magnitude_point,List.length_append,List.length_replicate,exponent,List.singleton_append,zeros]

/-! ### Notation with an exponent -/

theorem writtenExponent_exponential (layout : Layout) (mark : layout.exponentMark ≠ .minus) (negative : Bool)
    (digits : List Char) (leading : ℤ) :
    writtenExponent (layout.exponential negative digits leading) = leading := by
  unfold exponential writtenExponent
  by_cases small : leading < 0
  · simp only [if_pos small,digitsValue_toDigits]
    omega
  · simp only [if_neg small,digitsValue_toDigits]
    cases marked : layout.exponentMark with
    | minus => exact absurd marked mark
    | unmarked | plus => exact Int.natAbs_of_nonneg (not_lt.mp small)

theorem exponential_isDecimal (layout : Layout) (mark : layout.exponentMark ≠ .minus) (negative : Bool)
    (all : AllDigits digits) (leading : ℤ) :
    (layout.exponential negative digits leading).IsDecimal negative
      (digitsValue digits * 10 ^ (leading - ((digits.length - 1 : Nat) : ℤ))) := by
  obtain ⟨first,rest,rfl⟩ := List.exists_cons_of_ne_nil all.nonempty
  have fraction : (layout.exponential negative (first :: rest) leading).fraction.getD [] = rest := by
    cases rest <;> rfl
  refine ⟨⟨all.take 0,?_,?_⟩,rfl,by simp [exponential,isInteger],?_⟩
  · intro digits some
    cases rest with
    | nil => cases some
    | cons second rest =>
      cases some
      have more : 1 < (first :: second :: rest).length := by simp
      exact all.drop more
  · rintro _ ⟨⟩
    exact allDigits_toDigits _
  · unfold magnitude coefficient scale
    rw [writtenExponent_exponential layout mark,fraction]
    rfl

/-! ### The tokens of values -/

/-- A value that is not zero is laid out in one of two ways, from its shortest digits. -/
theorem numeral_forms (layout : Layout) {x : Double} (nonzero : x.isZero = false) :
    ∃ leading : ℤ, leading = (x.shortest layout.tie).exponent +
        ((Nat.toDigits 10 (x.shortest layout.tie).coefficient).length - 1 : Nat) ∧
      (layout.numeral x = positional x.isNegative (Nat.toDigits 10 (x.shortest layout.tie).coefficient) leading ∨
        layout.numeral x =
          layout.exponential x.isNegative (Nat.toDigits 10 (x.shortest layout.tie).coefficient) leading) := by
  unfold numeral
  rw [if_neg (by simp [nonzero])]
  generalize x.shortest layout.tie = decimal
  refine ⟨_,rfl,?_⟩
  simp only
  split
  · exact .inl rfl
  · exact .inr rfl

theorem numeral_isDecimal (layout : Layout) (mark : layout.exponentMark ≠ .minus) {x : Double}
    (nonzero : x.isZero = false) :
    (layout.numeral x).IsDecimal x.isNegative (x.shortest layout.tie).value := by
  have all := allDigits_toDigits (x.shortest layout.tie).coefficient
  have value (leading : ℤ) (same : leading = (x.shortest layout.tie).exponent +
      ((Nat.toDigits 10 (x.shortest layout.tie).coefficient).length - 1 : Nat)) :
      (digitsValue (Nat.toDigits 10 (x.shortest layout.tie).coefficient) : ℚ) *
        10 ^ (leading - (((Nat.toDigits 10 (x.shortest layout.tie).coefficient).length - 1 : Nat) : ℤ)) =
          (x.shortest layout.tie).value := by
    rw [same,digitsValue_toDigits,add_sub_cancel_right]
    rfl
  obtain ⟨leading,same,positional | exponential⟩ := layout.numeral_forms nonzero
  · rw [positional,← value leading same]
    exact positional_isDecimal x.isNegative all leading
  · rw [exponential,← value leading same]
    exact exponential_isDecimal layout mark x.isNegative all leading

end Layout

namespace Number
open Numeral

/-- A token that denotes a number between the ends of an interval is read as the value inside. -/
theorem ofNumeral_decimal {x : Double} (finite : x.isFinite = true) (nonzero : x.isZero = false) {n : Numeral}
    {value : ℚ} (decimal : n.IsDecimal x.isNegative value)
    (inside : x.interval.Includes (4 * Double.resolution * value)) : ofNumeral n = .float x := by
  rw [← decimal.denotes] at inside
  unfold ofNumeral
  simp only [decimal.notInteger]
  rw [if_neg (by simp),Double.ofDecimal_eq finite nonzero inside,decimal.sign,Double.ofMagnitude_magnitude]

theorem ofNumeral_zero (layout : Layout) {x : Double} (zero : x.isZero = true) :
    ofNumeral (layout.numeral x) = .float x := by
  have none : x.magnitude = 0 := by simpa [Double.isZero] using zero
  have whole := x.ofMagnitude_magnitude
  rw [none] at whole
  unfold Layout.numeral
  rw [if_pos zero]
  simp [ofNumeral,isInteger,coefficient,digitsValue,Double.ofDecimal,whole]

theorem signed_natAbs (i : ℤ) : signed (decide (i < 0)) i.natAbs = i := by
  unfold signed
  split
  · rename_i negative
    have below := of_decide_eq_true negative
    omega
  · rename_i positive
    have above : ¬ i < 0 := by simpa using positive
    omega

theorem ofInt?_toInt (i : Int64) : ofInt? i.toInt = some (.int i) := by
  unfold ofInt?
  rw [if_pos ⟨i.minValue_le_toInt,i.toInt_le⟩,Int64.ofInt_toInt]

theorem ofNumeral_ofInt (i : Int64) : ofNumeral (Numeral.ofInt i.toInt) = .int i := by
  have value : (Numeral.ofInt i.toInt).coefficient = i.toInt.natAbs := by
    simp [coefficient,Numeral.ofInt,digitsValue_toDigits]
  unfold ofNumeral
  rw [value]
  change (if true then (ofInt? (signed (decide (i.toInt < 0)) i.toInt.natAbs)).getD _ else _) = _
  rw [signed_natAbs,ofInt?_toInt]
  rfl

/-- The marks of an exponent in SQL say its sign. -/
theorem sqlLayout_mark : sqlLayout.exponentMark ≠ .minus := by
  decide

theorem ofNumeral_sqlNumeral {n : Number} (finite : n.isFinite = true) : ofNumeral n.sqlNumeral = n := by
  cases n with
  | int i => exact ofNumeral_ofInt i
  | float x =>
    cases zero : x.isZero with
    | true => exact ofNumeral_zero sqlLayout zero
    | false =>
      have decimal := Layout.numeral_isDecimal sqlLayout sqlLayout_mark zero
      exact ofNumeral_decimal finite zero decimal (Double.shortest_includes zero sqlLayout.tie)

theorem sqlNumeral_wellFormed (n : Number) : n.sqlNumeral.WellFormed := by
  cases n with
  | int i => exact ⟨allDigits_toDigits _,by simp [sqlNumeral,Numeral.ofInt],by simp [sqlNumeral,Numeral.ofInt]⟩
  | float x =>
    cases zero : x.isZero with
    | false => exact (Layout.numeral_isDecimal sqlLayout sqlLayout_mark zero).wellFormed
    | true =>
      unfold sqlNumeral Layout.numeral
      simp only [if_pos zero]
      refine ⟨⟨by simp,by simp⟩,?_,by simp⟩
      rintro _ ⟨⟩
      exact ⟨by simp,by simp⟩

theorem sqlText_spells {n : Number} (finite : n.isFinite = true) : n.sqlNumeral.Spells n.sqlText := by
  refine ⟨n.sqlNumeral_wellFormed,'e',.inl rfl,?_⟩
  rw [← text_eq_spelling]
  cases n with
  | int i => rfl
  | float x => exact if_pos finite

end Number
end SpatialFilter
