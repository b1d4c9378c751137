import SpatialFilter.Proofs.Json.Number

/-! Floats that JSON texts keep. Reading rounds the digits of a token and their scale one after the
other, and again their quotient or product. If digits and scale are exact as floats, only the last
rounding is left, and it gives the value that was written. -/
namespace SpatialFilter
namespace Double

/-! ### Whole numbers -/

section Whole
variable {x : Double}

theorem negate_ofMagnitude {magnitude : Nat} (small : magnitude < signBit) :
    (ofMagnitude false magnitude).negate = ofMagnitude true magnitude := by
  rw [negate,isNegative_ofMagnitude false small,magnitude_ofMagnitude false small]
  rfl

/-- A value is its magnitude with its sign. -/
theorem signed_magnitude (x : Double) :
    (if x.isNegative then (ofMagnitude false x.magnitude).negate else ofMagnitude false x.magnitude) = x := by
  have small : x.magnitude < signBit := Nat.mod_lt _ (by decide)
  have whole := x.ofMagnitude_magnitude
  rw [negate_ofMagnitude small]
  cases negative : x.isNegative with
  | true => rwa [negative] at whole
  | false => rwa [negative] at whole

/-- A magnitude with full significand, by its parts. -/
theorem units_ofMagnitude {shift significand : Nat} (full : binade ≤ significand) (small : significand < 2 * binade)
    (finite : shift * binade + significand < infinite) :
    (ofMagnitude false (shift * binade + significand)).units = significand * 2 ^ shift := by
  have limit : infinite < signBit := by decide
  have whole := magnitude_ofMagnitude false (finite.trans limit)
  have quotient : (shift * binade + significand) / binade = shift + 1 := by
    have count : binade = 4503599627370496 := by decide
    rw [count] at full small ⊢
    omega
  have shifted : (ofMagnitude false (shift * binade + significand)).shift = shift := by
    rw [Double.shift,whole,quotient]
    rfl
  rw [units,Double.significand,whole,shifted,Nat.add_sub_cancel_left]
  rfl

theorem includes_centre (nonzero : x.isZero = false) : x.interval.Includes (4 * x.units) := by
  obtain ⟨below,above⟩ := interval_centre nonzero
  have centre : x.interval.centre = 4 * x.units := rfl
  rw [centre] at below above
  have low : (x.interval.low : ℚ) < 4 * x.units := by exact_mod_cast below
  have high : (4 * x.units : ℚ) < x.interval.high := by exact_mod_cast above
  unfold Interval.Includes
  split
  · exact ⟨low.le,high.le⟩
  · exact ⟨low,high⟩

theorem ofNat_of_units {n : Nat} (finite : x.isFinite = true) (nonzero : x.isZero = false)
    (positive : x.isNegative = false) (whole : x.units = n * resolution) : ofNat n = x := by
  have inside := includes_centre nonzero
  have same : (4 * x.units : ℚ) = ((4 * (n * resolution) : Nat) : ℚ) / (1 : Nat) := by
    rw [whole]
    push_cast
    ring
  rw [same] at inside
  rw [ofNat,ofQuotient,nearestMagnitude_eq finite Nat.one_pos inside,← positive,ofMagnitude_magnitude]

private theorem resolution_eq {exponent : Nat} (all : exponent = 1074) : 2 ^ exponent = resolution := by
  unfold resolution
  rw [← all,Nat.pow_eq]

theorem nearestMagnitude_zero (denominator : Nat) : nearestMagnitude 0 denominator = 0 := by
  simp [nearestMagnitude,roundQuotient]

theorem ofNat_zero : ofNat 0 = ofMagnitude false 0 := by
  rw [ofNat,ofQuotient,nearestMagnitude_zero]

/-- Whole numbers that fit in a significand are exact. -/
theorem units_ofNat {n : Nat} (small : n < 2 ^ 53) : (ofNat n).units = n * resolution := by
  by_cases zero : n = 0
  · subst zero
    rw [ofNat_zero,Nat.zero_mul]
    decide
  · have bits : n.log2 < 53 := (Nat.log2_lt zero).mpr small
    have enough := Nat.log2_self_le zero
    have below := Nat.lt_log2_self (n := n)
    have split : 2 ^ n.log2 * 2 ^ (52 - n.log2) = binade := by
      rw [← Nat.pow_add,binade,Nat.pow_eq]
      congr 1
      omega
    have full : binade ≤ n * 2 ^ (52 - n.log2) := by
      rw [← split]
      exact Nat.mul_le_mul_right _ enough
    have fits : n * 2 ^ (52 - n.log2) < 2 * binade := by
      rw [← split,← Nat.mul_assoc,← Nat.pow_succ']
      exact Nat.mul_lt_mul_of_pos_right below (by positivity)
    have top : (1022 + n.log2) * binade + n * 2 ^ (52 - n.log2) < infinite := by
      have scale := Nat.mul_le_mul_right binade (show 1022 + n.log2 ≤ 1074 by omega)
      have limit : 1074 * binade + 2 * binade < infinite := by decide
      omega
    have parts := units_ofMagnitude full fits top
    have whole : (ofMagnitude false ((1022 + n.log2) * binade + n * 2 ^ (52 - n.log2))).units = n * resolution := by
      rw [parts,Nat.mul_assoc,← Nat.pow_add,resolution_eq (by omega)]
    have signed : infinite < signBit := by decide
    have magnitude := magnitude_ofMagnitude false (top.trans signed)
    have finite : (ofMagnitude false ((1022 + n.log2) * binade + n * 2 ^ (52 - n.log2))).isFinite = true := by
      rw [isFinite,magnitude]
      exact decide_eq_true top
    have nonzero : (ofMagnitude false ((1022 + n.log2) * binade + n * 2 ^ (52 - n.log2))).isZero = false := by
      rw [isZero,magnitude]
      have positive := binade_pos
      simp
      omega
    rw [ofNat_of_units finite nonzero (isNegative_ofMagnitude false (top.trans signed)) whole,whole]

theorem units_powerOfTen : ∀ k ≤ 22, (powerOfTen k).units = 10 ^ k * resolution := by
  decide +kernel

end Whole
end Double

namespace Json
open Double

/-! ### One rounding -/

section Scale
variable {x : Double} {c : Nat}

theorem mulMagnitude_exact (finite : x.isFinite = true) {e : Nat} (small : c < 2 ^ 53) (near : e ≤ 22)
    (inside : x.interval.Includes (4 * resolution * (c * 10 ^ e))) :
    (Double.ofNat c).mulMagnitude (powerOfTen e) = ofMagnitude false x.magnitude := by
  have positive := Nat.mul_pos resolution_positive resolution_positive
  have same : (4 * resolution * (c * 10 ^ e) : ℚ) =
      ((4 * (c * resolution * (10 ^ e * resolution) * resolution) : Nat) : ℚ) / (resolution * resolution : Nat) := by
    have nonzero := resolution_pos.ne'
    push_cast
    field_simp
  rw [same] at inside
  rw [mulMagnitude,units_ofNat small,units_powerOfTen e near,ofQuotient,nearestMagnitude_eq finite positive inside]

theorem divMagnitude_exact (finite : x.isFinite = true) {e : Nat} (small : c < 2 ^ 53) (near : e ≤ 22)
    (inside : x.interval.Includes (4 * resolution * (c / 10 ^ e))) :
    (Double.ofNat c).divMagnitude (powerOfTen e) = ofMagnitude false x.magnitude := by
  have positive : 0 < 10 ^ e * resolution := Nat.mul_pos (by positivity) resolution_positive
  have same : (4 * resolution * (c / 10 ^ e) : ℚ) =
      ((4 * (c * resolution * resolution) : Nat) : ℚ) / (10 ^ e * resolution : Nat) := by
    have nonzero := resolution_pos.ne'
    push_cast
    field_simp
  rw [same] at inside
  rw [divMagnitude,units_ofNat small,units_powerOfTen e near,ofQuotient,nearestMagnitude_eq finite positive inside]

theorem scale_exact (finite : x.isFinite = true) {e : ℤ} (small : c < 2 ^ 53) (near : e.natAbs ≤ 22)
    (inside : x.interval.Includes (4 * resolution * (c * 10 ^ e))) :
    scale? (Double.ofNat c) e = some (ofMagnitude false x.magnitude) := by
  cases e with
  | ofNat e =>
    have close : e ≤ 22 := by simpa using near
    rw [Int.ofNat_eq_natCast,zpow_natCast] at inside
    have signed : x.magnitude < signBit := Nat.mod_lt _ (by decide)
    have whole : (ofMagnitude false x.magnitude).isFinite = true := by
      rwa [isFinite,magnitude_ofMagnitude false signed]
    rw [scale?,scaleUp?,if_pos (close.trans (by decide))]
    simp only [mulMagnitude_exact finite small close inside]
    exact if_pos whole
  | negSucc e =>
    have close : e + 1 ≤ 22 := near
    rw [zpow_negSucc,← div_eq_mul_inv] at inside
    rw [scale?,scaleDown,if_pos (close.trans (by decide)),divMagnitude_exact finite small close inside]

end Scale

/-! ### Tokens -/

theorem accumulate_token {token : Numeral} (fits : token.coefficient ≤ significandLimit) :
    accumulate 0 token.whole = (Numeral.digitsValue token.whole,[]) ∧
      accumulate (Numeral.digitsValue token.whole) (token.fraction.getD []) = (token.coefficient,[]) := by
  have whole : Nat.ofDigitChars 10 (token.fraction.getD []) (Numeral.digitsValue token.whole) = token.coefficient := by
    rw [Numeral.coefficient,Numeral.digitsValue_eq,Numeral.digitsValue_eq,Nat.ofDigitChars_append]
  have front : Nat.ofDigitChars 10 token.whole 0 ≤ significandLimit := by
    rw [Nat.ofDigitChars_eq_ofDigitChars_zero] at whole
    have grows := Nat.le_mul_of_pos_left (Numeral.digitsValue token.whole)
      (Nat.pow_pos (n := (token.fraction.getD []).length) (show 0 < 10 by decide))
    rw [← Numeral.digitsValue_eq]
    omega
  rw [accumulate_eq front,accumulate_eq (by rwa [whole]),whole]
  exact ⟨rfl,rfl⟩

/-- A token whose digits and exponent are within their limits is scaled once. -/
theorem numberValue_scaled {token : Numeral} (isFloat : token.isInteger = false)
    (fits : token.coefficient ≤ significandLimit)
    (short : ∀ part ∈ token.exponent, Numeral.digitsValue part.2 ≤ exponentLimit) :
    numberValue? token = (scale? (Double.ofNat token.coefficient) token.scale).map fun x =>
      .float (if token.negative then x.negate else x) := by
  obtain ⟨whole,fraction⟩ := accumulate_token fits
  have scaled : magnitude? token.coefficient (-((token.fraction.getD []).length : ℤ)) token.exponent =
      scale? (Double.ofNat token.coefficient) token.scale := by
    unfold Numeral.scale Numeral.writtenExponent
    cases exponent : token.exponent with
    | none => simp [magnitude?]
    | some part =>
      obtain ⟨sign,digits⟩ := part
      have limit : ¬ exponentLimit < Numeral.digitsValue digits := Nat.not_lt_of_le (short _ exponent)
      unfold magnitude?
      simp only [if_neg limit]
      cases sign with
      | minus =>
        simp only [if_true]
        congr 1
        omega
      | plus | unmarked =>
        simp only [reduceCtorEq,if_false]
        congr 1
        omega
  have start : (([] : List Char).length : ℤ) - (((token.fraction.getD []).length - ([] : List Char).length : Nat) : ℤ) =
      -((token.fraction.getD []).length : ℤ) := by
    simp
  unfold numberValue?
  simp only [whole,isFloat,fraction,Bool.false_and]
  rw [start,scaled]
  rfl

end Json

/-! ### Written floats -/

namespace Layout

theorem exponential_fraction (layout : Layout) (negative : Bool) (digits : List Char) (leading : ℤ) :
    (layout.exponential negative digits leading).fraction.getD [] = digits.drop 1 := by
  unfold exponential
  simp only
  cases digits.drop 1 <;> rfl

/-- The digits of a token with few digits and a small scale leave a small exponent. -/
theorem exponential_exponent (layout : Layout) (mark : layout.exponentMark ≠ .minus) (negative : Bool) {n : Nat}
    {leading : ℤ} (few : (layout.exponential negative (Nat.toDigits 10 n) leading).coefficient < 2 ^ 53)
    (near : (layout.exponential negative (Nat.toDigits 10 n) leading).scale.natAbs ≤ 22) :
    leading.natAbs ≤ 38 := by
  rw [Numeral.scale,writtenExponent_exponential layout mark,exponential_fraction] at near
  rw [Numeral.coefficient,exponential_fraction] at few
  change Numeral.digitsValue ((Nat.toDigits 10 n).take 1 ++ (Nat.toDigits 10 n).drop 1) < 2 ^ 53 at few
  rw [List.take_append_drop,Numeral.digitsValue_toDigits] at few
  have digits := Nat.toDigits_length 10 n 16 (by decide) (few.trans (by decide))
  rw [List.length_drop] at near
  omega

theorem exponent_short (layout : Layout) (mark : layout.exponentMark ≠ .minus) {x : Double}
    (few : (layout.numeral x).coefficient < 2 ^ 53) (near : (layout.numeral x).scale.natAbs ≤ 22) :
    ∀ part ∈ (layout.numeral x).exponent, Numeral.digitsValue part.2 ≤ Json.exponentLimit := by
  intro part some
  cases zero : x.isZero with
  | true =>
    rw [numeral,if_pos zero] at some
    cases some
  | false =>
    obtain ⟨leading,-,form | form⟩ := numeral_forms layout zero
    · rw [form,positional_exponent] at some
      cases some
    · rw [form] at some few near
      have small := exponential_exponent layout mark x.isNegative few near
      cases some
      rw [Numeral.digitsValue_toDigits]
      exact small.trans (by decide)

end Layout

namespace Json
open Double

theorem numberValue_zero {x : Double} (zero : x.isZero = true) : numberValue? (layout.numeral x) = some (.float x) := by
  have none : x.magnitude = 0 := by simpa [isZero] using zero
  have read : scale? (Double.ofNat 0) (-1) = some (ofMagnitude false 0) := by
    have units : (ofMagnitude false 0).units = 0 := by decide
    change some (scaleDown (Double.ofNat 0) 1) = _
    rw [scaleDown,if_pos (by decide),ofNat_zero,divMagnitude,units,ofQuotient,nearestMagnitude_zero]
  have whole := signed_magnitude x
  rw [none] at whole
  have scaled : numberValue? ⟨x.isNegative,['0'],some ['0'],.none⟩ =
      (scale? (Double.ofNat 0) (-1)).map fun y => .float (if x.isNegative then y.negate else y) :=
    numberValue_scaled rfl (Nat.zero_le _) (by simp)
  rw [Layout.numeral,if_pos zero,scaled,read,Option.map_some,whole]

theorem numberValue_few {x : Double} (finite : x.isFinite = true) (few : (layout.numeral x).coefficient < 2 ^ 53)
    (near : (layout.numeral x).scale.natAbs ≤ 22) : numberValue? (layout.numeral x) = some (.float x) := by
  cases zero : x.isZero with
  | true => exact numberValue_zero zero
  | false =>
    have decimal := Layout.numeral_isDecimal layout layout_mark zero
    have inside := shortest_includes zero layout.tie
    rw [← decimal.denotes,Numeral.magnitude] at inside
    have limit : (2 : Nat) ^ 53 ≤ significandLimit := by decide
    rw [numberValue_scaled decimal.notInteger (few.le.trans limit) (Layout.exponent_short layout layout_mark few near),
      scale_exact finite few near inside,Option.map_some,decimal.sign,signed_magnitude]

end Json

namespace Number

/-- An integer, or a float whose token has so few digits and so small a scale that both are exact as
floats. -/
def FewDigits : Number → Prop
  | int _ => True
  | float x => x.isFinite = true ∧ (Json.layout.numeral x).coefficient < 2 ^ 53 ∧
      (Json.layout.numeral x).scale.natAbs ≤ 22

theorem ofJsonText_few_digits (n : Number) (few : n.FewDigits) : ofJsonText? n.jsonText = some n := by
  cases n with
  | int i => exact ofJsonText_int i
  | float x =>
    obtain ⟨finite,few,near⟩ := few
    rw [ofJsonText_toNumber,Json.ofNumber,if_pos finite]
    exact Json.numberValue_few finite few near

/-- One tenth is among them: it is written with the digits `01` and the scale `-1`. -/
theorem ofJsonText_few_digits_tenth :
    ofJsonText? (jsonText (.float ⟨4591870180066957722⟩)) = some (.float ⟨4591870180066957722⟩) := by
  have few : (Json.layout.numeral ⟨4591870180066957722⟩).coefficient < 2 ^ 53 ∧
      (Json.layout.numeral ⟨4591870180066957722⟩).scale.natAbs ≤ 22 := by
    decide +kernel
  exact ofJsonText_few_digits (.float ⟨4591870180066957722⟩) ⟨by decide,few⟩

/-- With sixteen digits, `9.540072809736877` is read as the value below it. -/
theorem ofJsonText_inexact : ¬ ∀ n : Number, n.isFinite = true → ofJsonText? n.jsonText = some n := by
  intro exact
  have written : ofJsonText? (jsonText (.float ⟨4621560201598635700⟩)) = some (.float ⟨4621560201598635699⟩) := by
    decide +kernel
  have same := exact (.float ⟨4621560201598635700⟩) (by decide)
  rw [written] at same
  exact absurd same (by decide)

end Number
end SpatialFilter
