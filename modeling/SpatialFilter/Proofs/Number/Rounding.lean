import SpatialFilter.Number.Shortest
import Mathlib

/-! Rounding to binary64. A quotient between the ends of the interval of a finite value is rounded to
this value, on whichever side of a power of two it lies. -/
namespace SpatialFilter
namespace Double

/-! ### The parts of a value -/

section Parts
variable {x : Double}

private theorem binade_eq : binade = 4503599627370496 := by
  decide

theorem binade_pos : 0 < binade := by
  decide

theorem magnitude_eq (x : Double) : x.magnitude = x.shift * binade + x.significand := by
  unfold significand shift
  rw [binade_eq]
  omega

theorem significand_lt (x : Double) : x.significand < 2 * binade := by
  unfold significand shift
  rw [binade_eq]
  omega

theorem binade_le_significand (normal : 0 < x.shift) : binade ≤ x.significand := by
  unfold significand
  unfold shift at normal ⊢
  rw [binade_eq] at normal ⊢
  omega

theorem shift_le (finite : x.isFinite = true) : x.shift ≤ 2045 := by
  have bound : x.magnitude < infinite := by simpa [isFinite] using finite
  unfold infinite at bound
  unfold shift
  rw [binade_eq] at bound ⊢
  omega

theorem significand_pos (nonzero : x.isZero = false) : 0 < x.significand := by
  have positive : x.magnitude ≠ 0 := by simpa [isZero] using nonzero
  unfold significand shift
  rw [binade_eq]
  omega

theorem ofMagnitude_magnitude (x : Double) : ofMagnitude x.isNegative x.magnitude = x := by
  have whole : (if x.isNegative then signBit + x.magnitude else x.magnitude) = x.bits.toNat := by
    have bound := x.bits.toNat_lt
    unfold isNegative magnitude signBit
    simp only [Nat.pow_eq]
    split
    · rename_i negative
      have above := of_decide_eq_true negative
      omega
    · rename_i positive
      have below : ¬ 2 ^ 63 ≤ x.bits.toNat := by simpa using positive
      omega
  unfold ofMagnitude
  rw [whole,UInt64.ofNat_toNat]

theorem magnitude_ofMagnitude (negative : Bool) {magnitude : Nat} (small : magnitude < signBit) :
    (ofMagnitude negative magnitude).magnitude = magnitude := by
  have limit : signBit = 2 ^ 63 := rfl
  unfold ofMagnitude Double.magnitude
  rw [UInt64.toNat_ofNat']
  rw [limit] at small ⊢
  split <;> omega

theorem isNegative_ofMagnitude (negative : Bool) {magnitude : Nat} (small : magnitude < signBit) :
    (ofMagnitude negative magnitude).isNegative = negative := by
  have limit : signBit = 2 ^ 63 := rfl
  unfold ofMagnitude isNegative
  rw [UInt64.toNat_ofNat']
  rw [limit] at small ⊢
  cases negative <;> simp <;> omega

end Parts

/-! ### Quotients -/

theorem roundQuotient_eq {n d k : Nat} (positive : 0 < d) (lower : 2 * k * d ≤ 2 * n + d)
    (upper : 2 * n ≤ 2 * k * d + d) (tie : k % 2 = 1 → 2 * k * d < 2 * n + d ∧ 2 * n < 2 * k * d + d) :
    roundQuotient n d = k := by
  have split := Nat.div_add_mod n d
  have small := Nat.mod_lt n positive
  unfold roundQuotient
  generalize n / d = q at split ⊢
  generalize n % d = r at split small ⊢
  subst split
  have above : q ≤ k := by nlinarith
  have below : k ≤ q + 1 := by nlinarith
  obtain rfl | rfl : k = q ∨ k = q + 1 := by omega
  · have same : 2 * k * d = 2 * (d * k) := by ring
    rw [same] at lower upper tie
    simp only
    split
    · rfl
    · split <;> omega
  · have next : 2 * (q + 1) * d = 2 * (d * q) + 2 * d := by ring
    rw [next] at lower upper tie
    simp only
    split
    · omega
    · split <;> omega

/-! ### Intervals -/

/-- A number of quarter units that rounds to the magnitude of the interval. -/
def Interval.Includes (i : Interval) (quarters : ℚ) : Prop :=
  if i.closed then i.low ≤ quarters ∧ quarters ≤ i.high else i.low < quarters ∧ quarters < i.high

theorem Interval.includes_div {i : Interval} {n d : Nat} (positive : 0 < d) :
    i.Includes ((n : ℚ) / d) ↔ if i.closed then i.low * d ≤ n ∧ n ≤ i.high * d
      else i.low * d < n ∧ n < i.high * d := by
  have denominator : (0 : ℚ) < d := by exact_mod_cast positive
  unfold Includes
  rw [le_div_iff₀ denominator,div_le_iff₀ denominator,lt_div_iff₀ denominator,div_lt_iff₀ denominator]
  norm_cast

private theorem binade_shifted (s : Nat) : binade * 2 ^ s = 2 ^ (52 + s) := by
  rw [binade,Nat.pow_eq,← Nat.pow_add]

private theorem log2_eq_shift {quotient s : Nat} (below : quotient < 2 * (binade * 2 ^ s))
    (above : s = 0 ∨ binade * 2 ^ s ≤ quotient) : quotient.log2 - 52 = s := by
  rw [binade_shifted] at below above
  have next : 2 * 2 ^ (52 + s) = 2 ^ (53 + s) := by ring
  rw [next] at below
  by_cases zero : quotient = 0
  · have positive : 0 < 2 ^ (52 + s) := by positivity
    rw [zero,Nat.log2_zero]
    omega
  · have most : quotient.log2 < 53 + s := (Nat.log2_lt zero).mpr below
    rcases above with rfl | above
    · omega
    · have least : 52 + s ≤ quotient.log2 := (Nat.le_log2 zero).mpr above
      omega

/-- The ends of an interval, with the products of the denominator as whole numbers. -/
private theorem ends_of_includes {x : Double} {scaled d : Nat} (positive : 0 < d)
    (inside : x.interval.Includes (((4 * scaled : Nat) : ℚ) / d)) :
    2 * x.significand * (d * 2 ^ x.shift) ≤ 2 * scaled + d * 2 ^ x.shift ∧
      2 * scaled ≤ 2 * x.significand * (d * 2 ^ x.shift) + d * 2 ^ x.shift ∧
      (x.significand % 2 = 1 → 2 * x.significand * (d * 2 ^ x.shift) < 2 * scaled + d * 2 ^ x.shift ∧
        2 * scaled < 2 * x.significand * (d * 2 ^ x.shift) + d * 2 ^ x.shift) ∧
      (x.significand = binade → 0 < x.shift →
        4 * x.significand * (d * 2 ^ x.shift) ≤ 4 * scaled + d * 2 ^ x.shift) := by
  rw [Interval.includes_div positive] at inside
  unfold interval units at inside
  simp only [Nat.pow_eq,Nat.sub_mul,Nat.add_mul] at inside
  generalize x.significand = m at inside ⊢
  generalize 2 ^ x.shift = p at inside ⊢
  have centre : 4 * (m * p) * d = 4 * (m * (d * p)) := by ring
  have step : 2 * p * d = 2 * (d * p) := by ring
  have half : p * d = d * p := by ring
  have double : 2 * m * (d * p) = 2 * (m * (d * p)) := by ring
  have quadruple : 4 * m * (d * p) = 4 * (m * (d * p)) := by ring
  rw [double,quadruple]
  by_cases boundary : m = binade ∧ 0 < x.shift
  · have even : m % 2 = 0 := by rw [boundary.1]; decide
    rw [if_pos boundary,if_pos (by simpa using even),centre,step,half] at inside
    obtain ⟨lower,upper⟩ := inside
    refine ⟨by omega,by omega,by omega,fun _ _ => by omega⟩
  · rw [if_neg boundary,centre,step] at inside
    have outside : m = binade → 0 < x.shift → False := fun same normal => boundary ⟨same,normal⟩
    by_cases even : m % 2 = 0
    · rw [if_pos (by simpa using even)] at inside
      obtain ⟨lower,upper⟩ := inside
      exact ⟨by omega,by omega,by omega,fun same normal => (outside same normal).elim⟩
    · rw [if_neg (by simpa using even)] at inside
      obtain ⟨lower,upper⟩ := inside
      exact ⟨by omega,by omega,by omega,fun same normal => (outside same normal).elim⟩

/-- Below a power of two, the quotient is rounded with the smaller step there, and carries. -/
private theorem carries {scaled d t : Nat} (positive : 0 < d) (under : scaled < 2 * (binade * (d * 2 ^ t)))
    (close : 8 * (binade * (d * 2 ^ t)) ≤ 4 * scaled + 2 * (d * 2 ^ t)) :
    (scaled / d).log2 - 52 = t ∧ roundQuotient scaled (d * 2 ^ t) = 2 * binade := by
  have step : 0 < d * 2 ^ t := by positivity
  have below : scaled / d < 2 * (binade * 2 ^ t) := by
    rw [Nat.div_lt_iff_lt_mul positive]
    linarith [show 2 * (binade * 2 ^ t) * d = 2 * (binade * (d * 2 ^ t)) by ring]
  have above : binade * 2 ^ t ≤ scaled / d := by
    rw [Nat.le_div_iff_mul_le positive]
    have one := Nat.le_mul_of_pos_left (d * 2 ^ t) binade_pos
    linarith [show binade * 2 ^ t * d = binade * (d * 2 ^ t) by ring]
  refine ⟨log2_eq_shift below (.inr above),roundQuotient_eq step ?_ ?_ (by omega)⟩
  · linarith
  · linarith

private theorem significand_eq_binade {m scaled step : Nat} (least : binade ≤ m)
    (under : scaled < 2 * (binade * step)) (lower : 2 * m * (2 * step) ≤ 2 * scaled + 2 * step) : m = binade := by
  by_contra differ
  have next : binade + 1 ≤ m := by omega
  have larger := Nat.mul_le_mul_right step next
  linarith [show (binade + 1) * step = binade * step + step by ring]

theorem nearestMagnitude_eq {x : Double} (finite : x.isFinite = true) {n d : Nat} (positive : 0 < d)
    (inside : x.interval.Includes (((4 * (n * resolution) : Nat) : ℚ) / d)) :
    nearestMagnitude n d = x.magnitude := by
  obtain ⟨lower,upper,tie,boundary⟩ := ends_of_includes positive inside
  have bound : x.magnitude < infinite := by simpa [isFinite] using finite
  have parts := x.magnitude_eq
  have small := x.significand_lt
  have normal := x.binade_le_significand
  unfold nearestMagnitude
  simp only [Nat.pow_eq]
  generalize n * resolution = scaled at lower upper tie boundary ⊢
  generalize x.significand = m at lower upper tie boundary parts small normal
  generalize x.shift = s at lower upper tie boundary parts normal
  have step : 0 < d * 2 ^ s := by positivity
  have below : scaled / d < 2 * (binade * 2 ^ s) := by
    rw [Nat.div_lt_iff_lt_mul positive]
    nlinarith
  by_cases reached : s = 0 ∨ binade * 2 ^ s * d ≤ scaled
  · have above : s = 0 ∨ binade * 2 ^ s ≤ scaled / d :=
      reached.imp_right fun enough => (Nat.le_div_iff_mul_le positive).mpr enough
    rw [log2_eq_shift below above,roundQuotient_eq step lower upper tie,← parts]
    exact Nat.min_eq_left bound.le
  · -- The quotient lies below the power of two that is the value itself.
    push Not at reached
    obtain ⟨isNormal,under⟩ := reached
    obtain ⟨t,rfl⟩ := Nat.exists_eq_succ_of_ne_zero isNormal
    have doubled : d * 2 ^ (t + 1) = 2 * (d * 2 ^ t) := by ring
    have scaledUnder : scaled < 2 * (binade * (d * 2 ^ t)) := by
      have same : binade * 2 ^ (t + 1) * d = 2 * (binade * (d * 2 ^ t)) := by ring
      rwa [Nat.succ_eq_add_one,same] at under
    rw [Nat.succ_eq_add_one,doubled] at lower boundary
    obtain rfl := significand_eq_binade (normal (Nat.succ_pos t)) scaledUnder lower
    have close : 8 * (binade * (d * 2 ^ t)) ≤ 4 * scaled + 2 * (d * 2 ^ t) := by
      linarith [boundary rfl (Nat.succ_pos t)]
    obtain ⟨exponent,rounded⟩ := carries positive scaledUnder close
    have carried : t * binade + 2 * binade = x.magnitude := by
      rw [parts,Nat.succ_eq_add_one]
      ring
    rw [exponent,rounded,carried]
    exact Nat.min_eq_left bound.le

/-! ### Decimals -/

section Decimals
variable {x : Double}

theorem interval_low (nonzero : x.isZero = false) : 2 ≤ x.interval.low := by
  have positive := significand_pos nonzero
  have step : 0 < 2 ^ x.shift := by positivity
  have least := Nat.mul_le_mul_right (2 ^ x.shift) positive
  unfold interval units
  simp only [Nat.pow_eq]
  split <;> omega

theorem interval_high (finite : x.isFinite = true) : x.interval.high ≤ 4 * resolution * 10 ^ 309 := by
  have small := x.significand_lt
  have most := Nat.pow_le_pow_right (n := 2) (by decide) (shift_le finite)
  have significand : 4 * x.significand + 2 ≤ 8 * binade := by
    rw [binade_eq] at small ⊢
    omega
  unfold interval units
  simp only [Nat.pow_eq]
  calc 4 * (x.significand * 2 ^ x.shift) + 2 * 2 ^ x.shift
      = (4 * x.significand + 2) * 2 ^ x.shift := by ring
    _ ≤ 8 * binade * 2 ^ 2045 := Nat.mul_le_mul significand most
    _ ≤ 4 * resolution * 10 ^ 309 := by decide +kernel

theorem Interval.Includes.weak {i : Interval} {quarters : ℚ} (inside : i.Includes quarters) :
    i.low ≤ quarters ∧ quarters ≤ i.high := by
  unfold Includes at inside
  split at inside
  · exact inside
  · exact ⟨inside.1.le,inside.2.le⟩

theorem resolution_positive : 0 < resolution := by
  have positive (exponent : Nat) : 0 < Nat.pow 2 exponent := Nat.pow_pos Nat.zero_lt_two
  unfold resolution
  apply positive

theorem resolution_pos : (0 : ℚ) < resolution := by
  exact_mod_cast resolution_positive

theorem huge {c : Nat} (positive : c ≠ 0) {e : ℤ} (large : 309 < e) :
    ((4 * resolution * 10 ^ 309 : Nat) : ℚ) < 4 * resolution * (c * 10 ^ e) := by
  have one : (1 : ℚ) ≤ c := by exact_mod_cast Nat.one_le_iff_ne_zero.mpr positive
  have power : (10 : ℚ) ^ ((309 : Nat) : ℤ) < 10 ^ e := zpow_lt_zpow_right₀ (by norm_num) large
  have product : (10 : ℚ) ^ e ≤ c * 10 ^ e := le_mul_of_one_le_left (by positivity) one
  rw [zpow_natCast] at power
  rw [Nat.cast_mul,Nat.cast_mul,Nat.cast_pow]
  have quarters : (0 : ℚ) < 4 * resolution := by linarith [resolution_pos]
  exact mul_lt_mul_of_pos_left (lt_of_lt_of_le power product) quarters

theorem tiny {c : Nat} {e : ℤ} (small : e + c.log2 < -400) :
    4 * (resolution : ℚ) * (c * 10 ^ e) < 2 := by
  have bits : (c : ℚ) ≤ 2 * 10 ^ (c.log2 : ℤ) := by
    have less : c ≤ 2 * 10 ^ c.log2 := by
      have below := Nat.lt_log2_self (n := c)
      have powers := Nat.pow_le_pow_left (show 2 ≤ 10 by decide) c.log2
      rw [Nat.pow_succ] at below
      omega
    rw [zpow_natCast]
    exact_mod_cast less
  have power : (10 : ℚ) ^ (c.log2 : ℤ) * 10 ^ e ≤ (10 ^ 401)⁻¹ := by
    rw [← zpow_add₀ (by norm_num),← zpow_natCast,← zpow_neg]
    exact zpow_le_zpow_right₀ (by norm_num) (by rw [Nat.cast_ofNat]; omega)
  have quarters : 8 * (resolution : ℚ) < 2 * 10 ^ 401 := by
    have numbers : 8 * resolution < 2 * 10 ^ 401 := by decide +kernel
    have cast := (Nat.cast_lt (α := ℚ)).mpr numbers
    rwa [Nat.cast_mul,Nat.cast_mul,Nat.cast_pow] at cast
  have top : (0 : ℚ) < 10 ^ 401 := by positivity
  generalize (10 : ℚ) ^ 401 = t at power quarters top
  have product : (c : ℚ) * 10 ^ e ≤ 2 * t⁻¹ := by
    calc (c : ℚ) * 10 ^ e ≤ 2 * 10 ^ (c.log2 : ℤ) * 10 ^ e := by
          exact mul_le_mul_of_nonneg_right bits (by positivity)
      _ = 2 * (10 ^ (c.log2 : ℤ) * 10 ^ e) := by ring
      _ ≤ 2 * t⁻¹ := by linarith
  calc 4 * (resolution : ℚ) * (c * 10 ^ e) ≤ 4 * resolution * (2 * t⁻¹) :=
        mul_le_mul_of_nonneg_left product (by linarith [resolution_pos])
    _ = 8 * resolution * t⁻¹ := by ring
    _ < 2 * t * t⁻¹ := mul_lt_mul_of_pos_right quarters (by positivity)
    _ = 2 := by rw [mul_assoc,mul_inv_cancel₀ top.ne',mul_one]

/-- Every decimal between the ends of an interval is read as its value. -/
theorem ofDecimal_eq (finite : x.isFinite = true) (nonzero : x.isZero = false) {c : Nat} {e : ℤ}
    (inside : x.interval.Includes (4 * resolution * (c * 10 ^ e))) (negative : Bool) :
    ofDecimal negative c e = ofMagnitude negative x.magnitude := by
  obtain ⟨above,below⟩ := inside.weak
  have low : (2 : ℚ) ≤ x.interval.low := by exact_mod_cast interval_low nonzero
  have high : (x.interval.high : ℚ) ≤ ((4 * resolution * 10 ^ 309 : Nat) : ℚ) := by
    exact_mod_cast interval_high finite
  have positive : c ≠ 0 := by
    rintro rfl
    rw [Nat.cast_zero,zero_mul,mul_zero] at above
    linarith
  have notHuge : ¬ 309 < e := fun large => by linarith [huge positive large]
  have notTiny : ¬ e + c.log2 < -400 := fun small => by linarith [tiny small]
  unfold ofDecimal
  rw [if_neg positive,if_neg notHuge,if_neg notTiny]
  cases e with
  | ofNat e =>
    have same : (4 * resolution * (c * 10 ^ (Int.ofNat e)) : ℚ) =
        ((4 * (c * 10 ^ e * resolution) : Nat) : ℚ) / (1 : Nat) := by
      rw [Int.ofNat_eq_natCast,zpow_natCast]
      push_cast
      ring
    rw [same] at inside
    simp only [ofQuotient,Nat.pow_eq]
    rw [nearestMagnitude_eq finite Nat.one_pos inside]
  | negSucc e =>
    have same : (4 * resolution * (c * 10 ^ (Int.negSucc e)) : ℚ) =
        ((4 * (c * resolution) : Nat) : ℚ) / ((10 ^ (e + 1) : Nat) : ℚ) := by
      rw [zpow_negSucc]
      push_cast
      ring
    rw [same] at inside
    simp only [ofQuotient,Nat.pow_eq]
    rw [nearestMagnitude_eq finite (by positivity) inside]

end Decimals

end Double
end SpatialFilter
