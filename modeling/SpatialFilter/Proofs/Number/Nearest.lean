import SpatialFilter.Proofs.Number.Rounding

/-! The nearest value. A quotient is rounded to the finite value closest to it, and of two that are equally close to
the one with an even significand. What lies half a step or more above all finite values is rounded to an infinity. No
two numbers are nearest to one rational, and rounding keeps the order of rationals. -/
namespace SpatialFilter
namespace Double

/-! ### Steps -/

/-- Multiples of a step, by what they are made of. The last one is a power of two and belongs to the next step. -/
theorem units_of_magnitude {x : Double} {t k : Nat} (whole : x.magnitude = t * binade + k) (full : t = 0 ∨ binade ≤ k)
    (small : k ≤ 2 * binade) : x.units = k * 2 ^ t ∧ x.significand % 2 = k % 2 := by
  have count : binade = 4503599627370496 := by decide
  rcases Nat.lt_or_eq_of_le small with inside | rfl
  · have shifted : x.shift = t := by
      rw [shift,whole]
      rw [count] at full inside ⊢
      omega
    have rest : x.significand = k := by rw [significand,whole,shifted,Nat.add_sub_cancel_left]
    exact ⟨by rw [units,rest,shifted,Nat.pow_eq],by rw [rest]⟩
  · have shifted : x.shift = t + 1 := by
      rw [shift,whole,count]
      omega
    have rest : x.significand = binade := by
      rw [significand,whole,shifted,count]
      omega
    exact ⟨by rw [units,rest,shifted,Nat.pow_eq]; ring,by rw [rest]; decide⟩

theorem double_step {s t : Nat} (less : s < t) : 2 * 2 ^ s ≤ 2 ^ t := by
  rw [← Nat.pow_succ']
  exact Nat.pow_le_pow_right Nat.zero_lt_two less

theorem units_grid (y : Double) (t : Nat) :
    (∃ j, y.units = j * 2 ^ t ∧ (j % 2 = 1 → y.significand % 2 = 1)) ∨
      0 < t ∧ y.units < binade * 2 ^ t := by
  rcases Nat.lt_or_ge y.shift t with less | enough
  · refine .inr ⟨Nat.zero_lt_of_lt less,?_⟩
    calc y.units = y.significand * 2 ^ y.shift := rfl
      _ < 2 * binade * 2 ^ y.shift := Nat.mul_lt_mul_of_pos_right y.significand_lt (Nat.two_pow_pos _)
      _ = binade * (2 * 2 ^ y.shift) := by ring
      _ ≤ binade * 2 ^ t := Nat.mul_le_mul_left _ (double_step less)
  · obtain ⟨more,same⟩ := Nat.exists_eq_add_of_le enough
    refine .inl ⟨y.significand * 2 ^ more,?_,fun odd => ?_⟩
    · rw [units,same,Nat.pow_eq,Nat.pow_add]
      ring
    · exact Nat.odd_iff.mp (Nat.Odd.of_mul_left (Nat.odd_iff.mpr odd))

/-! ### Multiples of a step -/

/-- The step of the values around `quotient` is `2 ^ t`, and of its multiples the one by `k` is nearest. -/
structure Steps (quotient : ℚ) (t k : Nat) : Prop where
  above : t = 0 ∨ binade * 2 ^ t ≤ quotient
  below : quotient < 2 * binade * 2 ^ t
  close : |k - quotient / 2 ^ t| ≤ 1 / 2
  tie : |k - quotient / 2 ^ t| = 1 / 2 → k % 2 = 0

theorem roundQuotient_close (n : Nat) {d : Nat} (positive : 0 < d) : |(roundQuotient n d : ℚ) - n / d| ≤ 1 / 2 ∧
    (|(roundQuotient n d : ℚ) - n / d| = 1 / 2 → roundQuotient n d % 2 = 0) := by
  have denominator : (0 : ℚ) < d := by exact_mod_cast positive
  have rest : ((n % d : Nat) : ℚ) / d * d = (n % d : Nat) := div_mul_cancel₀ _ denominator.ne'
  have whole : (d * (n / d : Nat) + (n % d : Nat) : ℚ) = n := by exact_mod_cast Nat.div_add_mod n d
  have parts : (n : ℚ) / d = (n / d : Nat) + ((n % d : Nat) : ℚ) / d := by
    rw [div_eq_iff denominator.ne',add_mul,rest]
    linarith
  have least : 0 ≤ ((n % d : Nat) : ℚ) / d := by positivity
  have less : 2 * (n % d) < d ↔ ((n % d : Nat) : ℚ) / d < 1 / 2 := by
    rw [div_lt_iff₀ denominator,← Nat.cast_lt (α := ℚ)]
    push_cast
    constructor <;> intro _ <;> linarith
  have more : d < 2 * (n % d) ↔ 1 / 2 < ((n % d : Nat) : ℚ) / d := by
    rw [lt_div_iff₀ denominator,← Nat.cast_lt (α := ℚ)]
    push_cast
    constructor <;> intro _ <;> linarith
  have most : ((n % d : Nat) : ℚ) / d < 1 := by
    rw [div_lt_one denominator]
    exact_mod_cast Nat.mod_lt n positive
  rw [parts]
  unfold roundQuotient
  simp only [less,more]
  generalize ((n % d : Nat) : ℚ) / d = fraction at least most
  generalize n / d = k
  split
  · rename_i under
    rw [sub_add_cancel_left,abs_neg,abs_of_nonneg least]
    exact ⟨under.le,fun half => by linarith⟩
  · split
    · rename_i above
      rw [Nat.cast_succ,add_sub_add_left_eq_sub,abs_of_pos (by linarith)]
      exact ⟨by linarith,fun half => by linarith⟩
    · have half : fraction = 1 / 2 := by linarith
      refine ⟨?_,fun _ => by omega⟩
      rw [half,Nat.cast_add,add_sub_add_left_eq_sub,abs_le]
      have bit : ((k % 2 : Nat) : ℚ) ≤ 1 := by exact_mod_cast Nat.le_of_lt_succ (Nat.mod_lt k Nat.two_pos)
      have least : (0 : ℚ) ≤ (k % 2 : Nat) := Nat.cast_nonneg _
      constructor <;> linarith

theorem closest_integer {r : ℚ} {k : Nat} (close : |k - r| ≤ 1 / 2) (tie : |k - r| = 1 / 2 → k % 2 = 0) (j : Nat) :
    |k - r| ≤ |j - r| ∧ (j ≠ k → |j - r| = |k - r| → k % 2 = 0 ∧ j % 2 = 1) := by
  by_cases same : j = k
  · subst same
    exact ⟨le_refl _,fun differ => absurd rfl differ⟩
  · have apart : (1 : ℚ) ≤ |(j : ℚ) - k| := by
      have differ : (1 : ℤ) ≤ |(j : ℤ) - k| := Int.one_le_abs (sub_ne_zero.mpr (Nat.cast_injective.ne same))
      exact_mod_cast differ
    have between : |(j : ℚ) - k| ≤ |j - r| + |k - r| := by
      rw [abs_sub_comm (k : ℚ) r]
      exact abs_sub_le _ _ _
    refine ⟨by linarith,fun _ equal => ?_⟩
    have even := tie (by linarith)
    have next : |(j : ℤ) - k| ≤ 1 := by
      have rational : |(j : ℚ) - k| ≤ 1 := by linarith
      exact_mod_cast rational
    obtain ⟨least,most⟩ := abs_le.mp next
    exact ⟨even,by omega⟩

section Steps
variable {quotient : ℚ} {t k : Nat}

theorem Steps.full (steps : Steps quotient t k) : t = 0 ∨ binade ≤ k := by
  refine steps.above.imp_right fun above => ?_
  have power : (0 : ℚ) < 2 ^ t := by positivity
  have least : (binade : ℚ) ≤ quotient / 2 ^ t := (le_div_iff₀ power).mpr above
  have most := (abs_le.mp steps.close).1
  have next : (binade : ℚ) < (k + 1 : Nat) := by
    push_cast
    linarith
  exact Nat.le_of_lt_succ (Nat.cast_lt.mp next)

theorem Steps.small (steps : Steps quotient t k) : k ≤ 2 * binade := by
  have power : (0 : ℚ) < 2 ^ t := by positivity
  have most : quotient / 2 ^ t < 2 * binade := (div_lt_iff₀ power).mpr steps.below
  have least := (abs_le.mp steps.close).2
  have next : (k : ℚ) < (2 * binade + 1 : Nat) := by
    push_cast
    linarith
  exact Nat.le_of_lt_succ (Nat.cast_lt.mp next)

/-- The nearest multiple of the step is as close as any value, also of those with a smaller step. -/
theorem Steps.closest (steps : Steps quotient t k) (y : Double) : |k * 2 ^ t - quotient| ≤ |y.units - quotient| ∧
    (y.units ≠ k * 2 ^ t → |(y.units : ℚ) - quotient| = |k * 2 ^ t - quotient| → k % 2 = 0 ∧ y.significand % 2 = 1) := by
  have power : (0 : ℚ) < 2 ^ t := by positivity
  have scaled (j : Nat) : |j * 2 ^ t - quotient| = |j - quotient / 2 ^ t| * 2 ^ t := by
    rw [← abs_of_pos power,← abs_mul,abs_of_pos power,sub_mul,div_mul_cancel₀ _ power.ne']
  rcases y.units_grid t with ⟨j,units,odd⟩ | ⟨positive,under⟩
  · obtain ⟨closest,tie⟩ := closest_integer steps.close steps.tie j
    have value : (y.units : ℚ) = j * 2 ^ t := by
      rw [units]
      push_cast
      rfl
    rw [value,scaled,scaled]
    refine ⟨mul_le_mul_of_nonneg_right closest power.le,fun differ equal => ?_⟩
    have other : j ≠ k := fun same => differ (by rw [units,same])
    obtain ⟨even,next⟩ := tie other (mul_right_cancel₀ power.ne' equal)
    exact ⟨even,odd next⟩
  · -- What has a smaller step lies below the power of two under the quotient.
    have smaller : (y.units : ℚ) < binade * 2 ^ t := by exact_mod_cast under
    have above := steps.above.resolve_left positive.ne'
    have closest := mul_le_mul_of_nonneg_right (closest_integer steps.close steps.tie binade).1 power.le
    rw [← scaled,← scaled,abs_sub_comm (binade * 2 ^ t : ℚ),abs_of_nonneg (sub_nonneg.mpr above)] at closest
    have strict : |k * 2 ^ t - quotient| < |(y.units : ℚ) - quotient| := by
      rw [abs_sub_comm (y.units : ℚ),abs_of_pos (a := quotient - y.units) (by linarith)]
      linarith
    exact ⟨strict.le,fun _ equal => absurd equal strict.ne'⟩

/-- The step of a quotient is found from the binary length of its whole part. -/
theorem shift_step (whole : Nat) : (whole.log2 - 52 = 0 ∨ binade * 2 ^ (whole.log2 - 52) ≤ whole) ∧
    whole + 1 ≤ 2 * binade * 2 ^ (whole.log2 - 52) := by
  have count : binade = 2 ^ 52 := rfl
  have below := Nat.lt_log2_self (n := whole)
  rw [count,← Nat.pow_succ',← Nat.pow_add,← Nat.pow_add]
  refine ⟨?_,below.trans_le (Nat.pow_le_pow_right Nat.zero_lt_two (by omega))⟩
  by_cases short : whole.log2 - 52 = 0
  · exact .inl short
  · have length : 52 + (whole.log2 - 52) = whole.log2 := by omega
    have positive : whole ≠ 0 := by
      rintro rfl
      exact short (by simp)
    rw [length]
    exact .inr (Nat.log2_self_le positive)

theorem nearestMagnitude_steps (n : Nat) {d : Nat} (positive : 0 < d) :
    ∃ t k, Steps (n / d * resolution) t k ∧ nearestMagnitude n d = min (t * binade + k) infinite := by
  have denominator : (0 : ℚ) < d := by exact_mod_cast positive
  refine ⟨(n * resolution / d).log2 - 52,_,?_,rfl⟩
  have same : (n / d * resolution : ℚ) = (n * resolution : Nat) / d := by
    rw [Nat.cast_mul]
    ring
  rw [same]
  generalize n * resolution = scaled
  have least : ((scaled / d : Nat) : ℚ) ≤ scaled / d := Nat.cast_div_le
  have most : (scaled / d : ℚ) < (scaled / d + 1 : Nat) := by
    rw [div_lt_iff₀ denominator,mul_comm]
    exact_mod_cast Nat.lt_mul_div_succ scaled positive
  obtain ⟨above,below⟩ := shift_step (scaled / d)
  generalize (scaled / d).log2 - 52 = t at above below
  have close := roundQuotient_close scaled (Nat.mul_pos positive (Nat.two_pow_pos t))
  rw [Nat.cast_mul,Nat.cast_pow,Nat.cast_ofNat,← div_div] at close
  exact {
    above := above.imp_right fun enough => le_trans (by exact_mod_cast enough) least
    below := most.trans_le (by exact_mod_cast below)
    close := close.1
    tie := close.2 }

end Steps

/-! ### Values -/

def value (x : Double) : ℚ := (if x.isNegative then -1 else 1) * (x.units / resolution)

/-- Half a step above the greatest finite value. -/
def overflow : ℚ := 2 ^ 1024 - 2 ^ 970

/-- The finite value closest to a number, with an even significand where two are equally close, or the infinity of its
sign if it is too large. -/
inductive Nearest (q : ℚ) (x : Double) : Prop where
  | finite (inside : |q| < overflow) (finite : x.isFinite = true)
      (closest : ∀ y : Double, y.isFinite = true → |x.value - q| ≤ |y.value - q|)
      (even : ∀ y : Double, y.isFinite = true → y.value ≠ x.value → |y.value - q| = |x.value - q| →
        x.significand % 2 = 0)
  | infinite (outside : overflow ≤ |q|) (sign : x = infinity (decide (q < 0)))

section Overflow
variable {quotient : ℚ} {t k : Nat}

theorem units_infinity : ((infinity false).units : ℚ) = 2 * binade * 2 ^ 2045 ∧ (infinity false).significand % 2 = 0 := by
  have whole : (infinity false).magnitude = 2045 * binade + 2 * binade := by decide
  obtain ⟨units,even⟩ := units_of_magnitude whole (.inr (by decide)) (Nat.le_refl _)
  refine ⟨?_,even.trans (by decide)⟩
  rw [units,Nat.cast_mul,Nat.cast_pow,Nat.cast_mul,Nat.cast_ofNat]

theorem units_greatest : ((ofMagnitude false (infinite - 1)).units : ℚ) = (2 * binade - 1) * 2 ^ 2045 := by
  have whole : (ofMagnitude false (infinite - 1)).magnitude = 2045 * binade + (2 * binade - 1) := by decide
  obtain ⟨units,-⟩ := units_of_magnitude whole (.inr (by decide)) (by decide)
  have before : ((2 * binade - 1 : Nat) : ℚ) = 2 * binade - 1 := by
    rw [Nat.cast_sub (by decide),Nat.cast_mul,Nat.cast_ofNat,Nat.cast_one]
  rw [units,Nat.cast_mul,Nat.cast_pow,before,Nat.cast_ofNat]

theorem binade_cast : (binade : ℚ) = 2 ^ 52 := by
  rw [binade,Nat.pow_eq,Nat.cast_pow,Nat.cast_ofNat]

theorem resolution_cast {exponent : Nat} (all : exponent = 1074) : (resolution : ℚ) = 2 ^ exponent := by
  unfold resolution
  rw [← all,Nat.pow_eq,Nat.cast_pow,Nat.cast_ofNat]

theorem overflow_units : overflow * resolution = (2 * binade - 1 / 2) * 2 ^ 2045 := by
  have least : (2 : ℚ) ^ 1024 = 2 ^ 54 * 2 ^ 970 := by rw [← pow_add]
  have most : (2 : ℚ) ^ 2045 = 2 * (2 ^ 970 * 2 ^ 1074) := by rw [← pow_add,← pow_succ']
  rw [overflow,binade_cast,resolution_cast rfl,least,most]
  generalize (2 : ℚ) ^ 970 = low
  generalize (2 : ℚ) ^ 1074 = high
  ring

/-- A multiple of the step is at least the first power of two beyond all finite values, or at most the greatest of
these. -/
theorem Steps.finite_or_beyond (steps : Steps quotient t k) :
    (infinite ≤ t * binade + k → 2 * binade * 2 ^ 2045 ≤ k * 2 ^ t) ∧
      (t * binade + k < infinite → k * 2 ^ t ≤ (2 * binade - 1) * 2 ^ 2045) := by
  have full := steps.full
  have small := steps.small
  have count : binade = 4503599627370496 := by decide
  have limit : infinite = 2047 * binade := rfl
  rw [limit]
  rcases Nat.lt_trichotomy t 2045 with before | rfl | behind
  · refine ⟨fun reached => ?_,fun _ => ?_⟩
    · rw [count] at reached small
      omega
    · calc k * 2 ^ t ≤ 2 * binade * 2 ^ t := Nat.mul_le_mul_right _ small
        _ = binade * (2 * 2 ^ t) := by ring
        _ ≤ (2 * binade - 1) * 2 ^ 2045 := Nat.mul_le_mul (by decide) (double_step before)
  · exact ⟨fun reached => Nat.mul_le_mul_right _ (by omega),fun inside => Nat.mul_le_mul_right _ (by omega)⟩
  · have enough := full.resolve_left (Nat.ne_zero_of_lt behind)
    refine ⟨fun _ => ?_,fun inside => ?_⟩
    · calc 2 * binade * 2 ^ 2045 = binade * (2 * 2 ^ 2045) := by rw [Nat.mul_comm 2,Nat.mul_assoc]
        _ ≤ k * 2 ^ t := Nat.mul_le_mul enough (double_step behind)
    · rw [count] at inside enough
      omega

theorem Steps.infinite_iff (steps : Steps quotient t k) :
    infinite ≤ t * binade + k ↔ overflow * resolution ≤ quotient := by
  have top : (0 : ℚ) < 2 ^ 2045 := by positivity
  have positive : (1 : ℚ) ≤ binade := by exact_mod_cast binade_pos
  obtain ⟨beyond,inside⟩ := steps.finite_or_beyond
  rw [overflow_units]
  constructor
  · intro reached
    -- Otherwise the greatest finite value would be closer.
    have least : 2 * binade * 2 ^ 2045 ≤ (k * 2 ^ t : ℚ) := by exact_mod_cast beyond reached
    obtain ⟨closest,-⟩ := steps.closest (ofMagnitude false (infinite - 1))
    rw [units_greatest] at closest
    generalize (2 : ℚ) ^ 2045 = step at top least closest ⊢
    generalize (k * 2 ^ t : ℚ) = nearest at least closest
    by_contra! below
    have apart : nearest - quotient ≤ |nearest - quotient| := le_abs_self _
    rcases abs_cases ((2 * binade - 1) * step - quotient) with ⟨same,-⟩ | ⟨same,-⟩ <;> rw [same] at closest <;> linarith
  · intro enough
    by_contra! small
    have most : (k * 2 ^ t : ℚ) ≤ (2 * binade - 1) * 2 ^ 2045 := by
      have before : ((2 * binade - 1 : Nat) : ℚ) = 2 * binade - 1 := by
        rw [Nat.cast_sub (by decide),Nat.cast_mul,Nat.cast_ofNat,Nat.cast_one]
      rw [← before]
      exact_mod_cast inside small
    -- Otherwise the infinity would be closer, or as close and even.
    obtain ⟨units,even⟩ := units_infinity
    obtain ⟨closest,tie⟩ := steps.closest (infinity false)
    have differ : (infinity false).units ≠ k * 2 ^ t := by
      intro same
      have same : ((infinity false).units : ℚ) = k * 2 ^ t := by exact_mod_cast same
      rw [units] at same
      generalize (2 : ℚ) ^ 2045 = step at top most same
      linarith
    have odd := tie differ
    rw [units] at closest odd
    generalize (2 : ℚ) ^ 2045 = step at top most enough closest odd
    generalize (k * 2 ^ t : ℚ) = nearest at most closest odd
    have apart : |nearest - quotient| = quotient - nearest := by
      rw [abs_sub_comm,abs_of_nonneg (by linarith)]
    rw [apart] at closest odd
    rcases abs_cases (2 * binade * step - quotient) with ⟨same,-⟩ | ⟨same,-⟩
    · rw [same] at closest odd
      have parity := (odd (by linarith)).2
      omega
    · rw [same] at closest
      linarith

end Overflow

/-! ### Signs -/

section Signs
variable {x : Double} {v : ℚ}

def withSign (negative : Bool) (v : ℚ) : ℚ := (if negative then -1 else 1) * v

theorem value_eq (x : Double) : x.value = withSign x.isNegative (x.units / resolution) := rfl

theorem abs_withSign (negative : Bool) (v : ℚ) : |withSign negative v| = |v| := by
  cases negative <;> simp [withSign]

theorem withSign_sub (negative : Bool) (v w : ℚ) : withSign negative v - withSign negative w = withSign negative (v - w) :=
  (mul_sub _ _ _).symm

theorem abs_units (x : Double) (v : ℚ) :
    |(x.units : ℚ) - v * resolution| = |x.units / resolution - v| * resolution := by
  rw [← abs_of_pos resolution_pos,← abs_mul,abs_of_pos resolution_pos,sub_mul,div_mul_cancel₀ _ resolution_pos.ne']

theorem abs_value_same (v : ℚ) : |x.value - withSign x.isNegative v| = |x.units / resolution - v| := by
  rw [value_eq,withSign_sub,abs_withSign]

theorem abs_value_other (negative : Bool) (positive : 0 ≤ v) (y : Double) (differ : y.isNegative ≠ negative) :
    |y.value - withSign negative v| = y.units / resolution + v := by
  have units : (0 : ℚ) ≤ y.units / resolution := div_nonneg (Nat.cast_nonneg _) resolution_pos.le
  have opposite : y.value - withSign negative v = withSign y.isNegative (y.units / resolution + v) := by
    rw [value_eq,Bool.eq_not_of_ne differ]
    generalize (y.units / resolution : ℚ) = u
    cases negative
    · simp only [withSign,Bool.not_false,if_true,Bool.false_eq_true,if_false]
      ring
    · simp only [withSign,Bool.not_true,if_true,Bool.false_eq_true,if_false]
      ring
  rw [opposite,abs_withSign,abs_of_nonneg (by linarith)]

/-- No finite value is closer to a number. Another one that is as close has an odd significand. -/
structure Closest (q : ℚ) (x : Double) : Prop where
  finite : x.isFinite = true
  closest : ∀ y : Double, y.isFinite = true → |x.value - q| ≤ |y.value - q|
  tie : ∀ y : Double, y.isFinite = true → y.value ≠ x.value → |y.value - q| = |x.value - q| →
    x.significand % 2 = 0 ∧ y.significand % 2 = 1

theorem Steps.closest_value {t k : Nat} (positive : 0 ≤ v) (steps : Steps (v * resolution) t k)
    (finite : x.isFinite = true) (units : x.units = k * 2 ^ t) (parity : x.significand % 2 = k % 2) :
    Closest (withSign x.isNegative v) x := by
  have distance (y : Double) : |x.units / resolution - v| ≤ |y.units / resolution - v| ∧ (y.units ≠ x.units →
      |y.units / resolution - v| = |x.units / resolution - v| → x.significand % 2 = 0 ∧ y.significand % 2 = 1) := by
    have multiple : (k * 2 ^ t : ℚ) = x.units := by exact_mod_cast units.symm
    obtain ⟨closest,tie⟩ := steps.closest y
    rw [multiple,abs_units,abs_units] at closest tie
    rw [← units,← parity] at tie
    exact ⟨le_of_mul_le_mul_right closest resolution_pos,fun differ equal => tie differ (by rw [equal])⟩
  have nonneg (y : Double) : (0 : ℚ) ≤ y.units / resolution := div_nonneg (Nat.cast_nonneg _) resolution_pos.le
  have within (y : Double) : |y.units / resolution - v| ≤ y.units / resolution + v :=
    abs_le.mpr ⟨by linarith [nonneg y],by linarith⟩
  refine ⟨finite,fun y _ => ?_,fun y _ differ equal => ?_⟩
  · rw [abs_value_same]
    by_cases sign : y.isNegative = x.isNegative
    · rw [← sign,abs_value_same]
      exact (distance y).1
    · rw [abs_value_other _ positive y sign]
      exact (distance y).1.trans (within y)
  · rw [abs_value_same] at equal
    by_cases sign : y.isNegative = x.isNegative
    · rw [← sign,abs_value_same] at equal
      refine (distance y).2 (fun same => differ ?_) equal
      rw [value_eq,value_eq,sign,same]
    · rw [abs_value_other _ positive y sign] at equal
      have close := (distance y).1
      refine (distance y).2 (fun same => differ ?_) (by linarith [within y])
      -- Both are as far as their magnitudes allow, so both are zero.
      have zero := (distance (ofMagnitude false 0)).1
      have none : (ofMagnitude false 0).units = 0 := by decide
      rw [none,Nat.cast_zero,zero_div,zero_sub,abs_neg,abs_of_nonneg positive] at zero
      rw [same] at equal
      have least := nonneg x
      rw [value_eq,value_eq,same]
      generalize (x.units / resolution : ℚ) = u at equal least zero ⊢
      have nothing : u = 0 := by
        rcases abs_cases (u - v) with ⟨abs,-⟩ | ⟨abs,-⟩ <;> rw [abs] at equal zero <;> linarith
      rw [nothing,withSign,withSign,mul_zero,mul_zero]

end Signs

/-! ### Rounded numbers -/

section Rounded
variable {n d : Nat}

theorem ofQuotient_closest (negative : Bool) (positive : 0 < d) (inside : (n / d : ℚ) < overflow) :
    Closest (withSign negative (n / d)) (ofQuotient negative n d) := by
  obtain ⟨t,k,steps,whole⟩ := nearestMagnitude_steps n positive
  have small : t * binade + k < infinite := by
    by_contra! large
    exact absurd (le_of_mul_le_mul_right (steps.infinite_iff.mp large) resolution_pos) (not_le.mpr inside)
  rw [Nat.min_eq_left small.le] at whole
  have bound : nearestMagnitude n d < signBit := by
    rw [whole]
    exact small.trans (by decide)
  have magnitude := (magnitude_ofMagnitude negative bound).trans whole
  have finite : (ofQuotient negative n d).isFinite = true := by
    rw [isFinite,ofQuotient,magnitude]
    exact decide_eq_true small
  obtain ⟨units,parity⟩ := units_of_magnitude magnitude steps.full steps.small
  have closest := steps.closest_value (div_nonneg n.cast_nonneg d.cast_nonneg) finite units parity
  rwa [ofQuotient,isNegative_ofMagnitude negative bound,← ofQuotient] at closest

theorem ofQuotient_infinity (negative : Bool) (positive : 0 < d) (outside : overflow ≤ (n / d : ℚ)) :
    ofQuotient negative n d = infinity negative := by
  obtain ⟨t,k,steps,whole⟩ := nearestMagnitude_steps n positive
  have large := steps.infinite_iff.mpr (mul_le_mul_of_nonneg_right outside resolution_pos.le)
  rw [ofQuotient,whole,Nat.min_eq_right large,infinity]

theorem one_le_overflow_units : 1 ≤ overflow * resolution := by
  have count : (1 : ℚ) ≤ binade := by exact_mod_cast binade_pos
  have top : (1 : ℚ) ≤ 2 ^ 2045 := one_le_pow₀ one_le_two
  rw [overflow_units]
  exact one_le_mul_of_one_le_of_one_le (by linarith) top

theorem overflow_pos : 0 < overflow :=
  (pos_iff_pos_of_mul_pos (zero_lt_one.trans_le one_le_overflow_units)).mpr resolution_pos

theorem overflow_le : overflow ≤ 10 ^ 309 := by
  have numbers : 2 ^ 1024 ≤ 10 ^ 309 := by decide +kernel
  have power : (2 : ℚ) ^ 1024 ≤ 10 ^ 309 := by exact_mod_cast numbers
  have half : (0 : ℚ) ≤ 2 ^ 970 := by positivity
  exact (sub_le_self _ half).trans power

theorem Closest.nearest {q : ℚ} {x : Double} (closest : Closest q x) (inside : |q| < overflow) : Nearest q x :=
  .finite inside closest.finite closest.closest fun y finite differ equal => (closest.tie y finite differ equal).1

theorem nearest_infinity {v : ℚ} (negative : Bool) (outside : overflow ≤ v) :
    Nearest (withSign negative v) (infinity negative) := by
  have positive : 0 < v := overflow_pos.trans_le outside
  refine .infinite (by rwa [abs_withSign,abs_of_pos positive]) ?_
  cases negative with
  | false => rw [withSign,if_neg (by simp),one_mul,decide_eq_false (not_lt.mpr positive.le)]
  | true => rw [withSign,if_pos rfl,neg_one_mul,decide_eq_true (neg_neg_of_pos positive)]

theorem ofQuotient_nearest (negative : Bool) (n : Nat) (positive : 0 < d) :
    Nearest (withSign negative (n / d)) (ofQuotient negative n d) := by
  rcases lt_or_ge (n / d : ℚ) overflow with inside | outside
  · refine (ofQuotient_closest negative positive inside).nearest ?_
    rwa [abs_withSign,abs_of_nonneg (div_nonneg n.cast_nonneg d.cast_nonneg)]
  · rw [ofQuotient_infinity negative positive outside]
    exact nearest_infinity negative outside

theorem nearest_zero {q : ℚ} (negative : Bool) (small : |q| * resolution < 1 / 2) :
    Nearest q (ofMagnitude negative 0) := by
  have zero : (ofMagnitude negative 0).value = 0 := by
    have none : (ofMagnitude negative 0).units = 0 := by cases negative <;> decide
    rw [value_eq,none,Nat.cast_zero,zero_div,withSign,mul_zero]
  have apart (y : Double) (differ : y.value ≠ 0) : |q| < |y.value - q| := by
    have positive : (1 : ℚ) ≤ y.units := by
      rw [Nat.one_le_cast,Nat.one_le_iff_ne_zero]
      rintro none
      exact differ (by rw [value_eq,none,Nat.cast_zero,zero_div,withSign,mul_zero])
    have size : |y.value| * resolution = y.units := by
      rw [value_eq,abs_withSign,abs_of_nonneg (div_nonneg (Nat.cast_nonneg _) resolution_pos.le),
        div_mul_cancel₀ _ resolution_pos.ne']
    have double : |q| * resolution < (|y.value| - |q|) * resolution := by
      rw [sub_mul,size]
      linarith
    exact (lt_of_mul_lt_mul_right double resolution_pos.le).trans_le (abs_sub_abs_le_abs_sub _ _)
  refine .finite ?_ ?_ (fun y _ => ?_) fun y _ differ equal => ?_
  · refine lt_of_mul_lt_mul_right (small.trans ?_) resolution_pos.le
    linarith [one_le_overflow_units]
  · cases negative <;> decide
  · rw [zero,zero_sub,abs_neg]
    by_cases none : y.value = 0
    · rw [none,zero_sub,abs_neg]
    · exact (apart y none).le
  · rw [zero] at differ equal
    rw [zero_sub,abs_neg] at equal
    exact absurd equal (apart y differ).ne'

/-- Reading a decimal rounds it once, also where its exponent alone decides. -/
theorem ofDecimal_nearest (negative : Bool) (c : Nat) (e : ℤ) :
    Nearest (withSign negative (c * 10 ^ e)) (ofDecimal negative c e) := by
  unfold ofDecimal
  split
  · rename_i none
    refine nearest_zero negative ?_
    rw [abs_withSign,none,Nat.cast_zero,zero_mul,abs_zero,zero_mul]
    exact one_half_pos
  · rename_i positive
    split
    · rename_i large
      refine nearest_infinity negative (overflow_le.trans ?_)
      have beyond := huge positive large
      rw [Nat.cast_mul,Nat.cast_pow,Nat.cast_mul,Nat.cast_ofNat,Nat.cast_ofNat] at beyond
      exact (lt_of_mul_lt_mul_left beyond (by linarith [resolution_pos])).le
    · split
      · rename_i small
        refine nearest_zero negative ?_
        rw [abs_withSign,abs_of_nonneg (by positivity)]
        linarith [tiny small]
      · cases e with
        | ofNat e =>
          have same : (c * 10 ^ (Int.ofNat e) : ℚ) = (c * Nat.pow 10 e : Nat) / (1 : Nat) := by
            rw [Int.ofNat_eq_natCast,zpow_natCast,Nat.pow_eq]
            push_cast
            ring
          rw [same]
          exact ofQuotient_nearest negative _ Nat.one_pos
        | negSucc e =>
          have same : (c * 10 ^ (Int.negSucc e) : ℚ) = c / (Nat.pow 10 (e + 1) : Nat) := by
            rw [zpow_negSucc,Nat.pow_eq]
            push_cast
            rfl
          rw [same]
          exact ofQuotient_nearest negative _ (Nat.pow_pos (by decide))

theorem isNegative_ofDecimal (negative : Bool) (c : Nat) (e : ℤ) : (ofDecimal negative c e).isNegative = negative := by
  have quotient (n d : Nat) : (ofQuotient negative n d).isNegative = negative :=
    isNegative_ofMagnitude negative ((Nat.min_le_right _ _).trans_lt (by decide))
  unfold ofDecimal
  split
  · exact isNegative_ofMagnitude negative (by decide)
  · split
    · exact isNegative_ofMagnitude negative (by decide)
    · split
      · exact isNegative_ofMagnitude negative (by decide)
      · cases e <;> apply quotient

theorem ofInt_nearest (i : ℤ) : Nearest i (ofInt i) := by
  have same : (i : ℚ) = withSign (decide (i < 0)) ((i.natAbs : ℚ) / (1 : Nat)) := by
    rw [Nat.cast_one,div_one,withSign]
    rcases lt_or_ge i 0 with negative | positive
    · rw [if_pos (decide_eq_true negative),neg_one_mul,Nat.cast_natAbs,abs_of_neg negative,Int.cast_neg,neg_neg]
    · rw [if_neg (by simpa using positive),one_mul,Nat.cast_natAbs,abs_of_nonneg positive]
  rw [same]
  exact ofQuotient_nearest _ _ Nat.one_pos

end Rounded

/-! ### Order -/

section Order
variable {q r : ℚ} {x y : Double}

/-- What a value that is a number stands for, the infinities included. -/
def extended (x : Double) : WithBot (WithTop ℚ) :=
  if x.isFinite then ((x.value : WithTop ℚ) : WithBot (WithTop ℚ)) else if x.isNegative then ⊥ else ⊤

theorem extended_of_finite (finite : x.isFinite = true) : x.extended = ((x.value : WithTop ℚ) : WithBot (WithTop ℚ)) :=
  if_pos finite

theorem extended_infinity (negative : Bool) : (infinity negative).extended = if negative then ⊥ else ⊤ := by
  have infinite : (infinity negative).isFinite = false := by cases negative <;> decide
  have sign : (infinity negative).isNegative = negative := isNegative_ofMagnitude negative (by decide)
  rw [extended,infinite,sign]
  rfl

theorem exists_closest (inside : |q| < overflow) : ∃ x, Closest q x := by
  obtain ⟨n,size⟩ := Int.eq_ofNat_of_zero_le (Rat.num_nonneg.mpr (abs_nonneg q))
  have parts : (n : ℚ) / |q|.den = |q| := by
    have whole := Rat.num_div_den |q|
    rwa [size,Int.cast_natCast] at whole
  have sign : withSign (decide (q < 0)) |q| = q := by
    rw [withSign]
    rcases lt_or_ge q 0 with negative | positive
    · rw [if_pos (decide_eq_true negative),neg_one_mul,abs_of_neg negative,neg_neg]
    · rw [if_neg (by simpa using positive),one_mul,abs_of_nonneg positive]
  have closest := ofQuotient_closest (decide (q < 0)) |q|.den_pos (by rwa [parts])
  rw [parts,sign] at closest
  exact ⟨_,closest⟩

theorem Nearest.value_unique (first : Nearest q x) (second : Nearest q y) (inside : |q| < overflow) :
    x.value = y.value := by
  obtain ⟨z,closest⟩ := exists_closest inside
  suffices same : ∀ w, Nearest q w → w.value = z.value from (same x first).trans (same y second).symm
  intro w nearest
  cases nearest with
  | infinite outside => exact absurd outside (not_le.mpr inside)
  | finite _ finite minimal even =>
    by_contra differ
    have equal := le_antisymm (minimal z closest.finite) (closest.closest w finite)
    have odd := (closest.tie w finite differ equal).2
    have even := even z closest.finite (Ne.symm differ) equal.symm
    omega

theorem twice_of_closer_above {a b : ℚ} (less : a < b) (closer : |b - q| ≤ |a - q|) : a + b ≤ 2 * q := by
  have squares := sq_le_sq.mpr closer
  nlinarith

theorem twice_of_closer_below {a b : ℚ} (less : a < b) (closer : |a - q| ≤ |b - q|) : 2 * q ≤ a + b := by
  have squares := sq_le_sq.mpr closer
  nlinarith

theorem Nearest.isNaN (nearest : Nearest q x) : x.isNaN = false := by
  cases nearest with
  | finite _ finite =>
    have small : x.magnitude < Double.infinite := by simpa [isFinite] using finite
    exact decide_eq_false small.le.not_gt
  | infinite _ sign =>
    rw [sign]
    cases decide (q < 0) <;> decide

theorem Nearest.mono (first : Nearest q x) (second : Nearest r y) (le : q ≤ r) : x.extended ≤ y.extended := by
  cases first with
  | infinite outside sign =>
    rw [sign,extended_infinity]
    rcases lt_or_ge q 0 with negative | positive
    · rw [decide_eq_true negative]
      exact bot_le
    · rw [abs_of_nonneg positive] at outside
      cases second with
      | finite inside => exact absurd (outside.trans le) (not_le.mpr ((le_abs_self r).trans_lt inside))
      | infinite _ other =>
        rw [other,extended_infinity,decide_eq_false (not_lt.mpr positive),decide_eq_false (not_lt.mpr (positive.trans le))]
  | finite inside finite minimal even =>
    cases second with
    | infinite outside other =>
      rcases lt_or_ge r 0 with negative | positive
      · rw [abs_of_neg negative] at outside
        linarith [neg_abs_le q]
      · rw [other,extended_infinity,decide_eq_false (not_lt.mpr positive)]
        exact le_top
    | finite within also least tie =>
      rw [extended_of_finite finite,extended_of_finite also,WithBot.coe_le_coe,WithTop.coe_le_coe]
      by_contra! less
      have above := twice_of_closer_above less (minimal y also)
      have below := twice_of_closer_below less (least x finite)
      obtain rfl : q = r := by linarith
      exact less.ne' (Nearest.value_unique (.finite inside finite minimal even) (.finite within also least tie) inside)

theorem Nearest.unique (first : Nearest q x) (second : Nearest q y) : x.extended = y.extended :=
  le_antisymm (first.mono second le_rfl) (second.mono first le_rfl)

end Order

end Double
end SpatialFilter
