import SpatialFilter.Proofs.Number.Rounding

/-! The shortest decimal of a value rounds to it. The grid of seventeen digits is always fine enough
for one of the neighbours of the value on it to lie between the ends of the interval. -/
namespace SpatialFilter

/-- The number that a decimal stands for. -/
def Decimal.value (d : Decimal) : ℚ := d.coefficient * 10 ^ d.exponent

theorem Decimal.value_normalizeWithin (limit : Nat) (d : Decimal) : (d.normalizeWithin limit).value = d.value := by
  fun_induction normalizeWithin limit d with
  | case1 d => rfl
  | case2 limit d trailing ih =>
    rw [ih]
    have whole : ((d.coefficient / 10 : Nat) : ℚ) * 10 = d.coefficient := by
      have multiple : d.coefficient / 10 * 10 = d.coefficient := by omega
      exact_mod_cast multiple
    unfold value
    rw [← whole,zpow_add_one₀ (by norm_num)]
    ring
  | case3 limit d done => rfl

namespace Double
variable {x : Double} {i : Interval} {g : Grid}

/-! ### Grids -/

theorem Grid.denominator_pos (e : ℤ) : 0 < (ofExponent e).denominator := by
  cases e with
  | ofNat e => exact Nat.one_pos
  | negSucc e => exact Nat.pow_pos (by decide)

/-- A step of a grid, in quarter units. -/
theorem Grid.step (e : ℤ) :
    ((ofExponent e).numerator : ℚ) / (ofExponent e).denominator = 4 * resolution * 10 ^ e := by
  cases e with
  | ofNat e =>
    simp only [ofExponent,Nat.pow_eq]
    rw [Int.ofNat_eq_natCast,zpow_natCast]
    push_cast
    ring
  | negSucc e =>
    simp only [ofExponent,Nat.pow_eq]
    rw [zpow_negSucc]
    push_cast
    ring

theorem Interval.contains_iff (positive : 0 < g.denominator) {count : Nat} :
    i.contains g count = true ↔ i.Includes (count * ((g.numerator : ℚ) / g.denominator)) := by
  have quotient : (count : ℚ) * ((g.numerator : ℚ) / g.denominator) =
      ((count * g.numerator : Nat) : ℚ) / g.denominator := by
    push_cast
    ring
  rw [quotient,includes_div positive]
  unfold contains
  simp only
  split <;> simp

theorem Interval.contains_ofExponent {e : ℤ} {count : Nat} : i.contains (Grid.ofExponent e) count = true ↔
    i.Includes (4 * resolution * (Decimal.mk count e).value) := by
  rw [contains_iff (Grid.denominator_pos e),Grid.step]
  unfold Decimal.value
  rw [mul_left_comm]

/-! ### Neighbours on a grid -/

theorem Interval.contains_of_pick {tie : Tie} {count : Nat} (picked : i.pick? tie g = some count) :
    i.contains g count = true := by
  unfold pick? at picked
  simp only at picked
  split at picked
  · cases picked
  · rename_i lower _
    cases picked
    exact lower
  · rename_i _ upper
    cases picked
    exact upper
  · rename_i lower upper
    split at picked
    · cases picked
      exact lower
    · split at picked
      · cases picked
        exact upper
      · split at picked
        · cases picked
          exact upper
        · cases picked
          rcases Nat.mod_two_eq_zero_or_one (i.centre * g.denominator / g.numerator) with even | odd
          · rw [even]
            exact lower
          · rw [odd]
            exact upper

/-- The neighbours of the centre are one step apart, and the interval is wider than a step. -/
theorem Interval.contains_neighbour (positive : 0 < g.numerator) (fine : 0 < g.denominator)
    (below : i.low < i.centre) (above : i.centre < i.high)
    (narrow : g.numerator < (i.high - i.low) * g.denominator) :
    i.contains g (i.centre * g.denominator / g.numerator) = true ∨
      i.contains g (i.centre * g.denominator / g.numerator + 1) = true := by
  have reached := Nat.div_mul_le_self (i.centre * g.denominator) g.numerator
  have passed := Nat.lt_mul_div_succ (i.centre * g.denominator) positive
  have lowEnd := Nat.mul_lt_mul_of_pos_right below fine
  have highEnd := Nat.mul_lt_mul_of_pos_right above fine
  rw [Nat.sub_mul] at narrow
  rw [Nat.mul_comm g.numerator] at passed
  unfold contains
  simp only [Nat.add_mul,Nat.one_mul] at passed ⊢
  split <;> simp only [decide_eq_true_eq] <;> omega

theorem Interval.pick_isSome (positive : 0 < g.numerator) (fine : 0 < g.denominator)
    (below : i.low < i.centre) (above : i.centre < i.high)
    (narrow : g.numerator < (i.high - i.low) * g.denominator) (tie : Tie) :
    (i.pick? tie g).isSome = true := by
  have neighbour := contains_neighbour positive fine below above narrow
  unfold pick?
  simp only
  split
  · rename_i noLower noUpper
    rw [noLower,noUpper] at neighbour
    simp at neighbour
  · rfl
  · rfl
  · split
    · rfl
    · split
      · rfl
      · split <;> rfl

/-! ### The grid of seventeen digits -/

theorem units_pos (nonzero : x.isZero = false) : 0 < x.units :=
  Nat.mul_pos (significand_pos nonzero) (Nat.pow_pos (by decide))

theorem interval_centre (nonzero : x.isZero = false) :
    x.interval.low < x.interval.centre ∧ x.interval.centre < x.interval.high := by
  have positive := significand_pos nonzero
  have step : 0 < 2 ^ x.shift := by positivity
  have least := Nat.mul_le_mul_right (2 ^ x.shift) positive
  unfold interval units
  simp only [Nat.pow_eq]
  constructor
  · split <;> omega
  · omega

theorem interval_wide (nonzero : x.isZero = false) :
    4 * x.units < 10 ^ 16 * (x.interval.high - x.interval.low) := by
  have positive := significand_pos nonzero
  have small := x.significand_lt
  have step : 0 < 2 ^ x.shift := by positivity
  have least := Nat.mul_le_mul_right (2 ^ x.shift) positive
  have limit : binade = 2 ^ 52 := rfl
  unfold interval units
  simp only [Nat.pow_eq]
  generalize x.significand = m at *
  generalize 2 ^ x.shift = p at *
  split
  · rename_i boundary
    rw [boundary.1,limit] at least ⊢
    omega
  · have most := Nat.mul_lt_mul_of_pos_right small step
    rw [limit] at most
    omega

/-- A number has as many digits as its leading digit asks for. -/
theorem pow_length_le {n : Nat} (positive : 0 < n) : 10 ^ ((Nat.toDigits 10 n).length - 1) ≤ n := by
  by_contra short
  have digits := Nat.length_toDigits_pos (b := 10) (n := n)
  by_cases single : (Nat.toDigits 10 n).length - 1 = 0
  · rw [single] at short
    omega
  · have fewer := (Nat.length_toDigits_le_iff (b := 10) (n := n) (by decide) (Nat.pos_of_ne_zero single)).mpr
      (Nat.lt_of_not_le short)
    omega

/-- The digits of a quotient are counted after moving it by some places. -/
private theorem leading_le {n d places scale : Nat} {offset : ℤ} (power : scale = Nat.pow 10 places)
    (same : offset = places + 1) (fine : 0 < d) (enough : d ≤ scale) (positive : 0 < n) :
    (d : ℚ) * 10 ^ (((Nat.toDigits 10 (n * scale / d)).length : ℤ) - offset) ≤ n := by
  have whole : d ≤ n * scale := enough.trans (Nat.le_mul_of_pos_left _ positive)
  have leading := pow_length_le (Nat.div_pos whole fine)
  have digits := Nat.length_toDigits_pos (b := 10) (n := n * scale / d)
  rw [Nat.le_div_iff_mul_le fine] at leading
  generalize (Nat.toDigits 10 (n * scale / d)).length = length at leading digits ⊢
  obtain ⟨count,rfl⟩ := Nat.exists_eq_succ_of_ne_zero digits.ne'
  have exponent : (count.succ : ℤ) - offset = (count : ℤ) - (places : ℤ) := by
    rw [same]
    push_cast
    omega
  have cast : (10 : ℚ) ^ count * d ≤ n * 10 ^ places := by
    rw [power,Nat.pow_eq] at leading
    exact_mod_cast leading
  have moved : (0 : ℚ) < 10 ^ places := by positivity
  rw [exponent,zpow_sub₀ (by norm_num),zpow_natCast,zpow_natCast,← mul_div_assoc,div_le_iff₀ moved,mul_comm]
  exact cast

theorem leadingExponent_le (nonzero : x.isZero = false) : (resolution : ℚ) * 10 ^ x.leadingExponent ≤ x.units := by
  refine @leading_le x.units resolution 324 _ 325 ?power rfl ?fine ?enough (units_pos nonzero)
  case power => decide +kernel
  case fine => exact resolution_positive
  case enough => decide +kernel

theorem pick_seventeen (nonzero : x.isZero = false) (tie : Tie) :
    (x.interval.pick? tie (Grid.ofExponent (x.leadingExponent - (16 : Nat)))).isSome = true := by
  obtain ⟨below,above⟩ := interval_centre nonzero
  have fine := Grid.denominator_pos (x.leadingExponent - (16 : Nat))
  have step := Grid.step (x.leadingExponent - (16 : Nat))
  have leading := leadingExponent_le nonzero
  have wide := (Nat.cast_lt (α := ℚ)).mpr (interval_wide nonzero)
  rw [zpow_sub₀ (by norm_num),zpow_natCast] at step
  generalize Grid.ofExponent (x.leadingExponent - (16 : Nat)) = g at fine step ⊢
  have denominator : (0 : ℚ) < g.denominator := by exact_mod_cast fine
  have positive : 0 < g.numerator := by
    have quarters : 0 < (g.numerator : ℚ) / g.denominator := by
      rw [step]
      exact mul_pos (by linarith [resolution_pos]) (by positivity)
    exact_mod_cast (div_pos_iff_of_pos_right denominator).mp quarters
  refine Interval.pick_isSome positive fine below above ?_ tie
  have narrow : (g.numerator : ℚ) / g.denominator < ((x.interval.high - x.interval.low : Nat) : ℚ) := by
    rw [step]
    rw [Nat.cast_mul,Nat.cast_mul,Nat.cast_pow,Nat.cast_ofNat,Nat.cast_ofNat] at wide
    calc 4 * (resolution : ℚ) * (10 ^ x.leadingExponent / 10 ^ 16)
        = 4 * ((resolution : ℚ) * 10 ^ x.leadingExponent) / 10 ^ 16 := by ring
      _ ≤ 4 * (x.units : ℚ) / 10 ^ 16 := by gcongr
      _ < ((x.interval.high - x.interval.low : Nat) : ℚ) := by
        rw [div_lt_iff₀ (by norm_num)]
        linarith
  rw [div_lt_iff₀ denominator] at narrow
  exact_mod_cast narrow

theorem shortest_includes (nonzero : x.isZero = false) (tie : Tie) :
    x.interval.Includes (4 * resolution * (x.shortest tie).value) := by
  unfold shortest
  simp only
  rw [Decimal.value_normalizeWithin]
  cases found : (List.range 17).findSome? fun (fewer : Nat) =>
      (x.interval.pick? tie (Grid.ofExponent (x.leadingExponent - fewer))).map fun count =>
        Decimal.mk count (x.leadingExponent - fewer) with
  | none =>
    -- The last grid that was tried has seventeen digits.
    have last := List.findSome?_eq_none_iff.mp found 16 (by simp)
    have some := pick_seventeen nonzero tie
    rw [Option.map_eq_none_iff.mp last] at some
    cases some
  | some d =>
    obtain ⟨fewer,-,picked⟩ := List.exists_of_findSome?_eq_some found
    obtain ⟨count,inside,rfl⟩ := Option.map_eq_some_iff.mp picked
    exact Interval.contains_ofExponent.mp (Interval.contains_of_pick inside)

end Double
end SpatialFilter
