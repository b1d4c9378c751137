import SpatialFilter.Json.Number
import SpatialFilter.Proofs.Json.Text
import SpatialFilter.Proofs.Number.Layout

/-! Numbers in JSON texts. Their tokens have no needless zeros, so every number stands in its text,
and a text stands for one number only, those that are not finite apart. Integers are read exactly. -/
namespace SpatialFilter

/-! ### Tokens without needless zeros -/

theorem toDigits_head {n : Nat} (positive : n ≠ 0) : (Nat.toDigits 10 n).head? ≠ some '0' := by
  induction n using Nat.strong_induction_on with
  | _ n ih =>
    rw [Nat.toDigits_eq_if (by decide)]
    split
    · rename_i small
      have digits : ∀ m < 10, m ≠ 0 → [m.digitChar].head? ≠ some '0' := by decide
      exact digits n small positive
    · have shorter := ih (n / 10) (by omega) (by omega)
      rwa [List.head?_append_of_ne_nil _ Nat.toDigits_ne_nil]

theorem Double.shortest_positive {x : Double} (nonzero : x.isZero = false) (tie : Tie) :
    (x.shortest tie).coefficient ≠ 0 := by
  intro none
  have low : (2 : ℚ) ≤ x.interval.low := by exact_mod_cast interval_low nonzero
  have inside := (shortest_includes nonzero tie).weak.1
  simp only [Decimal.value,none,Nat.cast_zero,zero_mul,mul_zero] at inside
  linarith

namespace Json

theorem plain_ofInt (i : Int) : Plain (Numeral.ofInt i) where
  wellFormed := ⟨allDigits_toDigits _,by simp [Numeral.ofInt],by simp [Numeral.ofInt]⟩
  unpadded zero := by
    by_cases none : i.natAbs = 0
    · simp [Numeral.ofInt,none]
    · exact absurd zero (toDigits_head none)

private theorem positional_unpadded (negative : Bool) {digits : List Char} (some : digits ≠ [])
    (first : digits.head? ≠ .some '0') (leading : ℤ)
    (zero : (Layout.positional negative digits leading).whole.head? = .some '0') :
    (Layout.positional negative digits leading).whole.length ≤ 1 := by
  obtain ⟨c,rest,rfl⟩ := List.exists_cons_of_ne_nil some
  cases leading with
  | ofNat e => exact absurd zero first
  | negSucc e => rfl

theorem plain_numeral (layout : Layout) (mark : layout.exponentMark ≠ .minus) (x : Double) :
    Plain (layout.numeral x) := by
  cases zero : x.isZero with
  | true =>
    unfold Layout.numeral
    rw [if_pos zero]
    refine ⟨⟨⟨by simp,by simp⟩,?_,by simp⟩,fun _ => by simp⟩
    intro digits some
    cases some
    exact ⟨by simp,by simp⟩
  | false =>
    refine ⟨(Layout.numeral_isDecimal layout mark zero).wellFormed,?_⟩
    have first := toDigits_head (Double.shortest_positive zero layout.tie)
    obtain ⟨leading,-,positional | exponential⟩ := Layout.numeral_forms layout zero
    · rw [positional]
      exact positional_unpadded _ Nat.toDigits_ne_nil first leading
    · rw [exponential]
      intro _
      simp [Layout.exponential]

/-- In JSON, too, an exponent's mark says its sign. -/
theorem layout_mark : layout.exponentMark ≠ .minus := by
  decide

theorem legible_ofNumber (n : Number) : Legible (ofNumber n) := by
  cases n with
  | int i => exact .number (plain_ofInt i.toInt)
  | float x =>
    by_cases finite : x.isFinite = true
    · rw [ofNumber,if_pos finite]
      exact .number (plain_numeral layout layout_mark x)
    · rw [ofNumber,if_neg finite]
      exact .null

end Json

/-! ### One text for each number -/

/-- A number up to the differences between those that are not finite. -/
def Number.blurred (n : Number) : Number := if n.isFinite then n else .float Double.nan

theorem Number.finite_or_infinite (n : Number) :
    n.isFinite = true ∨ ∃ x, n = .float x ∧ x.isFinite = false := by
  cases finite : n.isFinite with
  | true => exact .inl rfl
  | false =>
    cases n with
    | int i => cases finite
    | float x => exact .inr ⟨x,rfl,finite⟩

namespace Json
open Number

theorem ofNumeral_layout {x : Double} (finite : x.isFinite = true) : ofNumeral (layout.numeral x) = .float x := by
  cases zero : x.isZero with
  | true => exact ofNumeral_zero layout zero
  | false =>
    have decimal := Layout.numeral_isDecimal layout layout_mark zero
    exact ofNumeral_decimal finite zero decimal (Double.shortest_includes zero layout.tie)

/-- A number that is finite can be told from its token. -/
theorem token_of_finite {n : Number} (finite : n.isFinite = true) :
    ∃ token, ofNumber n = .number token ∧ ofNumeral token = n := by
  cases n with
  | int i => exact ⟨_,rfl,ofNumeral_ofInt i⟩
  | float x => exact ⟨_,if_pos finite,ofNumeral_layout finite⟩

theorem ofNumber_infinite {x : Double} (infinite : x.isFinite = false) : ofNumber (.float x) = .null := by
  simp [ofNumber,infinite]

theorem ofNumber_blurred (n : Number) : ofNumber n.blurred = ofNumber n := by
  rcases n.finite_or_infinite with finite | ⟨x,rfl,infinite⟩
  · rw [blurred,if_pos finite]
  · rw [blurred,if_neg (by simp [isFinite,infinite]),ofNumber_infinite infinite]
    rfl

/-- The number of a text, read without the losses of the usual reader. -/
def exactNumber : Json → Number
  | .number token => ofNumeral token
  | _ => .float Double.nan

theorem exactNumber_ofNumber (n : Number) : exactNumber (ofNumber n) = n.blurred := by
  rcases n.finite_or_infinite with finite | ⟨x,rfl,infinite⟩
  · obtain ⟨token,text,value⟩ := token_of_finite finite
    rw [text,exactNumber,value,blurred,if_pos finite]
  · rw [ofNumber_infinite infinite,blurred,if_neg (by simp [isFinite,infinite])]
    rfl

theorem ofNumber_eq_iff (n m : Number) : ofNumber n = ofNumber m ↔ n.blurred = m.blurred := by
  constructor
  · intro same
    rw [← exactNumber_ofNumber n,same,exactNumber_ofNumber]
  · intro same
    rw [← ofNumber_blurred n,same,ofNumber_blurred]

/-! ### Reading integers -/

theorem accumulate_eq {digits : List Char} {significand : Nat}
    (fits : Nat.ofDigitChars 10 digits significand ≤ significandLimit) :
    accumulate significand digits = (Nat.ofDigitChars 10 digits significand,[]) := by
  induction digits generalizing significand with
  | nil => rfl
  | cons digit digits ih =>
    rw [Nat.ofDigitChars_cons] at fits ⊢
    have next : 10 * significand + (digit.toNat - 48) ≤ significandLimit := by
      rw [Nat.ofDigitChars_eq_ofDigitChars_zero] at fits
      have grows := Nat.le_mul_of_pos_left (10 * significand + (digit.toNat - 48))
        (Nat.pow_pos (n := digits.length) (show 0 < 10 by decide))
      exact grows.trans ((Nat.le_add_right _ _).trans fits)
    rw [accumulate,if_neg (Nat.not_lt_of_le next)]
    exact ih fits

theorem numberValue_ofInt (i : Int64) : numberValue? (Numeral.ofInt i.toInt) = some (.int i) := by
  have fits : i.toInt.natAbs ≤ significandLimit := by
    have low := i.minValue_le_toInt
    have high := i.toInt_le
    have least : Int64.minValue.toInt = -(2 ^ 63) := by decide
    have most : Int64.maxValue.toInt = 2 ^ 63 - 1 := by decide
    have limit : significandLimit = 2 ^ 64 - 1 := by decide
    omega
  have digits : accumulate 0 (Nat.toDigits 10 i.toInt.natAbs) = (i.toInt.natAbs,[]) := by
    rw [accumulate_eq (by rwa [Nat.ofDigitChars_ten_toDigits]),Nat.ofDigitChars_ten_toDigits]
  have notNegativeZero : (decide (i.toInt < 0) && i.toInt.natAbs == 0) = false := by
    simp
    omega
  unfold numberValue?
  simp only [Numeral.ofInt,digits]
  change some (integerValue (decide (i.toInt < 0)) i.toInt.natAbs) = _
  unfold integerValue
  simp only [notNegativeZero,signed_natAbs,ofInt?_toInt]
  rfl

end Json

/-! ### Texts of numbers -/

namespace Number

/-- The text of a number in JSON. -/
def jsonText (n : Number) : String := String.ofList (Json.ofNumber n).write

/-- The number that a JSON text stands for. -/
def ofJsonText? (text : String) : Option Number := do (← Json.ofText? text).toNumber?

theorem ofJsonText_toNumber (n : Number) : ofJsonText? n.jsonText = (Json.ofNumber n).toNumber? := by
  unfold ofJsonText? jsonText
  rw [Json.ofText?_write (Json.legible_ofNumber n)]
  rfl

theorem ofJsonText_int (i : Int64) : ofJsonText? (jsonText (.int i)) = some (.int i) := by
  rw [ofJsonText_toNumber]
  exact Json.numberValue_ofInt i

end Number
end SpatialFilter
