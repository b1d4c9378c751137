import SpatialFilter.Proofs.Number.Layout
import SpatialFilter.Proofs.Number.Nearest
import SpatialFilter.Proofs.Number.Text

/-! Values of tokens. A token is read as the integer that it denotes if it fits, and else as the nearest binary64 value.
As a binary64 value it is the nearest one on either way, so the order of tokens is kept. -/
namespace SpatialFilter

namespace Numeral

/-- What a token denotes: whole part and fraction, times a power of ten. -/
def value (n : Numeral) : ℚ :=
  let fraction := n.fraction.getD []
  Double.withSign n.negative ((digitsValue n.whole + digitsValue fraction / 10 ^ fraction.length) * 10 ^ n.writtenExponent)

theorem digitsValue_append (whole fraction : List Char) :
    digitsValue (whole ++ fraction) = digitsValue whole * 10 ^ fraction.length + digitsValue fraction := by
  rw [digitsValue_eq,Nat.ofDigitChars_append,Nat.ofDigitChars_eq_ofDigitChars_zero,mul_comm]
  rfl

theorem value_eq (n : Numeral) : n.value = Double.withSign n.negative (n.coefficient * 10 ^ n.scale) := by
  have power : (10 : ℚ) ^ (n.fraction.getD []).length ≠ 0 := by positivity
  rw [value,coefficient,digitsValue_append,scale,zpow_sub₀ (by norm_num),zpow_natCast]
  push_cast
  congr 1
  field_simp

theorem value_of_isInteger {n : Numeral} (integer : n.isInteger = true) :
    n.value = Number.signed n.negative n.coefficient := by
  obtain ⟨negative,whole,fraction,exponent⟩ := n
  obtain ⟨rfl,rfl⟩ : fraction = none ∧ exponent = none := by simpa [isInteger] using integer
  rw [value_eq]
  cases negative <;> simp [Double.withSign,Number.signed,scale,writtenExponent]

theorem value_ofInt (i : ℤ) : (Numeral.ofInt i).value = i := by
  have integer : (Numeral.ofInt i).isInteger = true := rfl
  have digits : (Numeral.ofInt i).coefficient = i.natAbs := by simp [coefficient,Numeral.ofInt,digitsValue_toDigits]
  rw [value_of_isInteger integer,digits]
  exact congrArg _ (Number.signed_natAbs i)

end Numeral

namespace Number
open Numeral
variable {n : Numeral}

def Fits (q : ℚ) : Prop := -2 ^ 63 ≤ q ∧ q ≤ 2 ^ 63 - 1

theorem ofInt?_of_fits {i : ℤ} (fits : Fits i) : ∃ j : Int64, ofInt? i = some (.int j) ∧ j.toInt = i := by
  have least : -2 ^ 63 ≤ i := by exact_mod_cast fits.1
  have most : i ≤ 2 ^ 63 - 1 := by exact_mod_cast fits.2
  exact ⟨Int64.ofInt i,if_pos ⟨least,most⟩,Int64.toInt_ofInt_of_le least (Int.lt_of_le_sub_one most)⟩

theorem ofInt?_of_not_fits {i : ℤ} (large : ¬ Fits i) : ofInt? i = none := by
  refine if_neg fun within => large ⟨?_,?_⟩
  · exact_mod_cast within.1
  · exact_mod_cast within.2

theorem ofNumeral_int (integer : n.isInteger = true) (fits : Fits n.value) :
    ∃ i : Int64, ofNumeral n = .int i ∧ (i.toInt : ℚ) = n.value := by
  rw [value_of_isInteger integer] at fits ⊢
  obtain ⟨i,read,same⟩ := ofInt?_of_fits fits
  refine ⟨i,?_,congrArg _ same⟩
  rw [ofNumeral,integer,if_pos rfl,read]
  rfl

theorem ofNumeral_float (other : ¬ (n.isInteger = true ∧ Fits n.value)) :
    ofNumeral n = .float (Double.ofDecimal n.negative n.coefficient n.scale) := by
  rw [ofNumeral]
  split
  · rename_i integer
    rw [value_of_isInteger integer] at other
    rw [ofInt?_of_not_fits fun fits => other ⟨integer,fits⟩]
    rfl
  · rfl

/-- What a token is read as: the integer that it denotes, if it looks like one and fits, and else the nearest
binary64 value. -/
structure Reads (text : List Char) (n : Numeral) (number : Number) : Prop where
  isInt : (∃ i, number = .int i) ↔ (∀ c ∈ text, c ≠ '.' ∧ c ≠ 'e' ∧ c ≠ 'E') ∧ Fits n.value
  exact : ∀ i, number = .int i → (i.toInt : ℚ) = n.value ∧ ∃ m : Numeral, m.Spells number.sqlText ∧ m.value = n.value
  float : ∀ x, number = .float x → x.isNegative = n.negative ∧ Double.Nearest n.value x
  double : Double.Nearest n.value number.toDouble

theorem isInteger_iff {text : List Char} (spells : n.Spells text) :
    n.isInteger = true ↔ ∀ c ∈ text, c ≠ '.' ∧ c ≠ 'e' ∧ c ≠ 'E' := by
  have marks := any_marksFloat spells
  rw [← Bool.not_eq_false',← marks,List.any_eq_false]
  simp [marksFloat,and_assoc]

theorem toDouble_nearest (n : Numeral) : Double.Nearest n.value (ofNumeral n).toDouble := by
  by_cases whole : n.isInteger = true ∧ Fits n.value
  · obtain ⟨i,read,same⟩ := ofNumeral_int whole.1 whole.2
    rw [read,← same]
    exact Double.ofInt_nearest i.toInt
  · rw [ofNumeral_float whole,value_eq]
    exact Double.ofDecimal_nearest _ _ _

theorem reads_ofNumeral {text : List Char} (spells : n.Spells text) : Reads text n (ofNumeral n) := by
  by_cases whole : n.isInteger = true ∧ Fits n.value
  · obtain ⟨i,read,same⟩ := ofNumeral_int whole.1 whole.2
    have double := toDouble_nearest n
    rw [read] at double ⊢
    refine ⟨⟨fun _ => ⟨(isInteger_iff spells).mp whole.1,whole.2⟩,fun _ => ⟨i,rfl⟩⟩,?_,fun x other => ?_,double⟩
    · rintro j ⟨⟩
      exact ⟨same,_,sqlText_spells rfl,(value_ofInt _).trans same⟩
    · cases other
  · have read := ofNumeral_float whole
    have double := toDouble_nearest n
    rw [read] at double ⊢
    refine ⟨⟨fun int => ?_,fun int => ?_⟩,fun i other => ?_,?_,double⟩
    · obtain ⟨i,other⟩ := int
      cases other
    · exact absurd ⟨(isInteger_iff spells).mpr int.1,int.2⟩ whole
    · cases other
    · rintro x ⟨⟩
      exact ⟨Double.isNegative_ofDecimal _ _ _,double⟩

/-- Every token is a number. The number as a binary64 value is the only one that is nearest to what the token denotes,
whether or not it is an integer, and a token that denotes more has no lesser value. -/
theorem ofToken_value {text : List Char} (spells : n.Spells text) :
    Numeral.read text = some (n,[]) ∧ ofToken? text = some (ofNumeral n) ∧ Reads text n (ofNumeral n) ∧
      (ofNumeral n).toDouble.isNaN = false ∧
      (∀ x, Double.Nearest n.value x → x.extended = (ofNumeral n).toDouble.extended) ∧
      ∀ m other number, Spells m other → ofToken? other = some number → n.value ≤ m.value →
        (ofNumeral n).toDouble.extended ≤ number.toDouble.extended := by
  have nearest := toDouble_nearest n
  have whole : Numeral.read (text ++ []) = some (n,[]) := spells.read (by simp [Boundary])
  rw [List.append_nil] at whole
  refine ⟨whole,ofToken?_of_spells spells,reads_ofNumeral spells,nearest.isNaN,fun x other => other.unique nearest,?_⟩
  intro m other number also read le
  rw [ofToken?_of_spells also] at read
  cases read
  exact nearest.mono (toDouble_nearest m) le

def greatest : Numeral := ⟨false,"9223372036854775807".toList,none,none⟩

def beyond : Numeral := ⟨false,"9223372036854775808".toList,none,none⟩

/-- The greatest integer and its successor, which is none. As binary64 values they are the same. -/
theorem ofToken_value_greatest :
    Spells greatest greatest.whole ∧ Spells beyond beyond.whole ∧ greatest.value ≤ beyond.value ∧
      ofToken? greatest.whole = some (.int Int64.maxValue) ∧ ofToken? beyond.whole = some (.float ⟨4890909195324358656⟩) ∧
      (ofNumeral greatest).toDouble.extended ≤ Double.extended ⟨4890909195324358656⟩ ∧
      Double.Nearest beyond.value ⟨4890909195324358656⟩ := by
  have first : Spells greatest greatest.whole := ⟨⟨⟨by decide,List.all_eq_true.mp rfl⟩,nofun,nofun⟩,'e',.inl rfl,by decide⟩
  have second : Spells beyond beyond.whole := ⟨⟨⟨by decide,List.all_eq_true.mp rfl⟩,nofun,nofun⟩,'e',.inl rfl,by decide⟩
  have le : greatest.value ≤ beyond.value := by
    rw [value_of_isInteger rfl,value_of_isInteger rfl]
    exact_mod_cast (by decide : signed false (coefficient greatest) ≤ signed false (coefficient beyond))
  have int : ofNumeral greatest = .int Int64.maxValue := by decide +kernel
  have float : ofNumeral beyond = .float ⟨4890909195324358656⟩ := by decide +kernel
  obtain ⟨-,read,-,-,-,mono⟩ := ofToken_value first
  obtain ⟨-,other,reads,-⟩ := ofToken_value second
  rw [float] at other reads
  exact ⟨first,second,le,int ▸ read,other,mono _ _ _ second other le,reads.double⟩

end Number
end SpatialFilter
