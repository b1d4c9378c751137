import SpatialFilter.Proofs.Number.Layout
import Mathlib.Computability.RegularExpressions

/-! The pattern of the tokens that finite numbers are written as. -/
namespace SpatialFilter
namespace Numeral
open RegularExpression

def optional (part : RegularExpression Char) : RegularExpression Char := 1 + part

def digit : RegularExpression Char := "0123456789".toList.foldr (fun c others => char c + others) 0

def digits : RegularExpression Char := digit * star digit

/-- The pattern `-?digits(.digits)?(e-?digits)?`. -/
def pattern : RegularExpression Char :=
  optional (char '-') * digits * optional (char '.' * digits) * optional (char 'e' * (optional (char '-') * digits))

variable {part : RegularExpression Char} {cs : List Char}

theorem mem_optional : cs ∈ (optional part).matches' ↔ cs = [] ∨ cs ∈ part.matches' := by
  rw [optional,matches'_add,matches'_epsilon,Language.mem_add,Language.mem_one]

theorem mem_char (c : Char) : [c] ∈ (char c).matches' := rfl

theorem mem_digit {c : Char} (isDigit : c.isDigit = true) : [c] ∈ digit.matches' := by
  have among (others : List Char) (member : c ∈ others) :
      [c] ∈ (others.foldr (fun c others => char c + others) 0).matches' := by
    induction others with
    | nil => cases member
    | cons d others ih =>
      rw [List.foldr_cons,matches'_add,Language.mem_add]
      rcases List.mem_cons.mp member with rfl | inside
      · exact .inl rfl
      · exact .inr (ih inside)
  obtain ⟨least,most⟩ : 48 ≤ c.toNat ∧ c.toNat ≤ 57 := Char.isDigit_iff_toNat.mp isDigit
  have listed : ∀ n < 10, Char.ofNat (48 + n) ∈ "0123456789".toList := by decide
  have member := listed (c.toNat - 48) (by omega)
  rw [Nat.add_sub_cancel' least,Char.ofNat_toNat] at member
  exact among _ member

theorem mem_digits (all : AllDigits cs) : cs ∈ digits.matches' := by
  obtain ⟨c,rest,rfl⟩ := List.exists_cons_of_ne_nil all.nonempty
  have tail : rest ∈ (star digit).matches' := by
    rw [matches'_star,Language.mem_kstar]
    refine ⟨rest.map ([·]),(List.flatMap_singleton' rest).symm,?_⟩
    intro word member
    obtain ⟨d,inside,rfl⟩ := List.mem_map.mp member
    exact mem_digit (all.digits d (by simp [inside]))
  exact Language.append_mem_mul (mem_digit (all.digits c (by simp))) tail

theorem mem_minus (negative : Bool) : (if negative then ['-'] else []) ∈ (optional (char '-')).matches' := by
  rw [mem_optional]
  cases negative
  · exact .inl rfl
  · exact .inr rfl

theorem mem_fraction {fraction : Option (List Char)} (all : ∀ part ∈ fraction, AllDigits part) :
    fractionText fraction ∈ (optional (char '.' * digits)).matches' := by
  rw [mem_optional]
  cases fraction with
  | none => exact .inl rfl
  | some part => exact .inr (Language.append_mem_mul (mem_char '.') (mem_digits (all part rfl)))

theorem mem_exponent {exponent : Option (ExponentSign × List Char)} (all : ∀ part ∈ exponent, AllDigits part.2)
    (mark : ∀ part ∈ exponent, part.1 ≠ .plus) :
    exponentSpelling 'e' exponent ∈ (optional (char 'e' * (optional (char '-') * digits))).matches' := by
  rw [mem_optional]
  cases exponent with
  | none => exact .inl rfl
  | some part =>
    obtain ⟨sign,power⟩ := part
    have signed : ExponentSign.text sign ∈ (optional (char '-')).matches' := by
      cases sign with
      | plus => exact absurd rfl (mark _ rfl)
      | unmarked => exact mem_minus false
      | minus => exact mem_minus true
    exact .inr (Language.append_mem_mul (mem_char 'e') (Language.append_mem_mul signed (mem_digits (all _ rfl))))

theorem WellFormed.mem_pattern {n : Numeral} (wellFormed : n.WellFormed)
    (mark : ∀ part ∈ n.exponent, part.1 ≠ .plus) : n.text ∈ pattern.matches' := by
  have sign := mem_minus n.negative
  have whole := mem_digits wellFormed.whole
  have fraction := mem_fraction wellFormed.fraction
  have exponent := mem_exponent wellFormed.exponent mark
  rw [text_eq_spelling,spelling,← List.append_assoc,← List.append_assoc]
  exact Language.append_mem_mul (Language.append_mem_mul (Language.append_mem_mul sign whole) fraction) exponent

example : pattern.rmatch "-1.5e-8".toList = true ∧ pattern.rmatch "1.e+8".toList = false := by decide

end Numeral

theorem Layout.numeral_mark (layout : Layout) (mark : layout.exponentMark ≠ .plus) (x : Double) :
    ∀ part ∈ (layout.numeral x).exponent, part.1 ≠ .plus := by
  intro part some
  cases zero : x.isZero with
  | true =>
    rw [numeral,if_pos zero] at some
    cases some
  | false =>
    obtain ⟨leading,-,form | form⟩ := layout.numeral_forms zero
    · rw [form,positional_exponent] at some
      cases some
    · rw [form] at some
      cases some
      dsimp only
      split
      · decide
      · exact mark

namespace Number
variable {n : Number}

/-- Exponents that are not negative stand in SQL without a sign. -/
theorem sqlNumeral_mark (n : Number) : ∀ part ∈ n.sqlNumeral.exponent, part.1 ≠ .plus := by
  cases n with
  | int i => simp [sqlNumeral,Numeral.ofInt]
  | float x => exact sqlLayout.numeral_mark (by decide) x

theorem sqlText_mem_pattern (finite : n.isFinite = true) : n.sqlText ∈ Numeral.pattern.matches' := by
  have text : n.sqlText = n.sqlNumeral.text := by
    cases n with
    | int i => rfl
    | float x => exact if_pos finite
  rw [text]
  exact n.sqlNumeral_wellFormed.mem_pattern n.sqlNumeral_mark

end Number
end SpatialFilter
