import SpatialFilter.Number.Numeral
import SpatialFilter.Number.Shortest

/-! How a finite binary64 value is laid out as a token: positionally with a point, or with an
exponent when its leading digit stands too far from the point. -/
namespace SpatialFilter

/-- The decisions of one written format. -/
structure Layout where
  /-- Positional notation starts at this exponent of the leading digit. -/
  firstPositional : Int
  /-- Positional notation ends before this exponent of the leading digit. -/
  endPositional : Int
  /-- The mark in front of an exponent that is not negative. -/
  exponentMark : ExponentSign
  tie : Tie

namespace Layout

private def zeros (n : Nat) : List Char := List.replicate n '0'

/-- Digits `d₀d₁…` with the point behind the digit of exponent zero. -/
def positional (negative : Bool) (digits : List Char) (leading : Int) : Numeral :=
  match leading with
  | .ofNat e =>
    let whole := digits.take (e + 1)
    let rest := digits.drop (e + 1)
    ⟨negative,whole ++ zeros (e + 1 - whole.length),
      some (if rest.isEmpty then ['0'] else rest),none⟩
  | .negSucc e => ⟨negative,['0'],some (zeros e ++ digits),none⟩

def exponential (layout : Layout) (negative : Bool) (digits : List Char) (leading : Int) : Numeral :=
  let sign := if leading < 0 then ExponentSign.minus else layout.exponentMark
  let rest := digits.drop 1
  ⟨negative,digits.take 1,if rest.isEmpty then none else some rest,
    some (sign,Nat.toDigits 10 leading.natAbs)⟩

def numeral (layout : Layout) (x : Double) : Numeral :=
  if x.isZero then ⟨x.isNegative,['0'],some ['0'],none⟩
  else
    let decimal := x.shortest layout.tie
    let digits := Nat.toDigits 10 decimal.coefficient
    let leading := decimal.exponent + (digits.length - 1 : Nat)
    if layout.firstPositional ≤ leading ∧ leading < layout.endPositional then
      positional x.isNegative digits leading
    else layout.exponential x.isNegative digits leading

end Layout
end SpatialFilter
