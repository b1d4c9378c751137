import SpatialFilter.Number.Double

/-! The shortest decimal that reads back as a given finite magnitude. Of the numbers with the
fewest digits that round to the magnitude, the nearest is chosen; only how an exact tie goes is
left to the format. -/
namespace SpatialFilter

/-- Which neighbour a value halfway between two decimals takes. -/
inductive Tie where
  | up | toEven
deriving DecidableEq

structure Decimal where
  coefficient : Nat
  exponent : Int
deriving DecidableEq

namespace Decimal

def normalizeWithin : Nat → Decimal → Decimal
  | 0,d => d
  | limit + 1,d =>
    if d.coefficient ≠ 0 ∧ d.coefficient % 10 = 0 then
      normalizeWithin limit ⟨d.coefficient / 10,d.exponent + 1⟩
    else d

end Decimal

namespace Double

/-- All reals between the two ends round to one magnitude; the ends do iff `closed`. Ends and
centre are given in quarters of a unit, so that all three are whole. -/
structure Interval where
  low : Nat
  centre : Nat
  high : Nat
  closed : Bool

def interval (x : Double) : Interval :=
  let step := Nat.pow 2 x.shift
  let centre := 4 * x.units
  let below := if x.significand = binade ∧ 0 < x.shift then step else 2 * step
  ⟨centre - below,centre,centre + 2 * step,x.significand % 2 = 0⟩

/-- The exponent of the leading digit. Multiplied by `10 ^ 324`, the least positive magnitude
exceeds one, so the digits of the whole part can be counted. -/
def leadingExponent (x : Double) : Int :=
  (Nat.toDigits 10 (x.units * Nat.pow 10 324 / resolution)).length - 325

structure Grid where
  numerator : Nat
  denominator : Nat

def Grid.ofExponent : Int → Grid
  | .ofNat e => ⟨Nat.pow 10 e * (4 * resolution),1⟩
  | .negSucc e => ⟨4 * resolution,Nat.pow 10 (e + 1)⟩

def Interval.contains (i : Interval) (g : Grid) (count : Nat) : Bool :=
  let point := count * g.numerator
  if i.closed then decide (i.low * g.denominator ≤ point ∧ point ≤ i.high * g.denominator)
  else decide (i.low * g.denominator < point ∧ point < i.high * g.denominator)

def Interval.pick? (i : Interval) (tie : Tie) (g : Grid) : Option Nat :=
  let scaled := i.centre * g.denominator
  let lower := scaled / g.numerator
  let upper := lower + 1
  match i.contains g lower,i.contains g upper with
  | false,false => none
  | true,false => some lower
  | false,true => some upper
  | true,true =>
    let doubled := 2 * (scaled % g.numerator)
    if doubled < g.numerator then some lower
    else if g.numerator < doubled then some upper
    else match tie with
      | .up => some upper
      | .toEven => some (lower + lower % 2)

/-- The shortest decimal of a positive finite magnitude; seventeen digits always suffice. -/
def shortest (tie : Tie) (x : Double) : Decimal :=
  let i := x.interval
  let leading := x.leadingExponent
  let found := (List.range 17).findSome? fun (fewer : Nat) =>
    let exponent := leading - fewer
    (i.pick? tie (Grid.ofExponent exponent)).map fun count => Decimal.mk count exponent
  (found.getD ⟨0,0⟩).normalizeWithin 17

end Double
end SpatialFilter
