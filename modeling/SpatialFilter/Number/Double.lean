/-! Binary64 values as bit patterns, with exact arithmetic on their magnitudes.
A finite magnitude is a multiple of the least positive value, so every operation here is one
natural-number quotient rounded once, half to even. -/
namespace SpatialFilter

/-- A binary64 value: a sign bit, eleven exponent bits and fifty-two fraction bits. -/
structure Double where
  bits : UInt64
deriving DecidableEq, Inhabited

namespace Double

def binade : Nat := Nat.pow 2 52

/-- The magnitude bits of the infinities; larger magnitudes are not numbers. -/
def infinite : Nat := 2047 * binade

def signBit : Nat := Nat.pow 2 63

/-- Every finite magnitude is a multiple of one over this number. -/
def resolution : Nat := Nat.pow 2 1074

def ofMagnitude (negative : Bool) (magnitude : Nat) : Double :=
  ⟨UInt64.ofNat (if negative then signBit + magnitude else magnitude)⟩

def isNegative (x : Double) : Bool := decide (signBit ≤ x.bits.toNat)

def magnitude (x : Double) : Nat := x.bits.toNat % signBit

def isFinite (x : Double) : Bool := decide (x.magnitude < infinite)

def isNaN (x : Double) : Bool := decide (infinite < x.magnitude)

def isZero (x : Double) : Bool := decide (x.magnitude = 0)

def shift (x : Double) : Nat := x.magnitude / binade - 1

def significand (x : Double) : Nat := x.magnitude - x.shift * binade

/-- A finite magnitude is `x.units / resolution`. -/
def units (x : Double) : Nat := x.significand * Nat.pow 2 x.shift

def negate (x : Double) : Double := ofMagnitude (!x.isNegative) x.magnitude

def nan : Double := ofMagnitude false (infinite + binade / 2)

def infinity (negative : Bool) : Double := ofMagnitude negative infinite

def roundQuotient (numerator denominator : Nat) : Nat :=
  let quotient := numerator / denominator
  let doubled := 2 * (numerator % denominator)
  if doubled < denominator then quotient
  else if denominator < doubled then quotient + 1
  else quotient + quotient % 2

/-- The magnitude nearest to a quotient. Magnitudes are ordered as their values are, and a
significand that rounds up to the next power of two carries into the exponent by itself. -/
def nearestMagnitude (numerator denominator : Nat) : Nat :=
  let scaled := numerator * resolution
  let shift := (scaled / denominator).log2 - 52
  min (shift * binade + roundQuotient scaled (denominator * Nat.pow 2 shift)) infinite

def ofQuotient (negative : Bool) (numerator denominator : Nat) : Double :=
  ofMagnitude negative (nearestMagnitude numerator denominator)

def ofNat (n : Nat) : Double := ofQuotient false n 1

def ofInt (i : Int) : Double := ofQuotient (decide (i < 0)) i.natAbs 1

def mulMagnitude (x y : Double) : Double :=
  ofQuotient false (x.units * y.units) (resolution * resolution)

def divMagnitude (x y : Double) : Double := ofQuotient false x.units y.units

def powerOfTen (exponent : Nat) : Double := ofNat (Nat.pow 10 exponent)

/-- The value nearest to `coefficient * 10 ^ exponent`. Exponents far outside the finite range
are settled by size alone: above `10 ^ 309` all is infinite, and below `10 ^ -400` all is zero. -/
def ofDecimal (negative : Bool) (coefficient : Nat) (exponent : Int) : Double :=
  if coefficient = 0 then ofMagnitude negative 0
  else if 309 < exponent then infinity negative
  else if exponent + coefficient.log2 < -400 then ofMagnitude negative 0
  else match exponent with
    | .ofNat e => ofQuotient negative (coefficient * Nat.pow 10 e) 1
    | .negSucc e => ofQuotient negative coefficient (Nat.pow 10 (e + 1))

end Double
end SpatialFilter
