import SpatialFilter.Number.Layout

/-! Ordinates and distances: numbers that remember whether they were written as integers. -/
namespace SpatialFilter

/-- A number keeps the form it was written in: an integer of 64 bits, or a binary64 value. -/
inductive Number where
  | int (value : Int64)
  | float (value : Double)
deriving DecidableEq

namespace Number

def isFinite : Number → Bool
  | .int _ => true
  | .float x => x.isFinite

def toDouble : Number → Double
  | .int i => Double.ofInt i.toInt
  | .float x => x

def ofInt? (i : Int) : Option Number :=
  if Int64.minValue.toInt ≤ i ∧ i ≤ Int64.maxValue.toInt then some (.int (Int64.ofInt i)) else none

def signed (negative : Bool) (magnitude : Nat) : Int :=
  if negative then -(magnitude : Int) else magnitude

/-- A token without point and exponent is an integer if it fits; all others are binary64 values. -/
def ofNumeral (n : Numeral) : Number :=
  let float := Number.float (Double.ofDecimal n.negative n.coefficient n.scale)
  if n.isInteger then (ofInt? (signed n.negative n.coefficient)).getD float else float

/-- In SQL and WKT a float always shows that it is one: by a point or by an exponent. -/
def sqlLayout : Layout := ⟨-4,16,.unmarked,.up⟩

def sqlNumeral : Number → Numeral
  | .int i => Numeral.ofInt i.toInt
  | .float x => sqlLayout.numeral x

def unboundedText (x : Double) : List Char :=
  if x.isNaN then ['N','a','N']
  else if x.isNegative then ['-','i','n','f'] else ['i','n','f']

def sqlText (n : Number) : List Char :=
  match n with
  | .int _ => n.sqlNumeral.text
  | .float x => if x.isFinite then n.sqlNumeral.text else unboundedText x

instance : ToString Number where
  toString n := String.ofList n.sqlText

end Number
end SpatialFilter
