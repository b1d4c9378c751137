import SpatialFilter.Json
import SpatialFilter.Number

/-! Numbers in JSON texts. Reading is quick rather than exact: the digits that fit in a 64-bit word
are taken as one integer, which is rounded, and then scaled by a power of ten, which is rounded
again. -/
namespace SpatialFilter
namespace Json

/-- In JSON a float always shows that it is one: by a point or by an exponent. -/
def layout : Layout := ⟨-5,16,.plus,.toEven⟩

def ofNumber : Number → Json
  | .int i => .number (Numeral.ofInt i.toInt)
  | .float x => if x.isFinite then .number (layout.numeral x) else .null

def significandLimit : Nat := Nat.pow 2 64 - 1

def accumulate (significand : Nat) : List Char → Nat × List Char
  | [] => (significand,[])
  | digit :: rest =>
    let next := 10 * significand + (digit.toNat - 48)
    if significandLimit < next then (significand,digit :: rest) else accumulate next rest

/-- An integer within 64 bits keeps its form. Beyond them, and for `-0`, it is a float. -/
def integerValue (negative : Bool) (significand : Nat) : Number :=
  let float := Number.float (if negative then (Double.ofNat significand).negate else Double.ofNat significand)
  if negative && significand == 0 then float
  else (Number.ofInt? (Number.signed negative significand)).getD float

def scaleStep : Nat := 308

def scaleDown (x : Double) (exponent : Nat) : Double :=
  if exponent ≤ scaleStep then x.divMagnitude (Double.powerOfTen exponent)
  else if x.isZero then x
  else scaleDown (x.divMagnitude (Double.powerOfTen scaleStep)) (exponent - scaleStep)
termination_by exponent
decreasing_by simp [scaleStep] at *; omega

def scaleUp? (x : Double) (exponent : Nat) : Option Double :=
  if exponent ≤ scaleStep then
    let product := x.mulMagnitude (Double.powerOfTen exponent)
    if product.isFinite then some product else none
  else if x.isZero then some x
  else none

def scale? (x : Double) : Int → Option Double
  | .ofNat e => scaleUp? x e
  | .negSucc e => some (scaleDown x (e + 1))

/-- Exponents beyond 32 bits are not used as numbers: they make zero, or exceed every bound. -/
def exponentLimit : Nat := Nat.pow 2 31 - 1

def magnitude? (significand : Nat) (start : Int) :
    Option (ExponentSign × List Char) → Option Double
  | none => scale? (Double.ofNat significand) start
  | some (sign,digits) =>
    let exponent := Numeral.digitsValue digits
    if exponentLimit < exponent then
      if significand ≠ 0 ∧ sign ≠ .minus then none else some (Double.ofNat 0)
    else
      scale? (Double.ofNat significand) (if sign = .minus then start - exponent else start + exponent)

/-- The number that a token stands for; there is none beyond the finite range. -/
def numberValue? (token : Numeral) : Option Number :=
  let (whole,wholeLeft) := accumulate 0 token.whole
  if token.isInteger && wholeLeft.isEmpty then some (integerValue token.negative whole)
  else
    let fraction := token.fraction.getD []
    let (significand,fractionLeft) := accumulate whole fraction
    let start := (wholeLeft.length : Int) - ((fraction.length - fractionLeft.length : Nat) : Int)
    (magnitude? significand start token.exponent).map fun x =>
      .float (if token.negative then x.negate else x)

def toNumber? : Json → Option Number
  | .number token => numberValue? token
  | _ => none

end Json
end SpatialFilter
