import SpatialFilter.Text.Reader

/-! Written numbers: the parts of a decimal token, what they denote, and how they are spelled. -/
namespace SpatialFilter

inductive ExponentSign where
  | unmarked | plus | minus
deriving DecidableEq

/-- A decimal token such as `-12.50e+3`, kept part by part. -/
structure Numeral where
  negative : Bool
  whole : List Char
  fraction : Option (List Char)
  exponent : Option (ExponentSign × List Char)
deriving DecidableEq

namespace Numeral

def digitsValue (digits : List Char) : Nat :=
  digits.foldl (fun value digit => 10 * value + (digit.toNat - 48)) 0

def isInteger (n : Numeral) : Bool := n.fraction.isNone && n.exponent.isNone

def coefficient (n : Numeral) : Nat := digitsValue (n.whole ++ n.fraction.getD [])

def writtenExponent (n : Numeral) : Int :=
  match n.exponent with
  | none => 0
  | some (.minus,digits) => -(digitsValue digits : Int)
  | some (_,digits) => digitsValue digits

/-- The token denotes its coefficient times ten to this power. -/
def scale (n : Numeral) : Int := n.writtenExponent - (n.fraction.getD []).length

def ofInt (i : Int) : Numeral :=
  ⟨decide (i < 0),Nat.toDigits 10 i.natAbs,none,none⟩

def ExponentSign.text : ExponentSign → List Char
  | .unmarked => []
  | .plus => ['+']
  | .minus => ['-']

def fractionText : Option (List Char) → List Char
  | none => []
  | some digits => '.' :: digits

def exponentText : Option (ExponentSign × List Char) → List Char
  | none => []
  | some (sign,digits) => 'e' :: ExponentSign.text sign ++ digits

def text (n : Numeral) : List Char :=
  (if n.negative then ['-'] else []) ++ n.whole ++ fractionText n.fraction ++ exponentText n.exponent

/-- A point counts only together with a digit behind it. -/
def readFraction (cs : List Char) : Option (List Char) × List Char :=
  match cs with
  | '.' :: rest =>
    match readRun Char.isDigit rest with
    | some (digits,rest) => (some digits,rest)
    | none => (none,cs)
  | _ => (none,cs)

def readExponentSign : List Char → ExponentSign × List Char
  | '+' :: rest => (.plus,rest)
  | '-' :: rest => (.minus,rest)
  | rest => (.unmarked,rest)

def readExponent (cs : List Char) : Option (ExponentSign × List Char) × List Char :=
  match cs with
  | c :: rest =>
    if c = 'e' || c = 'E' then
      let (sign,digitsOn) := readExponentSign rest
      match readRun Char.isDigit digitsOn with
      | some (digits,rest) => (some (sign,digits),rest)
      | none => (none,cs)
    else (none,cs)
  | [] => (none,[])

def readSign : List Char → Bool × List Char
  | '-' :: rest => (true,rest)
  | rest => (false,rest)

def read : Reader Numeral := fun cs =>
  let (negative,cs) := readSign cs
  match readRun Char.isDigit cs with
  | none => none
  | some (whole,cs) =>
    let (fraction,cs) := readFraction cs
    let (exponent,cs) := readExponent cs
    some (⟨negative,whole,fraction,exponent⟩,cs)

end Numeral
end SpatialFilter
