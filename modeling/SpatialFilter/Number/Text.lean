import SpatialFilter.Number

/-! Numbers given alone as a text. Here a sign of either kind, a point at either end of the digits,
and the names of the values that are not finite are allowed as well. -/
namespace SpatialFilter.Number

def special? (negative : Bool) (cs : List Char) : Option Number :=
  if sameLetters cs ['I','N','F'] || sameLetters cs "INFINITY".toList then
    some (.float (Double.infinity negative))
  else if sameLetters cs ['N','A','N'] then some (.float Double.nan)
  else none

def signOf : List Char → Bool × List Char
  | '+' :: rest => (false,rest)
  | '-' :: rest => (true,rest)
  | rest => (false,rest)

def fractionOf : List Char → Option (List Char) × List Char
  | '.' :: rest => (some (rest.takeWhile Char.isDigit),rest.dropWhile Char.isDigit)
  | rest => (none,rest)

def ofText? (text : String) : Option Number :=
  let (negative,cs) := signOf text.toList
  let whole := cs.takeWhile Char.isDigit
  let (fraction,rest) := fractionOf (cs.dropWhile Char.isDigit)
  let (exponent,rest) := Numeral.readExponent rest
  if whole.isEmpty && (fraction.getD []).isEmpty then special? negative cs
  else if rest.isEmpty then some (ofNumeral ⟨negative,whole,fraction,exponent⟩)
  else none

end SpatialFilter.Number
