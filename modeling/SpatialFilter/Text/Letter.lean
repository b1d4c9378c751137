/-! Letters and blanks of the filter language. Its classes are ASCII classes, and so is its case
folding: `Char.isAlpha`, `Char.isDigit` and `Char.toUpper` know no other characters. -/
namespace SpatialFilter

def isBlank (c : Char) : Bool := c = ' ' || c = '\t' || c = '\r' || c = '\n'

def skipBlanks (cs : List Char) : List Char := cs.dropWhile isBlank

def upper (cs : List Char) : List Char := cs.map Char.toUpper

def sameLetters (left right : List Char) : Bool := upper left == upper right

end SpatialFilter
