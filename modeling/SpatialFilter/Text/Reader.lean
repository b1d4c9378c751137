import SpatialFilter.Text.Letter

/-! Readers take a value from the front of a text and leave the rest. They never look back: what a
refused reader has seen is seen again by the next one. -/
namespace SpatialFilter

abbrev Reader (α : Type) := List Char → Option (α × List Char)

/-- Reads parts until one is refused. A part that consumes nothing counts as refused, which is why
the text bounds the number of parts. -/
def readMany {α : Type} (part : Reader α) (cs : List Char) : List α × List Char :=
  match part cs with
  | none => ([],cs)
  | some (value,rest) =>
    if rest.length < cs.length then
      let (values,last) := readMany part rest
      (value :: values,last)
    else ([],cs)
termination_by cs.length

def readEither {α : Type} (first second : Reader α) : Reader α := fun cs =>
  match first cs with
  | some result => some result
  | none => second cs

def readRun (member : Char → Bool) : Reader (List Char) := fun cs =>
  match cs.takeWhile member with
  | [] => none
  | run => some (run,cs.dropWhile member)

def readMark (mark : Char) (cs : List Char) : Option (List Char) :=
  match skipBlanks cs with
  | [] => none
  | c :: rest => if c = mark then some rest else none

def readKeyword (keyword : List Char) (cs : List Char) : Option (List Char) :=
  if sameLetters (cs.take keyword.length) keyword then some (cs.drop keyword.length) else none

end SpatialFilter
