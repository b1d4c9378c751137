import SpatialFilter.Number.Numeral

/-! The written form of predicates and geometries, before any of its words is given a meaning.
Blanks may stand between the parts of a phrase, never inside a word, a name or a number. -/
namespace SpatialFilter

/-- A geometry as written. A body that does not fit its tag is kept as a mere tagged group. -/
inductive GeometryPhrase where
  | point (ordinates : List Numeral)
  | lineString (positions : List (List Numeral))
  | envelope (lower upper : List Numeral)
  | tagged (tag : List Char)
deriving DecidableEq

inductive Item where
  | geometry (phrase : GeometryPhrase)
  | property (name : List Char)
deriving DecidableEq

structure PredicatePhrase where
  operator : List Char
  items : List Item
  distance : Option Numeral
deriving DecidableEq

namespace Phrase

def isNameStart (c : Char) : Bool := c.isAlpha || c = '_'

def isNamePart (c : Char) : Bool := c.isAlphanum || c = '_' || c = '-' || c = '.'

def readWord : Reader (List Char) := readRun Char.isAlpha

def readName : Reader (List Char)
  | [] => none
  | c :: rest =>
    if isNameStart c then some (c :: rest.takeWhile isNamePart,rest.dropWhile isNamePart) else none

def readProperty : Reader (List Char) := fun cs => do
  let (name,rest) ← readName cs
  match rest with
  | ':' :: more =>
    match readName more with
    | some (localName,rest) => return (name ++ ':' :: localName,rest)
    | none => return (name,rest)
  | _ => return (name,rest)

def readNumber : Reader Numeral := fun cs => Numeral.read (skipBlanks cs)

/-- Two numbers or more. Blanks between them are needed only where two digits would meet. -/
def readPosition : Reader (List Numeral) := fun cs =>
  match readMany readNumber cs with
  | (first :: second :: more,rest) => some (first :: second :: more,rest)
  | _ => none

def readNextPosition : Reader (List Numeral) := fun cs => do
  readPosition (← readMark ',' cs)

def readPoint : Reader GeometryPhrase := fun cs => do
  let cs ← readMark '(' (← readKeyword "POINT".toList cs)
  let (ordinates,cs) ← readPosition cs
  return (.point ordinates,← readMark ')' cs)

def readLineString : Reader GeometryPhrase := fun cs => do
  let cs ← readMark '(' (← readKeyword "LINESTRING".toList cs)
  let (first,cs) ← readPosition cs
  let (more,cs) := readMany readNextPosition cs
  return (.lineString (first :: more),← readMark ')' cs)

def readEnvelope : Reader GeometryPhrase := fun cs => do
  let cs ← readMark '(' (← readKeyword "ENVELOPE".toList cs)
  let (lower,cs) ← readPosition cs
  let (upper,cs) ← readNextPosition cs
  return (.envelope lower upper,← readMark ')' cs)

/-- What follows the parenthesis that closes a group, `depth` groups inside it being open. -/
def closeGroup : Nat → List Char → Option (List Char)
  | _,[] => none
  | depth,'(' :: rest => closeGroup (depth + 1) rest
  | 0,')' :: rest => some rest
  | depth + 1,')' :: rest => closeGroup depth rest
  | depth,_ :: rest => closeGroup depth rest

def readTagged : Reader GeometryPhrase := fun cs => do
  let (tag,cs) ← readWord cs
  return (.tagged tag,← closeGroup 0 (← readMark '(' cs))

def readGeometry : Reader GeometryPhrase :=
  readEither readPoint (readEither readLineString (readEither readEnvelope readTagged))

/-- An item that opens a group is a geometry; any other name is a property. -/
def readItem : Reader Item := fun cs =>
  let cs := skipBlanks cs
  match readGeometry cs with
  | some (phrase,rest) => some (.geometry phrase,rest)
  | none => (readProperty cs).map fun (name,rest) => (.property name,rest)

def readNextItem : Reader Item := fun cs => do readItem (← readMark ',' cs)

def readDistance (cs : List Char) : Option Numeral × List Char :=
  match readMark ',' cs with
  | none => (none,cs)
  | some more =>
    match readNumber more with
    | some (distance,rest) => (some distance,rest)
    | none => (none,cs)

def readPredicate : Reader PredicatePhrase := fun cs => do
  let (operator,cs) ← readWord cs
  let (first,cs) ← readItem (← readMark '(' cs)
  let (more,cs) := readMany readNextItem cs
  let (distance,cs) := readDistance cs
  return (⟨operator,first :: more,distance⟩,← readMark ')' cs)

def readWhole {α : Type} (phrase : Reader α) (text : List Char) : Option α :=
  match phrase (skipBlanks text) with
  | some (value,rest) => if (skipBlanks rest).isEmpty then some value else none
  | none => none

end Phrase
end SpatialFilter
