import SpatialFilter.Phrase.Mismatch
import SpatialFilter.Predicate

/-! The meaning of a phrase. Words are looked up from left to right, and the first one without a
meaning is the error. -/
namespace SpatialFilter

inductive ReadError where
  | mismatch (found : Mismatch)
  | unknownOperator (word : String)
  | unknownGeometry (tag : String)
  | pointOrdinates (count : Nat)
  | fewPositions
deriving DecidableEq

namespace ReadError

def unknownOperatorText (word : String) : String := "Unknown spatial operator: " ++ word

def message : ReadError → String
  | mismatch m => "Pest error: " ++ m.text
  | unknownOperator word => "Syntax error: " ++ unknownOperatorText word
  | unknownGeometry tag => "Syntax error: Unknown geometry type: " ++ tag
  | pointOrdinates count => "Syntax error: POINT takes 2 or 3 ordinates, got " ++ toString count
  | fewPositions => "Syntax error: LINESTRING needs at least two positions"

end ReadError

def UnsupportedKind.tags : UnsupportedKind → List String
  | curve => ["CIRCULARSTRING","CURVE"]
  | orientableCurve => ["ORIENTABLECURVE"]
  | compositeCurve => ["COMPOUNDCURVE","COMPOSITECURVE"]
  | ring => ["LINEARRING","RING"]
  | surface => ["POLYGON","CURVEPOLYGON","TRIANGLE","TIN","POLYHEDRALSURFACE","SURFACE"]
  | solid => ["SOLID"]
  | compositeGeometry => ["GEOMETRYCOLLECTION"]
  | multiGeometry => ["MULTIPOINT","MULTILINESTRING","MULTICURVE","MULTIPOLYGON","MULTISURFACE"]

def UnsupportedKind.ofTag? (tag : List Char) : Option UnsupportedKind :=
  all.find? fun kind => kind.tags.any fun known => sameLetters known.toList tag

namespace GeometryPhrase

def toGeometry : GeometryPhrase → Except ReadError Geometry
  | point ordinates =>
    match ordinates.map Number.ofNumeral with
    | [x,y] => .ok (.point x y none)
    | [x,y,z] => .ok (.point x y (some z))
    | numbers => .error (.pointOrdinates numbers.length)
  | lineString positions =>
    if positions.length < 2 then .error .fewPositions
    else .ok (.lineString (positions.map (List.map Number.ofNumeral)))
  | envelope lower upper => .ok (.envelope (lower.map Number.ofNumeral) (upper.map Number.ofNumeral))
  | tagged tag =>
    match UnsupportedKind.ofTag? tag with
    | some kind => .ok (.unsupported kind)
    | none => .error (.unknownGeometry (String.ofList tag))

end GeometryPhrase

/-- Every property of a predicate gets the same namespaces and the same declared type. -/
def Item.toOperand (namespaces : Namespaces) (declaredType : ValueType) :
    Item → Except ReadError Operand
  | geometry phrase => phrase.toGeometry.map .geometry
  | property name => .ok (.property ⟨String.ofList name,namespaces,declaredType⟩)

def PredicatePhrase.toPredicate (namespaces : Namespaces) (declaredType : ValueType)
    (phrase : PredicatePhrase) : Except ReadError Predicate := do
  match Operator.ofWord? phrase.operator with
  | none => .error (.unknownOperator (String.ofList phrase.operator))
  | some operator =>
    let operands ← phrase.items.mapM (Item.toOperand namespaces declaredType)
    return ⟨operator,operands,phrase.distance.map Number.ofNumeral⟩

def readPredicate (namespaces : Namespaces) (declaredType : ValueType) (text : String) :
    Except ReadError Predicate :=
  match Phrase.readWhole Phrase.readPredicate text.toList with
  | none => .error (.mismatch (Mismatch.ofPredicate text.toList))
  | some phrase => phrase.toPredicate namespaces declaredType

def readGeometry (text : String) : Except ReadError Geometry :=
  match Phrase.readWhole Phrase.readGeometry text.toList with
  | none => .error (.mismatch (Mismatch.ofGeometry text.toList))
  | some phrase => phrase.toGeometry

end SpatialFilter
