import SpatialFilter.Number

/-! Geometry operands. Four kinds of geometry are told apart; the last one stands for all kinds
that the model knows by name and cannot write as SQL. -/
namespace SpatialFilter

inductive UnsupportedKind where
  | curve | orientableCurve | compositeCurve | ring | surface | solid
  | compositeGeometry | multiGeometry
deriving DecidableEq

namespace UnsupportedKind

def all : List UnsupportedKind :=
  [curve,orientableCurve,compositeCurve,ring,surface,solid,compositeGeometry,multiGeometry]

def name : UnsupportedKind → String
  | curve => "Curve"
  | orientableCurve => "OrientableCurve"
  | compositeCurve => "CompositeCurve"
  | ring => "Ring"
  | surface => "Surface"
  | solid => "Solid"
  | compositeGeometry => "CompositeGeometry"
  | multiGeometry => "MultiGeometry"

def ofName? (name : String) : Option UnsupportedKind := all.find? fun k => k.name == name

end UnsupportedKind

abbrev Position := List Number

inductive Geometry where
  | envelope (lower upper : Position)
  | point (x y : Number) (z : Option Number)
  | lineString (positions : List Position)
  | unsupported (kind : UnsupportedKind)
deriving DecidableEq

namespace Geometry

def kindName : Geometry → String
  | envelope .. => "Envelope"
  | point .. => "Point"
  | lineString _ => "LineString"
  | unsupported kind => kind.name

/-- All numbers of a geometry, in the order in which they are written. -/
def ordinates : Geometry → List Number
  | envelope lower upper => lower ++ upper
  | point x y z => x :: y :: z.toList
  | lineString positions => positions.flatten
  | unsupported _ => []

end Geometry
end SpatialFilter
