import SpatialFilter.Geometry

/-! Well-known text of points and line strings. -/
namespace SpatialFilter.Wkt

def position (ordinates : List Number) : String := String.intercalate " " (ordinates.map toString)

def point (x y : Number) (z : Option Number) : String := "POINT(" ++ position (x :: y :: z.toList) ++ ")"

def lineString (positions : List Position) : String :=
  "LINESTRING(" ++ String.intercalate ", " (positions.map position) ++ ")"

/-- The well-known text of a geometry that the model writes as such. -/
def ofGeometry? : Geometry → Option String
  | .point x y z => some (point x y z)
  | .lineString positions => some (lineString positions)
  | _ => none

end SpatialFilter.Wkt
