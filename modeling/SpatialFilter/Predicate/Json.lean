import SpatialFilter.Json.Record
import SpatialFilter.Predicate

/-! The JSON form of predicates. -/
namespace SpatialFilter

def Operator.toJson (o : Operator) : Json := .string o.name

def ValueType.toJson (t : ValueType) : Json := .string t.name

namespace Geometry

def positionJson (ordinates : Position) : Json := .array (ordinates.map Json.ofNumber)

def jsonMembers : Geometry → List (String × Json)
  | envelope lower upper =>
    [("type",.string "Envelope"),("min",positionJson lower),("max",positionJson upper)]
  | point x y z =>
    [("type",.string "Point"),("x",Json.ofNumber x),("y",Json.ofNumber y)]
      ++ (z.map fun z => ("z",Json.ofNumber z)).toList
  | lineString positions =>
    [("type",.string "LineString"),("coordinates",.array (positions.map positionJson))]
  | unsupported kind => [("type",.string "Unsupported"),("kind",.string kind.name)]

/-- The names of the kinds, in the order by which a number can stand for one. -/
def jsonTypes : List String := ["Envelope","Point","LineString","Unsupported"]

def jsonType? : Json → Option String
  | .text name => name
  | .number token =>
    if token.isInteger && !token.negative then jsonTypes[token.coefficient]? else none
  | _ => none

def positionOfJson? (j : Json) : Option Position := do (← j.toList?).mapM Json.toNumber?

def ofJson? (j : Json) : Option Geometry := do
  let (type,rest) ← j.tagged? "type"
  match ← jsonType? type with
  | "Envelope" =>
    match ← rest.fields? ["min","max"] with
    | [some lower,some upper] => return .envelope (← positionOfJson? lower) (← positionOfJson? upper)
    | _ => none
  | "Point" =>
    match ← rest.fields? ["x","y","z"] with
    | [some x,some y,z] => return .point (← x.toNumber?) (← y.toNumber?) (← Json.optional? Json.toNumber? z)
    | _ => none
  | "LineString" =>
    match ← rest.fields? ["coordinates"] with
    | [some positions] => return .lineString (← (← positions.toList?).mapM positionOfJson?)
    | _ => none
  | "Unsupported" =>
    match ← rest.fields? ["kind"] with
    | [some kind] => return .unsupported (← UnsupportedKind.ofName? (← kind.looseChoice?))
    | _ => none
  | _ => none

end Geometry

namespace PropertyReference

def namespacesJson (namespaces : Namespaces) : Json :=
  .record (namespaces.entries.map fun (qualifier,uri) => (qualifier,.string uri))

def jsonMembers (r : PropertyReference) : List (String × Json) :=
  [("local_name",.string r.name)]
    ++ (if r.namespaces.isEmpty then [] else [("namespace_context",namespacesJson r.namespaces)])
    ++ [("declared_type",r.declaredType.toJson)]

def namespacesOfJson? : Json → Option Namespaces
  | .object members => do
    return NameMap.ofList (← members.mapM fun (qualifier,uri) => do return (← qualifier,← uri.toText?))
  | _ => none

def ofJson? (j : Json) : Option PropertyReference := do
  match ← j.fields? ["local_name","namespace_context","declared_type"] with
  | [some name,namespaces,declaredType] =>
    return ⟨← name.toText?,← Json.defaulted? namespacesOfJson? NameMap.empty namespaces,
      ← Json.defaulted? (fun t => do ValueType.ofName? (← t.looseChoice?)) .unknown declaredType⟩
  | _ => none

end PropertyReference

namespace Operand

def toJson : Operand → Json
  | property reference => .record (("operand",.string "property") :: reference.jsonMembers)
  | geometry value => .record (("operand",.string "geometry") :: value.jsonMembers)

/-- An operand is read as a whole before its tag is looked for, so all of it has to be readable.
Two containers are open around it. -/
def ofJson? (j : Json) : Option Operand := do
  if !j.isReadable (Json.depthLimit - 2) then none
  let (tag,rest) ← j.tagged? "operand"
  match ← tag.toText? with
  | "property" => return .property (← PropertyReference.ofJson? rest)
  | "geometry" => return .geometry (← Geometry.ofJson? rest)
  | _ => none

end Operand

namespace Predicate

/-- A missing distance is left out; one that is not finite is null. -/
def toJson (p : Predicate) : Json :=
  .record ([("operator",p.operator.toJson),("operands",.array (p.operands.map Operand.toJson))]
    ++ (p.distance.map fun d => ("distance",Json.ofNumber d)).toList)

def jsonText (p : Predicate) : String := String.ofList p.toJson.write

def ofJson? (j : Json) : Option Predicate := do
  match ← j.fields? ["operator","operands","distance"] with
  | [some operator,some operands,distance] =>
    return ⟨← Operator.ofName? (← operator.choice?),← (← operands.toList?).mapM Operand.ofJson?,
      ← Json.optional? Json.toNumber? distance⟩
  | _ => none

def ofJsonText? (text : String) : Option Predicate := do ofJson? (← Json.ofText? text)

end Predicate
end SpatialFilter
