import SpatialFilter.Predicate.Json
import SpatialFilter.Registry

/-! The JSON form of bindings. -/
namespace SpatialFilter.Binding

def toJson (b : Binding) : Json :=
  .record ([("name",.string b.name)]
    ++ (b.uri.map fun uri => ("namespace",Json.string uri)).toList
    ++ [("table",.string b.table),("column",.string b.column)]
    ++ (b.expression.map fun expression => ("expression",Json.string expression)).toList
    ++ (if b.types.isEmpty then [] else [("types",.array (b.types.map ValueType.toJson))]))

def jsonText (b : Binding) : String := String.ofList b.toJson.write

def typesOfJson? (j : Json) : Option (List ValueType) := do
  (← j.toList?).mapM fun t => do ValueType.ofName? (← t.choice?)

def ofJson? (j : Json) : Option Binding := do
  match ← j.fields? ["name","namespace","table","column","expression","types"] with
  | [some name,uri,some table,some column,expression,types] =>
    return ⟨← name.toText?,← Json.optional? Json.toText? uri,← table.toText?,← column.toText?,
      ← Json.optional? Json.toText? expression,← Json.defaulted? typesOfJson? [] types⟩
  | _ => none

def ofJsonText? (text : String) : Option Binding := do ofJson? (← Json.ofText? text)

end SpatialFilter.Binding
