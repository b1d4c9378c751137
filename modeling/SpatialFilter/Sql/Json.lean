import SpatialFilter.Json
import SpatialFilter.Sql.Condition

/-! The JSON form of conditions. -/
namespace SpatialFilter.Condition

def namesJson (names : NameSet) : Json := .array (names.toList.map Json.string)

def toJson (t : Condition) : Json :=
  .record [("sql_fragment",.string t.sql),("tables",namesJson t.tables),("columns",namesJson t.columns)]

def jsonText (t : Condition) : String := String.ofList t.toJson.write

end SpatialFilter.Condition
