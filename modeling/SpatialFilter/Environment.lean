import SpatialFilter.NameMap

/-! Environment variables. -/
namespace SpatialFilter

abbrev Environment := NameMap String

namespace Environment

/-- A variable cannot hold a NUL. -/
def canHold (value : String) : Bool := !value.toList.contains '\x00'

def setDefault (e : Environment) (name value : String) : Option Environment :=
  match e.get? name with
  | some _ => some e
  | none => if canHold value then some (e.insert name value) else none

end Environment
end SpatialFilter
