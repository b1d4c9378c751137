import SpatialFilter.Predicate
import SpatialFilter.Text.Qualified
import SpatialFilter.Text.Quoted

/-! Bindings of property names to columns, and how a reference picks one of them. -/
namespace SpatialFilter

/-- A binding answers for one local name, and for one namespace and some declared types if it
names them. -/
structure Binding where
  name : String
  uri : Option String
  table : String
  column : String
  expression : Option String
  types : List ValueType
deriving DecidableEq

namespace Binding

/-- Two namespaces clash only when both are known and differ. -/
def acceptsUri (b : Binding) (wanted : Option String) : Bool :=
  match wanted,b.uri with
  | some wanted,some bound => wanted == bound
  | _,_ => true

def acceptsType (b : Binding) (declared : ValueType) : Bool :=
  b.types.isEmpty || declared == .unknown || b.types.contains declared

def accepts (b : Binding) (wanted : Option String) (declared : ValueType) : Bool :=
  b.acceptsUri wanted && b.acceptsType declared

def qualifiedColumn (b : Binding) : String := b.table ++ "." ++ b.column

/-- The SQL that reads the column. An envelope is read as the box of its column. -/
def columnExpression (b : Binding) (declared : ValueType) : String :=
  match b.expression,declared with
  | some expression,_ => expression
  | none,.envelope => "Box2D(" ++ b.qualifiedColumn ++ ")"
  | none,_ => b.qualifiedColumn

end Binding

structure Column where
  expression : String
  table : String
  column : String
deriving DecidableEq

inductive ResolveError where
  | unknownProperty (name : String)
  | ambiguous (name : String) (candidates : List String)
  | unboundQualifier (qualifier name : String)
deriving DecidableEq

namespace ResolveError

def message : ResolveError → String
  | unknownProperty name => "Unknown property: " ++ name
  | ambiguous name candidates =>
    "Ambiguous binding for property " ++ name ++ ": " ++ Quoted.list candidates
  | unboundQualifier qualifier name =>
    "Namespace prefix '" ++ qualifier ++ "' of property " ++ name ++ " is not bound"

end ResolveError

abbrev Resolver := PropertyReference → Except ResolveError Column

/-- Bindings grouped by local name. Names stand in the order of their first binding, and the
bindings of a name in the order of their registration. -/
structure Registry where
  groups : List (String × List Binding)

namespace Registry

def empty : Registry := ⟨[]⟩

instance : Inhabited Registry := ⟨empty⟩

def addTo (b : Binding) : List (String × List Binding) → List (String × List Binding)
  | [] => [(b.name,[b])]
  | (name,bindings) :: rest =>
    if name = b.name then (name,bindings ++ [b]) :: rest else (name,bindings) :: addTo b rest

def register (r : Registry) (b : Binding) : Registry := ⟨addTo b r.groups⟩

def ofList (bindings : List Binding) : Registry := bindings.foldl register empty

def size (r : Registry) : Nat := r.groups.foldl (fun count group => count + group.2.length) 0

def isEmpty (r : Registry) : Bool := r.groups.isEmpty

def named (r : Registry) (localName : String) : List Binding :=
  ((r.groups.find? fun group => group.1 == localName).map (·.2)).getD []

/-- The namespace that a reference asks for: none without a qualifier, an error if the qualifier
is not bound. -/
def wantedUri (name : QualifiedName) (reference : PropertyReference) :
    Except ResolveError (Option String) :=
  match name.qualifier with
  | none => .ok none
  | some qualifier =>
    match reference.namespaces.get? qualifier with
    | some uri => .ok (some uri)
    | none => .error (.unboundQualifier qualifier reference.name)

def choose (reference : PropertyReference) : List Binding → Except ResolveError Column
  | [] => .error (.unknownProperty reference.name)
  | [b] => .ok ⟨b.columnExpression reference.declaredType,b.table,b.column⟩
  | candidates => .error (.ambiguous reference.name (candidates.map Binding.qualifiedColumn))

def resolve (r : Registry) : Resolver := fun reference => do
  let name := QualifiedName.ofString reference.name
  let uri ← wantedUri name reference
  choose reference ((r.named name.localName).filter (·.accepts uri reference.declaredType))

end Registry
end SpatialFilter
