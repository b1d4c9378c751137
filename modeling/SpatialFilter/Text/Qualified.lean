/-! Qualified names. The first colon separates a namespace qualifier from the local name. -/
namespace SpatialFilter

/-- A name such as `app:geom`, or `geom` without a qualifier. -/
structure QualifiedName where
  qualifier : Option String
  localName : String
deriving DecidableEq

namespace QualifiedName

def split (cs : List Char) : Option (List Char) × List Char :=
  let before := cs.takeWhile (· ≠ ':')
  match cs.dropWhile (· ≠ ':') with
  | [] => (none,cs)
  | _ :: after => (some before,after)

def ofString (name : String) : QualifiedName :=
  let (qualifier,localName) := split name.toList
  ⟨qualifier.map String.ofList,String.ofList localName⟩

end QualifiedName
end SpatialFilter
