import SpatialFilter.Text.Letter

/-! The spatial operators of the filter model. -/
namespace SpatialFilter

inductive Operator where
  | bbox | intersects | contains | crosses | disjoint | equals
  | overlaps | touches | within | beyond | dwithin
deriving DecidableEq, Inhabited

namespace Operator

def all : List Operator :=
  [bbox,intersects,contains,crosses,disjoint,equals,overlaps,touches,within,beyond,dwithin]

def name : Operator → String
  | bbox => "BBOX"
  | intersects => "INTERSECTS"
  | contains => "CONTAINS"
  | crosses => "CROSSES"
  | disjoint => "DISJOINT"
  | equals => "EQUALS"
  | overlaps => "OVERLAPS"
  | touches => "TOUCHES"
  | within => "WITHIN"
  | beyond => "BEYOND"
  | dwithin => "DWITHIN"

def takesDistance : Operator → Bool
  | beyond | dwithin => true
  | _ => false

def ofName? (name : String) : Option Operator := all.find? fun o => o.name == name

def ofWord? (word : List Char) : Option Operator :=
  all.find? fun o => sameLetters o.name.toList word

end Operator

instance : ToString Operator where
  toString := Operator.name

end SpatialFilter
