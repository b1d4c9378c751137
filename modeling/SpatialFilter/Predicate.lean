import SpatialFilter.Geometry
import SpatialFilter.NameMap
import SpatialFilter.Operator

/-! Filter predicates: an operator applied to property references and geometries. -/
namespace SpatialFilter

/-- The declared type of a property. It selects bindings and the form of the column expression. -/
inductive ValueType where
  | geometry | envelope | string | integer | float | boolean | date | timestamp | unknown
deriving DecidableEq, Inhabited

namespace ValueType

def all : List ValueType :=
  [geometry,envelope,string,integer,float,boolean,date,timestamp,unknown]

def name : ValueType → String
  | geometry => "Geometry"
  | envelope => "Envelope"
  | string => "String"
  | integer => "Integer"
  | float => "Float"
  | boolean => "Boolean"
  | date => "Date"
  | timestamp => "Timestamp"
  | unknown => "Unknown"

def ofName? (name : String) : Option ValueType := all.find? fun t => t.name == name

end ValueType

structure PropertyReference where
  name : String
  namespaces : Namespaces
  declaredType : ValueType
deriving DecidableEq

inductive Operand where
  | property (reference : PropertyReference)
  | geometry (value : Geometry)
deriving DecidableEq

structure Predicate where
  operator : Operator
  operands : List Operand
  distance : Option Number
deriving DecidableEq

namespace Predicate

def properties (p : Predicate) : List PropertyReference :=
  p.operands.filterMap fun
    | .property reference => some reference
    | .geometry _ => none

def geometries (p : Predicate) : List Geometry :=
  p.operands.filterMap fun
    | .property _ => none
    | .geometry value => some value

end Predicate
end SpatialFilter
