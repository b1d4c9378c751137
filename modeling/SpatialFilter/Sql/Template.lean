import SpatialFilter.Predicate

/-! The SQL function of each operator, and the comparison of the distance that goes with it. -/
namespace SpatialFilter

inductive Closing where
  | plain | atMost | atLeast
deriving DecidableEq

namespace Closing

def name : Closing → String
  | plain => "Plain"
  | atMost => "AtMost"
  | atLeast => "AtLeast"

def ofName? (name : String) : Option Closing := [plain,atMost,atLeast].find? fun c => c.name == name

def comparison (closing : Closing) (distance : Option Number) : Option String :=
  match closing with
  | plain => none
  | atMost => distance.map fun d => "<= " ++ toString d
  | atLeast => distance.map fun d => ">= " ++ toString d

end Closing

structure Template where
  function : String
  closing : Closing
deriving DecidableEq

namespace Operator

/-- A box is compared by an operator and not by a function. -/
def boxComparison : String := "&&"

/-- Every operator but two is a function of its own name. Beyond a distance, geometries are
disjoint. -/
def template : Operator → Template
  | bbox => ⟨boxComparison,.plain⟩
  | beyond => ⟨disjoint.name,.atMost⟩
  | dwithin => ⟨dwithin.name,.atLeast⟩
  | o => ⟨o.name,.plain⟩

end Operator
end SpatialFilter
