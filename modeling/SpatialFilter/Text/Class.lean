/-! Character classes given by tables of Unicode. -/
namespace SpatialFilter

/-- Whether a code lies in a class, whose table lists in turn where its ranges begin and where they
have ended. -/
def isInRanges : Bool → List Nat → Nat → Bool
  | inside,[],_ => inside
  | inside,boundary :: rest,code => if code < boundary then inside else isInRanges (!inside) rest code

end SpatialFilter
