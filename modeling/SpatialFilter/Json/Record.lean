import SpatialFilter.Json.Number

/-! How structures and choices stand in JSON. A structure is an object of named members, or an
array of its fields in order. -/
namespace SpatialFilter.Json

def member? (members : List (Option String × Json)) (name : String) : Option (Option Json) :=
  match members.filter (fun m => m.1 == some name) with
  | [] => some none
  | [m] => some (some m.2)
  | _ => none

/-- The fields of a structure, `none` for those that are missing. Other members do not matter, as
long as their names can be read; an array has no others. -/
def fields? (names : List String) : Json → Option (List (Option Json))
  | .object members =>
    if members.all fun m => m.1.isSome then names.mapM (member? members) else none
  | .array values =>
    if values.length ≤ names.length then
      some (values.map some ++ List.replicate (names.length - values.length) none)
    else none
  | _ => none

def toText? : Json → Option String
  | .text value => value
  | _ => none

def toList? : Json → Option (List Json)
  | .array elements => some elements
  | _ => none

/-- A field that may be missing or null. -/
def optional? {α : Type} (value? : Json → Option α) : Option Json → Option (Option α)
  | none => some none
  | some .null => some none
  | some j => (value? j).map some

def defaulted? {α : Type} (value? : Json → Option α) (default : α) : Option Json → Option α
  | none => some default
  | some j => value? j

def choice? : Json → Option String
  | .text value => value
  | .object [(name,.null)] => name
  | _ => none

/-- As `choice?`, in a place where an empty object counts as no content as well. -/
def looseChoice? : Json → Option String
  | .object [(name,.object [])] => name
  | j => choice? j

/-- Whether all texts and numbers of a tree can be read, and containers nest at most this deep. -/
def isReadable : Nat → Json → Bool
  | _,.null => true
  | _,.bool _ => true
  | _,.number token => (numberValue? token).isSome
  | _,.text value => value.isSome
  | 0,.array _ => false
  | 0,.object _ => false
  | depth + 1,.array elements => elements.all (isReadable depth)
  | depth + 1,.object members => members.all fun m => m.1.isSome && isReadable depth m.2

def depthLimit : Nat := 127

/-- Splits a tagged structure into its tag and the rest: the tag is a member of any place in an
object, or the first element of an array. -/
def tagged? (tag : String) : Json → Option (Json × Json)
  | .object members =>
    match member? members tag with
    | some (some value) => some (value,.object (members.filter fun m => m.1 != some tag))
    | _ => none
  | .array (value :: rest) => some (value,.array rest)
  | _ => none

end SpatialFilter.Json
