import SpatialFilter.Yaml.Node

/-! A YAML document whose aliases are numbers, beside a table of the values that they stand for. An
anchor may stand inside of what it names, so aliases are followed only where a value is asked for. -/
namespace SpatialFilter.Yaml

inductive Value where
  | aliasOf (number : Nat)
  | scalar (tag : Option String) (plain : Bool) (text : String)
  | sequence (items : List Value)
  | mapping (members : List (Value × Value))

instance : Inhabited Value := ⟨.mapping []⟩

/-- The anchors of a document so far: their numbers by name, the beginnings of nodes by number, the
latest first, and the values by beginning. -/
structure Anchors where
  numbers : List (String × Nat)
  beginnings : List (Nat × Nat)
  values : List (Nat × Value)

namespace Anchors

def empty : Anchors := ⟨[],[],[]⟩

/-- An anchor gets the count of distinct names before it as its number. A name that is anchored
again therefore shares its number with the next new name. -/
def begin (a : Anchors) : Option String → Anchors
  | none => a
  | some name =>
    let number := a.numbers.length
    { a with
      numbers := (name,number) :: a.numbers.filter (·.1 != name)
      beginnings := (number,a.beginnings.length) :: a.beginnings }

def finish (a before : Anchors) (anchor : Option String) (value : Value) : Anchors :=
  match anchor with
  | none => a
  | some _ => { a with values := (before.beginnings.length,value) :: a.values }

/-- A number stands for the last node that got it. -/
def value? (a : Anchors) (number : Nat) : Option Value := do
  a.values.lookup (← a.beginnings.lookup number)

end Anchors

mutual

/-- Numbers the aliases of a tree. An alias may name only what has begun before it. -/
def numberAliases : Node → Anchors → Option (Value × Anchors)
  | .aliasOf name,a => (a.numbers.lookup name).map fun number => (.aliasOf number,a)
  | .scalar anchor tag plain text,a =>
    let value := Value.scalar tag plain text
    some (value,(a.begin anchor).finish a anchor value)
  | .sequence anchor items,a => do
    let (items,inner) ← numberItemAliases items (a.begin anchor)
    return (.sequence items,inner.finish a anchor (.sequence items))
  | .mapping anchor members,a => do
    let (members,inner) ← numberMemberAliases members (a.begin anchor)
    return (.mapping members,inner.finish a anchor (.mapping members))

def numberItemAliases : List Node → Anchors → Option (List Value × Anchors)
  | [],a => some ([],a)
  | item :: rest,a => do
    let (item,a) ← numberAliases item a
    let (rest,a) ← numberItemAliases rest a
    return (item :: rest,a)

def numberMemberAliases : List (Node × Node) → Anchors → Option (List (Value × Value) × Anchors)
  | [],a => some ([],a)
  | (key,value) :: rest,a => do
    let (key,a) ← numberAliases key a
    let (value,a) ← numberAliases value a
    let (rest,a) ← numberMemberAliases rest a
    return ((key,value) :: rest,a)

end

mutual

def Value.marks : Value → Nat
  | .aliasOf _ => 1
  | .scalar .. => 1
  | .sequence items => itemMarks items + 2
  | .mapping members => memberMarks members + 2

def itemMarks : List Value → Nat
  | [] => 0
  | item :: rest => item.marks + itemMarks rest

def memberMarks : List (Value × Value) → Nat
  | [] => 0
  | (key,value) :: rest => key.marks + value.marks + memberMarks rest

end

structure Document where
  root : Value
  anchors : Anchors

namespace Document

/-- A text without a document stands for an empty mapping. -/
def ofText? (text : String) : Option Document := do
  match ← Node.ofTokens? (← Token.ofText? text) with
  | none => return ⟨.mapping [],.empty⟩
  | some node =>
    let (root,anchors) ← numberAliases node .empty
    return ⟨root,anchors⟩

def followLimit (d : Document) : Nat := 100 * d.root.marks

end Document

/-- Takes values from a document and counts down how often it may still follow an alias. -/
abbrev Decoder (α : Type) := ReaderT Document (StateT Nat Option) α

namespace Decoder

def fail {α : Type} : Decoder α := fun _ _ => none

def follow (v : Value) : Decoder Value := fun d left =>
  match v,left with
  | .aliasOf _,0 => none
  | .aliasOf number,left + 1 => (d.anchors.value? number).map fun value => (value,left)
  | _,_ => some (v,left)

def decode? {α : Type} (decoder : Value → Decoder α) (text : String) : Option α := do
  let d ← Document.ofText? text
  let (value,_) ← decoder d.root d d.followLimit
  return value

def isNullWord (text : String) : Bool :=
  text == "null" || text == "Null" || text == "NULL" || text == "~"

def nullTag : String := "tag:yaml.org,2002:null"

/-- Every scalar is a text, whatever its tag and its style. -/
def text (v : Value) : Decoder String := do
  match ← follow v with
  | .scalar _ _ text => return text
  | _ => fail

/-- A plain scalar may stand for nothing: by its tag it has to, without a tag it does so by its
text. -/
def optionalText (v : Value) : Decoder (Option String) := do
  match ← follow v with
  | .scalar _ false text => return text
  | .scalar none true text => return if text.isEmpty || isNullWord text then none else some text
  | .scalar (some tag) true text =>
    if tag == nullTag then (if isNullWord text then return none else fail) else return text
  | _ => fail

def items (v : Value) : Decoder (List Value) := do
  match ← follow v with
  | .sequence items => return items
  | .scalar _ true "" => return []
  | _ => fail

def members (v : Value) : Decoder (List (String × Value)) := do
  match ← follow v with
  | .mapping members => members.mapM fun (key,value) => do return (← text key,value)
  | .scalar _ true "" => return []
  | _ => fail

/-- The named members of a mapping, `none` for those that are missing. None of them may stand
twice; other members do not matter. -/
def fields (names : List String) (v : Value) : Decoder (List (Option Value)) := do
  let members ← members v
  names.mapM fun name =>
    match members.filter (·.1 == name) with
    | [] => return none
    | [(_,value)] => return value
    | _ => fail

/-- The name of a choice: a local tag over nothing, or a text. -/
def choice (v : Value) : Decoder String := do
  match ← follow v with
  | .scalar tag plain text =>
    match tag.map String.toList with
    | some ('!' :: name) =>
      if plain && (text.isEmpty || isNullWord text) then
        return if name.isEmpty then "!" else String.ofList name
      else fail
    | _ => return text
  | _ => fail

def defaulted {α : Type} (decoder : Value → Decoder α) (default : α) : Option Value → Decoder α
  | none => return default
  | some v => decoder v

end Decoder
end SpatialFilter.Yaml
