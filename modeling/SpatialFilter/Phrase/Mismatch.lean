import SpatialFilter.Phrase

/-! Where a text leaves the grammar, and what was expected there. While a text is read, every part
that was tried and refused is noted with the place where it was to begin; only the refusals that
lie furthest are kept. -/
namespace SpatialFilter

/-- The parts of a phrase that a report can name, in the order in which it names them. -/
inductive Part where
  | ending | predicateInput | geometryInput | predicate | operator | operand | distance | geometry
  | point | lineString | envelope | otherGeometry | geometryTag | group | position | number | property
deriving DecidableEq

namespace Part

def all : List Part :=
  [ending,predicateInput,geometryInput,predicate,operator,operand,distance,geometry,point,
    lineString,envelope,otherGeometry,geometryTag,group,position,number,property]

def name : Part → String
  | ending => "EOI"
  | predicateInput => "predicate_input"
  | geometryInput => "geometry_input"
  | predicate => "predicate"
  | operator => "operator"
  | operand => "operand"
  | distance => "distance"
  | geometry => "geometry"
  | point => "point"
  | lineString => "linestring"
  | envelope => "envelope"
  | otherGeometry => "other_geometry"
  | geometryTag => "geometry_tag"
  | group => "balanced"
  | position => "coord"
  | number => "number"
  | property => "property"

end Part

/-- The furthest refusals so far. Places are counted by the characters that remain. -/
structure Refusals where
  remaining : Nat
  parts : List Part

namespace Refusals

def countAt (r : Refusals) (place : List Char) : Nat :=
  if r.remaining = place.length then r.parts.length else 0

/-- Notes that `part` was refused at `place`, where `before` refusals stood when it was begun. A
single refusal inside the part says more than the part itself and stands for it; several are
replaced by it. -/
def note (part : Part) (place : List Char) (before : Nat) (r : Refusals) : Refusals :=
  if r.countAt place = before + 1 then r
  else if place.length < r.remaining then ⟨place.length,[part]⟩
  else if place.length = r.remaining then ⟨r.remaining,r.parts.take before ++ [part]⟩
  else r

/-- A part begun at `place`: what its own parts leave, and itself if it is refused. -/
def attempt (part : Part) (place : List Char) (accepted : Bool) (inside : Refusals → Refusals)
    (r : Refusals) : Refusals :=
  if accepted then inside r else note part place (r.countAt place) (inside r)

open Phrase

def tryWord (part : Part) (place : List Char) : Refusals → Refusals :=
  attempt part place (readWord place).isSome id

def tryProperty (place : List Char) : Refusals → Refusals :=
  attempt .property place (readProperty place).isSome id

def tryNumbers (cs : List Char) (r : Refusals) : Refusals :=
  let place := skipBlanks cs
  match Numeral.read place with
  | none => attempt .number place false id r
  | some (_,rest) =>
    if rest.length < cs.length then tryNumbers rest r else r
termination_by cs.length

def tryPosition (cs : List Char) : Refusals → Refusals :=
  let place := skipBlanks cs
  attempt .position place (readPosition place).isSome (tryNumbers place)

def tryMorePositions (cs : List Char) (r : Refusals) : Refusals :=
  match readMark ',' cs with
  | none => r
  | some place =>
    match readPosition place with
    | none => tryPosition place r
    | some (_,rest) =>
      if rest.length < cs.length then tryMorePositions rest (tryPosition place r) else r
termination_by cs.length

def tryBody (keyword : String) (after : List Char → Refusals → Refusals) (place : List Char)
    (r : Refusals) : Refusals :=
  match (readKeyword keyword.toList place).bind (readMark '(') with
  | none => r
  | some body =>
    let r := tryPosition body r
    match readPosition body with
    | none => r
    | some (_,rest) => after rest r

def tryOnePosition (cs : List Char) (r : Refusals) : Refusals :=
  match readMark ',' cs with
  | none => r
  | some place => tryPosition place r

/-- Inside a group, each character that opens no group of its own is a place where one was tried. -/
def tryGroupBody (depth : Nat) : List Char → Refusals → Refusals
  | [],r => attempt .group [] false id r
  | '(' :: rest,r => tryGroupBody (depth + 1) rest r
  | c :: rest,r =>
    if isBlank c then tryGroupBody depth rest r
    else
      let r := attempt .group (c :: rest) false id r
      if c = ')' then
        match depth with
        | 0 => r
        | depth + 1 => tryGroupBody depth rest r
      else tryGroupBody depth rest r

def tryGroup (place : List Char) (r : Refusals) : Refusals :=
  match place with
  | '(' :: rest => tryGroupBody 0 rest r
  | _ => attempt .group place false id r

def tryTagged (place : List Char) (r : Refusals) : Refusals :=
  let r := tryWord .geometryTag place r
  match readWord place with
  | none => r
  | some (_,rest) => tryGroup (skipBlanks rest) r

def geometryKinds : List (Part × Reader GeometryPhrase × (List Char → Refusals → Refusals)) :=
  [(.point,readPoint,tryBody "POINT" fun _ r => r),
    (.lineString,readLineString,tryBody "LINESTRING" tryMorePositions),
    (.envelope,readEnvelope,tryBody "ENVELOPE" tryOnePosition),
    (.otherGeometry,readTagged,tryTagged)]

def tryKinds (place : List Char) :
    List (Part × Reader GeometryPhrase × (List Char → Refusals → Refusals)) → Refusals → Refusals
  | [],r => r
  | (part,reader,inside) :: others,r =>
    let accepted := (reader place).isSome
    let r := attempt part place accepted (inside place) r
    if accepted then r else tryKinds place others r

def tryGeometry (place : List Char) : Refusals → Refusals :=
  attempt .geometry place (readGeometry place).isSome (tryKinds place geometryKinds)

def tryItem (cs : List Char) : Refusals → Refusals :=
  let place := skipBlanks cs
  attempt .operand place (readItem place).isSome fun r =>
    let r := tryGeometry place r
    if (readGeometry place).isSome then r else tryProperty place r

def tryMoreItems (cs : List Char) (r : Refusals) : Refusals :=
  match readMark ',' cs with
  | none => r
  | some place =>
    match readItem place with
    | none => tryItem place r
    | some (_,rest) =>
      if rest.length < cs.length then tryMoreItems rest (tryItem place r) else r
termination_by cs.length

def tryDistance (cs : List Char) (r : Refusals) : Refusals :=
  match readMark ',' cs with
  | none => r
  | some more =>
    let place := skipBlanks more
    let accepted := (Numeral.read place).isSome
    attempt .distance place accepted (attempt .number place accepted id) r

def tryArguments (cs : List Char) (r : Refusals) : Refusals :=
  match readMark '(' cs with
  | none => r
  | some first =>
    let r := tryItem first r
    match readItem first with
    | none => r
    | some (_,rest) => tryDistance (readMany readNextItem rest).2 (tryMoreItems rest r)

def tryPredicate (place : List Char) : Refusals → Refusals :=
  attempt .predicate place (readPredicate place).isSome fun r =>
    let r := tryWord .operator place r
    match readWord place with
    | none => r
    | some (_,rest) => tryArguments rest r

def tryWhole {α : Type} (part : Part) (phrase : Reader α) (inside : List Char → Refusals → Refusals)
    (text : List Char) : Refusals :=
  attempt part text (readWhole phrase text).isSome (fun r =>
    let place := skipBlanks text
    let r := inside place r
    match phrase place with
    | none => r
    | some (_,rest) =>
      let ending := skipBlanks rest
      attempt .ending ending ending.isEmpty id r) ⟨text.length,[]⟩

end Refusals

/-- A text that does not fit the grammar, with the place of its furthest refusals. -/
structure Mismatch where
  source : List Char
  position : Nat
  expected : List Part
deriving DecidableEq

namespace Mismatch

def ofRefusals (source : List Char) (r : Refusals) : Mismatch :=
  ⟨source,source.length - r.remaining,Part.all.filter (· ∈ r.parts)⟩

def ofPredicate (source : List Char) : Mismatch :=
  ofRefusals source (Refusals.tryWhole .predicateInput Phrase.readPredicate Refusals.tryPredicate source)

def ofGeometry (source : List Char) : Mismatch :=
  ofRefusals source (Refusals.tryWhole .geometryInput Phrase.readGeometry Refusals.tryGeometry source)

private def before (m : Mismatch) : List Char := m.source.take m.position

def line (m : Mismatch) : Nat := (m.before.filter (· = '\n')).length + 1

private def lineStart (m : Mismatch) : List Char :=
  (m.before.reverse.takeWhile (· ≠ '\n')).reverse

def column (m : Mismatch) : Nat := m.lineStart.length + 1

private def isLineEnd (c : Char) : Bool := c = '\r' || c = '\n'

private def visible (c : Char) : Char :=
  if c = '\r' then '␍' else if c = '\n' then '␊' else c

/-- The line of the position. Its end is shown only when the position is on it. -/
def lineText (m : Mismatch) : List Char :=
  let after := m.source.drop m.position
  let rest := after.takeWhile (· ≠ '\n') ++ (after.dropWhile (· ≠ '\n')).take 1
  let whole := m.lineStart ++ rest
  if (after.head?.map isLineEnd).getD false then whole.map visible
  else whole.filter (!isLineEnd ·)

def alternatives : List String → String
  | [] => ""
  | [a] => a
  | [a,b] => a ++ " or " ++ b
  | names => String.intercalate ", " names.dropLast ++ ", or " ++ names.getLastD ""

def text (m : Mismatch) : String :=
  let number := toString m.line
  let margin := String.ofList (List.replicate number.length ' ')
  let pointer := (m.lineText.take (m.column - 1)).map fun c => if c = '\t' then '\t' else ' '
  margin ++ "--> " ++ number ++ ":" ++ toString m.column ++ "\n"
    ++ margin ++ " |\n"
    ++ number ++ " | " ++ String.ofList m.lineText ++ "\n"
    ++ margin ++ " | " ++ String.ofList pointer ++ "^---\n"
    ++ margin ++ " |\n"
    ++ margin ++ " = expected " ++ alternatives (m.expected.map Part.name)

end Mismatch
end SpatialFilter
