import SpatialFilter.Environment
import SpatialFilter.File
import SpatialFilter.Text.Alphanumeric
import SpatialFilter.Text.Space

/-! Files of assignments such as `export NAME="value" # comment`. Reading stops at the first line
that is no assignment; what stands before it counts. A value that its variable cannot hold leaves no
environment at all. -/
namespace SpatialFilter.Environment.File

/-! ### Lines -/

/-- Whether a place in a line is quoted. A blank outside of quotes is noted, because a number sign
right behind it begins a comment. -/
inductive Quoting where
  | outside | blank | escape
  | single | singleEscape
  | double | doubleEscape
deriving DecidableEq

def opening : Char → Quoting
  | '\\' => .escape
  | '"' => .double
  | '\x27' => .single
  | _ => .outside

def Quoting.next : Quoting → Char → Quoting
  | outside,c => if isSpace c && c ≠ '\n' && c ≠ '\r' then blank else opening c
  | blank,c => opening c
  | escape,_ => outside
  | double,'\\' => doubleEscape
  | double,'"' => outside
  | double,_ => double
  | doubleEscape,_ => double
  | single,'\\' => singleEscape
  | single,'\x27' => outside
  | single,_ => single
  | singleEscape,_ => single

/-- A line up to its comment, and the state at its end unless a comment ends it. -/
def cutComment : Quoting → List Char → List Char × Option Quoting
  | q,[] => ([],some q)
  | q,c :: rest =>
    if q = .blank ∧ c = '#' then ([],none)
    else
      let (line,last) := cutComment (q.next c) rest
      (c :: line,last)

/-- Joins lines until no quotation is open. A last line that stays open is dropped. -/
def joinLines : List (List Char) → List Char → Quoting → List (List Char)
  | [],_,_ => []
  | line :: rest,before,q =>
    if (skipSpace (before ++ line)).head? = some '#' then joinLines rest [] .outside
    else
      match cutComment q line with
      | (line,none) => (before ++ line) :: joinLines rest [] .outside
      | (line,some .outside) => (before ++ line) :: joinLines rest [] .outside
      | (line,some q) => joinLines rest (before ++ line) q

/-- Lines with their line feeds, up to the first one that is no text. -/
def rawLines : Nat → ByteArray → List (List Char)
  | 0,_ => []
  | bound + 1,bytes =>
    if bytes.isEmpty then []
    else
      let count := (bytes.data.toList.takeWhile (· ≠ 10)).length + 1
      match String.fromUTF8? (bytes.extract 0 count) with
      | none => []
      | some line => line.toList :: rawLines bound (bytes.extract count bytes.size)

def dropOrderMark : List (List Char) → List (List Char)
  | ('\uFEFF' :: line) :: rest => line :: rest
  | lines => lines

/-! ### Values -/

inductive Mode where
  | plain
  | escape
  | single
  | name (collected : List Char)
  | braced (collected : List Char)
  | ended

structure ValueState where
  inDouble : Bool
  mode : Mode
  output : List Char

def valueOf (e : Environment) (name : List Char) : List Char :=
  ((e.get? (String.ofList name)).map String.toList).getD []

def escapeValue? : Char → Option Char
  | 'n' => some '\n'
  | c => if c = '\\' || c = '\x27' || c = '"' || c = '$' || c = ' ' then some c else none

def ValueState.plainStep (s : ValueState) (c : Char) : ValueState :=
  if c = '$' then { s with mode := .name [] }
  else if c = '\\' then { s with mode := .escape }
  else if c = '"' then { s with inDouble := !s.inDouble }
  else if s.inDouble then { s with output := s.output ++ [c] }
  else if c = '\x27' then { s with mode := .single }
  else if c = ' ' || c = '\t' then { s with mode := .ended }
  else { s with output := s.output ++ [c] }

/-- The name of a variable ends at the first character that is no letter and no digit, and that
character stands for itself, whatever it is. -/
def ValueState.step (e : Environment) (s : ValueState) (c : Char) : Option ValueState :=
  match s.mode with
  | .ended => if c = ' ' || c = '\t' then some s else none
  | .escape => (escapeValue? c).map fun c => { s with mode := .plain, output := s.output ++ [c] }
  | .single =>
    some (if c = '\x27' then { s with mode := .plain } else { s with output := s.output ++ [c] })
  | .name collected =>
    if isAlphanumeric c then some { s with mode := .name (collected ++ [c]) }
    else if c = '{' && collected.isEmpty then some { s with mode := .braced [] }
    else
      let output := s.output ++ valueOf e collected
      some (if c = '$' then { s with mode := .name [], output }
        else { s with mode := .plain, output := output ++ [c] })
  | .braced collected =>
    some (if c = '}' then { s with mode := .plain, output := s.output ++ valueOf e collected }
      else { s with mode := .braced (collected ++ [c]) })
  | .plain => some (s.plainStep c)

/-- The value of an assignment. Behind a blank only a comment may stand. -/
def readValue (e : Environment) : ValueState → List Char → Option (List Char)
  | s,[] =>
    if s.inDouble then none
    else
      match s.mode with
      | .single => none
      | .braced _ => none
      | .name collected => some (s.output ++ valueOf e collected)
      | _ => some s.output
  | s,c :: rest =>
    match s.mode,c with
    | .ended,'#' => some s.output
    | _,_ => do readValue e (← s.step e c) rest

/-! ### Assignments -/

def readKey (cs : List Char) : Option (List Char × List Char) :=
  let key := cs.takeWhile fun c => c.isAlphanum || c = '_' || c = '.'
  match key with
  | [] => none
  | first :: _ => if first.isAlpha || first = '_' then some (key,cs.drop key.length) else none

def readTarget (cs : List Char) : Option (List Char × List Char) := do
  let (key,rest) ← readKey cs
  match skipSpace rest with
  | '=' :: rest => return (key,rest)
  | rest =>
    if String.ofList key ≠ "export" then none
    let (key,rest) ← readKey rest
    match skipSpace rest with
    | '=' :: rest => return (key,rest)
    | _ => none

inductive Line where
  | blank
  | assignment (name value : String)
  | malformed

def isBlankLine (cs : List Char) : Bool := cs.isEmpty || cs.head? == some '#'

def readLine (e : Environment) (line : List Char) : Line :=
  let line := skipSpace (trimEnd line)
  if isBlankLine line then .blank
  else
    match readTarget line with
    | none => .malformed
    | some (name,rest) =>
      let rest := skipSpace rest
      if isBlankLine rest then .assignment (String.ofList name) ""
      else
        match readValue e ⟨false,.plain,[]⟩ rest with
        | none => .malformed
        | some value => .assignment (String.ofList name) (String.ofList value)

def assign : List (List Char) → Environment → Option Environment
  | [],e => some e
  | line :: rest,e =>
    match readLine e line with
    | .blank => assign rest e
    | .assignment name value =>
      match e.setDefault name value with
      | some e => assign rest e
      | none => none
    | .malformed => some e

def extend (e : Environment) : FileState → Option Environment
  | .regular content =>
    assign (joinLines (dropOrderMark (rawLines content.size content)) [] .outside) e
  | _ => some e

end SpatialFilter.Environment.File
