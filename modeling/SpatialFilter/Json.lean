import SpatialFilter.Number.Numeral

/-! JSON texts as trees. Numbers keep their tokens, and a string whose escapes leave half of a
surrogate pair has no text; what such values mean is up to those who need them. -/
namespace SpatialFilter

inductive Json where
  | null
  | bool (value : Bool)
  | number (token : Numeral)
  | text (value : Option String)
  | array (elements : List Json)
  | object (members : List (Option String × Json))

namespace Json

def string (s : String) : Json := .text (some s)

def record (members : List (String × Json)) : Json :=
  .object (members.map fun (name,value) => (some name,value))

/-! ### Writing -/

def hexPair (n : Nat) : List Char := [Nat.digitChar (n / 16),Nat.digitChar (n % 16)]

/-- Quotes, backslashes and control characters are escaped; all else stands for itself. -/
def escape (c : Char) : List Char :=
  match c with
  | '"' => ['\\','"']
  | '\\' => ['\\','\\']
  | '\x08' => ['\\','b']
  | '\x0c' => ['\\','f']
  | '\n' => ['\\','n']
  | '\r' => ['\\','r']
  | '\t' => ['\\','t']
  | c => if c.toNat < 32 then ['\\','u','0','0'] ++ hexPair c.toNat else [c]

def writeString (s : String) : List Char := '"' :: s.toList.flatMap escape ++ ['"']

mutual

def write : Json → List Char
  | null => ['n','u','l','l']
  | bool true => ['t','r','u','e']
  | bool false => ['f','a','l','s','e']
  | number token => token.text
  | text value => writeString (value.getD "")
  | array elements => '[' :: writeElements elements ++ [']']
  | object members => '{' :: writeMembers members ++ ['}']

def writeElements : List Json → List Char
  | [] => []
  | [element] => write element
  | element :: rest => write element ++ ',' :: writeElements rest

def writeMembers : List (Option String × Json) → List Char
  | [] => []
  | [(name,value)] => writeString (name.getD "") ++ ':' :: write value
  | (name,value) :: rest =>
    writeString (name.getD "") ++ ':' :: write value ++ ',' :: writeMembers rest

end

/-! ### Reading -/

inductive Piece where
  | plain (c : Char)
  | unit (code : Nat)

def isHighSurrogate (code : Nat) : Bool := 0xD800 ≤ code && code < 0xDC00

def isLowSurrogate (code : Nat) : Bool := 0xDC00 ≤ code && code < 0xE000

/-- Joins surrogate pairs. Half of a pair has no character. -/
def joinPairs : List Piece → Option (List Char)
  | [] => some []
  | .plain c :: rest => (joinPairs rest).map (c :: ·)
  | [.unit code] => if isHighSurrogate code || isLowSurrogate code then none else some [Char.ofNat code]
  | .unit code :: .plain c :: rest =>
    if isHighSurrogate code || isLowSurrogate code then none
    else (joinPairs rest).map (Char.ofNat code :: c :: ·)
  | .unit code :: .unit next :: rest =>
    if isHighSurrogate code && isLowSurrogate next then
      (joinPairs rest).map (Char.ofNat (0x10000 + (code - 0xD800) * 0x400 + (next - 0xDC00)) :: ·)
    else if isHighSurrogate code || isLowSurrogate code then none
    else (joinPairs (.unit next :: rest)).map (Char.ofNat code :: ·)

def hexDigit? (c : Char) : Option Nat :=
  if c.isDigit then some (c.toNat - 48)
  else if 'a'.toNat ≤ c.toNat ∧ c.toNat ≤ 'f'.toNat then some (c.toNat - 87)
  else if 'A'.toNat ≤ c.toNat ∧ c.toNat ≤ 'F'.toNat then some (c.toNat - 55)
  else none

def hexValue? (digits : List Char) : Option Nat :=
  (digits.mapM hexDigit?).map fun values => values.foldl (16 * · + ·) 0

def letterEscape? : Char → Option Char
  | '"' => some '"'
  | '\\' => some '\\'
  | '/' => some '/'
  | 'b' => some '\x08'
  | 'f' => some '\x0c'
  | 'n' => some '\n'
  | 'r' => some '\r'
  | 't' => some '\t'
  | _ => none

def readPieces : List Char → Option (List Piece × List Char)
  | [] => none
  | '"' :: rest => some ([],rest)
  | '\\' :: 'u' :: a :: b :: c :: d :: rest => do
    let code ← hexValue? [a,b,c,d]
    let (pieces,rest) ← readPieces rest
    return (.unit code :: pieces,rest)
  | '\\' :: letter :: rest => do
    let c ← letterEscape? letter
    let (pieces,rest) ← readPieces rest
    return (.plain c :: pieces,rest)
  | c :: rest =>
    if c.toNat < 32 then none
    else do
      let (pieces,rest) ← readPieces rest
      return (.plain c :: pieces,rest)

def readString : Reader (Option String) := fun cs => do
  let (pieces,rest) ← readPieces (← readMark '"' cs)
  return ((joinPairs pieces).map String.ofList,rest)

/-- A number token has no needless leading zero. -/
def readNumber : Reader Json := fun cs => do
  let (token,rest) ← Numeral.read cs
  if token.whole.head? = some '0' ∧ 1 < token.whole.length then none
  else return (.number token,rest)

mutual

/-- Reads one value. Every value inside another one takes a character, so the length of the text
is enough as a bound for the nesting. -/
def readValue : Nat → Reader Json
  | 0,_ => none
  | bound + 1,cs =>
    match skipBlanks cs with
    | 'n' :: 'u' :: 'l' :: 'l' :: rest => some (.null,rest)
    | 't' :: 'r' :: 'u' :: 'e' :: rest => some (.bool true,rest)
    | 'f' :: 'a' :: 'l' :: 's' :: 'e' :: rest => some (.bool false,rest)
    | '"' :: rest => (readString ('"' :: rest)).map fun (value,rest) => (.text value,rest)
    | '[' :: rest =>
      match readMark ']' rest with
      | some rest => some (.array [],rest)
      | none => (readElements bound rest).map fun (elements,rest) => (.array elements,rest)
    | '{' :: rest =>
      match readMark '}' rest with
      | some rest => some (.object [],rest)
      | none => (readMembers bound rest).map fun (members,rest) => (.object members,rest)
    | cs => readNumber cs

def readElements : Nat → Reader (List Json)
  | 0,_ => none
  | bound + 1,cs => do
    let (element,rest) ← readValue bound cs
    match readMark ',' rest with
    | some more =>
      let (elements,rest) ← readElements bound more
      return (element :: elements,rest)
    | none => return ([element],← readMark ']' rest)

def readMembers : Nat → Reader (List (Option String × Json))
  | 0,_ => none
  | bound + 1,cs => do
    let (name,rest) ← readString cs
    let (value,rest) ← readValue bound (← readMark ':' rest)
    match readMark ',' rest with
    | some more =>
      let (members,rest) ← readMembers bound more
      return ((name,value) :: members,rest)
    | none => return ([(name,value)],← readMark '}' rest)

end

def ofText? (text : String) : Option Json :=
  let cs := text.toList
  match readValue (cs.length + 1) cs with
  | some (value,rest) => if (skipBlanks rest).isEmpty then some value else none
  | none => none

end Json
end SpatialFilter
