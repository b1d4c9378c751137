import SpatialFilter.Yaml.Scalar

/-! The tokens of a YAML text. Indentation becomes tokens of its own, and the mark that a mapping
key begins is put in front of the key once its colon is found. -/
namespace SpatialFilter.Yaml

inductive Token where
  | version (major minor : Nat)
  | tagDirective (handle expansion : String)
  | documentStart | documentEnd
  | blockSequenceStart | blockMappingStart | blockEnd
  | flowSequenceStart | flowSequenceEnd
  | flowMappingStart | flowMappingEnd
  | blockEntry | flowEntry
  | key | value
  | aliasOf (name : String)
  | anchor (name : String)
  | tag (handle suffix : String)
  | scalar (plain : Bool) (text : String)
deriving DecidableEq

/-! ### Names, tags and directives -/

def readAnchorName (c : Cursor) : Option (String × Cursor) :=
  let name := c.rest.takeWhile isWordChar
  let after := c.skip name.length
  if !name.isEmpty && (after.isGapAt 0 || (after.peek 0).any "?:,]\x7d%@\x60".toList.contains) then
    some (String.ofList name,after)
  else none

def isUriChar (verbatim : Bool) (c : Char) : Bool :=
  isWordChar c || ";/?:@&=+$.!~*\x27()".toList.contains c || (verbatim && ",[]".toList.contains c)

def byteCount? (first : Nat) : Option Nat :=
  if first < 0x80 then some 1
  else if 0xC0 ≤ first && first < 0xE0 then some 2
  else if 0xE0 ≤ first && first < 0xF0 then some 3
  else if 0xF0 ≤ first && first < 0xF8 then some 4
  else none

def readEscapedByte (c : Cursor) : Option (Nat × Cursor) := do
  let digits := (c.rest.drop 1).take 2
  if !c.sees '%' || digits.length < 2 then none
  return (← Json.hexValue? digits,c.skip 3)

def readTrailingBytes : Nat → Cursor → Option (List Nat × Cursor)
  | 0,c => some ([],c)
  | count + 1,c => do
    let (byte,c) ← readEscapedByte c
    if byte / 64 ≠ 2 then none
    let (bytes,c) ← readTrailingBytes count c
    return (byte :: bytes,c)

def readUriEscape (c : Cursor) : Option (Char × Cursor) := do
  let (first,c) ← readEscapedByte c
  let count ← byteCount? first
  let (trailing,c) ← readTrailingBytes (count - 1) c
  let bytes := ByteArray.mk ((first :: trailing).map Nat.toUInt8).toArray
  let char ← (← String.fromUTF8? bytes).toList.head?
  return (char,c)

def readUri (verbatim : Bool) : Nat → Cursor → Option (List Char × Cursor)
  | 0,c => some ([],c)
  | bound + 1,c =>
    match c.rest with
    | [] => some ([],c)
    | char :: _ =>
      if char = '%' then do
        let (char,c) ← readUriEscape c
        let (uri,c) ← readUri verbatim bound c
        return (char :: uri,c)
      else if isUriChar verbatim char then
        (readUri verbatim bound (c.skip 1)).map fun (uri,c) => (char :: uri,c)
      else some ([],c)

def readHandle (c : Cursor) : Option (List Char × Cursor) :=
  if !c.sees '!' then none
  else
    let word := (c.rest.drop 1).takeWhile isWordChar
    let after := c.skip (1 + word.length)
    if after.sees '!' then some ('!' :: word ++ ['!'],after.skip 1) else some ('!' :: word,after)

def isClosedHandle (handle : List Char) : Bool := 2 ≤ handle.length && handle.getLast? == some '!'

/-- A tag in angle brackets is taken as it is, and so is `!` alone; both have an empty handle. Any
other tag expands its handle, which is `!` where no second `!` closes it. -/
def readTag (flow : Bool) (c : Cursor) : Option (Token × Cursor) := do
  let (handle,suffix,c) ←
    if c.peek 1 == some '<' then do
      let (uri,c) ← readUri true c.rest.length (c.skip 2)
      if uri.isEmpty || !c.sees '>' then none
      pure ([],uri,c.skip 1)
    else do
      let (handle,c) ← readHandle c
      let (uri,c) ← readUri false c.rest.length c
      if isClosedHandle handle then
        if uri.isEmpty then none
        pure (handle,uri,c)
      else
        let suffix := handle.drop 1 ++ uri
        pure (if suffix.isEmpty then ([],['!'],c) else (['!'],suffix,c))
  if c.isGapAt 0 || (flow && c.sees ',') then
    return (.tag (String.ofList handle) (String.ofList suffix),c)
  else none

def readVersionNumber (c : Cursor) : Option (Nat × Cursor) :=
  let digits := c.rest.takeWhile Char.isDigit
  if digits.isEmpty || 9 < digits.length then none
  else some (digits.foldl (fun n d => 10 * n + (d.toNat - 48)) 0,c.skip digits.length)

def readDirectiveContent (name : List Char) (c : Cursor) : Option (Token × Cursor) := do
  match String.ofList name with
  | "YAML" =>
    let (major,c) ← readVersionNumber c.skipWhites
    if !c.sees '.' then none
    let (minor,c) ← readVersionNumber (c.skip 1)
    return (.version major minor,c)
  | "TAG" =>
    let (handle,c) ← readHandle c.skipWhites
    if !(handle == ['!'] || isClosedHandle handle) || !c.seesWhite then none
    let c := c.skipWhites
    let (uri,c) ← readUri true c.rest.length c
    if uri.isEmpty || !c.isGapAt 0 then none
    return (.tagDirective (String.ofList handle) (String.ofList uri),c)
  | _ => none

def readDirective (c : Cursor) : Option (Token × Cursor) := do
  let c := c.skip 1
  let name := c.rest.takeWhile isWordChar
  let c := c.skip name.length
  if name.isEmpty || !c.isGapAt 0 then none
  let (token,c) ← readDirectiveContent name c
  let c := c.skipWhites.skipComment
  if c.seesBreakOrEnd then return (token,c.skipBreak) else none

/-! ### The scan -/

/-- A place where a mapping key may have begun. It is required to be one if otherwise its line
would not continue the block mapping that it stands in. -/
structure KeyPlace where
  required : Bool
  position : Nat
  line : Nat
  index : Nat
  column : Nat

/-- The state of a scan: the tokens so far, the latest place of a key in this flow collection and
in those around it, the columns of the open block collections, and whether a key may begin here. -/
structure Scan where
  cursor : Cursor
  tokens : Array Token
  keyPlace : Option KeyPlace
  outerPlaces : List (Option KeyPlace)
  indents : List Nat
  keyAllowed : Bool

namespace Scan

def start (text : List Char) : Scan := ⟨.start text,#[],none,[],[],true⟩

def inFlow (s : Scan) : Bool := !s.outerPlaces.isEmpty

def margin (s : Scan) : Nat :=
  match s.indents with
  | [] => 0
  | indent :: _ => indent + 1

def emit (s : Scan) (token : Token) (next : Cursor) (keyAllowed : Bool) : Scan :=
  { s with tokens := s.tokens.push token, cursor := next, keyAllowed }

def checkKeyPlace (stale : KeyPlace → Bool) (place : Option KeyPlace) :
    Option (Option KeyPlace) :=
  match place with
  | none => some none
  | some key => if stale key then (if key.required then none else some none) else some (some key)

/-- Gives up the place of a key; one that is required to be a key may not be given up. -/
def dropKeyPlace (s : Scan) : Option Scan := do
  return { s with keyPlace := ← checkKeyPlace (fun _ => true) s.keyPlace }

/-- A key has to end on its line and within 1024 characters. -/
def dropStalePlaces (s : Scan) : Option Scan := do
  let stale (key : KeyPlace) := key.line < s.cursor.line || key.index + 1024 < s.cursor.index
  let keyPlace ← checkKeyPlace stale s.keyPlace
  return { s with keyPlace, outerPlaces := ← s.outerPlaces.mapM (checkKeyPlace stale) }

def markKeyPlace (s : Scan) : Option Scan := do
  if !s.keyAllowed then return s
  let s ← s.dropKeyPlace
  let c := s.cursor
  let required := !s.inFlow && s.indents.head? == some c.column
  return { s with keyPlace := some ⟨required,s.tokens.size,c.line,c.index,c.column⟩ }

def closeBlocks (s : Scan) (keep : Nat → Bool) : Scan :=
  if s.inFlow then s
  else
    let closed := s.indents.takeWhile (!keep ·)
    { s with
      tokens := s.tokens ++ Array.replicate closed.length .blockEnd
      indents := s.indents.drop closed.length }

/-- Opens a block collection at a column that none is open at yet, with its token in a given
position. -/
def openBlock (s : Scan) (column position : Nat) (token : Token) : Scan :=
  if !s.inFlow && s.margin ≤ column then
    { s with indents := column :: s.indents, tokens := s.tokens.insertIdxIfInBounds position token }
  else s

/-- Skips blanks, comments and line breaks. Where a block key may begin a tab is no blank. -/
def skipToToken : Nat → Scan → Scan
  | 0,s => s
  | bound + 1,s =>
    let tabs := s.inFlow || !s.keyAllowed
    let c := (s.cursor.skipWhile fun char => char = ' ' || (tabs && char = '\t')).skipComment
    if c.seesBreak then
      skipToToken bound { s with cursor := c.skipBreak, keyAllowed := s.keyAllowed || !s.inFlow }
    else { s with cursor := c }

def documentToken (s : Scan) (read : Cursor → Option (Token × Cursor)) : Option Scan := do
  let s ← (s.closeBlocks fun _ => false).dropKeyPlace
  let (token,next) ← read s.cursor
  return s.emit token next false

def documentMark (s : Scan) (token : Token) : Option Scan :=
  s.documentToken fun c => some (token,c.skip 3)

def openFlow (s : Scan) (token : Token) : Option Scan := do
  let s ← s.markKeyPlace
  let s := { s with keyPlace := none, outerPlaces := s.keyPlace :: s.outerPlaces }
  return s.emit token (s.cursor.skip 1) true

def closeFlow (s : Scan) (token : Token) : Option Scan := do
  let s ← s.dropKeyPlace
  let s := match s.outerPlaces with
    | [] => s
    | place :: outer => { s with keyPlace := place, outerPlaces := outer }
  return s.emit token (s.cursor.skip 1) false

def separator (s : Scan) : Option Scan := do
  let s ← s.dropKeyPlace
  return s.emit .flowEntry (s.cursor.skip 1) true

def blockMark (s : Scan) (opening token : Token) (keyAllowed : Bool) : Option Scan := do
  if !s.inFlow && !s.keyAllowed then none
  let s ← (s.openBlock s.cursor.column s.tokens.size opening).dropKeyPlace
  return s.emit token (s.cursor.skip 1) keyAllowed

/-- A colon turns the place of a key into a key. -/
def colon (s : Scan) : Option Scan :=
  match s.keyPlace with
  | some key =>
    let s := { s with tokens := s.tokens.insertIdxIfInBounds key.position .key, keyPlace := none }
    let s := s.openBlock key.column key.position .blockMappingStart
    some (s.emit .value (s.cursor.skip 1) false)
  | none =>
    if !s.inFlow && !s.keyAllowed then none
    else
      let s := s.openBlock s.cursor.column s.tokens.size .blockMappingStart
      some (s.emit .value (s.cursor.skip 1) !s.inFlow)

def keyPart (s : Scan) (read : Cursor → Option (Token × Cursor)) : Option Scan := do
  let s ← s.markKeyPlace
  let (token,next) ← read s.cursor
  return s.emit token next false

def named (token : String → Token) (c : Cursor) : Option (Token × Cursor) :=
  (readAnchorName (c.skip 1)).map fun (name,c) => (token name,c)

def quoted (word : Nat → Cursor → Option (List Char × WordEnd × Cursor)) (c : Cursor) :
    Option (Token × Cursor) :=
  (quotedWords word (c.rest.length + 1) (c.skip 1)).map fun (text,c) =>
    (.scalar false (String.ofList text),c)

def block (s : Scan) (folded : Bool) : Option Scan := do
  let s ← s.dropKeyPlace
  let (text,next) ← readBlock folded s.margin (s.cursor.skip 1)
  return s.emit (.scalar false (String.ofList text)) next true

def plain (s : Scan) : Option Scan := do
  let s ← s.markKeyPlace
  let (text,brokeLine,next) ← plainWords s.inFlow s.margin (s.cursor.rest.length + 1) s.cursor Gap.none
  return s.emit (.scalar true (String.ofList text)) next brokeLine

def isMark (c : Char) : Bool := "-?:,[]\x7b\x7d#&*!|>\x27\"%@\x60".toList.contains c

def beginsPlain (flow : Bool) (c : Cursor) : Bool :=
  match c.peek 0 with
  | none => false
  | some char =>
    (!c.isGapAt 0 && !isMark char)
      || (char = '-' && !(c.peek 1).any isWhite)
      || (!flow && (char = '?' || char = ':') && !c.isGapAt 1)

def step (s : Scan) : Option Scan :=
  let c := s.cursor
  let flow := s.inFlow
  match c.peek 0 with
  | none => none
  | some char =>
    if c.column == 0 && char = '%' then s.documentToken readDirective
    else if c.seesDocumentMark '-' then s.documentMark .documentStart
    else if c.seesDocumentMark '.' then s.documentMark .documentEnd
    else if char = '[' then s.openFlow .flowSequenceStart
    else if char = '{' then s.openFlow .flowMappingStart
    else if char = ']' then s.closeFlow .flowSequenceEnd
    else if char = '}' then s.closeFlow .flowMappingEnd
    else if char = ',' then s.separator
    else if char = '-' && c.isGapAt 1 then s.blockMark .blockSequenceStart .blockEntry true
    else if char = '?' && (flow || c.isGapAt 1) then s.blockMark .blockMappingStart .key !flow
    else if char = ':' && (flow || c.isGapAt 1) then s.colon
    else if char = '*' then s.keyPart (named .aliasOf)
    else if char = '&' then s.keyPart (named .anchor)
    else if char = '!' then s.keyPart (readTag flow)
    else if char = '|' && !flow then s.block false
    else if char = '>' && !flow then s.block true
    else if char = '\x27' then s.keyPart (quoted singleQuotedWord)
    else if char = '"' then s.keyPart (quoted doubleQuotedWord)
    else if beginsPlain flow c then s.plain
    else none

def run : Nat → Scan → Option (Array Token)
  | 0,_ => none
  | bound + 1,s => do
    let s ← (skipToToken (s.cursor.rest.length + 1) s).dropStalePlaces
    if s.cursor.atEnd then
      let s ← (s.closeBlocks fun _ => false).dropKeyPlace
      return s.tokens
    let s ← (s.closeBlocks (· ≤ s.cursor.column)).step
    run bound s

end Scan

/-- A byte order mark in front of a text counts as a column. -/
def skipOrderMark (c : Cursor) : Cursor := if c.sees '\uFEFF' then c.skip 1 else c

def Token.ofText? (text : String) : Option (List Token) :=
  let characters := text.toList
  if characters.all isPrintable then
    let s := Scan.start characters
    ((Scan.run (characters.length + 1) { s with cursor := skipOrderMark s.cursor }).map Array.toList)
  else none

end SpatialFilter.Yaml
