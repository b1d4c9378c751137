import SpatialFilter.Json
import SpatialFilter.Yaml.Cursor

/-! The five ways to write a scalar: plain, in single or double quotes, and as a literal or folded
block. Each reader starts behind the mark that opens its scalar. -/
namespace SpatialFilter.Yaml

structure Gap where
  whites : List Char
  firstBreak : List Char
  moreBreaks : List Char
  broken : Bool

namespace Gap

def none : Gap := ⟨[],[],[],false⟩

/-- A single line feed becomes a space, and of several one is dropped. Blanks at the ends of lines
do not count. -/
def text (g : Gap) : List Char :=
  if g.broken then
    if g.firstBreak = ['\n'] then (if g.moreBreaks.isEmpty then [' '] else g.moreBreaks)
    else g.firstBreak ++ g.moreBreaks
  else g.whites

/-- Reads a gap. A tab that stands left of `margin` at the start of a line is refused. -/
def read (margin : Nat) : Nat → Cursor → Gap → Option (Gap × Cursor)
  | 0,c,g => some (g,c)
  | bound + 1,c,g =>
    if c.seesBreak then
      let g := if g.broken then { g with moreBreaks := g.moreBreaks ++ c.breakText }
        else { g with whites := [], firstBreak := c.breakText, broken := true }
      read margin bound c.skipBreak g
    else if c.seesWhite then
      if g.broken then
        if c.column < margin && c.sees '\t' then Option.none else read margin bound (c.skip 1) g
      else read margin bound (c.skip 1) { g with whites := g.whites ++ c.rest.take 1 }
    else some (g,c)

end Gap

/-! ### Plain scalars -/

def isFlowMark (c : Char) : Bool := c = ',' || c = '[' || c = ']' || c = '{' || c = '}'

/-- The characters of a plain scalar up to a gap or to what ends the scalar. In a flow collection a
colon right before a mark is refused. -/
def plainWord (flow : Bool) : Nat → Cursor → Option (List Char × Cursor)
  | 0,c => some ([],c)
  | bound + 1,c =>
    match c.rest with
    | [] => some ([],c)
    | char :: after =>
      if c.isGapAt 0 then some ([],c)
      else if flow && char = ':' && after.head?.any (fun n => isFlowMark n || n = '?') then none
      else if (char = ':' && c.isGapAt 1) || (flow && isFlowMark char) then some ([],c)
      else (plainWord flow bound (c.skip 1)).map fun (word,c) => (char :: word,c)

/-- Reads words and gaps in turn. A gap belongs to the scalar only if a word follows it. The result
tells whether the last gap broke the line. -/
def plainWords (flow : Bool) (margin : Nat) : Nat → Cursor → Gap → Option (List Char × Bool × Cursor)
  | 0,c,g => some ([],g.broken,c)
  | bound + 1,c,g =>
    if c.seesDocumentBoundary || c.sees '#' then some ([],g.broken,c)
    else do
      let (word,c) ← plainWord flow c.rest.length c
      let text := if word.isEmpty then [] else g.text ++ word
      let pending := if word.isEmpty then g else Gap.none
      if !(c.seesWhite || c.seesBreak) then return (text,pending.broken,c)
      let (gap,c) ← Gap.read margin c.rest.length c Gap.none
      if !flow && c.column < margin then return (text,gap.broken,c)
      let (more,broken,c) ← plainWords flow margin bound c gap
      return (text ++ more,broken,c)

/-! ### Quoted scalars -/

def letterEscape? : Char → Option Char
  | '0' => some '\x00'
  | 'a' => some '\x07'
  | 'b' => some '\x08'
  | 't' => some '\t'
  | '\t' => some '\t'
  | 'n' => some '\n'
  | 'v' => some '\x0b'
  | 'f' => some '\x0c'
  | 'r' => some '\r'
  | 'e' => some '\x1b'
  | ' ' => some ' '
  | '"' => some '"'
  | '/' => some '/'
  | '\\' => some '\\'
  | 'N' => some '\x85'
  | '_' => some '\xa0'
  | 'L' => some '\u2028'
  | 'P' => some '\u2029'
  | _ => none

def codeLength? : Char → Option Nat
  | 'x' => some 2
  | 'u' => some 4
  | 'U' => some 8
  | _ => none

def readEscape (c : Cursor) : Option (Char × Cursor) := do
  let letter ← c.peek 1
  match codeLength? letter with
  | none => return (← letterEscape? letter,c.skip 2)
  | some length =>
    let digits := (c.rest.drop 2).take length
    if digits.length < length then none
    let code ← Json.hexValue? digits
    if Nat.isValidChar code then return (Char.ofNat code,c.skip (2 + length)) else none

inductive WordEnd where
  | quote | gap | escapedBreak

def doubleQuotedWord : Nat → Cursor → Option (List Char × WordEnd × Cursor)
  | 0,_ => none
  | bound + 1,c =>
    match c.rest with
    | [] => none
    | char :: after =>
      if c.isGapAt 0 then some ([],.gap,c)
      else if char = '"' then some ([],.quote,c.skip 1)
      else if char = '\\' then
        if after.head?.any isBreak then some ([],.escapedBreak,(c.skip 1).skipBreak)
        else do
          let (char,c) ← readEscape c
          let (word,ending) ← doubleQuotedWord bound c
          return (char :: word,ending)
      else (doubleQuotedWord bound (c.skip 1)).map fun (word,ending) => (char :: word,ending)

def singleQuotedWord : Nat → Cursor → Option (List Char × WordEnd × Cursor)
  | 0,_ => none
  | bound + 1,c =>
    match c.rest with
    | [] => none
    | char :: after =>
      if c.isGapAt 0 then some ([],.gap,c)
      else if char = '\x27' then
        if after.head? = some '\x27' then
          (singleQuotedWord bound (c.skip 2)).map fun (word,ending) => (char :: word,ending)
        else some ([],.quote,c.skip 1)
      else (singleQuotedWord bound (c.skip 1)).map fun (word,ending) => (char :: word,ending)

def quotedWords (word : Nat → Cursor → Option (List Char × WordEnd × Cursor)) :
    Nat → Cursor → Option (List Char × Cursor)
  | 0,_ => none
  | bound + 1,c => do
    if c.seesDocumentBoundary || c.atEnd then none
    let (text,ending,c) ← word (c.rest.length + 1) c
    match ending with
    | .quote => return (text,c)
    | .gap =>
      let (gap,c) ← Gap.read 0 c.rest.length c Gap.none
      let (more,c) ← quotedWords word bound c
      return (text ++ gap.text ++ more,c)
    | .escapedBreak =>
      if c.sees '"' then return (text,c.skip 1)
      let (gap,c) ← Gap.read 0 c.rest.length c { Gap.none with broken := true }
      let (more,c) ← quotedWords word bound c
      return (text ++ gap.text ++ more,c)

/-! ### Block scalars -/

inductive Chomp where
  | strip | clip | keep

def readChomp (c : Cursor) : Option (Chomp × Cursor) :=
  if c.sees '+' then some (.keep,c.skip 1)
  else if c.sees '-' then some (.strip,c.skip 1)
  else none

def readIncrement (c : Cursor) : Option (Nat × Cursor) :=
  match c.peek 0 with
  | some char =>
    if char = '0' then none
    else if char.isDigit then some (char.toNat - 48,c.skip 1)
    else some (0,c)
  | none => some (0,c)

def readBlockHeader (c : Cursor) : Option (Chomp × Nat × Cursor) :=
  match readChomp c with
  | some (chomp,c) => (readIncrement c).map fun (increment,c) => (chomp,increment,c)
  | none => do
    let (increment,c) ← readIncrement c
    let (chomp,c) := if increment = 0 then (Chomp.clip,c) else (readChomp c).getD (.clip,c)
    return (chomp,increment,c)

def skipIndent (indent : Nat) : Nat → Cursor → Cursor
  | 0,c => c
  | bound + 1,c =>
    if (indent = 0 || c.column < indent) && c.sees ' ' then skipIndent indent bound (c.skip 1) else c

/-- Skips empty lines and collects their breaks. Without an explicit indentation the deepest of
the skipped columns is returned as well; a tab among the indentation is refused. -/
def blockBreaks (indent : Nat) : Nat → Nat → Cursor → Option (List Char × Nat × Cursor)
  | 0,deepest,c => some ([],deepest,c)
  | bound + 1,deepest,c =>
    let c := skipIndent indent c.rest.length c
    let deepest := max deepest c.column
    if (indent = 0 || c.column < indent) && c.sees '\t' then none
    else if c.seesBreak then
      (blockBreaks indent bound deepest c.skipBreak).map fun (breaks,result) =>
        (c.breakText ++ breaks,result)
    else some ([],deepest,c)

/-- The lines of a block. `pending` is the break of the last line with the empty lines behind it,
and `white` tells whether the last line began with a blank; folding drops a line feed only between
two lines that do not. -/
def blockLines (folded : Bool) (indent : Nat) (chomp : Chomp) :
    Nat → Cursor → List Char → List Char → Bool → Option (List Char × Cursor)
  | 0,_,_,_,_ => none
  | bound + 1,c,lineBreak,emptyLines,white =>
    if c.column == indent && !c.atEnd then do
      let joined :=
        if folded && lineBreak.head? = some '\n' && !white && !c.seesWhite then
          if emptyLines.isEmpty then [' '] else emptyLines
        else lineBreak ++ emptyLines
      let line := c.rest.takeWhile (!isBreak ·)
      let after := c.skip line.length
      let (breaks,_,next) ← blockBreaks indent (c.rest.length + 1) 0 after.skipBreak
      let (more,last) ← blockLines folded indent chomp bound next after.breakText breaks c.seesWhite
      return (joined ++ line ++ more,last)
    else
      match chomp with
      | .strip => some ([],c)
      | .clip => some (lineBreak,c)
      | .keep => some (lineBreak ++ emptyLines,c)

def readBlock (folded : Bool) (margin : Nat) (c : Cursor) : Option (List Char × Cursor) := do
  let (chomp,increment,c) ← readBlockHeader c
  let c := c.skipWhites.skipComment
  if !c.seesBreakOrEnd then none
  let bound := c.rest.length + 2
  let c := c.skipBreak
  let explicit := if increment = 0 then 0 else (margin - 1) + increment
  let (emptyLines,deepest,c) ← blockBreaks explicit bound 0 c
  let indent := if explicit = 0 then max (max deepest margin) 1 else explicit
  blockLines folded indent chomp bound c [] emptyLines false

end SpatialFilter.Yaml
