/-! Places in a YAML text, and the character classes of YAML. -/
namespace SpatialFilter.Yaml

/-- The characters that a text may hold at all. -/
def isPrintable (c : Char) : Bool :=
  let n := c.toNat
  n == 0x09 || n == 0x0A || n == 0x0D || (0x20 ≤ n && n ≤ 0x7E) || n == 0x85
    || (0xA0 ≤ n && n ≤ 0xD7FF) || (0xE000 ≤ n && n ≤ 0xFFFD) || 0x10000 ≤ n

def isWhite (c : Char) : Bool := c = ' ' || c = '\t'

def isBreak (c : Char) : Bool :=
  c = '\n' || c = '\r' || c = '\x85' || c = '\u2028' || c = '\u2029'

/-- The characters of names: of anchors, of tag handles and of directives. -/
def isWordChar (c : Char) : Bool := c.isAlphanum || c = '_' || c = '-'

structure Cursor where
  rest : List Char
  index : Nat
  line : Nat
  column : Nat

namespace Cursor

def start (text : List Char) : Cursor := ⟨text,0,0,0⟩

def peek (c : Cursor) (ahead : Nat) : Option Char := c.rest[ahead]?

def atEnd (c : Cursor) : Bool := c.rest.isEmpty

def sees (c : Cursor) (char : Char) : Bool := c.peek 0 == some char

def isGapAt (c : Cursor) (ahead : Nat) : Bool :=
  match c.peek ahead with
  | none => true
  | some char => isWhite char || isBreak char

def seesWhite (c : Cursor) : Bool := (c.peek 0).any isWhite

def seesBreak (c : Cursor) : Bool := (c.peek 0).any isBreak

def seesBreakOrEnd (c : Cursor) : Bool := (c.peek 0).all isBreak

def skip (c : Cursor) (count : Nat) : Cursor :=
  ⟨c.rest.drop count,c.index + count,c.line,c.column + count⟩

/-- Past a line break, of which a carriage return and a line feed are one; elsewhere nothing. -/
def skipBreak (c : Cursor) : Cursor :=
  match c.rest with
  | '\r' :: '\n' :: rest => ⟨rest,c.index + 2,c.line + 1,0⟩
  | char :: rest => if isBreak char then ⟨rest,c.index + 1,c.line + 1,0⟩ else c
  | [] => c

/-- What a line break contributes to a text: most are line feeds. -/
def breakText (c : Cursor) : List Char :=
  match c.rest with
  | char :: _ =>
    if char = '\u2028' || char = '\u2029' then [char] else if isBreak char then ['\n'] else []
  | [] => []

/-- Past all characters of a class; the class must hold no line break. -/
def skipWhile (c : Cursor) (member : Char → Bool) : Cursor :=
  c.skip (c.rest.takeWhile member).length

def skipWhites (c : Cursor) : Cursor := c.skipWhile isWhite

def skipComment (c : Cursor) : Cursor := if c.sees '#' then c.skipWhile (!isBreak ·) else c

def seesDocumentMark (c : Cursor) (mark : Char) : Bool :=
  c.column == 0 && c.rest.take 3 == [mark,mark,mark] && c.isGapAt 3

def seesDocumentBoundary (c : Cursor) : Bool := c.seesDocumentMark '-' || c.seesDocumentMark '.'

end Cursor
end SpatialFilter.Yaml
