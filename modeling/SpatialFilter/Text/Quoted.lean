import SpatialFilter.Text.Printable

/-! Quoted texts for messages. Quotes, backslashes and characters that cannot be shown are
escaped, so a quoted text stays on one line and ends where it seems to end. -/
namespace SpatialFilter.Quoted

def codeEscape (c : Char) : List Char :=
  ['\\','u','{'] ++ Nat.toDigits 16 c.toNat ++ ['}']

def escape (c : Char) : List Char :=
  match c with
  | '"' => ['\\','"']
  | '\\' => ['\\','\\']
  | '\n' => ['\\','n']
  | '\r' => ['\\','r']
  | '\t' => ['\\','t']
  | '\x00' => ['\\','0']
  | c => if isShown c then [c] else codeEscape c

def text (s : String) : String := String.ofList ('"' :: s.toList.flatMap escape ++ ['"'])

def list (texts : List String) : String := "[" ++ String.intercalate ", " (texts.map text) ++ "]"

end SpatialFilter.Quoted
