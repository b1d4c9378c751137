/-! What a path leads to, and how its text is read. -/
namespace SpatialFilter

/-- A file that is closed cannot be read, although it may exist. The system has words for the reason. -/
inductive FileState where
  | missing
  | directory
  | underFile
  | unnameable
  | closed (present : Bool) (words : String)
  | regular (content : ByteArray)

inductive FileError where
  | missing
  | directory
  | underFile
  | unnameable
  | closed (words : String)
  | notText
deriving DecidableEq

namespace FileError

def message : FileError → String
  | missing => "No such file or directory (os error 2)"
  | directory => "Is a directory (os error 21)"
  | underFile => "Not a directory (os error 20)"
  | unnameable => "file name contained an unexpected NUL byte"
  | closed words => words
  | notText => "stream did not contain valid UTF-8"

end FileError

def textOfBytes (content : ByteArray) : Except FileError String :=
  match String.fromUTF8? content with
  | some text => .ok text
  | none => .error .notText

theorem textOfBytes_toUTF8 (text : String) : textOfBytes text.toUTF8 = .ok text := by
  simp [textOfBytes,String.fromUTF8?,String.isValidUTF8,String.fromUTF8]

namespace FileState

/-- A file may exist and yet have no text. -/
def doesExist : FileState → Bool
  | directory => true
  | closed present _ => present
  | regular _ => true
  | _ => false

def text : FileState → Except FileError String
  | missing => .error .missing
  | directory => .error .directory
  | underFile => .error .underFile
  | unnameable => .error .unnameable
  | closed _ words => .error (.closed words)
  | regular content => textOfBytes content

end FileState

/-- A text that is malformed says nothing of the kind that is asked for. -/
inductive LoadError where
  | unreadable (cause : FileError)
  | malformed (text : String)
deriving DecidableEq

/-- Loads what a file says, if its text can be read at all. -/
def FileState.load {α : Type} (file : FileState) (read : String → Option α) : Except LoadError α :=
  match file.text with
  | .error cause => .error (.unreadable cause)
  | .ok text =>
    match read text with
    | some value => .ok value
    | none => .error (.malformed text)

end SpatialFilter
