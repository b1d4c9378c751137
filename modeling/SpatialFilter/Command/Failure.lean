import SpatialFilter.File
import SpatialFilter.Reading
import SpatialFilter.Settings
import SpatialFilter.Sql.Condition

/-! How a run can fail, and how a failure is reported: a statement of what failed, and its causes
from the outermost to the innermost. -/
namespace SpatialFilter.Command

structure Report where
  message : String
  causes : List String
deriving DecidableEq

namespace Report

def indentLines (indent : List Char) : List Char → List Char
  | [] => []
  | '\n' :: rest => '\n' :: indent ++ indentLines indent rest
  | c :: rest => c :: indentLines indent rest

def indented (heading : String) (width : Nat) (cause : String) : String :=
  "\n" ++ heading ++ String.ofList (indentLines (List.replicate width ' ') cause.toList)

def numbered : Nat → List String → String
  | _,[] => ""
  | number,cause :: rest =>
    let label := toString number
    let heading := String.ofList (List.replicate (5 - label.length) ' ') ++ label ++ ": "
    indented heading 7 cause ++ numbered (number + 1) rest

def text (r : Report) : String :=
  match r.causes with
  | [] => r.message
  | [cause] => r.message ++ "\n\nCaused by:" ++ indented "    " 4 cause
  | causes => r.message ++ "\n\nCaused by:" ++ numbered 0 causes

end Report

/-- What the YAML library says of a text that holds no settings, or no bindings. -/
structure Wording where
  settings : String → String
  bindings : String → String
deriving Inhabited

/-- A run fails on its environment if a variable cannot hold what the environment file gives it, and
on its log if a variable cannot hold a setting of it or its file cannot be opened. -/
inductive Failure where
  | environment
  | misuse
  | settings (path : String) (cause : LoadError)
  | log
  | noRegistry
  | registry (path : String) (cause : LoadError)
  | input (cause : FileError)
  | reading (source : String) (cause : ReadError)
  | condition (source : String) (cause : ConditionError)
  | conjoining (cause : ConditionError)
deriving DecidableEq

namespace Failure

/-- The innermost cause of a failed load, which its text repeats. -/
def innermost (words : String → String) : LoadError → String
  | .unreadable cause => cause.message
  | .malformed text => words text

def readingCauses : ReadError → List String
  | .mismatch found => [(ReadError.mismatch found).message,found.text]
  | cause => [cause.message]

/-- Misuse of the arguments has no report, and a run that breaks off has none either. -/
def report? (wording : Wording) : Failure → Option Report
  | environment | misuse | log => none
  | settings path cause =>
    some ⟨"Failed to load configuration from " ++ path,
      [Settings.loadErrorText wording.settings cause,innermost wording.settings cause]⟩
  | noRegistry =>
    some ⟨"No property file configured; set resolver.properties, GEOFILTER_PROPERTIES or --properties",
      []⟩
  | registry path cause =>
    some ⟨"Failed to load property bindings from " ++ path,
      [Registry.loadErrorText wording.bindings cause,innermost wording.bindings cause]⟩
  | input cause => some ⟨"Failed to read stdin",[cause.message]⟩
  | reading source cause => some ⟨"Failed to parse predicate: " ++ source,readingCauses cause⟩
  | condition source cause =>
    some ⟨"Failed to translate predicate: " ++ source,[cause.message]⟩
  | conjoining cause => some ⟨cause.message,[]⟩

def exitCode : Failure → Nat
  | environment | log => 101
  | misuse => 2
  | _ => 1

end Failure
end SpatialFilter.Command
