import SpatialFilter.Command

/-! A folder held in memory, as the working directory of a run. -/
namespace SpatialFilter.Command

/-- Names may be paths below the folder; what stands before their last part is a folder too. -/
structure Folder where
  entries : List (List String × FileState)

namespace Folder

def parts (path : String) : List String := (path.toList.splitOn '/').map String.ofList

def named (part : String) : Bool := part != "" && part != "."

def ofEntries (entries : List (String × FileState)) : Folder :=
  ⟨entries.map fun (name,state) => ((parts name).filter named,state)⟩

def stateAt (f : Folder) (place : List String) : FileState :=
  match f.entries.lookup place with
  | some state => state
  | none =>
    if place.isEmpty || f.entries.any fun entry => place.isPrefixOf entry.1 then .directory
    else .missing

/-- Walks along a path. Nothing is known outside of the folder. -/
def walk (f : Folder) : List String → List String → FileState
  | [],place => f.stateAt place
  | part :: rest,place =>
    match f.stateAt place with
    | .directory =>
      if !named part then walk f rest place
      else if part == ".." then (if place.isEmpty then .missing else walk f rest place.dropLast)
      else walk f rest (place ++ [part])
    | .regular _ => .underFile
    | state => state

def find (f : Folder) (path : String) : FileState :=
  if path.toList.contains '\x00' then .unnameable
  else if path.isEmpty || path.toList.head? == some '/' then .missing
  else f.walk (parts path) []

/-- A log can be opened in a folder that is there or can be made. Its file is not among the entries. -/
def takesLog (f : Folder) (path : String) : Bool :=
  match f.find path with
  | .missing | .directory => true
  | _ => false

def files (f : Folder) : Files := ⟨f.find ".env",f.find,f.takesLog,f.find⟩

def host (f : Folder) (input : ByteArray) : Host Id := f.files.host input

end Folder
end SpatialFilter.Command
