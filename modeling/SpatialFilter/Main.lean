import SpatialFilter.Command

/-! The command line: files, environment and streams of the process. -/
namespace SpatialFilter.Command

def systemWords : IO.Error → String
  | .permissionDenied _ code details => details ++ " (os error " ++ toString code ++ ")"
  | failure => toString failure

def isPresent (path : String) : IO Bool :=
  try
    let _ ← IO.FS.realPath path
    return true
  catch _ => return false

/-- What the process finds at a path. Error 21 is that of a directory. -/
def processFile (path : String) : IO FileState := do
  if path.toList.contains '\x00' then return .unnameable
  try
    return .regular (← IO.FS.readBinFile path)
  catch
    | .noFileOrDirectory .. => return .missing
    | .inappropriateType _ code _ => return if code = 21 then .directory else .underFile
    | failure => return .closed (← isPresent path) (systemWords failure)

/-- The environment file of the working directory, else that of the next folder above it. -/
def processEnvironmentFile : IO FileState := do
  let folders := (toString (← IO.currentDir)).toList.splitOn '/'
  let mut path := ".env"
  for _ in folders do
    match ← processFile path with
    | .missing | .directory => path := "../" ++ path
    | found => return found
  return .missing

/-- No events are written, so that a file of this name shows whether the log could be opened. -/
def openProcessLog (folder : String) : IO Bool := do
  try IO.FS.createDirAll folder catch _ => pure ()
  let path := if folder.isEmpty then "geofilter.log" else folder ++ "/geofilter.log"
  try
    let _ ← IO.FS.Handle.mk path .append
    return true
  catch _ => return false

partial def readAll (stream : IO.FS.Stream) (before : ByteArray) : IO ByteArray := do
  let bytes ← stream.read 65536
  if bytes.isEmpty then return before else readAll stream (before ++ bytes)

def processHost : Host IO :=
  ⟨processEnvironmentFile,processFile,openProcessLog,processFile,
    do readAll (← IO.getStdin) ByteArray.empty⟩

def processWording : Wording :=
  ⟨fun _ => "the text holds no settings",fun _ => "the text holds no bindings"⟩

/-- The words of some bytes, which hold the names of all variables that they mention. -/
def wordsOf (content : ByteArray) : List String :=
  let characters := content.data.toList.map fun byte : UInt8 => Char.ofNat byte.toNat
  let words := characters.splitOnP fun c : Char => !(c.isAlphanum || c = '_' || c = '.')
  (words.filter (!·.isEmpty)).map String.ofList

def variableNames : FileState → List String
  | .regular content => ownVariables ++ wordsOf content
  | _ => ownVariables
where
  ownVariables : List String :=
    [configVariable,Settings.pathVariable,LogSettings.levelVariable,LogSettings.formatVariable,
      LogSettings.outputVariable,LogSettings.directoryVariable]

def processEnvironment (names : List String) : IO Environment := do
  let mut e : Environment := NameMap.empty
  for name in names do
    if let some value ← IO.getEnv name then e := e.insert name value
  return e

end SpatialFilter.Command

open SpatialFilter.Command in
def main (arguments : List String) : IO UInt32 := do
  let names := variableNames (← processEnvironmentFile)
  let outcome ← run processHost (← processEnvironment names) arguments
  for line in outcome.lines do IO.println line
  match outcome.failure,outcome.report? processWording with
  | _,some report => IO.eprintln ("Error: " ++ report.text)
  | some .misuse,none => IO.eprintln usageLine
  | _,none => pure ()
  return outcome.exitCode.toUInt32
