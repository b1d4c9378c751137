import SpatialFilter.Environment
import SpatialFilter.File
import SpatialFilter.Registry.Yaml

/-! The settings of a run: how properties are resolved, and how the run is logged. A file gives
them and environment variables override it. -/
namespace SpatialFilter
open Yaml

structure LogSettings where
  level : String
  format : String
  output : String
  directory : String
deriving DecidableEq

/-- The qualifiers and the declared type hold for every property that is read. -/
structure Settings where
  registryPath : Option String
  namespaces : Namespaces
  declaredType : ValueType
  log : LogSettings
deriving DecidableEq

namespace LogSettings

def standard : LogSettings := ⟨"warn","compact","stderr","./logs"⟩

/-- All four have to be given. -/
def ofYaml (v : Value) : Decoder LogSettings := do
  match ← Decoder.fields ["level","format","output","directory"] v with
  | [some level,some format,some output,some directory] =>
    return ⟨← Decoder.text level,← Decoder.text format,← Decoder.text output,
      ← Decoder.text directory⟩
  | _ => Decoder.fail

def levelVariable : String := "RUST_LOG"
def formatVariable : String := "LOG_FORMAT"
def outputVariable : String := "LOG_OUTPUT"
def directoryVariable : String := "LOG_DIR"

def override (s : LogSettings) (e : Environment) : LogSettings :=
  ⟨(e.get? levelVariable).getD s.level,(e.get? formatVariable).getD s.format,
    (e.get? outputVariable).getD s.output,(e.get? directoryVariable).getD s.directory⟩

def exportTo (s : LogSettings) (e : Environment) : Environment :=
  (((e.insert levelVariable s.level).insert formatVariable s.format).insert outputVariable
    s.output).insert directoryVariable s.directory

/-- A value that its variable cannot hold is not exported. -/
def canExport (s : LogSettings) : Bool :=
  [s.level,s.format,s.output,s.directory].all Environment.canHold

end LogSettings

inductive LogFormat where
  | pretty | json | compact
deriving DecidableEq

namespace LogFormat

def name : LogFormat → String
  | pretty => "Pretty"
  | json => "Json"
  | compact => "Compact"

/-- Any unknown word asks for one line an event. -/
def ofEnvironment (e : Environment) : LogFormat :=
  match e.get? LogSettings.formatVariable with
  | some "json" => json
  | some "pretty" => pretty
  | _ => compact

end LogFormat

inductive LogOutput where
  | stderr | file | both
deriving DecidableEq

namespace LogOutput

def name : LogOutput → String
  | stderr => "Stderr"
  | file => "File"
  | both => "Both"

def ofEnvironment (e : Environment) : LogOutput :=
  match e.get? LogSettings.outputVariable with
  | some "file" => file
  | some "both" => both
  | _ => stderr

end LogOutput

namespace Settings

def standard : Settings := ⟨none,NameMap.empty,.unknown,.standard⟩

def namespacesOfYaml (v : Value) : Decoder Namespaces := do
  let members ← (← Decoder.members v).mapM fun (qualifier,uri) => do
    return (qualifier,← Decoder.text uri)
  return NameMap.ofList members

def resolverOfYaml (v : Value) : Decoder Settings := do
  match ← Decoder.fields ["properties","namespaces","default_type"] v with
  | [path,namespaces,declaredType] =>
    return ⟨← Decoder.defaulted Decoder.optionalText none path,
      ← Decoder.defaulted namespacesOfYaml NameMap.empty namespaces,
      ← Decoder.defaulted ValueType.ofYaml .unknown declaredType,.standard⟩
  | _ => Decoder.fail

def ofYaml (v : Value) : Decoder Settings := do
  match ← Decoder.fields ["resolver","logging"] v with
  | [resolver,logging] =>
    let settings ← Decoder.defaulted resolverOfYaml standard resolver
    return { settings with log := ← Decoder.defaulted LogSettings.ofYaml .standard logging }
  | _ => Decoder.fail

def ofYamlText? (text : String) : Option Settings := Decoder.decode? ofYaml text

def pathVariable : String := "GEOFILTER_PROPERTIES"

def override (s : Settings) (e : Environment) : Settings :=
  { s with
    registryPath := (e.get? pathVariable).orElse fun _ => s.registryPath
    log := s.log.override e }

def load (file : FileState) (e : Environment) : Except LoadError Settings :=
  (file.load ofYamlText?).map (·.override e)

/-- As `load`, but a file that does not exist stands for the standard settings. -/
def loadOrStandard (file : FileState) (e : Environment) : Except LoadError Settings :=
  if file.doesExist then load file e else .ok (standard.override e)

def loadErrorText (words : String → String) : LoadError → String
  | .unreadable cause => "Failed to read config file: " ++ cause.message
  | .malformed text => "Failed to parse YAML: " ++ words text

end Settings
end SpatialFilter
