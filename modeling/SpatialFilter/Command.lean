import SpatialFilter.Command.Failure
import SpatialFilter.Command.Options
import SpatialFilter.Environment.File
import SpatialFilter.Sql.Json

/-! A run of the command: settings are loaded, the log is started and bindings are loaded. Then all
predicates are read, and the condition of each is written on a line of its own, or that of all of them
on a single line. -/
namespace SpatialFilter.Command

/-- What a run asks of the system around it. The environment file is that of the working directory, or
of the next folder above that has one. A log goes to a file in a folder, which is made if need be, so
a path may lead to something else once the log has started. -/
structure Host (m : Type → Type) where
  environmentFile : m FileState
  settingsFile : String → m FileState
  openLog : String → m Bool
  bindingsFile : String → m FileState
  input : m ByteArray

/-- Files that stay as they are, but for those that the log makes. -/
structure Files where
  environment : FileState
  settings : String → FileState
  opensLog : String → Bool
  bindings : String → FileState

def Files.host {m : Type → Type} [Pure m] (files : Files) (input : m ByteArray) : Host m :=
  ⟨pure files.environment,fun path => pure (files.settings path),
    fun folder => pure (files.opensLog folder),fun path => pure (files.bindings path),input⟩

structure Outcome where
  lines : List String
  failure : Option Failure
deriving DecidableEq

namespace Outcome

def exitCode (o : Outcome) : Nat :=
  match o.failure with
  | none => 0
  | some failure => failure.exitCode

def report? (wording : Wording) (o : Outcome) : Option Report :=
  o.failure.bind (Failure.report? wording)

end Outcome

def versionLine : String := "geofilter-cli 0.1.0"

def usageLine : String := "Usage: geofilter [OPTIONS] [PREDICATES]..."

/-- What the help shows of a variable. The lines of its value stay in the column of the texts. -/
def shownValue (value : Option String) : String :=
  String.ofList (Report.indentLines (List.replicate 33 ' ') (value.getD "").toList)

def helpLines (configValue : Option String) : List String :=
  ["Translate OGC spatial predicates into PostGIS WHERE-clause SQL","",usageLine,"",
    "Arguments:",
    "  [PREDICATES]...  Predicates to translate; read from stdin when none are given","",
    "Options:",
    "      --config <CONFIG>          Configuration file [env: GEOFILTER_CONFIG=" ++ shownValue configValue ++
      "] [default: config.yaml]",
    "      --properties <PROPERTIES>  Property binding file (overrides the configuration)",
    "      --all                      AND all predicates into one result",
    "  -h, --help                     Print help",
    "  -V, --version                  Print version"]

def configVariable : String := "GEOFILTER_CONFIG"

def configPath (o : Options) (e : Environment) : String :=
  (o.configPath.orElse fun _ => e.get? configVariable).getD "config.yaml"

def bindingsPath (o : Options) (settings : Settings) : Option String :=
  o.registryPath.orElse fun _ => settings.registryPath

/-- The lines of an input, trimmed, without those that are empty or comments. -/
def sourceLines (text : String) : List String :=
  let lines := (text.toList.splitOn '\n').map trim
  (lines.filter fun line => !line.isEmpty && line.head? != some '#').map String.ofList

def inputSources (input : ByteArray) : Except Failure (List String) :=
  ((textOfBytes input).mapError Failure.input).map sourceLines

def readSources (settings : Settings) : List String → Except Failure (List (String × Predicate))
  | [] => .ok []
  | source :: rest => do
    let predicate ← (readPredicate settings.namespaces settings.declaredType source).mapError
      (Failure.reading source)
    return (source,predicate) :: (← readSources settings rest)

def answerEach (resolver : Resolver) : List (String × Predicate) → Outcome
  | [] => ⟨[],none⟩
  | (source,predicate) :: rest =>
    match Sql.condition resolver predicate with
    | .error cause => ⟨[],some (.condition source cause)⟩
    | .ok condition =>
      let outcome := answerEach resolver rest
      { outcome with lines := condition.jsonText :: outcome.lines }

def answerConjoined (resolver : Resolver) (predicates : List Predicate) : Outcome :=
  match Sql.conditionOfAll resolver predicates with
  | .error cause => ⟨[],some (.conjoining cause)⟩
  | .ok condition => ⟨[condition.jsonText],none⟩

def answer (conjoin : Bool) (settings : Settings) (registry : Registry) (sources : List String) :
    Outcome :=
  match readSources settings sources with
  | .error failure => ⟨[],some failure⟩
  | .ok predicates =>
    if conjoin then answerConjoined registry.resolve (predicates.map (·.2))
    else answerEach registry.resolve predicates

def answerGiven (conjoin : Bool) (settings : Settings) (registry : Registry) :
    Except Failure (List String) → Outcome
  | .error failure => ⟨[],some failure⟩
  | .ok sources => answer conjoin settings registry sources

section
variable {m : Type → Type} [Monad m]

/-- Exports the settings of a log and starts it. Only a log that goes to a file has to be opened. -/
def startLog (host : Host m) (log : LogSettings) (e : Environment) : m Bool := do
  if log.canExport then
    let e := log.exportTo e
    match LogOutput.ofEnvironment e with
    | .stderr => return true
    | _ => host.openLog ((e.get? LogSettings.directoryVariable).getD "./logs")
  else return false

/-- The settings and the bindings of a run. Between the two the log is started. -/
def prepare (host : Host m) (e : Environment) (o : Options) :
    m (Except Failure (Settings × Registry)) := do
  let path := configPath o e
  match Settings.loadOrStandard (← host.settingsFile path) e with
  | .error cause => return .error (.settings path cause)
  | .ok settings =>
    if ← startLog host settings.log e then
      match bindingsPath o settings with
      | none => return .error .noRegistry
      | some path =>
        match Registry.load (← host.bindingsFile path) with
        | .error cause => return .error (.registry path cause)
        | .ok registry => return .ok (settings,registry)
    else return .error .log

def sourcesOf (host : Host m) (o : Options) : m (Except Failure (List String)) := do
  if o.sources.isEmpty then return inputSources (← host.input) else return .ok o.sources

def runOptions (host : Host m) (e : Environment) (o : Options) : m Outcome := do
  match ← prepare host e o with
  | .error failure => return ⟨[],some failure⟩
  | .ok (settings,registry) => return answerGiven o.conjoin settings registry (← sourcesOf host o)

/-- Runs the command. Its environment file comes before everything else. -/
def run (host : Host m) (e : Environment) (arguments : List String) : m Outcome := do
  match Environment.File.extend e (← host.environmentFile) with
  | none => return ⟨[],some .environment⟩
  | some e =>
    match readArguments arguments .none with
    | .misuse => return ⟨[],some .misuse⟩
    | .version => return ⟨[versionLine],none⟩
    | .help => return ⟨helpLines (e.get? configVariable),none⟩
    | .run options => runOptions host e options

end
end SpatialFilter.Command
