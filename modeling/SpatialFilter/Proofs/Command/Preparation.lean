import SpatialFilter.Command
import SpatialFilter.Proofs.Sequence
import SpatialFilter.Proofs.Settings

/-! What a run does before it looks at its predicates. It reads its environment file, loads its settings, starts its
log, finds out where its bindings are and loads them. The first of these stages that fails ends the run, whatever
comes behind. -/
namespace SpatialFilter.Command
variable {wording : Wording} {files : Files} {e f : Environment} {o : Options} {arguments : List String}
variable {settings : Settings} {registry : Registry}

/-- What is seen of an outcome: what it writes, its exit code, and a report if there is one. -/
structure Ends (wording : Wording) (outcome : Outcome) (lines : List String) (exitCode : Nat)
    (report : Option Report) : Prop where
  lines : outcome.lines = lines
  exitCode : outcome.exitCode = exitCode
  report : outcome.report? wording = report

def Files.outcome (files : Files) (input : ByteArray) (e : Environment) (arguments : List String) : Outcome :=
  run (m := Id) (files.host input) e arguments

/-! ### The log -/

/-- Variables can hold what the settings say, and either no file is asked for or it can be opened. -/
def Logs (files : Files) (log : LogSettings) : Prop :=
  log.canExport = true ∧ (LogOutput.ofWord log.output = .stderr ∨ files.opensLog log.directory = true)

instance (files : Files) (log : LogSettings) : Decidable (Logs files log) := inferInstanceAs (Decidable (_ ∧ _))

/-- Nothing but the settings decides how a log is started, whatever the environment was. -/
theorem startLog_eq {m : Type → Type} [Monad m] (host : Host m) (log : LogSettings) (e : Environment) :
    startLog host log e =
      if log.canExport = true then
        if LogOutput.ofWord log.output = .stderr then pure true else host.openLog log.directory
      else pure false := by
  have shown := log.exportTo_shown e
  simp only [startLog,LogOutput.ofEnvironment_of_shown shown,shown.directory,Option.getD_some]
  cases LogOutput.ofWord log.output <;> simp

theorem startLog_host {m : Type → Type} [Monad m] (input : m ByteArray) (log : LogSettings) (e : Environment) :
    startLog (files.host input) log e = pure (decide (Logs files log)) := by
  rw [startLog_eq]
  split_ifs with fits plain
  · simp [Logs,fits,plain]
  · simp [Logs,fits,plain,Files.host]
  · simp [Logs,fits]

/-! ### Stages -/

structure Settles (files : Files) (e : Environment) (o : Options) (f : Environment) (settings : Settings) : Prop where
  extended : Environment.File.extend e files.environment = some f
  load : Settings.loadOrStandard (files.settings (configPath o f)) f = .ok settings

/-- A run has all that it needs for its predicates. -/
structure Ready (files : Files) (e : Environment) (o : Options) (settings : Settings) (registry : Registry) : Prop where
  settles : ∃ f, Settles files e o f settings
  logs : Logs files settings.log
  bound : ∃ path, bindingsPath o settings = some path ∧ Registry.load (files.bindings path) = .ok registry

/-- How a run ends that writes nothing. -/
structure Fault where
  exitCode : Nat
  report : Option Report

/-- The stages before the predicates, up to the first that fails. -/
inductive Prepares (wording : Wording) (files : Files) (e : Environment) (o : Options) :
    Except Fault (Settings × Registry) → Prop where
  | noEnvironment (stuck : Environment.File.extend e files.environment = none) :
      Prepares wording files e o (.error ⟨101,none⟩)
  | badSettings {f : Environment} {cause : LoadError}
      (extended : Environment.File.extend e files.environment = some f)
      (load : Settings.loadOrStandard (files.settings (configPath o f)) f = .error cause) :
      Prepares wording files e o (.error ⟨1,some ⟨"Failed to load configuration from " ++ configPath o f,
        [Settings.loadErrorText wording.settings cause,Failure.innermost wording.settings cause]⟩⟩)
  | noLog {f : Environment} {settings : Settings} (settles : Settles files e o f settings)
      (silent : ¬ Logs files settings.log) : Prepares wording files e o (.error ⟨101,none⟩)
  | noBindings {f : Environment} {settings : Settings} (settles : Settles files e o f settings)
      (logs : Logs files settings.log) (nowhere : bindingsPath o settings = none) :
      Prepares wording files e o (.error ⟨1,some
        ⟨"No property file configured; set resolver.properties, GEOFILTER_PROPERTIES or --properties",[]⟩⟩)
  | badBindings {f : Environment} {settings : Settings} {path : String} {cause : LoadError}
      (settles : Settles files e o f settings) (logs : Logs files settings.log)
      (place : bindingsPath o settings = some path) (broken : Registry.load (files.bindings path) = .error cause) :
      Prepares wording files e o (.error ⟨1,some ⟨"Failed to load property bindings from " ++ path,
        [Registry.loadErrorText wording.bindings cause,Failure.innermost wording.bindings cause]⟩⟩)
  | ready {settings : Settings} {registry : Registry} (all : Ready files e o settings registry) :
      Prepares wording files e o (.ok (settings,registry))

theorem exists_prepares (wording : Wording) (files : Files) (e : Environment) (o : Options) :
    ∃ prepared, Prepares wording files e o prepared := by
  cases extended : Environment.File.extend e files.environment with
  | none => exact ⟨_,.noEnvironment extended⟩
  | some f =>
    cases load : Settings.loadOrStandard (files.settings (configPath o f)) f with
    | error cause => exact ⟨_,.badSettings extended load⟩
    | ok settings =>
      have settles : Settles files e o f settings := ⟨extended,load⟩
      by_cases logs : Logs files settings.log
      · cases place : bindingsPath o settings with
        | none => exact ⟨_,.noBindings settles logs place⟩
        | some path =>
          cases bound : Registry.load (files.bindings path) with
          | error cause => exact ⟨_,.badBindings settles logs place bound⟩
          | ok registry => exact ⟨_,.ready ⟨⟨f,settles⟩,logs,path,place,bound⟩⟩
      · exact ⟨_,.noLog settles logs⟩

theorem Prepares.all (prepares : Prepares wording files e o (.ok (settings,registry))) :
    Ready files e o settings registry := by
  cases prepares with
  | ready all => exact all

/-! ### Options that name the same files -/

/-- Only the two paths among the options have a part in the preparation. -/
structure SamePaths (o other : Options) : Prop where
  config : other.configPath = o.configPath
  bindings : other.registryPath = o.registryPath

section
variable {other : Options}

theorem SamePaths.configPath (same : SamePaths o other) (e : Environment) :
    configPath other e = configPath o e := by
  rw [Command.configPath,same.config,Command.configPath]

theorem SamePaths.bindingsPath (same : SamePaths o other) (settings : Settings) :
    bindingsPath other settings = bindingsPath o settings := by
  rw [Command.bindingsPath,same.bindings,Command.bindingsPath]

theorem Settles.congr (settles : Settles files e o f settings) (same : SamePaths o other) :
    Settles files e other f settings where
  extended := settles.extended
  load := by rw [same.configPath,settles.load]

theorem Ready.congr (ready : Ready files e o settings registry) (same : SamePaths o other) :
    Ready files e other settings registry := by
  obtain ⟨⟨f,settles⟩,logs,path,place,bound⟩ := ready
  exact ⟨⟨f,settles.congr same⟩,logs,path,by rw [same.bindingsPath,place],bound⟩

end

/-! ### Runs -/

/-- What a run has in the end that has its settings, or what it fails on. -/
def furnish (files : Files) (o : Options) (settings : Settings) : Except Failure (Settings × Registry) :=
  if Logs files settings.log then
    match bindingsPath o settings with
    | none => .error .noRegistry
    | some path => ((Registry.load (files.bindings path)).mapError (.registry path)).map fun registry => (settings,registry)
  else .error .log

theorem furnish_silent (silent : ¬ Logs files settings.log) : furnish files o settings = .error .log := if_neg silent

theorem furnish_nowhere (logs : Logs files settings.log) (nowhere : bindingsPath o settings = none) :
    furnish files o settings = .error .noRegistry := by
  rw [furnish,if_pos logs,nowhere]

theorem furnish_broken {path : String} {cause : LoadError} (logs : Logs files settings.log)
    (place : bindingsPath o settings = some path) (broken : Registry.load (files.bindings path) = .error cause) :
    furnish files o settings = .error (.registry path cause) := by
  rw [furnish,if_pos logs,place]
  simp only [broken]
  rfl

theorem Ready.furnish (ready : Ready files e o settings registry) :
    furnish files o settings = .ok (settings,registry) := by
  obtain ⟨-,logs,path,place,bound⟩ := ready
  rw [Command.furnish,if_pos logs,place]
  simp only [bound]
  rfl

section
variable {m : Type → Type} [Monad m] [LawfulMonad m] (input : m ByteArray)

theorem run_stuck (stuck : Environment.File.extend e files.environment = none) :
    run (files.host input) e arguments = pure ⟨[],some .environment⟩ := by
  simp [run,Files.host,stuck]

theorem run_of_asked (asked : readArguments arguments .none = .run o)
    (extended : Environment.File.extend e files.environment = some f) :
    run (files.host input) e arguments = runOptions (files.host input) f o := by
  simp [run,Files.host,extended,asked]

theorem run_unsettled {cause : LoadError} (asked : readArguments arguments .none = .run o)
    (extended : Environment.File.extend e files.environment = some f)
    (load : Settings.loadOrStandard (files.settings (configPath o f)) f = .error cause) :
    run (files.host input) e arguments = pure ⟨[],some (.settings (configPath o f) cause)⟩ := by
  rw [run_of_asked input asked extended]
  simp [runOptions,prepare,Files.host,load]

def conclude (host : Host m) (o : Options) : Except Failure (Settings × Registry) → m Outcome
  | .error failure => pure ⟨[],some failure⟩
  | .ok (settings,registry) => answerGiven o.conjoin settings registry <$> sourcesOf host o

theorem Settles.run (settles : Settles files e o f settings) (asked : readArguments arguments .none = .run o) :
    run (files.host input) e arguments = conclude (files.host input) o (furnish files o settings) := by
  have load : Settings.loadOrStandard _ f = _ := settles.load
  rw [run_of_asked input asked settles.extended,runOptions,prepare]
  simp only [Files.host,pure_bind,load]
  change (startLog (files.host input) settings.log f >>= _) >>= _ = _
  rw [startLog_host,pure_bind,furnish]
  by_cases logs : Logs files settings.log
  · cases place : bindingsPath o settings with
    | none => simp [logs,conclude]
    | some path =>
      cases bound : Registry.load (files.bindings path) with
      | error cause => simp [logs,bound,conclude,Except.mapError,Except.map]
      | ok registry => simp [logs,bound,conclude,Except.mapError,Except.map]
  · simp [logs,conclude]

end

/-- A stage that fails ends the run before the input is read. -/
theorem Prepares.failed {fault : Fault} (prepares : Prepares wording files e o (.error fault)) :
    ∃ outcome, Ends wording outcome [] fault.exitCode fault.report ∧ ∀ others other,
      readArguments others .none = .run other → SamePaths o other →
      ∀ {m : Type → Type} [Monad m] [LawfulMonad m] (input : m ByteArray),
        run (files.host input) e others = pure outcome := by
  cases prepares with
  | noEnvironment stuck => exact ⟨_,⟨rfl,rfl,rfl⟩,fun others other asked same {m} _ _ input => run_stuck input stuck⟩
  | @badSettings f cause extended load =>
    refine ⟨⟨[],some (.settings (configPath o f) cause)⟩,⟨rfl,rfl,rfl⟩,fun others other asked same {m} _ _ input => ?_⟩
    rw [← same.configPath] at load ⊢
    exact run_unsettled input asked extended load
  | noLog settles silent =>
    refine ⟨⟨[],some .log⟩,⟨rfl,rfl,rfl⟩,fun others other asked same {m} _ _ input => ?_⟩
    rw [(settles.congr same).run input asked,furnish_silent silent,conclude]
  | noBindings settles logs nowhere =>
    refine ⟨⟨[],some .noRegistry⟩,⟨rfl,rfl,rfl⟩,fun others other asked same {m} _ _ input => ?_⟩
    rw [← same.bindingsPath] at nowhere
    rw [(settles.congr same).run input asked,furnish_nowhere logs nowhere,conclude]
  | @badBindings _ _ path cause settles logs place broken =>
    refine ⟨⟨[],some (.registry path cause)⟩,⟨rfl,rfl,rfl⟩,fun others other asked same {m} _ _ input => ?_⟩
    rw [← same.bindingsPath] at place
    rw [(settles.congr same).run input asked,furnish_broken logs place broken,conclude]

theorem Ready.run (ready : Ready files e o settings registry) (asked : readArguments arguments .none = .run o)
    {m : Type → Type} [Monad m] [LawfulMonad m] (input : m ByteArray) : run (files.host input) e arguments =
      answerGiven o.conjoin settings registry <$> sourcesOf (files.host input) o := by
  obtain ⟨f,settles⟩ := ready.settles
  rw [settles.run input asked,ready.furnish,conclude]

end SpatialFilter.Command
