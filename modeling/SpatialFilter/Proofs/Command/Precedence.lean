import SpatialFilter.Proofs.Command.Modes
import SpatialFilter.Proofs.Environment
import SpatialFilter.Proofs.Settings

/-! Where a run finds its settings and its bindings. Arguments come first, then the environment, then the environment
file. Behind these there is a path for the settings that is always there, and one for the bindings that the settings
may give. What stands behind the first path that is there has no part in the run, but for the log. -/
namespace SpatialFilter.Command
variable {files others : Files} {e f g h : Environment} {o p : Options} {settings changed : Settings}

/-! ### Sources of paths -/

/-- The first path that is there, be it empty. -/
def firstOf (paths : List (Option String)) : Option String := paths.findSome? id

def configPaths (files : Files) (e : Environment) (o : Options) : List (Option String) :=
  [o.configPath,e.get? configVariable,(Environment.File.made e files.environment).lookup configVariable,
    some "config.yaml"]

def bindingsPaths (files : Files) (e : Environment) (o : Options) (settings : Settings) : List (Option String) :=
  [o.registryPath,e.get? Settings.pathVariable,
    (Environment.File.made e files.environment).lookup Settings.pathVariable,settings.registryPath]

/-- Paths that differ at most behind the first that is there. -/
inductive Alike : List (Option String) → List (Option String) → Prop where
  | nil : Alike [] []
  | none {paths rest : List (Option String)} (behind : Alike paths rest) : Alike (none :: paths) (none :: rest)
  | some {path : String} {paths rest : List (Option String)} : Alike (some path :: paths) (some path :: rest)

theorem Alike.firstOf_eq {paths rest : List (Option String)} (alike : Alike paths rest) :
    firstOf rest = firstOf paths := by
  induction alike with
  | nil => rfl
  | none behind ih => exact ih
  | some => rfl

theorem firstOf_cons (path : Option String) (paths : List (Option String)) :
    firstOf (path :: paths) = path.or (firstOf paths) := by
  cases path <;> rfl

section
variable (extended : Environment.File.extend e files.environment = some g)
include extended

theorem firstOf_configPaths : firstOf (configPaths files e o) = some (configPath o g) := by
  rw [configPath,Environment.File.get?_extend extended,Option.orElse_eq_or,← Option.or_some]
  simp only [configPaths,firstOf_cons,Option.or_assoc]
  rfl

theorem firstOf_bindingsPaths : firstOf (bindingsPaths files e o settings) = bindingsPath o (settings.override g) := by
  simp only [bindingsPath,Settings.override,Environment.File.get?_extend extended,Option.orElse_eq_or,bindingsPaths,
    firstOf_cons,Option.or_assoc]
  rw [firstOf,List.findSome?_nil,Option.or_none]

end

/-! ### What a run asks for -/

inductive Access where
  | environment
  | settings (path : String)
  | log (folder : String)
  | bindings (path : String)

/-- A log asks for its folder if it goes to a file and its settings fit into variables. -/
def logAccesses (log : LogSettings) : List Access :=
  if log.canExport = true ∧ LogOutput.ofWord log.output ≠ .stderr then [.log log.directory] else []

/-- The settings of a run, before any variable overrides them. -/
structure Chooses (files : Files) (e : Environment) (o : Options) (g : Environment) (config : String)
    (settings : Settings) : Prop where
  extended : Environment.File.extend e files.environment = some g
  chosen : firstOf (configPaths files e o) = some config
  given : Settings.Given (files.settings config) settings

/-- What a run asks for, in order, and what it has from that before it looks at its sources. -/
inductive Opens (files : Files) (e : Environment) (o : Options) :
    List Access → Except Failure (Settings × Registry) → Prop where
  | noEnvironment (stuck : Environment.File.extend e files.environment = none) :
      Opens files e o [.environment] (.error .environment)
  | badSettings {g : Environment} {config : String} {cause : LoadError}
      (extended : Environment.File.extend e files.environment = some g)
      (chosen : firstOf (configPaths files e o) = some config)
      (present : (files.settings config).doesExist = true)
      (broken : (files.settings config).load Settings.ofYamlText? = .error cause) :
      Opens files e o [.environment,.settings config] (.error (.settings config cause))
  | noLog {g : Environment} {config : String} {settings : Settings} (chooses : Chooses files e o g config settings)
      (silent : ¬ Logs files (settings.override g).log) :
      Opens files e o ([.environment,.settings config] ++ logAccesses (settings.override g).log) (.error .log)
  | noBindings {g : Environment} {config : String} {settings : Settings}
      (chooses : Chooses files e o g config settings) (logs : Logs files (settings.override g).log)
      (nowhere : firstOf (bindingsPaths files e o settings) = none) :
      Opens files e o ([.environment,.settings config] ++ logAccesses (settings.override g).log) (.error .noRegistry)
  | badBindings {g : Environment} {config path : String} {settings : Settings} {cause : LoadError}
      (chooses : Chooses files e o g config settings) (logs : Logs files (settings.override g).log)
      (place : firstOf (bindingsPaths files e o settings) = some path)
      (broken : Registry.load (files.bindings path) = .error cause) :
      Opens files e o ([.environment,.settings config] ++ logAccesses (settings.override g).log ++ [.bindings path])
        (.error (.registry path cause))
  | ready {g : Environment} {config path : String} {settings : Settings} {registry : Registry}
      (chooses : Chooses files e o g config settings) (logs : Logs files (settings.override g).log)
      (place : firstOf (bindingsPaths files e o settings) = some path)
      (bound : Registry.load (files.bindings path) = .ok registry) :
      Opens files e o ([.environment,.settings config] ++ logAccesses (settings.override g).log ++ [.bindings path])
        (.ok (settings.override g,registry))

theorem Chooses.exists_opens {config : String} (chooses : Chooses files e o g config settings) :
    ∃ accesses prepared, Opens files e o accesses prepared := by
  by_cases logs : Logs files (settings.override g).log
  · cases place : firstOf (bindingsPaths files e o settings) with
    | none => exact ⟨_,_,.noBindings chooses logs place⟩
    | some path =>
      cases load : Registry.load (files.bindings path) with
      | error cause => exact ⟨_,_,.badBindings chooses logs place load⟩
      | ok registry => exact ⟨_,_,.ready chooses logs place load⟩
  · exact ⟨_,_,.noLog chooses logs⟩

theorem exists_opens (files : Files) (e : Environment) (o : Options) :
    ∃ accesses prepared, Opens files e o accesses prepared := by
  cases extended : Environment.File.extend e files.environment with
  | none => exact ⟨_,_,.noEnvironment extended⟩
  | some g =>
    have chosen : firstOf (configPaths files e o) = _ := firstOf_configPaths extended
    cases load : Settings.loadOrStandard (files.settings (configPath o g)) g with
    | error cause =>
      obtain ⟨present,broken⟩ := Settings.loadOrStandard_eq_error.mp load
      exact ⟨_,_,.badSettings extended chosen present broken⟩
    | ok settings =>
      obtain ⟨settings,given,-⟩ := Settings.loadOrStandard_eq_ok.mp load
      exact Chooses.exists_opens ⟨extended,chosen,given⟩

theorem Chooses.path {config : String} (chooses : Chooses files e o g config settings) : config = configPath o g :=
  Option.some.inj (chooses.chosen.symm.trans (firstOf_configPaths chooses.extended))

theorem Chooses.settles {config : String} (chooses : Chooses files e o g config settings) :
    Settles files e o g (settings.override g) where
  extended := chooses.extended
  load := by
    rw [← chooses.path]
    exact Settings.loadOrStandard_eq_ok.mpr ⟨settings,chooses.given,rfl⟩

/-! ### Accesses are noted -/

def noted {α : Type} (access : Access) (answer : α) : StateM (List Access) α :=
  modifyGet fun before => (answer,before ++ [access])

/-- Files as before, with a note of all that a run asks for. -/
def Host.noting (files : Files) (input : ByteArray) : Host (StateM (List Access)) :=
  ⟨noted .environment files.environment,fun path => noted (.settings path) (files.settings path),
    fun folder => noted (.log folder) (files.opensLog folder),fun path => noted (.bindings path) (files.bindings path),
    pure input⟩

section
variable {arguments : List String} {accesses before : List Access} {prepared : Except Failure (Settings × Registry)}

@[simp]
theorem run_noted {α : Type} (access : Access) (answer : α) (before : List Access) :
    (noted access answer).run before = pure (answer,before ++ [access]) := rfl

@[simp]
theorem environmentFile_noting (files : Files) (input : ByteArray) :
    (Host.noting files input).environmentFile = noted .environment files.environment := rfl

@[simp]
theorem settingsFile_noting (files : Files) (input : ByteArray) (path : String) :
    (Host.noting files input).settingsFile path = noted (.settings path) (files.settings path) := rfl

@[simp]
theorem openLog_noting (files : Files) (input : ByteArray) (folder : String) :
    (Host.noting files input).openLog folder = noted (.log folder) (files.opensLog folder) := rfl

@[simp]
theorem bindingsFile_noting (files : Files) (input : ByteArray) (path : String) :
    (Host.noting files input).bindingsFile path = noted (.bindings path) (files.bindings path) := rfl

@[simp]
theorem sourcesOf_noting (files : Files) (input : ByteArray) (o : Options) (before : List Access) :
    (sourcesOf (Host.noting files input) o).run before = pure (sourcesOf (m := Id) (files.host input) o,before) := by
  unfold sourcesOf
  split <;> rfl

@[simp]
theorem startLog_noting (files : Files) (input : ByteArray) (log : LogSettings) (e : Environment)
    (before : List Access) : (startLog (Host.noting files input) log e).run before =
      pure (decide (Logs files log),before ++ logAccesses log) := by
  rw [startLog_eq]
  split_ifs with fits plain
  · simp [Logs,logAccesses,fits,plain]
  · simp [Logs,logAccesses,fits,plain]
  · simp [Logs,logAccesses,fits]

/-- What a run asks for that has its settings. -/
def furnishAccesses (files : Files) (o : Options) (settings : Settings) : List Access :=
  logAccesses settings.log ++
    if Logs files settings.log then ((bindingsPath o settings).map Access.bindings).toList else []

theorem Settles.prepare_noting (settles : Settles files e o g settings) (input : ByteArray) (before : List Access) :
    (prepare (Host.noting files input) g o).run before =
      pure (furnish files o settings,before ++ .settings (configPath o g) :: furnishAccesses files o settings) := by
  rw [prepare]
  simp only [settingsFile_noting,StateT.run_bind,run_noted,pure_bind,settles.load,startLog_noting]
  rw [furnish,furnishAccesses]
  by_cases logs : Logs files settings.log
  · cases place : bindingsPath o settings with
    | none => simp [logs]
    | some path =>
      cases load : Registry.load (files.bindings path) with
      | error cause => simp [logs,load,Except.mapError,Except.map]
      | ok registry => simp [logs,load,Except.mapError,Except.map]
  · simp [logs]

theorem Settles.runs (settles : Settles files e o g settings) (asked : readArguments arguments .none = .run o)
    (input : ByteArray) : (Command.run (Host.noting files input) e arguments).run [] =
        (conclude (m := Id) (files.host input) o (furnish files o settings),
          [.environment,.settings (configPath o g)] ++ furnishAccesses files o settings) ∧
      files.outcome input e arguments = conclude (m := Id) (files.host input) o (furnish files o settings) := by
  refine ⟨?_,settles.run (m := Id) input asked⟩
  simp only [Command.run,environmentFile_noting,asked,runOptions,StateT.run_bind,run_noted,pure_bind,settles.extended,
    settles.prepare_noting]
  cases furnish files o settings with
  | error failure => rfl
  | ok prepared =>
    simp only [StateT.run_bind,sourcesOf_noting,pure_bind]
    rfl

theorem Chooses.runs {config : String} (chooses : Chooses files e o g config settings)
    (asked : readArguments arguments .none = .run o) (input : ByteArray) :
    (run (Host.noting files input) e arguments).run [] =
        (conclude (m := Id) (files.host input) o (furnish files o (settings.override g)),
          [.environment,.settings config] ++ furnishAccesses files o (settings.override g)) ∧
      files.outcome input e arguments =
        conclude (m := Id) (files.host input) o (furnish files o (settings.override g)) := by
  rw [chooses.path]
  exact chooses.settles.runs asked input

theorem Opens.runs (opens : Opens files e o accesses prepared) (asked : readArguments arguments .none = .run o)
    (input : ByteArray) : (run (Host.noting files input) e arguments).run [] =
        (conclude (m := Id) (files.host input) o prepared,accesses) ∧
      files.outcome input e arguments = conclude (m := Id) (files.host input) o prepared := by
  cases opens with
  | noEnvironment stuck =>
    refine ⟨?_,run_stuck (m := Id) input stuck⟩
    simp only [run,environmentFile_noting,StateT.run_bind,run_noted,pure_bind,stuck]
    rfl
  | @badSettings g config cause extended chosen present broken =>
    obtain rfl := Option.some.inj (chosen.symm.trans (firstOf_configPaths extended))
    have load : Settings.loadOrStandard _ g = _ := Settings.loadOrStandard_eq_error.mpr ⟨present,broken⟩
    refine ⟨?_,run_unsettled (m := Id) input asked extended load⟩
    simp only [run,environmentFile_noting,asked,runOptions,prepare,settingsFile_noting,StateT.run_bind,run_noted,
      pure_bind,extended,load]
    rfl
  | noLog chooses silent =>
    have runs := chooses.runs asked input
    rwa [furnishAccesses,if_neg silent,List.append_nil,furnish_silent silent] at runs
  | noBindings chooses logs nowhere =>
    rw [firstOf_bindingsPaths chooses.extended] at nowhere
    have runs := chooses.runs asked input
    rwa [furnishAccesses,if_pos logs,nowhere,Option.map_none,Option.toList_none,List.append_nil,
      furnish_nowhere logs nowhere] at runs
  | badBindings chooses logs place broken =>
    rw [firstOf_bindingsPaths chooses.extended] at place
    have runs := chooses.runs asked input
    rwa [furnishAccesses,if_pos logs,place,Option.map_some,Option.toList_some,← List.append_assoc,
      furnish_broken logs place broken] at runs
  | ready chooses logs place bound =>
    rw [firstOf_bindingsPaths chooses.extended] at place
    have ready : Ready files e o _ _ := ⟨⟨_,chooses.settles⟩,logs,_,place,bound⟩
    have runs := chooses.runs asked input
    rwa [furnishAccesses,if_pos logs,place,Option.map_some,Option.toList_some,← List.append_assoc,ready.furnish] at runs

theorem Opens.outcome (opens : Opens files e o accesses prepared) (asked : readArguments arguments .none = .run o)
    (input : ByteArray) : files.outcome input e arguments = conclude (m := Id) (files.host input) o prepared :=
  (opens.runs asked input).2

/-! ### Runs side by side -/

theorem readSources_congr {s t : Settings} (namespaces : s.namespaces = t.namespaces)
    (declaredType : s.declaredType = t.declaredType) (sources : List String) :
    readSources s sources = readSources t sources := by
  induction sources with
  | nil => rfl
  | cons source rest ih => rw [readSources,readSources,namespaces,declaredType,ih]

theorem answerGiven_congr {s t : Settings} (namespaces : s.namespaces = t.namespaces)
    (declaredType : s.declaredType = t.declaredType) (conjoin : Bool) (registry : Registry)
    (given : Except Failure (List String)) :
    answerGiven conjoin s registry given = answerGiven conjoin t registry given := by
  cases given with
  | error failure => rfl
  | ok sources => rw [answerGiven,answerGiven,answer,answer,readSources_congr namespaces declaredType]

theorem exitCode_answer_le (conjoin : Bool) (settings : Settings) (registry : Registry) (sources : List String) :
    (answer conjoin settings registry sources).exitCode ≤ 1 := by
  by_cases none : sources = []
  · subst none
    cases conjoin <;>
      simp [answer,readSources,answerEach,answerConjoined,Sql.conditionOfAll,Outcome.exitCode,Failure.exitCode]
  · obtain ⟨verdict,judged⟩ := exists_judged settings registry sources
    have seen := judged.seen none default conjoin
    cases conjoin <;> cases verdict <;> rw [seen.exitCode] <;> decide

theorem exitCode_answerGiven_le (conjoin : Bool) (settings : Settings) (registry : Registry) (files : Files)
    (input : ByteArray) (o : Options) :
    (answerGiven conjoin settings registry (sourcesOf (m := Id) (files.host input) o)).exitCode ≤ 1 := by
  rw [sourcesOf_id]
  split
  · rw [inputSources]
    cases textOfBytes input with
    | error cause => exact le_rfl
    | ok text => exact exitCode_answer_le _ _ _ _
  · exact exitCode_answer_le _ _ _ _

/-- A run that has its settings breaks off only for its log. -/
theorem Settles.exitCode_le_iff (settles : Settles files e o g settings)
    (asked : readArguments arguments .none = .run o) (input : ByteArray) :
    (files.outcome input e arguments).exitCode ≤ 1 ↔ Logs files settings.log := by
  have ended := (settles.runs asked input).2
  by_cases logs : Logs files settings.log
  · refine iff_of_true ?_ logs
    cases place : bindingsPath o settings with
    | none =>
      rw [ended,furnish_nowhere logs place]
      exact le_rfl
    | some path =>
      cases load : Registry.load (files.bindings path) with
      | error cause =>
        rw [ended,furnish_broken logs place load]
        exact le_rfl
      | ok registry =>
        have ready : Ready files e o settings registry := ⟨⟨_,settles⟩,logs,_,place,load⟩
        rw [ready.outcome asked]
        exact exitCode_answerGiven_le _ _ _ _ _ _
  · rw [ended,furnish_silent logs]
    exact iff_of_false (show ¬ 101 ≤ 1 by decide) logs

/-- Two runs whose settings are alike in what has a part in the answer. The paths of their bindings may differ behind
the first that is there, and its file is the same. -/
structure Undisturbed (files others : Files) (e f : Environment) (o p : Options) (settings changed : Settings) :
    Prop where
  first : ∃ g config, Chooses files e o g config settings
  second : ∃ h config, Chooses others f p h config changed
  namespaces : changed.namespaces = settings.namespaces
  declaredType : changed.declaredType = settings.declaredType
  alike : Alike (bindingsPaths files e o settings) (bindingsPaths others f p changed)
  bindings : ∀ path, firstOf (bindingsPaths files e o settings) = some path → others.bindings path = files.bindings path
  sources : p.sources = o.sources
  conjoin : p.conjoin = o.conjoin

/-- The log starts with these settings, where variables come first. -/
def Starts (files : Files) (e : Environment) (settings : Settings) : Prop :=
  ∃ g, Environment.File.extend e files.environment = some g ∧ Logs files (settings.override g).log

theorem Chooses.starts_iff {config : String} (chooses : Chooses files e o g config settings) :
    Starts files e settings ↔ Logs files (settings.override g).log := by
  constructor
  · rintro ⟨other,extended,logs⟩
    rwa [Option.some.inj (chooses.extended.symm.trans extended)]
  · exact fun logs => ⟨g,chooses.extended,logs⟩

theorem Chooses.exitCode_le_iff {config : String} (chooses : Chooses files e o g config settings)
    (asked : readArguments arguments .none = .run o) (input : ByteArray) :
    (files.outcome input e arguments).exitCode ≤ 1 ↔ Starts files e settings :=
  (chooses.settles.exitCode_le_iff asked input).trans chooses.starts_iff.symm

section
variable {changes : List String} (same : Undisturbed files others e f o p settings changed)
variable (asked : readArguments arguments .none = .run o) (anew : readArguments changes .none = .run p)
include same asked anew

theorem Undisturbed.outcome_eq_iff (input : ByteArray) :
    others.outcome input f changes = files.outcome input e arguments ↔
      (Starts others f changed ↔ Starts files e settings) := by
  obtain ⟨g,config,chooses⟩ := same.first
  obtain ⟨h,another,elsewhere⟩ := same.second
  constructor
  · intro equal
    rw [← elsewhere.exitCode_le_iff anew input,equal,chooses.exitCode_le_iff asked]
  · intro starts
    rw [elsewhere.starts_iff,chooses.starts_iff] at starts
    have next := same.alike.firstOf_eq
    by_cases logs : Logs files (settings.override g).log
    · have others := starts.mpr logs
      cases place : firstOf (bindingsPaths files e o settings) with
      | none =>
        rw [place] at next
        rw [(Opens.noBindings chooses logs place).outcome asked,
          (Opens.noBindings elsewhere others next).outcome anew]
        rfl
      | some path =>
        rw [place] at next
        have file := same.bindings path place
        cases load : Registry.load (files.bindings path) with
        | error cause =>
          rw [(Opens.badBindings chooses logs place load).outcome asked,
            (Opens.badBindings elsewhere others next (file ▸ load)).outcome anew]
          rfl
        | ok registry =>
          rw [(Opens.ready chooses logs place load).outcome asked,
            (Opens.ready elsewhere others next (file ▸ load)).outcome anew]
          rw [conclude,conclude,sourcesOf_id,sourcesOf_id,same.sources,same.conjoin]
          -- The variables override nothing that the answer depends on.
          exact answerGiven_congr (s := changed.override h) (t := settings.override g) same.namespaces same.declaredType
            o.conjoin registry _
    · rw [(Opens.noLog chooses logs).outcome asked,
        (Opens.noLog elsewhere (mt starts.mp logs)).outcome anew]
      rfl

end

/-- Arguments that ask for no run are answered whatever the files are. Only the help shows a variable. -/
theorem run_unasked (unasked : ∀ o, readArguments arguments .none ≠ .run o) : ∃ outcome : Option String → Outcome,
    (readArguments arguments .none ≠ .help → ∀ value other, outcome value = outcome other) ∧
    ∀ files e g input, Environment.File.extend e files.environment = some g →
      (run (Host.noting files input) e arguments).run [] = (outcome (g.get? configVariable),[.environment]) ∧
      files.outcome input e arguments = outcome (g.get? configVariable) := by
  cases request : readArguments arguments .none with
  | run o => exact absurd request (unasked o)
  | misuse =>
    refine ⟨fun _ => ⟨[],some .misuse⟩,fun _ _ _ => rfl,fun files e g input extended => ?_⟩
    simp only [Files.outcome,run,environmentFile_noting,Files.host,request,extended,StateT.run_bind,run_noted,pure_bind]
    exact ⟨rfl,rfl⟩
  | version =>
    refine ⟨fun _ => ⟨[versionLine],none⟩,fun _ _ _ => rfl,fun files e g input extended => ?_⟩
    simp only [Files.outcome,run,environmentFile_noting,Files.host,request,extended,StateT.run_bind,run_noted,pure_bind]
    exact ⟨rfl,rfl⟩
  | help =>
    refine ⟨fun value => ⟨helpLines value,none⟩,fun other => absurd rfl other,fun files e g input extended => ?_⟩
    simp only [Files.outcome,run,environmentFile_noting,Files.host,request,extended,StateT.run_bind,run_noted,pure_bind]
    exact ⟨rfl,rfl⟩

/-- A run asks for its environment file, the first of its paths for settings, the folder of its log if there is one and
the first of its paths for bindings, and nothing but what these say decides about it. Other paths behind these, other
settings of the bindings' path and other variables leave it as it is, if and only if its log starts with them as it did
without them. Only an assignment that cannot be made keeps a run from all of this. -/
theorem run_precedence (files : Files) (e : Environment) (arguments : List String) (input : ByteArray) :
    (Environment.File.extend e files.environment = none ↔
      Environment.File.Spoils e (Environment.File.made e files.environment)) ∧
    (∀ o, readArguments arguments .none = .run o →
      (∃ accesses prepared, Opens files e o accesses prepared) ∧
      (∀ accesses prepared, Opens files e o accesses prepared →
        (run (Host.noting files input) e arguments).run [] =
          (conclude (m := Id) (files.host input) o prepared,accesses) ∧
        files.outcome input e arguments = conclude (m := Id) (files.host input) o prepared) ∧
      ∀ others f changes p settings changed, readArguments changes .none = .run p →
        Undisturbed files others e f o p settings changed →
        (others.outcome input f changes = files.outcome input e arguments ↔
          (Starts others f changed ↔ Starts files e settings))) ∧
    ((∀ o, readArguments arguments .none ≠ .run o) → ∃ outcome : Option String → Outcome,
      (readArguments arguments .none ≠ .help → ∀ value other, outcome value = outcome other) ∧
      ∀ others f g other, Environment.File.extend f others.environment = some g →
        (run (Host.noting others other) f arguments).run [] = (outcome (g.get? configVariable),[.environment]) ∧
        others.outcome other f arguments = outcome (g.get? configVariable)) := by
  refine ⟨Environment.File.extend_eq_none,fun o asked => ⟨exists_opens files e o,?_,?_⟩,run_unasked⟩
  · intro accesses prepared opens
    exact opens.runs asked input
  · intro others f changes p settings changed anew same
    exact same.outcome_eq_iff asked anew input

end

def layeredFile : FileState := .regular "GEOFILTER_PROPERTIES=streets.yaml\n".toUTF8

def layeredEnvironment : Environment := NameMap.empty.insert Settings.pathVariable "streets.yaml"

def layered (config : FileState) : Files where
  environment := layeredFile
  settings path := if path = "config.yaml" then config else streetFile path
  opensLog _ := false
  bindings := streetFile

def lakeText : String := "resolver:\n  properties: lakes.yaml\n"

def lakes : Settings := ⟨some "lakes.yaml",.empty,.unknown,.standard⟩

def boxOptions : Options := ⟨[boxSource],none,none,false⟩

section
variable {config : FileState} {written : Settings}

theorem made_layered : Environment.File.made .empty layeredFile = [("GEOFILTER_PROPERTIES","streets.yaml")] := by
  decide +kernel

theorem lakes_given : Settings.Given (.regular lakeText.toUTF8) lakes :=
  .written ⟨lakeText,textOfBytes_toUTF8 lakeText,by decide +kernel⟩

theorem chooses_layered (given : Settings.Given config written) :
    Chooses (layered config) .empty boxOptions layeredEnvironment "config.yaml" written where
  extended := by
    have extended : Environment.File.extend .empty layeredFile = some layeredEnvironment := by decide +kernel
    exact extended
  chosen := by
    have chosen : firstOf [none,none,List.lookup configVariable [("GEOFILTER_PROPERTIES","streets.yaml")],
        some "config.yaml"] = some "config.yaml" := by decide +kernel
    rwa [← made_layered] at chosen
  given := given

theorem bindingsPaths_layered (config : FileState) (settings : Settings) :
    bindingsPaths (layered config) .empty boxOptions settings =
      [none,none,some "streets.yaml",settings.registryPath] := by
  rw [bindingsPaths,layered,made_layered]
  rfl

theorem opens_layered (given : Settings.Given config written) (plain : written.log = .standard) :
    Opens (layered config) .empty boxOptions [.environment,.settings "config.yaml",.bindings "streets.yaml"]
      (.ok (written.override layeredEnvironment,streets)) := by
  have place : firstOf (bindingsPaths (layered config) .empty boxOptions written) = some "streets.yaml" := by
    rw [bindingsPaths_layered]
    rfl
  have log : (written.override layeredEnvironment).log = .standard := by
    change written.log.override layeredEnvironment = .standard
    rw [plain]
    decide +kernel
  have logs : Logs (layered config) (written.override layeredEnvironment).log := by
    rw [log]
    exact ⟨by decide +kernel,.inl rfl⟩
  have none : logAccesses (written.override layeredEnvironment).log = [] := by
    rw [log]
    decide +kernel
  have opens := Opens.ready (chooses_layered given) logs place streets_load
  rwa [none,List.append_nil] at opens

end

/-- The environment file comes before the settings, whether they name bindings or are missing. -/
theorem run_precedence_layered :
    ((run (Host.noting (layered (.regular lakeText.toUTF8)) .empty) .empty [boxSource]).run []).2 =
      [.environment,.settings "config.yaml",.bindings "streets.yaml"] ∧
    (layered .missing).outcome .empty .empty [boxSource] =
      (layered (.regular lakeText.toUTF8)).outcome .empty .empty [boxSource] ∧
    ∀ wording, Ends wording ((layered (.regular lakeText.toUTF8)).outcome .empty .empty [boxSource])
      [boxedStreets.jsonText] 0 none := by
  have asked : readArguments [boxSource] .none = .run boxOptions := by decide +kernel
  have absent : Settings.Given .missing .standard := .missing rfl
  have same : Undisturbed (layered (.regular lakeText.toUTF8)) (layered .missing) .empty .empty boxOptions boxOptions
      lakes .standard := by
    refine ⟨⟨_,_,chooses_layered lakes_given⟩,⟨_,_,chooses_layered absent⟩,rfl,rfl,?_,fun _ _ => rfl,rfl,rfl⟩
    rw [bindingsPaths_layered,bindingsPaths_layered]
    exact .none (.none .some)
  have starts : Starts (layered .missing) .empty .standard ↔
      Starts (layered (.regular lakeText.toUTF8)) .empty lakes := by
    rw [(chooses_layered absent).starts_iff,(chooses_layered lakes_given).starts_iff]
    exact .rfl
  obtain ⟨-,opened,undisturbed⟩ := (run_precedence _ .empty [boxSource] .empty).2.1 _ asked
  have noted := opened _ _ (opens_layered lakes_given rfl)
  have again := (undisturbed _ _ _ _ _ _ asked same).mpr starts
  have judged : Judged (lakes.override layeredEnvironment) streets [boxSource] (.translated [boxedStreets]) :=
    .translated (.cons (streets_translated rfl rfl) .nil)
  refine ⟨by rw [noted.1],again,fun wording => ?_⟩
  rw [noted.2]
  exact judged.seen (by simp) wording false

/-- As `takenFolder`, but the log stays where it is. -/
def plainFolder : Folder :=
  .ofEntries [("taken",.regular .empty),("streets.yaml",.regular streetText.toUTF8)]

def namedEnvironment : Environment := NameMap.empty.insert configVariable "lakes.yaml"

/-- The file assigns what no variable can hold. -/
def spoiltFiles : Files := { streetFiles with environment := .regular "A=\x00\n".toUTF8 }

/-- The bindings come from an argument and the settings agree but for their log, and yet one of the runs breaks off. So
does one with an assignment that cannot be made. The help shows a variable where an argument comes before it. -/
theorem run_disturbed :
    (∃ o, readArguments ["--properties","streets.yaml",boxSource] .none = .run o ∧
      Undisturbed plainFolder.files takenFolder.files .empty .empty o o .standard fileLogged) ∧
    (∀ wording, Ends wording (plainFolder.files.outcome .empty .empty ["--properties","streets.yaml",boxSource])
      [boxedStreets.jsonText] 0 none) ∧
    (∀ wording, Ends wording (takenFolder.files.outcome .empty .empty ["--properties","streets.yaml",boxSource])
      [] 101 none) ∧
    (∀ wording, Ends wording (streetFiles.outcome .empty .empty ["--properties","streets.yaml",boxSource])
      [boxedStreets.jsonText] 0 none) ∧
    (∀ wording, Ends wording (spoiltFiles.outcome .empty .empty ["--properties","streets.yaml",boxSource])
      [] 101 none) ∧
    (noFiles.outcome .empty .empty ["--config","streets.yaml","--help"]).lines ≠
      (noFiles.outcome .empty namedEnvironment ["--config","streets.yaml","--help"]).lines := by
  have asked : readArguments ["--properties","streets.yaml",boxSource] .none =
      .run ⟨[boxSource],none,some "streets.yaml",false⟩ := by decide +kernel
  have judged : Judged .standard streets [boxSource] (.translated [boxedStreets]) :=
    .translated (.cons (streets_translated rfl rfl) .nil)
  have config : plainFolder.find "config.yaml" = .missing := by rfl
  have bindings : plainFolder.find "streets.yaml" = .regular streetText.toUTF8 := by rfl
  have ready : Ready plainFolder.files .empty ⟨[boxSource],none,some "streets.yaml",false⟩ .standard streets := by
    refine ⟨⟨.empty,rfl,?_⟩,by decide +kernel,_,rfl,?_⟩
    · change Settings.loadOrStandard (plainFolder.find "config.yaml") .empty = _
      rw [config]
      decide +kernel
    · change Registry.load (plainFolder.find "streets.yaml") = _
      rw [bindings,streetText_load]
  have plain : Chooses plainFolder.files .empty ⟨[boxSource],none,some "streets.yaml",false⟩ .empty "config.yaml"
      .standard := ⟨rfl,by decide +kernel,.missing (congrArg FileState.doesExist config)⟩
  have taken : Chooses takenFolder.files .empty ⟨[boxSource],none,some "streets.yaml",false⟩ .empty "config.yaml"
      fileLogged := ⟨rfl,by decide +kernel,fileLogged_given⟩
  have same : ∀ path, some "streets.yaml" = some path →
      takenFolder.files.bindings path = plainFolder.files.bindings path := by
    rintro path ⟨⟩
    rfl
  refine ⟨⟨_,asked,⟨_,_,plain⟩,⟨_,_,taken⟩,rfl,rfl,.some,same,rfl,rfl⟩,fun wording => ?_,takenFolder_ends asked,
    fun wording => ?_,fun wording => ?_,?_⟩
  · rw [ready.outcome asked]
    exact judged.seen (by simp) wording false
  · rw [(streets_ready [boxSource] false).outcome asked]
    exact judged.seen (by simp) wording false
  · have stuck : Environment.File.extend .empty spoiltFiles.environment = none := by decide +kernel
    have broken (arguments : List String) : spoiltFiles.outcome .empty .empty arguments = ⟨[],some .environment⟩ :=
      run_stuck (m := Id) .empty stuck
    rw [broken]
    exact ⟨rfl,rfl,rfl⟩
  · decide +kernel

end SpatialFilter.Command
