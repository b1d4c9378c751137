import SpatialFilter.Command.Folder
import SpatialFilter.Proofs.Command.Verdict
import SpatialFilter.Proofs.Sql.Json

/-! The stages of a run, one after the other. A stage that fails leaves nothing to those behind it, and what it
failed on is in the report. The log is the exception: a run whose log does not start breaks off without a report. -/
namespace SpatialFilter.Command
variable {files : Files} {e : Environment} {arguments : List String} {o : Options}

theorem Ready.outcome (asked : readArguments arguments .none = .run o) {settings : Settings} {registry : Registry}
    (ready : Ready files e o settings registry) (input : ByteArray) : files.outcome input e arguments =
      answerGiven o.conjoin settings registry (sourcesOf (m := Id) (files.host input) o) :=
  ready.run asked (m := Id) input

theorem Verdict.Seen.line {wording : Wording} {outcome : Outcome} {conjoin : Bool} {verdict : Verdict}
    (seen : verdict.Seen wording outcome conjoin) : ∀ line ∈ outcome.lines, ∃ c : Condition, c.jsonText = line := by
  cases conjoin <;> cases verdict <;> rw [seen.lines] <;> simp

/-- Environment, settings, log, path and bindings fail in this order, whatever the sources are and before the input is
read. With all of them in place, the first source that cannot be read leaves nothing written. Where all can be read,
the lines are those of the conditions before the first that is missing, or the one of all. -/
theorem run_stages (wording : Wording) (asked : readArguments arguments .none = .run o) :
    (∃ prepared, Prepares wording files e o prepared) ∧
    (∀ fault, Prepares wording files e o (.error fault) →
      ∃ outcome, Ends wording outcome [] fault.exitCode fault.report ∧ ∀ others other,
        readArguments others .none = .run other → SamePaths o other →
        ∀ {m : Type → Type} [Monad m] [LawfulMonad m] (input : m ByteArray),
          run (files.host input) e others = pure outcome) ∧
    ∀ settings registry, Prepares wording files e o (.ok (settings,registry)) →
      ∀ input sources, sourcesOf (m := Id) (files.host input) o = .ok sources → sources ≠ [] →
        (∃ verdict, Judged settings registry sources verdict) ∧
        (∀ verdict, Judged settings registry sources verdict →
          verdict.Seen wording (files.outcome input e arguments) o.conjoin) ∧
        ∀ line ∈ (files.outcome input e arguments).lines, '\n' ∉ line.toList := by
  refine ⟨exists_prepares _ _ _ _,fun fault => Prepares.failed,?_⟩
  intro settings registry prepares input sources given some
  have answered := prepares.all.outcome asked input
  rw [given] at answered
  obtain ⟨verdict,judged⟩ := exists_judged settings registry sources
  rw [answered]
  refine ⟨⟨verdict,judged⟩,fun verdict judged => judged.seen some wording o.conjoin,fun line member => ?_⟩
  obtain ⟨c,rfl⟩ := (judged.seen some wording o.conjoin).line line member
  exact c.newline_not_mem_jsonText

def streetText : String := "properties:\n- name: geom\n  table: roads\n  column: geom\n"

/-- The bindings of a single layer, and nothing else. -/
def streetFile (path : String) : FileState :=
  if path = "streets.yaml" then .regular streetText.toUTF8 else .missing

def streetFiles : Files := ⟨.missing,streetFile,fun _ => false,streetFile⟩

def streets : Registry := .ofList [⟨"geom",none,"roads","geom",none,[]⟩]

theorem streetText_load : Registry.load (.regular streetText.toUTF8) = .ok streets := by
  have text : textOfBytes streetText.toUTF8 = .ok streetText := textOfBytes_toUTF8 streetText
  have groups : (Registry.ofYamlText? streetText).map (·.groups) = some streets.groups := by decide +kernel
  obtain ⟨registry,read,same⟩ := Option.map_eq_some_iff.mp groups
  have whole : registry = streets := congrArg Registry.mk same
  rw [Registry.load,FileState.load,FileState.text,text]
  simp only [read,whole]

theorem streets_load : Registry.load (streetFile "streets.yaml") = .ok streets := by
  rw [streetFile,if_pos rfl,streetText_load]

theorem streets_ready (sources : List String) (conjoin : Bool) :
    Ready streetFiles .empty ⟨sources,none,some "streets.yaml",conjoin⟩ .standard streets where
  settles := by
    have load : Settings.loadOrStandard .missing .empty = .ok .standard := by decide +kernel
    exact ⟨.empty,rfl,load⟩
  logs := by decide +kernel
  bound := ⟨_,rfl,streets_load⟩

def boxSource : String := "BBOX(geom, ENVELOPE(0 0, 1 1))"

/-- The second predicate asks for what is not bound. -/
def streetSources : List String := [boxSource,"BBOX(line, ENVELOPE(0 0, 1 1))"]

def boxed (name : String) : Predicate :=
  ⟨.bbox,[.property ⟨name,.empty,.unknown⟩,.geometry (.envelope [.int 0,.int 0] [.int 1,.int 1])],none⟩

def boxedStreets : Condition :=
  ⟨"roads.geom && SetSRID('BOX3D( 0 0 ,1 1  )'::box3d, 4326)",.ofNames ["roads"],.ofNames ["geom"]⟩

theorem streets_translated {settings : Settings} (namespaces : settings.namespaces = .empty)
    (declaredType : settings.declaredType = .unknown) : Translates settings streets boxSource boxedStreets := by
  refine ⟨boxed "geom",?_,by decide +kernel⟩
  rw [Reads,namespaces,declaredType]
  decide +kernel

def noFiles : Files := ⟨.missing,fun _ => .missing,fun _ => false,fun _ => .missing⟩

/-- The first line is there, and without the file there is nothing. -/
theorem run_stages_streets :
    readArguments ("--properties" :: "streets.yaml" :: streetSources) .none =
      .run ⟨streetSources,none,some "streets.yaml",false⟩ ∧
    (∀ wording, Ends wording (streetFiles.outcome .empty .empty ("--properties" :: "streets.yaml" :: streetSources))
      [boxedStreets.jsonText] 1
      (some ⟨"Failed to translate predicate: BBOX(line, ENVELOPE(0 0, 1 1))",["Unknown property: line"]⟩)) ∧
    ∀ wording, ∃ outcome, Ends wording outcome [] 1 (some ⟨"Failed to load property bindings from streets.yaml",
        ["Failed to read property file: No such file or directory (os error 2)",
          "No such file or directory (os error 2)"]⟩) ∧
      ∀ {m : Type → Type} [Monad m] [LawfulMonad m] (input : m ByteArray),
        run (noFiles.host input) .empty ("--properties" :: "streets.yaml" :: streetSources) =
          pure outcome := by
  have asked : readArguments ("--properties" :: "streets.yaml" :: streetSources) .none =
      .run ⟨streetSources,none,some "streets.yaml",false⟩ := by decide +kernel
  refine ⟨asked,fun wording => ?_,fun wording => ?_⟩
  · have refuses : Refuses .standard streets "BBOX(line, ENVELOPE(0 0, 1 1))" (.resolution (.unknownProperty "line")) :=
      ⟨boxed "line",by decide +kernel,by decide +kernel⟩
    have judged : Judged .standard streets ([boxSource] ++ ["BBOX(line, ENVELOPE(0 0, 1 1))"])
        (.refused [boxedStreets] _ _) := .refused (.cons (streets_translated rfl rfl) .nil) refuses (by simp)
    obtain ⟨-,seen,-⟩ := (run_stages wording asked).2.2 _ _ (.ready (streets_ready streetSources false)) .empty
      streetSources rfl (by decide)
    exact seen _ judged
  · have settles : Settles noFiles .empty ⟨streetSources,none,some "streets.yaml",false⟩ .empty .standard :=
      ⟨rfl,by decide +kernel⟩
    have broken : Registry.load (noFiles.bindings "streets.yaml") = .error (.unreadable .missing) := rfl
    obtain ⟨outcome,ends,same⟩ := (run_stages wording asked).2.1 _
      (.badBindings settles (by decide +kernel) rfl broken)
    exact ⟨outcome,ends,fun input => same _ _ asked ⟨rfl,rfl⟩ input⟩

def fileLogText : String :=
  "logging:\n  level: warn\n  format: compact\n  output: file\n  directory: taken\n"

/-- The log is to go to a folder, but its path leads to a file. -/
def takenFolder : Folder :=
  .ofEntries [("config.yaml",.regular fileLogText.toUTF8),("taken",.regular .empty),
    ("streets.yaml",.regular streetText.toUTF8)]

def fileLogged : Settings := { Settings.standard with log := ⟨"warn","compact","file","taken"⟩ }

theorem fileLogged_given : Settings.Given (takenFolder.find "config.yaml") fileLogged := by
  have config : takenFolder.find "config.yaml" = .regular fileLogText.toUTF8 := by rfl
  rw [config]
  exact .written ⟨fileLogText,textOfBytes_toUTF8 fileLogText,by decide +kernel⟩

theorem fileLogged_load : Settings.loadOrStandard (takenFolder.find "config.yaml") .empty = .ok fileLogged :=
  Settings.loadOrStandard_eq_ok.mpr ⟨fileLogged,fileLogged_given,by decide +kernel⟩

theorem takenFolder_ends (asked : readArguments arguments .none = .run ⟨[boxSource],none,some "streets.yaml",false⟩)
    (wording : Wording) : Ends wording (takenFolder.files.outcome .empty .empty arguments) [] 101 none := by
  have settles : Settles takenFolder.files .empty ⟨[boxSource],none,some "streets.yaml",false⟩ .empty fileLogged :=
    ⟨rfl,fileLogged_load⟩
  have silent : ¬ Logs takenFolder.files fileLogged.log := by decide +kernel
  have prepares : Prepares wording takenFolder.files .empty ⟨[boxSource],none,some "streets.yaml",false⟩
      (.error ⟨101,none⟩) := .noLog settles silent
  obtain ⟨outcome,ends,same⟩ := prepares.failed
  have broken : takenFolder.files.outcome .empty .empty arguments = outcome := same _ _ asked ⟨rfl,rfl⟩ (m := Id) .empty
  rw [broken]
  exact ends

/-- Settings and bindings can be loaded and the source has a condition, but no line shows it: the run breaks off. -/
theorem run_unlogged :
    readArguments ["--properties","streets.yaml",boxSource] .none = .run ⟨[boxSource],none,some "streets.yaml",false⟩ ∧
    Settings.loadOrStandard (takenFolder.find "config.yaml") .empty = .ok fileLogged ∧
    Registry.load (takenFolder.find "streets.yaml") = .ok streets ∧
    Judged fileLogged streets [boxSource] (.translated [boxedStreets]) ∧
    (∀ wording, Ends wording (takenFolder.files.outcome .empty .empty ["--properties","streets.yaml",boxSource])
      [] 101 none) ∧
    ∀ wording, ¬ Verdict.Seen wording (takenFolder.files.outcome .empty .empty ["--properties","streets.yaml",boxSource])
      false (.translated [boxedStreets]) := by
  have asked : readArguments ["--properties","streets.yaml",boxSource] .none =
      .run ⟨[boxSource],none,some "streets.yaml",false⟩ := by decide +kernel
  have bindings : takenFolder.find "streets.yaml" = .regular streetText.toUTF8 := by rfl
  have ends := takenFolder_ends asked
  refine ⟨asked,fileLogged_load,?_,.translated (.cons (streets_translated rfl rfl) .nil),ends,?_⟩
  · rw [bindings,streetText_load]
  · intro wording seen
    have failed := (ends wording).exitCode
    rw [seen.exitCode] at failed
    cases failed

end SpatialFilter.Command
