import SpatialFilter.Settings
import SpatialFilter.Proofs.NameMap

/-! Settings and the variables that override them. What a run logs by goes back to the variables that it may come
from. After that, settings that are loaded from any file log alike, and what is exported again is there already. -/
namespace SpatialFilter

namespace LogSettings
variable {s : LogSettings} {e : Environment} {name : String}

def ownVariables : List String := [levelVariable,formatVariable,outputVariable,directoryVariable]

/-- The variables have the values of the settings. -/
structure Shown (s : LogSettings) (e : Environment) : Prop where
  level : e.get? levelVariable = some s.level
  format : e.get? formatVariable = some s.format
  output : e.get? outputVariable = some s.output
  directory : e.get? directoryVariable = some s.directory

theorem exportTo_shown (s : LogSettings) (e : Environment) : Shown s (s.exportTo e) where
  level := by
    rw [exportTo,NameMap.get?_insert_of_ne _ (by decide),NameMap.get?_insert_of_ne _ (by decide),
      NameMap.get?_insert_of_ne _ (by decide),NameMap.get?_insert_self]
  format := by
    rw [exportTo,NameMap.get?_insert_of_ne _ (by decide),NameMap.get?_insert_of_ne _ (by decide),
      NameMap.get?_insert_self]
  output := by rw [exportTo,NameMap.get?_insert_of_ne _ (by decide),NameMap.get?_insert_self]
  directory := NameMap.get?_insert_self _

theorem get?_exportTo_of_not_mem (s : LogSettings) (e : Environment) (other : name ∉ ownVariables) :
    (s.exportTo e).get? name = e.get? name := by
  simp only [ownVariables,List.mem_cons,List.not_mem_nil,or_false,not_or] at other
  obtain ⟨level,format,output,directory⟩ := other
  rw [exportTo,NameMap.get?_insert_of_ne _ directory,NameMap.get?_insert_of_ne _ output,
    NameMap.get?_insert_of_ne _ format,NameMap.get?_insert_of_ne _ level]

theorem Shown.override_eq (shown : Shown s e) (t : LogSettings) : t.override e = s := by
  rw [override,shown.level,shown.format,shown.output,shown.directory]
  rfl

theorem Shown.exportTo_eq (shown : Shown s e) : s.exportTo e = e := by
  have again := exportTo_shown s e
  apply NameMap.ext_get?
  intro name
  by_cases own : name ∈ ownVariables
  · simp only [ownVariables,List.mem_cons,List.not_mem_nil,or_false] at own
    rcases own with rfl | rfl | rfl | rfl
    · rw [again.level,shown.level]
    · rw [again.format,shown.format]
    · rw [again.output,shown.output]
    · rw [again.directory,shown.directory]
  · exact get?_exportTo_of_not_mem s e own

end LogSettings

def LogFormat.ofWord : String → LogFormat
  | "json" => json
  | "pretty" => pretty
  | _ => compact

def LogOutput.ofWord : String → LogOutput
  | "file" => file
  | "both" => both
  | _ => stderr

section Words
variable {s : LogSettings} {e : Environment}

theorem LogFormat.ofEnvironment_of_shown (shown : s.Shown e) : ofEnvironment e = ofWord s.format := by
  unfold ofEnvironment ofWord
  rw [shown.format]
  split <;> split <;> simp_all

theorem LogOutput.ofEnvironment_of_shown (shown : s.Shown e) : ofEnvironment e = ofWord s.output := by
  unfold ofEnvironment ofWord
  rw [shown.output]
  split <;> split <;> simp_all

end Words

namespace Settings
variable {file : FileState} {e : Environment} {settings : Settings}

/-- The settings that the text of a file gives, before any variable. -/
def Written (file : FileState) (written : Settings) : Prop :=
  ∃ text, file.text = .ok text ∧ ofYamlText? text = some written

theorem load_eq_ok : load file e = .ok settings ↔ ∃ written, Written file written ∧ written.override e = settings := by
  rw [load,FileState.load]
  cases content : file.text with
  | error cause => simp [Except.map,Written,content]
  | ok text => cases read : ofYamlText? text <;> simp [Except.map,Written,content,read]

theorem load_of_written {written : Settings} (given : Written file written) (e : Environment) :
    load file e = .ok (written.override e) :=
  load_eq_ok.mpr ⟨written,given,rfl⟩

/-- A file that does not exist is as good as one with the standard settings. -/
inductive Given (file : FileState) : Settings → Prop where
  | written {settings : Settings} (text : Written file settings) : Given file settings
  | missing (absent : file.doesExist = false) : Given file standard

theorem Written.doesExist (text : Written file settings) : file.doesExist = true := by
  obtain ⟨content,readable,-⟩ := text
  cases file with
  | directory => rfl
  | regular => rfl
  | _ => cases readable

theorem loadOrStandard_eq_ok :
    loadOrStandard file e = .ok settings ↔ ∃ given, Given file given ∧ given.override e = settings := by
  rw [loadOrStandard]
  split
  · rename_i present
    rw [load_eq_ok]
    refine exists_congr fun given => and_congr_left fun _ => ⟨.written,fun given => ?_⟩
    cases given with
    | written text => exact text
    | missing absent => simp [absent] at present
  · rename_i absent
    constructor
    · rintro ⟨⟩
      exact ⟨standard,.missing (by simpa using absent),rfl⟩
    · rintro ⟨given,(text | _),rfl⟩
      · exact absurd text.doesExist absent
      · rfl

theorem loadOrStandard_eq_error {cause : LoadError} :
    loadOrStandard file e = .error cause ↔ file.doesExist = true ∧ file.load ofYamlText? = .error cause := by
  rw [loadOrStandard,load]
  split
  · rename_i present
    cases file.load ofYamlText? <;> simp [Except.map,present]
  · rename_i absent
    simp [absent]

theorem override_exportTo (written : Settings) (e : Environment) :
    written.override ((written.override e).log.exportTo e) = written.override e := by
  have shown := (written.override e).log.exportTo_shown e
  have apart : pathVariable ∉ LogSettings.ownVariables := by decide
  have place := (written.override e).log.get?_exportTo_of_not_mem e apart
  rw [override,shown.override_eq,place]
  rfl

/-- The logging settings that were loaded are in the variables, and no other variable changes. The same file then gives
the same settings, and any file, or none, the same logging. What a file says of qualifiers and types is what is loaded,
whatever the variables are. -/
theorem load_exportTo (loads : load file e = .ok settings) :
    (settings.log.Shown (settings.log.exportTo e) ∧
      ∀ name ∉ LogSettings.ownVariables, (settings.log.exportTo e).get? name = e.get? name) ∧
    load file (settings.log.exportTo e) = .ok settings ∧
    (∀ other written, Written other written → ∃ t, load other (settings.log.exportTo e) = .ok t ∧
      t.log = settings.log ∧ t.log.exportTo (settings.log.exportTo e) = settings.log.exportTo e) ∧
    (∀ other, other.doesExist = false → ∃ t, loadOrStandard other (settings.log.exportTo e) = .ok t ∧
      t.log = settings.log) ∧
    (LogFormat.ofEnvironment (settings.log.exportTo e) = .ofWord settings.log.format ∧
      LogOutput.ofEnvironment (settings.log.exportTo e) = .ofWord settings.log.output) ∧
    ∃ written, Written file written ∧ ∀ environment, ∃ t, load file environment = .ok t ∧
      t.namespaces = written.namespaces ∧ t.declaredType = written.declaredType := by
  have shown := settings.log.exportTo_shown e
  have alike (t : Settings) : (t.override (settings.log.exportTo e)).log = settings.log := shown.override_eq t.log
  obtain ⟨written,given,same⟩ := load_eq_ok.mp loads
  refine ⟨⟨shown,fun name other => settings.log.get?_exportTo_of_not_mem e other⟩,?_,?_,?_,?_,?_⟩
  · subst same
    exact load_eq_ok.mpr ⟨written,given,override_exportTo written e⟩
  · intro other written given
    refine ⟨_,load_of_written given _,alike written,?_⟩
    rw [alike,shown.exportTo_eq]
  · intro other absent
    exact ⟨_,if_neg (by simp [absent]),alike standard⟩
  · exact ⟨LogFormat.ofEnvironment_of_shown shown,LogOutput.ofEnvironment_of_shown shown⟩
  · exact ⟨written,given,fun environment => ⟨_,load_of_written given environment,rfl,rfl⟩⟩

def loggedText : String :=
  "resolver:\n  properties: roads.yaml\nlogging:\n  level: info\n  format: json\n  output: both\n  directory: ./logs\n"

def prettyEnvironment : Environment :=
  (NameMap.empty.insert LogSettings.formatVariable "pretty").insert pathVariable "streets.yaml"

def logged : Settings := ⟨some "streets.yaml",.empty,.unknown,⟨"info","pretty","both","./logs"⟩⟩

/-- A layout that a variable asks for goes back to that variable, the other settings of the file to theirs. -/
theorem load_exportTo_logged : load (.regular loggedText.toUTF8) prettyEnvironment = .ok logged ∧
    load (.regular loggedText.toUTF8) (logged.log.exportTo prettyEnvironment) = .ok logged ∧
    (logged.log.exportTo prettyEnvironment).get? LogSettings.outputVariable = some "both" ∧
    LogFormat.ofEnvironment (logged.log.exportTo prettyEnvironment) = .pretty ∧
    ∃ t, loadOrStandard .missing (logged.log.exportTo prettyEnvironment) = .ok t ∧ t.log = logged.log := by
  have content : FileState.text (.regular loggedText.toUTF8) = .ok loggedText := textOfBytes_toUTF8 loggedText
  have given : (ofYamlText? loggedText).map (·.override prettyEnvironment) = some logged := by decide +kernel
  obtain ⟨written,read,same⟩ := Option.map_eq_some_iff.mp given
  have loads : load (.regular loggedText.toUTF8) prettyEnvironment = .ok logged :=
    load_eq_ok.mpr ⟨written,⟨_,content,read⟩,same⟩
  obtain ⟨⟨shown,-⟩,again,-,absent,⟨layout,-⟩,-⟩ := load_exportTo loads
  exact ⟨loads,again,shown.output,layout,absent .missing rfl⟩

end Settings
end SpatialFilter
