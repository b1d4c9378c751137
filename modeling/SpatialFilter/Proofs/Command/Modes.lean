import SpatialFilter.Proofs.Command.Stages

/-! Answers one by one and all at once. Both ways succeed for the same sources, and the single line is that of
the conjunction of the conditions on the many. Only where there is no source at all do they differ. -/
namespace SpatialFilter.Command
variable {settings : Settings} {registry : Registry} {sources : List String}

/-! ### Outcomes side by side -/

theorem Outcome.exitCode_eq_zero {outcome : Outcome} : outcome.exitCode = 0 ↔ outcome.failure = none := by
  obtain ⟨lines,failure⟩ := outcome
  cases failure with
  | none => simp [exitCode]
  | some failure => cases failure <;> simp [exitCode,Failure.exitCode]

/-- Whatever conditions the lines of a run show, another run shows the conjunction of these on its only line. -/
structure Agree (each all : Outcome) : Prop where
  success : all.exitCode = 0 ↔ each.exitCode = 0
  shown : each.exitCode = 0 → ∃ conditions : List Condition, each.lines = conditions.map (·.jsonText)
  conjoined : each.exitCode = 0 → ∀ conditions : List Condition, each.lines = conditions.map (·.jsonText) →
    all.lines = [(Condition.conjoin conditions).jsonText] ∧
      ∀ name, (name ∈ (Condition.conjoin conditions).tables.toList ↔ ∃ c ∈ conditions, name ∈ c.tables.toList) ∧
        (name ∈ (Condition.conjoin conditions).columns.toList ↔ ∃ c ∈ conditions, name ∈ c.columns.toList)

theorem Agree.of_failed {each all : Outcome} (one : each.exitCode ≠ 0) (other : all.exitCode ≠ 0) : Agree each all where
  success := by simp [one,other]
  shown success := absurd success one
  conjoined success := absurd success one

theorem Judged.agree {verdict : Verdict} (judged : Judged settings registry sources verdict) (some : sources ≠ []) :
    Agree (answer false settings registry sources) (answer true settings registry sources) := by
  have each := judged.seen some default false
  have all := judged.seen some default true
  cases verdict with
  | unreadable source cause => exact .of_failed (by simp [each.exitCode]) (by simp [all.exitCode])
  | refused conditions source cause => exact .of_failed (by simp [each.exitCode]) (by simp [all.exitCode])
  | translated conditions =>
    refine ⟨by rw [all.exitCode,each.exitCode],fun _ => ⟨conditions,each.lines⟩,fun _ others same => ?_⟩
    rw [each.lines,Condition.jsonText_injective.list_map.eq_iff] at same
    subst same
    exact ⟨all.lines,Sql.mem_conjoin conditions⟩

theorem Judged.same_lines {verdict : Verdict} (judged : Judged settings registry sources verdict)
    (single : sources.length = 1) :
    (answer true settings registry sources).lines = (answer false settings registry sources).lines := by
  have some : sources ≠ [] := List.ne_nil_of_length_pos (by omega)
  have each := judged.seen some default false
  have all := judged.seen some default true
  cases judged with
  | unreadable front fails => rw [all.lines,each.lines]
  | @refused before after conditions source cause front fails others =>
    rw [List.length_append,List.length_cons] at single
    -- A single source has none in front of it, so no line is written before it is refused.
    have none : before = [] := List.eq_nil_of_length_eq_zero (by omega)
    subst none
    cases front
    rw [all.lines,each.lines,List.map_nil]
  | @translated _ conditions translated =>
    obtain ⟨c,rfl⟩ := List.length_eq_one_iff.mp (translated.length_eq ▸ single)
    rw [all.lines,each.lines]
    rfl

/-! ### Runs side by side -/

/-- Every line is blank or a comment. -/
def Sourceless (text : String) : Prop :=
  ∀ line ∈ text.toList.splitOn '\n', trim line = [] ∨ (trim line).head? = some '#'

/-- All is in place for a run, but neither its options nor its input name a source. -/
structure Idle (files : Files) (input : ByteArray) (e : Environment) (o : Options) : Prop where
  ready : ∃ settings registry, Ready files e o settings registry
  unnamed : o.sources = []
  blank : ∃ text, textOfBytes input = .ok text ∧ Sourceless text

theorem sourceLines_eq_nil {text : String} : sourceLines text = [] ↔ Sourceless text := by
  rw [Sourceless,sourceLines,List.map_eq_nil_iff,List.filter_eq_nil_iff,List.forall_mem_map]
  simp [or_iff_not_imp_left]

theorem inputSources_eq_nil {input : ByteArray} :
    inputSources input = .ok [] ↔ ∃ text, textOfBytes input = .ok text ∧ Sourceless text := by
  rw [inputSources]
  cases textOfBytes input <;> simp [Except.mapError,Except.map,sourceLines_eq_nil]

theorem sourcesOf_id (files : Files) (input : ByteArray) (o : Options) : sourcesOf (m := Id) (files.host input) o =
    if o.sources.isEmpty then inputSources input else .ok o.sources := by
  rw [sourcesOf]
  split <;> rfl

theorem sourcesOf_eq_nil {files : Files} {input : ByteArray} {o : Options} :
    sourcesOf (m := Id) (files.host input) o = .ok [] ↔
      o.sources = [] ∧ ∃ text, textOfBytes input = .ok text ∧ Sourceless text := by
  rw [sourcesOf_id]
  split
  · rename_i unnamed
    exact ⟨fun given => ⟨List.isEmpty_iff.mp unnamed,inputSources_eq_nil.mp given⟩,
      fun given => inputSources_eq_nil.mpr given.2⟩
  · rename_i named
    exact ⟨fun given => absurd (List.isEmpty_iff.mpr (Except.ok.inj given)) named,
      fun given => absurd (List.isEmpty_iff.mpr given.1) named⟩

theorem answerGiven_agree (settings : Settings) (registry : Registry) {given : Except Failure (List String)}
    (some : given ≠ .ok []) :
    Agree (answerGiven false settings registry given) (answerGiven true settings registry given) := by
  cases given with
  | error failure =>
    have fails : (⟨[],Option.some failure⟩ : Outcome).exitCode ≠ 0 := by simp [Outcome.exitCode_eq_zero]
    exact .of_failed fails fails
  | ok sources =>
    obtain ⟨verdict,judged⟩ := exists_judged settings registry sources
    exact judged.agree fun none => some (congrArg _ none)

section
variable {wording : Wording} {files : Files} {input : ByteArray} {e : Environment} {o : Options}
variable {plain conjoined : List String}

theorem Prepares.outcomes {fault : Fault} (prepares : Prepares wording files e o (.error fault))
    (one : readArguments plain .none = .run { o with conjoin := false })
    (other : readArguments conjoined .none = .run { o with conjoin := true }) (input : ByteArray) :
    ∃ outcome, Ends wording outcome [] fault.exitCode fault.report ∧
      files.outcome input e plain = outcome ∧ files.outcome input e conjoined = outcome := by
  obtain ⟨outcome,ends,same⟩ := prepares.failed
  exact ⟨outcome,ends,same plain _ one ⟨rfl,rfl⟩ (m := Id) input,same conjoined _ other ⟨rfl,rfl⟩ (m := Id) input⟩

theorem Ready.outcomes (ready : Ready files e o settings registry)
    (one : readArguments plain .none = .run { o with conjoin := false })
    (other : readArguments conjoined .none = .run { o with conjoin := true }) (input : ByteArray) :
    files.outcome input e plain = answerGiven false settings registry (sourcesOf (m := Id) (files.host input) o) ∧
      files.outcome input e conjoined = answerGiven true settings registry (sourcesOf (m := Id) (files.host input) o) := by
  have each : Ready files e { o with conjoin := false } settings registry := ready.congr ⟨rfl,rfl⟩
  have all : Ready files e { o with conjoin := true } settings registry := ready.congr ⟨rfl,rfl⟩
  exact ⟨each.outcome one input,all.outcome other input⟩

theorem Idle.outcomes (idle : Idle files input e o)
    (one : readArguments plain .none = .run { o with conjoin := false })
    (other : readArguments conjoined .none = .run { o with conjoin := true }) (wording : Wording) :
    Ends wording (files.outcome input e plain) [] 0 none ∧ Ends wording (files.outcome input e conjoined) [] 1
      (some ⟨"Malformed predicate: no predicates to translate",[]⟩) := by
  obtain ⟨⟨settings,registry,ready⟩,unnamed,blank⟩ := idle
  obtain ⟨each,all⟩ := ready.outcomes one other input
  rw [each,all,sourcesOf_eq_nil.mpr ⟨unnamed,blank⟩]
  exact ⟨⟨rfl,rfl,rfl⟩,⟨rfl,rfl,rfl⟩⟩

theorem Prepares.exitCode_ne_zero {fault : Fault} (prepares : Prepares wording files e o (.error fault)) :
    fault.exitCode ≠ 0 := by
  cases prepares <;> simp

/-- Unless there is nothing to answer, both ways of answering succeed together, and one shows the conjunction
of what the other shows. With nothing to answer, only the many lines succeed, and there are none. -/
theorem run_modes (one : readArguments plain .none = .run { o with conjoin := false })
    (other : readArguments conjoined .none = .run { o with conjoin := true }) :
    (¬ Idle files input e o → Agree (files.outcome input e plain) (files.outcome input e conjoined)) ∧
    (∀ source, sourcesOf (m := Id) (files.host input) o = .ok [source] →
      (files.outcome input e conjoined).lines = (files.outcome input e plain).lines) ∧
    (Idle files input e o → ∀ wording, Ends wording (files.outcome input e plain) [] 0 none ∧
      Ends wording (files.outcome input e conjoined) [] 1
        (some ⟨"Malformed predicate: no predicates to translate",[]⟩)) := by
  obtain ⟨prepared,prepares⟩ := exists_prepares default files e o
  cases prepared with
  | error fault =>
    obtain ⟨outcome,ends,each,all⟩ := prepares.outcomes one other input
    have fails : outcome.exitCode ≠ 0 := by simpa only [ends.exitCode] using prepares.exitCode_ne_zero
    refine ⟨fun _ => ?_,fun _ _ => ?_,fun idle => idle.outcomes one other⟩
    · rw [each,all]
      exact .of_failed fails fails
    · rw [each,all]
  | ok prepared =>
    obtain ⟨settings,registry⟩ := prepared
    obtain ⟨each,all⟩ := prepares.all.outcomes one other input
    refine ⟨fun busy => ?_,fun source given => ?_,fun idle => idle.outcomes one other⟩
    · rw [each,all]
      apply answerGiven_agree
      intro given
      obtain ⟨unnamed,blank⟩ := sourcesOf_eq_nil.mp given
      exact busy ⟨⟨settings,registry,prepares.all⟩,unnamed,blank⟩
    · obtain ⟨verdict,judged⟩ := exists_judged settings registry [source]
      rw [each,all,given]
      exact judged.same_lines rfl

end

/-- One box twice, and no source in an empty input. -/
theorem run_modes_streets :
    ((streetFiles.outcome .empty .empty ["--properties","streets.yaml",boxSource,boxSource]).exitCode = 0 ∧
      (streetFiles.outcome .empty .empty ["--properties","streets.yaml",boxSource,boxSource]).lines =
        [boxedStreets.jsonText,boxedStreets.jsonText] ∧
      (streetFiles.outcome .empty .empty ["--all","--properties","streets.yaml",boxSource,boxSource]).lines =
        [(Condition.conjoin [boxedStreets,boxedStreets]).jsonText]) ∧
    ∀ wording, Ends wording (streetFiles.outcome .empty .empty ["--properties","streets.yaml"]) [] 0 none ∧
      Ends wording (streetFiles.outcome .empty .empty ["--all","--properties","streets.yaml"]) [] 1
        (some ⟨"Malformed predicate: no predicates to translate",[]⟩) := by
  constructor
  · have one : readArguments ["--properties","streets.yaml",boxSource,boxSource] .none =
        .run ⟨[boxSource,boxSource],none,some "streets.yaml",false⟩ := by decide +kernel
    have other : readArguments ["--all","--properties","streets.yaml",boxSource,boxSource] .none =
        .run ⟨[boxSource,boxSource],none,some "streets.yaml",true⟩ := by decide +kernel
    have busy : ¬ Idle streetFiles .empty .empty ⟨[boxSource,boxSource],none,some "streets.yaml",false⟩ := by
      intro idle
      exact absurd idle.unnamed (by simp)
    have judged : Judged .standard streets [boxSource,boxSource] (.translated [boxedStreets,boxedStreets]) :=
      .translated (.cons (streets_translated rfl rfl) (.cons (streets_translated rfl rfl) .nil))
    have seen := judged.seen (by simp) default false
    have each : Ends default (streetFiles.outcome .empty .empty ["--properties","streets.yaml",boxSource,boxSource])
        [boxedStreets.jsonText,boxedStreets.jsonText] 0 none := by
      rw [(streets_ready [boxSource,boxSource] false).outcome one]
      exact seen
    have agree := (run_modes one other).1 busy
    exact ⟨each.exitCode,each.lines,(agree.conjoined each.exitCode [boxedStreets,boxedStreets] each.lines).1⟩
  · have one : readArguments ["--properties","streets.yaml"] .none = .run ⟨[],none,some "streets.yaml",false⟩ := by
      decide +kernel
    have other : readArguments ["--all","--properties","streets.yaml"] .none =
        .run ⟨[],none,some "streets.yaml",true⟩ := by decide +kernel
    have empty : textOfBytes .empty = .ok "" := rfl
    have blank : Sourceless "" := by
      rw [Sourceless]
      decide
    have idle : Idle streetFiles .empty .empty ⟨[],none,some "streets.yaml",false⟩ :=
      ⟨⟨_,_,streets_ready [] false⟩,rfl,"",empty,blank⟩
    exact (run_modes one other).2.2 idle

end SpatialFilter.Command
