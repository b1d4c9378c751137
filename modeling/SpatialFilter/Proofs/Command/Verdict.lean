import SpatialFilter.Proofs.Command.Preparation
import SpatialFilter.Proofs.Sql.OneByOne

/-! What a run makes of its sources. All of them are read before the first is answered. They are answered one
by one, up to the first that has no condition, or all at once. -/
namespace SpatialFilter.Command
variable {settings : Settings} {registry : Registry} {sources before after : List String} {source : String}
variable {conditions : List Condition}

/-! ### Sources -/

def Reads (settings : Settings) (source : String) (p : Predicate) : Prop :=
  readPredicate settings.namespaces settings.declaredType source = .ok p

instance (settings : Settings) (source : String) (p : Predicate) : Decidable (Reads settings source p) :=
  inferInstanceAs (Decidable (_ = _))

def Unreadable (settings : Settings) (source : String) (cause : ReadError) : Prop :=
  readPredicate settings.namespaces settings.declaredType source = .error cause

def Translates (settings : Settings) (registry : Registry) (source : String) (c : Condition) : Prop :=
  ∃ p, Reads settings source p ∧ Sql.condition registry.resolve p = .ok c

def Refuses (settings : Settings) (registry : Registry) (source : String) (cause : ConditionError) : Prop :=
  ∃ p, Reads settings source p ∧ Sql.condition registry.resolve p = .error cause

inductive Verdict where
  | unreadable (source : String) (cause : ReadError)
  | refused (conditions : List Condition) (source : String) (cause : ConditionError)
  | translated (conditions : List Condition)

/-- The first source that cannot be read decides. Where all can, the first without a condition does. -/
inductive Judged (settings : Settings) (registry : Registry) : List String → Verdict → Prop where
  | unreadable {before after : List String} {source : String} {cause : ReadError}
      (front : ∀ s ∈ before, ∃ p, Reads settings s p) (fails : Unreadable settings source cause) :
      Judged settings registry (before ++ source :: after) (.unreadable source cause)
  | refused {before after : List String} {conditions : List Condition} {source : String} {cause : ConditionError}
      (front : List.Forall₂ (Translates settings registry) before conditions)
      (fails : Refuses settings registry source cause) (others : ∀ s ∈ after, ∃ p, Reads settings s p) :
      Judged settings registry (before ++ source :: after) (.refused conditions source cause)
  | translated {sources : List String} {conditions : List Condition}
      (all : List.Forall₂ (Translates settings registry) sources conditions) :
      Judged settings registry sources (.translated conditions)

theorem translates_or_refuses {p : Predicate} (reads : Reads settings source p) :
    (∃ c, Translates settings registry source c) ∨ ∃ cause, Refuses settings registry source cause := by
  cases answer : Sql.condition registry.resolve p with
  | ok c => exact .inl ⟨c,p,reads,answer⟩
  | error cause => exact .inr ⟨cause,p,reads,answer⟩

theorem exists_judged (settings : Settings) (registry : Registry) (sources : List String) :
    ∃ verdict, Judged settings registry sources verdict := by
  cases read : sources.mapM (readPredicate settings.namespaces settings.declaredType) with
  | error cause =>
    -- What the sources in front would be answered with does not matter any more.
    obtain ⟨before,source,after,rfl,front,fails⟩ := mapM_eq_error.mp read
    exact ⟨_,.unreadable front fails⟩
  | ok predicates =>
    have readable := mapM_ok_of_mem read
    have answered : ∀ s ∈ sources,
        (∃ c, Translates settings registry s c) ∨ ∃ cause, Refuses settings registry s cause := by
      intro s member
      obtain ⟨p,reads⟩ := readable s member
      exact translates_or_refuses reads
    rcases forall₂_or_first answered with ⟨conditions,all⟩ | ⟨before,conditions,source,after,rfl,front,cause,fails⟩
    · exact ⟨_,.translated all⟩
    · exact ⟨_,.refused front fails fun s member => readable s (by simp [member])⟩

/-! ### Reading -/

def readSource (settings : Settings) (source : String) : Except Failure (String × Predicate) := do
  let predicate ← (readPredicate settings.namespaces settings.declaredType source).mapError (Failure.reading source)
  return (source,predicate)

theorem Reads.readSource {p : Predicate} (reads : Reads settings source p) :
    readSource settings source = .ok (source,p) := by
  rw [Command.readSource,reads]
  rfl

theorem Unreadable.readSource {cause : ReadError} (fails : Unreadable settings source cause) :
    readSource settings source = .error (.reading source cause) := by
  rw [Command.readSource,fails]
  rfl

theorem readSources_eq_mapM (settings : Settings) (sources : List String) :
    readSources settings sources = sources.mapM (readSource settings) := by
  induction sources with
  | nil => rfl
  | cons source rest ih =>
    rw [readSources,List.mapM_cons,← ih,readSource,bind_assoc]
    rfl

theorem readSources_eq_ok {pairs : List (String × Predicate)} : readSources settings sources = .ok pairs ↔
    List.Forall₂ (fun s pair => readSource settings s = .ok pair) sources pairs := by
  rw [readSources_eq_mapM,mapM_eq_ok]

theorem readSources_unreadable {cause : ReadError} (front : ∀ s ∈ before, ∃ p, Reads settings s p)
    (fails : Unreadable settings source cause) :
    readSources settings (before ++ source :: after) = .error (.reading source cause) := by
  rw [readSources_eq_mapM,mapM_eq_error]
  refine ⟨before,source,after,rfl,fun s member => ?_,fails.readSource⟩
  obtain ⟨p,reads⟩ := front s member
  exact ⟨_,reads.readSource⟩

theorem readSources_readable (all : ∀ s ∈ sources, ∃ p, Reads settings s p) :
    ∃ pairs, readSources settings sources = .ok pairs := by
  cases read : readSources settings sources with
  | ok pairs => exact ⟨pairs,rfl⟩
  | error failure =>
    rw [readSources_eq_mapM] at read
    obtain ⟨before,s,after,rfl,-,fails⟩ := mapM_eq_error.mp read
    obtain ⟨p,reads⟩ := all s (by simp)
    rw [reads.readSource] at fails
    cases fails

/-- The condition of a source that has been read. -/
def Answers (resolver : Resolver) (pair : String × Predicate) (c : Condition) : Prop :=
  Sql.condition resolver pair.2 = .ok c

theorem readSources_translated (all : List.Forall₂ (Translates settings registry) sources conditions) :
    ∃ pairs, readSources settings sources = .ok pairs ∧
      List.Forall₂ (Answers registry.resolve) pairs conditions := by
  induction all with
  | nil => exact ⟨[],rfl,.nil⟩
  | cons first _ ih =>
    obtain ⟨p,reads,answer⟩ := first
    obtain ⟨pairs,read,answers⟩ := ih
    exact ⟨_,readSources_eq_ok.mpr (.cons reads.readSource (readSources_eq_ok.mp read)),.cons answer answers⟩

/-! ### Answers -/

section
variable {resolver : Resolver} {pairs more : List (String × Predicate)} {p : Predicate} {cause : ConditionError}

theorem answerEach_append (front : List.Forall₂ (Answers resolver) pairs conditions)
    (rest : List (String × Predicate)) : answerEach resolver (pairs ++ rest) =
      ⟨conditions.map (·.jsonText) ++ (answerEach resolver rest).lines,(answerEach resolver rest).failure⟩ := by
  induction front with
  | nil => rfl
  | @cons pair c pairs conditions first _ ih =>
    rw [Answers] at first
    simp [answerEach,first,ih]

theorem answerEach_translated (all : List.Forall₂ (Answers resolver) pairs conditions) :
    answerEach resolver pairs = ⟨conditions.map (·.jsonText),none⟩ := by
  have whole := answerEach_append all []
  simpa [answerEach] using whole

theorem answerEach_refused (front : List.Forall₂ (Answers resolver) pairs conditions)
    (fails : Sql.condition resolver p = .error cause) : answerEach resolver (pairs ++ (source,p) :: more) =
      ⟨conditions.map (·.jsonText),some (.condition source cause)⟩ := by
  rw [answerEach_append front]
  simp [answerEach,fails]

theorem answerConjoined_translated (some : pairs ≠ []) (all : List.Forall₂ (Answers resolver) pairs conditions) :
    answerConjoined resolver (pairs.map (·.2)) = ⟨[(Condition.conjoin conditions).jsonText],none⟩ := by
  have answers : (pairs.map (·.2)).mapM (Sql.condition resolver) = .ok conditions :=
    mapM_eq_ok.mpr (List.forall₂_map_left_iff.mpr all)
  rw [answerConjoined,Sql.conditionOfAll_eq_map (by simpa using some),answers]
  rfl

theorem answerConjoined_refused (front : List.Forall₂ (Answers resolver) pairs conditions)
    (fails : Sql.condition resolver p = .error cause) :
    answerConjoined resolver ((pairs ++ (source,p) :: more).map (·.2)) = ⟨[],some (.conjoining cause)⟩ := by
  have earlier := mapM_ok_of_mem (mapM_eq_ok.mpr (List.forall₂_map_left_iff.mpr front))
  rw [answerConjoined,List.map_append,List.map_cons,Sql.conditionOfAll_first earlier fails]

end

theorem answer_each {pairs : List (String × Predicate)} (read : readSources settings sources = .ok pairs) :
    answer false settings registry sources = answerEach registry.resolve pairs := by
  rw [answer,read]
  rfl

theorem answer_conjoined {pairs : List (String × Predicate)} (read : readSources settings sources = .ok pairs) :
    answer true settings registry sources = answerConjoined registry.resolve (pairs.map (·.2)) := by
  rw [answer,read]
  rfl

/-- What is seen of the answer to sources with a verdict, one by one or all at once. -/
def Verdict.Seen (wording : Wording) (outcome : Outcome) : Bool → Verdict → Prop
  | _,.unreadable source cause =>
    Ends wording outcome [] 1 (some ⟨"Failed to parse predicate: " ++ source,Failure.readingCauses cause⟩)
  | false,.refused conditions source cause =>
    Ends wording outcome (conditions.map (·.jsonText)) 1
      (some ⟨"Failed to translate predicate: " ++ source,[cause.message]⟩)
  | true,.refused _ _ cause => Ends wording outcome [] 1 (some ⟨cause.message,[]⟩)
  | false,.translated conditions => Ends wording outcome (conditions.map (·.jsonText)) 0 none
  | true,.translated conditions => Ends wording outcome [(Condition.conjoin conditions).jsonText] 0 none

theorem Judged.seen {verdict : Verdict} (judged : Judged settings registry sources verdict) (some : sources ≠ [])
    (wording : Wording) (conjoin : Bool) :
    Verdict.Seen wording (answer conjoin settings registry sources) conjoin verdict := by
  cases judged with
  | unreadable front fails =>
    rw [answer,readSources_unreadable front fails]
    cases conjoin <;> exact ⟨rfl,rfl,rfl⟩
  | refused front fails others =>
    obtain ⟨p,reads,fails⟩ := fails
    obtain ⟨pairs,read,answers⟩ := readSources_translated front
    obtain ⟨more,rest⟩ := readSources_readable others
    have all := readSources_eq_ok.mpr (List.rel_append (readSources_eq_ok.mp read)
      (.cons reads.readSource (readSources_eq_ok.mp rest)))
    cases conjoin with
    | false =>
      rw [answer_each all,answerEach_refused answers fails]
      exact ⟨rfl,rfl,rfl⟩
    | true =>
      rw [answer_conjoined all,answerConjoined_refused answers fails]
      exact ⟨rfl,rfl,rfl⟩
  | translated all =>
    obtain ⟨pairs,read,answers⟩ := readSources_translated all
    cases conjoin with
    | false =>
      rw [answer_each read,answerEach_translated answers]
      exact ⟨rfl,rfl,rfl⟩
    | true =>
      have nonempty : pairs ≠ [] := by
        rintro rfl
        cases readSources_eq_ok.mp read
        exact some rfl
      rw [answer_conjoined read,answerConjoined_translated nonempty answers]
      exact ⟨rfl,rfl,rfl⟩

end SpatialFilter.Command
