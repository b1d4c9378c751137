import SpatialFilter.Proofs.Sql.Conjunction

/-! Predicates taken one by one. What all of them together are answered is determined by the answers to each: it is the
first error, or the conjunction of their conditions. -/
namespace SpatialFilter

/-! ### Conjunctions by their parts -/

/-- One text stands as it is. Of several, each stands in parentheses. -/
def conjunction : List String → String
  | [sql] => sql
  | parts => String.intercalate " AND " (parts.map fun sql => "(" ++ sql ++ ")")

namespace Condition

/-- A condition that reads what some conditions read, and whose text is the conjunction of their texts. -/
structure Joins (conditions : List Condition) (c : Condition) : Prop where
  sql : c.sql = conjunction (conditions.map (·.sql))
  tables : ∀ name, name ∈ c.tables.toList ↔ ∃ k ∈ conditions, name ∈ k.tables.toList
  columns : ∀ name, name ∈ c.columns.toList ↔ ∃ k ∈ conditions, name ∈ k.columns.toList

theorem conjoin_joins (conditions : List Condition) : Joins conditions (conjoin conditions) where
  sql := by
    cases conditions with
    | nil => rfl
    | cons c more =>
      cases more with
      | nil => rfl
      | cons d more => exact Sql.conjoin_sql (by simp)
  tables name := (Sql.mem_conjoin conditions name).1
  columns name := (Sql.mem_conjoin conditions name).2

theorem Joins.reads_eq {conditions others : List Condition} {c d : Condition} (first : Joins conditions c)
    (second : Joins others d) (same : ∀ k, k ∈ conditions ↔ k ∈ others) : c.tables = d.tables ∧ c.columns = d.columns :=
  ⟨NameSet.ext_mem fun name => by simp only [first.tables,second.tables,same],
    NameSet.ext_mem fun name => by simp only [first.columns,second.columns,same]⟩

theorem Joins.unique {conditions : List Condition} {c d : Condition} (first : Joins conditions c)
    (second : Joins conditions d) : c = d := by
  obtain ⟨tables,columns⟩ := first.reads_eq second fun k => Iff.rfl
  have sql := first.sql.trans second.sql.symm
  cases c
  cases d
  simp_all

end Condition

namespace Sql
variable {resolver : Resolver} {ps qs before after : List Predicate} {p : Predicate}
variable {answer : Except ConditionError Condition} {conditions : List Condition} {c : Condition} {cause : ConditionError}

/-! ### Answers one by one -/

/-- The answer to a list of predicates by the answers to each. -/
inductive OneByOne (resolver : Resolver) : List Predicate → Except ConditionError Condition → Prop where
  | none : OneByOne resolver [] (.error .noPredicates)
  | first {before after : List Predicate} {p : Predicate} {cause : ConditionError}
      (earlier : ∀ q ∈ before, ∃ c, condition resolver q = .ok c) (fails : condition resolver p = .error cause) :
      OneByOne resolver (before ++ p :: after) (.error cause)
  | all {ps : List Predicate} {conditions : List Condition} {c : Condition} (some : ps ≠ [])
      (each : List.Forall₂ (fun p c => condition resolver p = .ok c) ps conditions) (joins : Condition.Joins conditions c) :
      OneByOne resolver ps (.ok c)

theorem conditionOfAll_joins (some : ps ≠ [])
    (each : List.Forall₂ (fun p c => condition resolver p = .ok c) ps conditions) (joins : Condition.Joins conditions c) :
    conditionOfAll resolver ps = .ok c := by
  rw [conditionOfAll_eq_map some,mapM_eq_ok.mpr each]
  exact congrArg Except.ok ((Condition.conjoin_joins conditions).unique joins)

theorem conditionOfAll_first (earlier : ∀ q ∈ before, ∃ c, condition resolver q = .ok c)
    (fails : condition resolver p = .error cause) : conditionOfAll resolver (before ++ p :: after) = .error cause := by
  rw [conditionOfAll_eq_map (by simp),mapM_eq_error.mpr ⟨before,p,after,rfl,earlier,fails⟩]
  rfl

theorem oneByOne_conditionOfAll (resolver : Resolver) (ps : List Predicate) :
    OneByOne resolver ps (conditionOfAll resolver ps) := by
  by_cases some : ps = []
  · subst some
    exact .none
  · cases answers : ps.mapM (condition resolver) with
    | ok conditions =>
      have each := mapM_eq_ok.mp answers
      have joins := Condition.conjoin_joins conditions
      rw [conditionOfAll_joins some each joins]
      exact .all some each joins
    | error cause =>
      obtain ⟨before,p,after,rfl,earlier,fails⟩ := mapM_eq_error.mp answers
      rw [conditionOfAll_first earlier fails]
      exact .first earlier fails

theorem conditionOfAll_eq_iff : conditionOfAll resolver ps = answer ↔ OneByOne resolver ps answer := by
  constructor
  · rintro rfl
    exact oneByOne_conditionOfAll resolver ps
  · intro judged
    cases judged with
    | none => rfl
    | first earlier fails => exact conditionOfAll_first earlier fails
    | all some each joins => exact conditionOfAll_joins some each joins

/-! ### Which predicates matter -/

theorem conditionOfAll_isOk : (∃ c, conditionOfAll resolver ps = .ok c) ↔
    ps ≠ [] ∧ ∀ p ∈ ps, ∃ c, condition resolver p = .ok c := by
  constructor
  · rintro ⟨c,accepted⟩
    cases conditionOfAll_eq_iff.mp accepted with
    | all some each joins => exact ⟨some,mapM_ok_of_mem (mapM_eq_ok.mpr each)⟩
  · rintro ⟨some,accepted⟩
    cases answer : conditionOfAll resolver ps with
    | ok c => exact ⟨c,rfl⟩
    | error cause =>
      cases conditionOfAll_eq_iff.mp answer with
      | none => exact absurd rfl some
      | @first before after p _ _ fails =>
        obtain ⟨c,ok⟩ := accepted p (by simp)
        rw [ok] at fails
        cases fails

/-- Order and repetition of predicates do not matter for what is read. -/
theorem conditionOfAll_reads (same : ∀ p, p ∈ ps ↔ p ∈ qs) (accepted : conditionOfAll resolver ps = .ok c) :
    ∃ d, conditionOfAll resolver qs = .ok d ∧ d.tables = c.tables ∧ d.columns = c.columns := by
  have isOk := conditionOfAll_isOk.mp ⟨c,accepted⟩
  have others : qs ≠ [] ∧ ∀ q ∈ qs, ∃ c, condition resolver q = .ok c := by
    obtain ⟨p,member⟩ := List.exists_mem_of_ne_nil ps isOk.1
    exact ⟨List.ne_nil_of_mem ((same p).mp member),fun q member => isOk.2 q ((same q).mpr member)⟩
  obtain ⟨d,admitted⟩ := conditionOfAll_isOk.mpr others
  refine ⟨d,admitted,?_⟩
  cases conditionOfAll_eq_iff.mp accepted with
  | all _ each joins =>
    cases conditionOfAll_eq_iff.mp admitted with
    | all _ alsoEach alsoJoins =>
      apply alsoJoins.reads_eq joins
      intro k
      rw [mem_map_ok_iff (mapM_eq_ok_map.mp (mapM_eq_ok.mpr each)),
        mem_map_ok_iff (mapM_eq_ok_map.mp (mapM_eq_ok.mpr alsoEach))]
      simp only [same]

/-- Nothing behind a predicate without a condition matters. -/
theorem conditionOfAll_append (fails : ∃ p ∈ before, ∃ cause, condition resolver p = .error cause)
    (after : List Predicate) : conditionOfAll resolver (before ++ after) = conditionOfAll resolver before := by
  obtain ⟨p,member,cause,error⟩ := fails
  cases answer : conditionOfAll resolver before with
  | ok c =>
    obtain ⟨d,ok⟩ := (conditionOfAll_isOk.mp ⟨c,answer⟩).2 p member
    rw [ok] at error
    cases error
  | error found =>
    cases conditionOfAll_eq_iff.mp answer with
    | none => cases member
    | first earlier fails =>
      rw [List.append_assoc,List.cons_append]
      exact conditionOfAll_first earlier fails

/-- A list of predicates is answered as its predicates are answered one by one. -/
theorem conditionOfAll_oneByOne (resolver : Resolver) :
    (∀ ps answer, conditionOfAll resolver ps = answer ↔ OneByOne resolver ps answer) ∧
    (∀ ps, (∃ c, conditionOfAll resolver ps = .ok c) ↔ ps ≠ [] ∧ ∀ p ∈ ps, ∃ c, condition resolver p = .ok c) ∧
    (∀ ps qs c, (∀ p, p ∈ ps ↔ p ∈ qs) → conditionOfAll resolver ps = .ok c →
      ∃ d, conditionOfAll resolver qs = .ok d ∧ d.tables = c.tables ∧ d.columns = c.columns) ∧
    (∀ before after, (∃ p ∈ before, ∃ cause, condition resolver p = .error cause) →
      conditionOfAll resolver (before ++ after) = conditionOfAll resolver before) ∧
    ConditionError.noPredicates.message = "Malformed predicate: no predicates to translate" :=
  ⟨fun _ _ => conditionOfAll_eq_iff,fun _ => conditionOfAll_isOk,fun _ _ _ => conditionOfAll_reads,
    fun _ after fails => conditionOfAll_append fails after,rfl⟩

/-- The same predicates in another order, one of them twice; and a predicate behind one that has no condition. -/
theorem conditionOfAll_oneByOne_roads :
    (∃ c d, conditionOfAll roads [nearRoads,boxedRoads] = .ok c ∧
      conditionOfAll roads [boxedRoads,nearRoads,boxedRoads] = .ok d ∧ d.tables = c.tables ∧ d.columns = c.columns) ∧
    conditionOfAll roads ([nearRoads,touchingRoads (.unsupported .solid)] ++ [boxedRoads]) =
      conditionOfAll roads [nearRoads,touchingRoads (.unsupported .solid)] := by
  obtain ⟨-,-,reads,append,-⟩ := conditionOfAll_oneByOne roads
  have accepted : ∃ c, conditionOfAll roads [nearRoads,boxedRoads] = .ok c := ⟨_,rfl⟩
  obtain ⟨c,accepted⟩ := accepted
  have same (p : Predicate) : p ∈ [nearRoads,boxedRoads] ↔ p ∈ [boxedRoads,nearRoads,boxedRoads] := by
    simp [or_comm]
  obtain ⟨d,admitted,sources⟩ := reads _ _ c same accepted
  exact ⟨⟨c,d,accepted,admitted,sources⟩,append _ _ ⟨touchingRoads (.unsupported .solid),by simp,_,rfl⟩⟩

end Sql
end SpatialFilter
