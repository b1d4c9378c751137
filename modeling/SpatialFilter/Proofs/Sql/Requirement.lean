import SpatialFilter.Sql.Condition
import SpatialFilter.Proofs.Sequence

/-! What a predicate must satisfy to have a condition. The requirements have an order, and a
predicate without a condition gets the error of the first one that it does not meet. Only the last
requirement depends on the resolver. -/
namespace SpatialFilter

inductive Requirement where
  | someProperty | oneGeometry | distancePresence | supported | finiteDistance | finiteOrdinates
  | envelopeForBox | resolved
deriving DecidableEq

namespace Requirement

def order : List Requirement :=
  [someProperty,oneGeometry,distancePresence,supported,finiteDistance,finiteOrdinates,envelopeForBox,resolved]

def Holds (resolver : Resolver) (p : Predicate) : Requirement → Prop
  | someProperty => p.properties ≠ []
  | oneGeometry => p.geometries.length = 1
  | distancePresence => p.distance.isSome = true ↔ p.operator = .beyond ∨ p.operator = .dwithin
  | supported => ∀ g ∈ p.geometries, ∀ kind, g ≠ .unsupported kind
  | finiteDistance => ∀ d ∈ p.distance, d.isFinite = true
  | finiteOrdinates => ∀ g ∈ p.geometries, ∀ n ∈ g.ordinates, n.isFinite = true
  | envelopeForBox => p.operator = .bbox → ∀ g ∈ p.geometries, ∃ lower upper, g = .envelope lower upper
  | resolved => ∀ reference ∈ p.properties, ∃ column, resolver reference = .ok column

/-- The error of a predicate that meets all requirements in front of this one, but not this one. -/
inductive Explains (resolver : Resolver) (p : Predicate) : Requirement → ConditionError → Prop where
  | noProperty : Explains resolver p someProperty (.noProperty p.operator)
  | geometryCount : Explains resolver p oneGeometry (.geometryCount p.operator p.geometries.length)
  | distanceRequired (absent : p.distance = none) :
      Explains resolver p distancePresence (.distanceRequired p.operator)
  | distanceRefused {d : Number} (present : p.distance = some d) :
      Explains resolver p distancePresence (.distanceRefused p.operator)
  | unsupported {kind : UnsupportedKind} (only : p.geometries = [.unsupported kind]) :
      Explains resolver p supported (.unsupported kind)
  | distanceNotFinite {d : Number} (present : p.distance = some d) :
      Explains resolver p finiteDistance (.distanceNotFinite p.operator d)
  | ordinateNotFinite {g : Geometry} (only : p.geometries = [g]) {before after : List Number} {n : Number}
      (split : g.ordinates = before ++ n :: after) (earlier : ∀ m ∈ before, m.isFinite = true)
      (infinite : ¬ n.isFinite = true) : Explains resolver p finiteOrdinates (.ordinateNotFinite g n)
  | notEnvelope {g : Geometry} (only : p.geometries = [g]) :
      Explains resolver p envelopeForBox (.notEnvelope g)
  | resolution {before after : List PropertyReference} {reference : PropertyReference}
      (split : p.properties = before ++ reference :: after)
      (earlier : ∀ other ∈ before, ∃ column, resolver other = .ok column)
      {cause : ResolveError} (fails : resolver reference = .error cause) :
      Explains resolver p resolved (.resolution cause)

/-- How many requirements stand in front of this one. -/
def rank (r : Requirement) : Nat := order.idxOf r

/-- A requirement is missed, and no requirement in front of it is. -/
def Decides (resolver : Resolver) (p : Predicate) (r : Requirement) : Prop :=
  (∀ q : Requirement, q.rank < r.rank → q.Holds resolver p) ∧ ¬ r.Holds resolver p

theorem rank_injective {q r : Requirement} : q.rank = r.rank → q = r := by
  cases q <;> cases r <;> decide

theorem rank_lt_resolved {r : Requirement} : r.rank < resolved.rank ↔ r ≠ resolved := by
  cases r <;> decide

theorem mem_order (r : Requirement) : r ∈ order := by
  cases r <;> decide

theorem mem_of_rank_lt {before after : List Requirement} {q r : Requirement}
    (split : order = before ++ r :: after) (front : q.rank < r.rank) : q ∈ before := by
  have sorted : order.Pairwise fun first second => first.rank < second.rank := by decide
  have present := q.mem_order
  rw [split] at sorted present
  rcases List.mem_append.mp present with before | behind
  · exact before
  · rcases List.mem_cons.mp behind with rfl | after
    · exact absurd front (Nat.lt_irrefl _)
    · have later := List.rel_of_pairwise_cons (List.pairwise_append.mp sorted).2.1 after
      exact absurd later (Nat.not_lt_of_lt front)

theorem Decides.unique {resolver : Resolver} {p : Predicate} {r s : Requirement}
    (first : r.Decides resolver p) (second : s.Decides resolver p) : r = s := by
  rcases Nat.lt_trichotomy r.rank s.rank with front | same | behind
  · exact absurd (second.1 r front) first.2
  · exact rank_injective same
  · exact absurd (first.1 s behind) second.2

theorem Explains.unique {resolver : Resolver} {p : Predicate} {r : Requirement} {e f : ConditionError}
    (first : r.Explains resolver p e) (second : r.Explains resolver p f) : e = f := by
  cases first with
  | noProperty => cases second; rfl
  | geometryCount => cases second; rfl
  | distanceRequired absent =>
    cases second with
    | distanceRequired => rfl
    | distanceRefused present => simp [absent] at present
  | distanceRefused present =>
    cases second with
    | distanceRequired absent => simp [absent] at present
    | distanceRefused => rfl
  | unsupported only =>
    cases second with
    | unsupported other =>
      rw [only] at other
      cases other
      rfl
  | distanceNotFinite present =>
    cases second with
    | distanceNotFinite other =>
      rw [present] at other
      cases other
      rfl
  | ordinateNotFinite only split earlier infinite =>
    cases second with
    | ordinateNotFinite other splitOther preceding unbounded =>
      rw [only] at other
      cases other
      rw [first_unique split earlier infinite splitOther preceding unbounded]
  | notEnvelope only =>
    cases second with
    | notEnvelope other =>
      rw [only] at other
      cases other
      rfl
  | resolution split earlier fails =>
    cases second with
    | resolution splitOther preceding failsOther =>
      have same := first_unique split earlier (by simp [fails]) splitOther preceding (by simp [failsOther])
      subst same
      rw [fails] at failsOther
      cases failsOther
      rfl

end Requirement

namespace Sql
open Requirement
variable {α β : Type} {resolver : Resolver} {p : Predicate} {g : Geometry}

/-- Either all of these requirements are met, or the first of them that is not is the error. -/
inductive Outcome (resolver : Resolver) (p : Predicate) :
    List Requirement → Except ConditionError α → Prop where
  | ok {tested : List Requirement} (all : ∀ r ∈ tested, r.Holds resolver p) (value : α) :
      Outcome resolver p tested (.ok value)
  | error {tested before after : List Requirement} {r : Requirement} (split : tested = before ++ r :: after)
      (earlier : ∀ q ∈ before, q.Holds resolver p) (missed : ¬ r.Holds resolver p)
      {e : ConditionError} (explains : r.Explains resolver p e) : Outcome resolver p tested (.error e)

namespace Outcome
variable {r : Requirement} {tested others : List Requirement} {result : Except ConditionError α}

theorem holds (met : r.Holds resolver p) (value : α) : Outcome resolver p [r] (.ok value) :=
  .ok (by simpa using met) value

theorem fails (missed : ¬ r.Holds resolver p) {e : ConditionError} (explains : r.Explains resolver p e) :
    Outcome (α := α) resolver p (r :: others) (.error e) :=
  .error (List.nil_append _).symm (by simp) missed explains

theorem passed (all : ∀ q ∈ tested, q.Holds resolver p) (outcome : Outcome resolver p others result) :
    Outcome resolver p (tested ++ others) result := by
  cases outcome with
  | ok met value =>
    exact .ok (fun q member => (List.mem_append.mp member).elim (all q) (met q)) value
  | @error before after s split earlier missed e explains =>
    subst split
    refine .error (List.append_assoc ..).symm (fun q member => ?_) missed explains
    exact (List.mem_append.mp member).elim (all q) (earlier q)

theorem bind (outcome : Outcome resolver p tested result) {next : α → Except ConditionError β}
    (rest : ∀ value, result = .ok value → Outcome resolver p others (next value)) :
    Outcome resolver p (tested ++ others) (result >>= next) := by
  cases outcome with
  | ok all value => exact (rest value rfl).passed all
  | error split earlier missed explains =>
    subst split
    exact .error (List.append_assoc ..) earlier missed explains

end Outcome

/-! ### The checks -/

theorem checkDistance_outcome (resolver : Resolver) (p : Predicate) :
    Outcome resolver p [distancePresence] (checkDistance p) := by
  have takes : p.operator.takesDistance = true ↔ p.operator = .beyond ∨ p.operator = .dwithin := by
    cases p.operator <;> decide
  have presence : distancePresence.Holds resolver p ↔
      (p.distance.isSome = true ↔ p.operator.takesDistance = true) := by
    rw [takes]
    rfl
  unfold checkDistance
  cases wanted : p.operator.takesDistance <;> cases given : p.distance with
  | none =>
    first
      | exact .holds (by simp [presence,wanted,given]) ()
      | exact .fails (by simp [presence,wanted,given]) (.distanceRequired given)
  | some d =>
    first
      | exact .holds (by simp [presence,wanted,given]) ()
      | exact .fails (by simp [presence,wanted,given]) (.distanceRefused given)

theorem checkSupported_outcome (resolver : Resolver) (only : p.geometries = [g]) :
    Outcome resolver p [supported] (checkSupported g) := by
  cases g with
  | unsupported kind => exact .fails (by simp [Holds,only]) (.unsupported only)
  | envelope lower upper | point x y z | lineString positions => exact .holds (by simp [Holds,only]) ()

/-- The distance comes first, also when an ordinate is not finite either. -/
theorem checkFinite_outcome (resolver : Resolver) (only : p.geometries = [g]) :
    Outcome resolver p [finiteDistance,finiteOrdinates] (checkFinite p g) := by
  unfold checkFinite
  cases infinite : p.distance.filter (!·.isFinite) with
  | some d =>
    obtain ⟨given,unbounded⟩ := Option.filter_eq_some_iff.mp infinite
    have missed : ¬ finiteDistance.Holds resolver p := fun finite => by
      simp [finite d given] at unbounded
    exact .fails missed (.distanceNotFinite given)
  | none =>
    have finite : ∀ q ∈ [finiteDistance], q.Holds resolver p := by
      simpa [Holds] using Option.filter_eq_none_iff.mp infinite
    apply Outcome.passed finite
    cases found : g.ordinates.find? (!·.isFinite) with
    | none =>
      have all : finiteOrdinates.Holds resolver p := by
        simpa [Holds,only] using List.find?_eq_none.mp found
      exact .holds all ()
    | some n =>
      obtain ⟨unbounded,before,after,split,earlier⟩ := List.find?_eq_some_iff_append.mp found
      have isInfinite : ¬ n.isFinite = true := by simpa using unbounded
      have missed : ¬ finiteOrdinates.Holds resolver p := fun all =>
        isInfinite (all g (by simp [only]) n (by simp [split]))
      exact .fails missed (.ordinateNotFinite only split (by simpa using earlier) isInfinite)

theorem resolveAll_outcome (resolver : Resolver) (p : Predicate) :
    Outcome resolver p [resolved] (resolveAll resolver p.properties) := by
  cases all : resolveAll resolver p.properties with
  | ok columns =>
    have met : resolved.Holds resolver p := fun reference member => by
      obtain ⟨column,read⟩ := mapM_ok_of_mem all reference member
      exact ⟨column,mapError_eq_ok.mp read⟩
    exact .holds met columns
  | error e =>
    obtain ⟨before,reference,after,split,earlier,fails⟩ := mapM_eq_error.mp all
    obtain ⟨cause,answer,rfl⟩ := mapError_eq_error.mp fails
    have missed : ¬ resolved.Holds resolver p := fun all => by
      obtain ⟨column,read⟩ := all reference (by simp [split])
      simp [answer] at read
    refine .fails missed (.resolution split (fun other member => ?_) answer)
    obtain ⟨column,read⟩ := earlier other member
    exact ⟨column,mapError_eq_ok.mp read⟩

/-! ### The checks in their order -/

private theorem boxCondition_outcome (resolver : Resolver) (box : p.operator = .bbox)
    (only : p.geometries = [g]) :
    Outcome resolver p [envelopeForBox,resolved] (boxCondition resolver p g) := by
  cases g with
  | envelope lower upper =>
    have holds : ∀ q ∈ [envelopeForBox], q.Holds resolver p := by simp [Holds,only]
    apply Outcome.passed holds
    exact (resolveAll_outcome resolver p).bind fun columns _ => .ok (by simp) _
  | point x y z | lineString positions | unsupported kind =>
    exact .fails (by simp [Holds,only,box]) (.notEnvelope only)

private theorem callCondition_outcome (resolver : Resolver) (call : p.operator ≠ .bbox)
    (isSupported : checkSupported g = .ok ()) :
    Outcome resolver p [envelopeForBox,resolved] (callCondition resolver p g) := by
  have holds : ∀ q ∈ [envelopeForBox], q.Holds resolver p := by simp [Holds,call]
  apply Outcome.passed holds
  apply (resolveAll_outcome resolver p).bind
  intro columns _
  cases g with
  | envelope lower upper | point x y z | lineString positions => exact .ok (by simp) _
  | unsupported kind => cases isSupported

/-- A translation tests the requirements in their order and nothing else. -/
theorem condition_outcome (resolver : Resolver) (p : Predicate) :
    Outcome resolver p order (condition resolver p) := by
  unfold condition checkedGeometry
  by_cases none : p.properties = []
  · rw [none]
    exact .fails (by simp [Holds,none]) .noProperty
  · have some : ∀ q ∈ [someProperty], q.Holds resolver p := by simpa [Holds] using none
    apply Outcome.passed some
    rw [if_neg (by simpa using none)]
    by_cases one : p.geometries.length = 1
    · obtain ⟨g,only⟩ := List.length_eq_one_iff.mp one
      have single : ∀ q ∈ [oneGeometry], q.Holds resolver p := by simpa [Holds] using one
      apply Outcome.passed single
      rw [only]
      simp only [pure_bind,bind_assoc]
      -- Every step puts what it tests in front of what is tested later.
      apply (checkDistance_outcome resolver p).bind
      intro _ _
      apply (checkSupported_outcome resolver only).bind
      intro _ isSupported
      apply (checkFinite_outcome resolver only).bind
      intro _ _
      split
      · rename_i box
        exact boxCondition_outcome resolver box only
      · rename_i call
        exact callCondition_outcome resolver call isSupported
    · split
      · rename_i g only
        simp [only] at one
      · have missed : ¬ oneGeometry.Holds resolver p := one
        exact .fails missed .geometryCount

end Sql

/-! ### The first requirement that is missed -/

namespace Requirement
variable {resolver : Resolver} {p : Predicate} {r : Requirement} {e : ConditionError}

theorem Holds.change (early : r ≠ resolved) (other : Resolver) : r.Holds resolver p ↔ r.Holds other p := by
  cases r with
  | resolved => exact absurd rfl early
  | _ => rfl

theorem Explains.change (early : r ≠ resolved) (explains : r.Explains resolver p e) (other : Resolver) :
    r.Explains other p e := by
  cases explains with
  | noProperty => exact .noProperty
  | geometryCount => exact .geometryCount
  | distanceRequired absent => exact .distanceRequired absent
  | distanceRefused present => exact .distanceRefused present
  | unsupported only => exact .unsupported only
  | distanceNotFinite present => exact .distanceNotFinite present
  | ordinateNotFinite only split earlier infinite => exact .ordinateNotFinite only split earlier infinite
  | notEnvelope only => exact .notEnvelope only
  | resolution => exact absurd rfl early

theorem Decides.change (early : r ≠ resolved) (decides : r.Decides resolver p) (other : Resolver) :
    r.Decides other p := by
  obtain ⟨earlier,missed⟩ := decides
  refine ⟨fun q front => ?_,fun met => missed ((Holds.change early other).mpr met)⟩
  have isEarly := rank_lt_resolved.mp (Nat.lt_trans front (rank_lt_resolved.mpr early))
  exact (Holds.change isEarly other).mp (earlier q front)

end Requirement

namespace Sql
open Requirement

theorem condition_eq_ok {resolver : Resolver} {p : Predicate} :
    (∃ c, condition resolver p = .ok c) ↔ ∀ r : Requirement, r.Holds resolver p := by
  have outcome := condition_outcome resolver p
  constructor
  · intro ⟨c,ok⟩ r
    rw [ok] at outcome
    cases outcome with
    | ok all => exact all r r.mem_order
  · intro all
    cases result : condition resolver p with
    | ok c => exact ⟨c,rfl⟩
    | error e =>
      rw [result] at outcome
      cases outcome with
      | error _ _ missed _ => exact absurd (all _) missed

theorem condition_eq_error {resolver : Resolver} {p : Predicate} {e : ConditionError} :
    condition resolver p = .error e ↔ ∃ r : Requirement, r.Decides resolver p ∧ r.Explains resolver p e := by
  have first {f : ConditionError} (error : condition resolver p = .error f) :
      ∃ r : Requirement, r.Decides resolver p ∧ r.Explains resolver p f := by
    have outcome := condition_outcome resolver p
    rw [error] at outcome
    cases outcome with
    | error split earlier missed explains =>
      exact ⟨_,⟨fun q front => earlier q (mem_of_rank_lt split front),missed⟩,explains⟩
  refine ⟨first,?_⟩
  intro ⟨r,decides,explains⟩
  cases result : condition resolver p with
  | ok c => exact absurd (condition_eq_ok.mp ⟨c,result⟩ r) decides.2
  | error f =>
    obtain ⟨s,others,other⟩ := first result
    obtain rfl := decides.unique others
    rw [explains.unique other]

end Sql

/-- A predicate has a condition if and only if it meets all requirements, and otherwise the error of
the first one that it does not meet. The resolver matters for the last one only. -/
theorem condition_requirements (resolver : Resolver) (p : Predicate) :
    ((∃ c, Sql.condition resolver p = .ok c) ↔ ∀ r : Requirement, r.Holds resolver p) ∧
    (∀ e, Sql.condition resolver p = .error e ↔
      ∃ r : Requirement, r.Decides resolver p ∧ r.Explains resolver p e) ∧
    (∀ r : Requirement, r ≠ .resolved → ¬ r.Holds resolver p →
      ∃ e, ∀ other, Sql.condition other p = .error e) ∧
    ∀ cause, (ConditionError.resolution cause).message = cause.message := by
  refine ⟨Sql.condition_eq_ok,fun e => Sql.condition_eq_error,fun r early missed => ?_,fun cause => rfl⟩
  cases result : Sql.condition resolver p with
  | ok c => exact absurd (Sql.condition_eq_ok.mp ⟨c,result⟩ r) missed
  | error e =>
    obtain ⟨first,decides,explains⟩ := Sql.condition_eq_error.mp result
    have isEarly : first ≠ .resolved := by
      rintro rfl
      exact missed (decides.1 r (Requirement.rank_lt_resolved.mpr early))
    exact ⟨e,fun other => Sql.condition_eq_error.mpr
      ⟨first,decides.change isEarly other,explains.change isEarly other⟩⟩

/-- Two requirements are missed here: there is no geometry, and the property has no column. -/
theorem condition_requirements_without_geometry :
    ∃ e, ∀ other, Sql.condition other
      ⟨.dwithin,[.property ⟨"geom",.empty,.geometry⟩],some (.int 5)⟩ = .error e :=
  (condition_requirements (fun reference => .error (.unknownProperty reference.name)) _).2.2.1
    .oneGeometry (by decide) (by simp [Requirement.Holds,Predicate.geometries])

end SpatialFilter
