import SpatialFilter.Proofs.Sql.Fragment

/-! What a condition depends on. Two predicates with the same operator, distance and geometries have the
same condition, or the same error, if their references are answered alike: neither the references
themselves nor the places of the operands matter. -/
namespace SpatialFilter

/-- Two predicates, each under its resolver, that differ in the places of their geometries and in
references with the same answers only. -/
structure AnsweredAlike (resolver other : Resolver) (p q : Predicate) : Prop where
  operator : p.operator = q.operator
  distance : p.distance = q.distance
  geometries : p.geometries = q.geometries
  answers : p.properties.map resolver = q.properties.map other

namespace Sql

theorem resolveAll_eq_mapM (resolver : Resolver) (references : List PropertyReference) :
    resolveAll resolver references = (references.map resolver).mapM (·.mapError .resolution) := by
  rw [List.mapM_map]
  rfl

end Sql

namespace AnsweredAlike
open Sql
variable {resolver other : Resolver} {p q : Predicate}

theorem resolveAll (alike : AnsweredAlike resolver other p q) :
    resolveAll resolver p.properties = resolveAll other q.properties := by
  rw [resolveAll_eq_mapM,resolveAll_eq_mapM,alike.answers]

theorem noProperty (alike : AnsweredAlike resolver other p q) : p.properties.isEmpty = q.properties.isEmpty := by
  have same := congrArg List.isEmpty alike.answers
  rwa [List.isEmpty_map,List.isEmpty_map] at same

theorem checkDistance (alike : AnsweredAlike resolver other p q) : checkDistance p = checkDistance q := by
  unfold Sql.checkDistance
  rw [alike.operator,alike.distance]

theorem checkFinite (alike : AnsweredAlike resolver other p q) (g : Geometry) : checkFinite p g = checkFinite q g := by
  unfold Sql.checkFinite
  rw [alike.operator,alike.distance]

theorem checkedGeometry (alike : AnsweredAlike resolver other p q) : checkedGeometry p = checkedGeometry q := by
  unfold Sql.checkedGeometry
  simp only [alike.noProperty,alike.operator,alike.geometries,alike.checkDistance,alike.checkFinite]

theorem boxCondition (alike : AnsweredAlike resolver other p q) (g : Geometry) :
    boxCondition resolver p g = boxCondition other q g := by
  cases g with
  | envelope lower upper => rw [Sql.boxCondition,Sql.boxCondition,alike.resolveAll]
  | point x y z | lineString positions | unsupported kind => rfl

theorem callCondition (alike : AnsweredAlike resolver other p q) (g : Geometry) :
    callCondition resolver p g = callCondition other q g := by
  unfold Sql.callCondition
  rw [alike.resolveAll,alike.operator,alike.distance]

end AnsweredAlike

namespace Sql

/-- The answers are all that a condition has of its references. -/
theorem condition_of_answers {resolver other : Resolver} {p q : Predicate} (alike : AnsweredAlike resolver other p q) :
    condition resolver p = condition other q := by
  unfold condition
  rw [alike.checkedGeometry,alike.operator]
  simp only [alike.boxCondition,alike.callCondition]

/-- Other names behind a geometry in front, for a resolver that looks at no name. -/
theorem condition_of_answers_renamed : condition roads nearRoads =
    condition (fun _ => .ok ⟨"roads.geom","roads","geom"⟩) ⟨.dwithin,[.geometry (.point (.int 1) (.int 2) none),
      .property ⟨"app:shape",.empty,.unknown⟩,.property ⟨"line",.empty,.envelope⟩],some (.int 5)⟩ :=
  condition_of_answers ⟨rfl,rfl,rfl,rfl⟩

end Sql
end SpatialFilter
