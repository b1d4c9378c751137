import SpatialFilter.Predicate.Fingerprint
import SpatialFilter.Proofs.Json.Grammar
import SpatialFilter.Proofs.Json.Order
import SpatialFilter.Proofs.NameMap
import SpatialFilter.Proofs.Predicate.Json

/-! Predicates read from trees that differ in the order of members only. -/
namespace SpatialFilter
open Json

/-! ### Geometries -/

namespace Geometry

theorem jsonType?_alike {j k : Json} (alike : Alike j k) : jsonType? j = jsonType? k := by
  cases alike.view <;> rfl

theorem positionOfJson?_alike (j k : Json) (alike : Alike j k) : positionOfJson? j = positionOfJson? k :=
  bind_eq_of_related alike.toList? fun _ _ all => mapM_eq_of_related (fun _ _ alike => alike.toNumber?) all

theorem ofJson?_alike {j k : Json} (alike : Alike j k) : ofJson? j = ofJson? k := by
  refine bind_eq_of_related (alike.tagged? "type") ?_
  rintro ⟨type,rest⟩ ⟨other,others⟩ ⟨alike,parts⟩
  dsimp only at alike parts ⊢
  rw [jsonType?_alike alike]
  refine congrArg (bind _) (funext fun name => ?_)
  -- Of each form, only fields that are all there and no more are looked into.
  split
  · refine bind_eq_of_related (parts.fields? _) ?_
    rintro _ _ (_ | ⟨lower | _,_ | ⟨upper | _,_ | _⟩⟩) <;> try rfl
    simp only [positionOfJson?_alike _ _ lower,positionOfJson?_alike _ _ upper]
  · refine bind_eq_of_related (parts.fields? _) ?_
    rintro _ _ (_ | ⟨x | _,_ | ⟨y | _,_ | ⟨z,_ | _⟩⟩⟩) <;> try rfl
    simp only [x.toNumber?,y.toNumber?,Alike.optional? (fun _ _ alike => alike.toNumber?) z]
  · refine bind_eq_of_related (parts.fields? _) ?_
    rintro _ _ (_ | ⟨positions | _,_ | _⟩) <;> try rfl
    refine bind_eq_of_related positions.toList? fun _ _ all => ?_
    rw [mapM_eq_of_related positionOfJson?_alike all]
  · refine bind_eq_of_related (parts.fields? _) ?_
    rintro _ _ (_ | ⟨kind | _,_ | _⟩) <;> try rfl
    simp only [kind.looseChoice?]
  · rfl

end Geometry

/-! ### References -/

namespace PropertyReference

def bindingOfJson? (m : Option String × Json) : Option (String × String) := do return (← m.1,← m.2.toText?)

theorem names_of_bindings {members : List (Option String × Json)} {bindings : List (String × String)}
    (read : members.mapM bindingOfJson? = some bindings) : bindings.map (·.1) = members.filterMap (·.1) := by
  induction members generalizing bindings with
  | nil => cases read; rfl
  | cons m members ih =>
    obtain ⟨name,value⟩ := m
    simp only [List.mapM_cons,Option.bind_eq_bind,Option.bind_eq_some_iff,Option.pure_def,Option.some.injEq,
      bindingOfJson?] at read
    obtain ⟨_,⟨name,rfl,text,-,rfl⟩,others,more,rfl⟩ := read
    rw [List.map_cons,ih more]
    rfl

/-- The bindings are put in the order of their names, whatever their order is in the text. -/
theorem namespacesOfJson?_alike (j k : Json) (alike : Alike j k) : namespacesOfJson? j = namespacesOfJson? k := by
  cases alike.view with
  | @object members changed others names all order =>
    have same : members.mapM bindingOfJson? = changed.mapM bindingOfJson? :=
      mapM_eq_of_related (fun _ _ alike => by rw [bindingOfJson?,bindingOfJson?,alike.1,alike.2.toText?]) all
    have listed := mapM_perm bindingOfJson? order
    rw [← same] at listed
    change (members.mapM bindingOfJson? >>= fun found => pure (NameMap.ofList found)) =
      others.mapM bindingOfJson? >>= fun found => pure (NameMap.ofList found)
    generalize others.mapM bindingOfJson? = answer at listed ⊢
    cases read : members.mapM bindingOfJson? with
    | none =>
      rw [read] at listed
      cases listed
      rfl
    | some bindings =>
      rw [read] at listed
      rw [← names_of_bindings read] at names
      cases listed with
      | some order => exact congrArg some (NameMap.ofList_perm order names)
  | _ => rfl

theorem ofJson?_alike {j k : Json} (alike : Alike j k) : ofJson? j = ofJson? k := by
  refine bind_eq_of_related (alike.fields? _) ?_
  rintro _ _ (_ | ⟨name | _,_ | ⟨namespaces,_ | ⟨declaredType,_ | _⟩⟩⟩) <;> try rfl
  have choice (j k : Json) (alike : Alike j k) :
      (do ValueType.ofName? (← j.looseChoice?)) = (do ValueType.ofName? (← k.looseChoice?)) := by
    rw [alike.looseChoice?]
  simp only [name.toText?,Alike.defaulted? namespacesOfJson?_alike _ namespaces,
    Alike.defaulted? choice _ declaredType]

end PropertyReference

/-! ### Operands -/

theorem Operand.ofJson?_alike (j k : Json) (alike : Alike j k) : ofJson? j = ofJson? k := by
  unfold ofJson?
  rw [alike.isReadable]
  split
  · rfl
  · refine bind_eq_of_related (alike.tagged? "operand") ?_
    rintro ⟨tag,rest⟩ ⟨other,others⟩ ⟨alike,parts⟩
    dsimp only at alike parts ⊢
    rw [alike.toText?,PropertyReference.ofJson?_alike parts,Geometry.ofJson?_alike parts]

/-! ### What is written -/

theorem Json.distinct_ofNumber (n : Number) : Distinct (ofNumber n) := by
  cases n with
  | int i => exact .number _
  | float x =>
    rw [ofNumber]
    split
    · exact .number _
    · exact .null

theorem Json.distinct_record {members : List (String × Json)} (names : (members.map (·.1)).Nodup)
    (all : ∀ m ∈ members, Distinct m.2) : Distinct (record members) := by
  refine .object ?_ fun m member => ?_
  · rw [List.filterMap_map]
    simpa [Function.comp_def] using names
  · obtain ⟨n,inside,rfl⟩ := List.mem_map.mp member
    exact all n inside

/-! ### Predicates -/

namespace Predicate

theorem ofJson?_alike {j k : Json} (alike : Alike j k) : ofJson? j = ofJson? k := by
  refine bind_eq_of_related (alike.fields? _) ?_
  rintro _ _ (_ | ⟨operator | _,_ | ⟨operands | _,_ | ⟨distance,_ | _⟩⟩⟩) <;> try rfl
  have far := Alike.optional? (fun _ _ alike => alike.toNumber?) distance
  simp only [operator.choice?,far]
  refine congrArg (bind _) (funext fun name => congrArg (bind _) (funext fun operator => ?_))
  refine bind_eq_of_related operands.toList? fun _ _ all => ?_
  rw [mapM_eq_of_related Operand.ofJson?_alike all]

theorem distinct (p : Predicate) : Distinct p.toJson :=
  p.inherited ⟨fun s => .text (some s),distinct_ofNumber,.array,distinct_record⟩

/-- An accepted text is the text of one tree. If no object of it has two members of the same name, all texts of this
tree with the members in any other order are read as the same predicate. -/
theorem ofJsonText?_rearranged {text : String} {p : Predicate} (accepted : ofJsonText? text = some p) :
    ∃ j, (∀ i, Padded i text.toList ↔ i = j) ∧
      (j.Distinct → ∀ k, j.Rearranged k → ∀ other : String, Padded k other.toList →
        ∃ q, ofJsonText? other = some q ∧ q = p ∧ q.jsonText = p.jsonText ∧ q.fingerprint = p.fingerprint) := by
  obtain ⟨j,written,read⟩ := Option.bind_eq_some_iff.mp accepted
  refine ⟨j,fun i => ?_,fun distinct k rearranged other rewritten => ⟨p,?_,rfl,rfl,rfl⟩⟩
  · rw [← ofText?_eq_some,written,Option.some.injEq,eq_comm]
  · rw [ofJsonText?,ofText?_eq_some.mpr rewritten,← read]
    exact (ofJson?_alike ⟨distinct,rearranged⟩).symm

/-- A road with two namespaces within a distance of a point. -/
def nearRoad : Predicate :=
  ⟨.dwithin,[.property ⟨"gml:road",NameMap.ofList [("app","urn:app"),("gml","urn:gml")],.geometry⟩,
    .geometry (.point (.int 1) (.float ⟨4602678819172646912⟩) none)],some (.int 10)⟩

def roadBackwards : Json := .record [("declared_type",.string "Geometry"),
  ("namespace_context",.record [("gml",.string "urn:gml"),("app",.string "urn:app")]),
  ("local_name",.string "gml:road"),("operand",.string "property")]

def pointBackwards : Json := .record [("y",ofNumber (.float ⟨4602678819172646912⟩)),("x",ofNumber (.int 1)),
  ("type",.string "Point"),("operand",.string "geometry")]

/-- The members of every object from the last to the first, so that the tags stand behind what they govern. -/
def nearRoadBackwards : Json := .record [("distance",ofNumber (.int 10)),
  ("operands",.array [roadBackwards,pointBackwards]),("operator",.string "DWITHIN")]

theorem nearRoad_rearranged : Rearranged nearRoad.toJson nearRoadBackwards := by
  have same (m : Option String × Json) : MemberRearranged m m := .intro m.1 (.refl m.2)
  have all (members : List (Option String × Json)) : List.Forall₂ MemberRearranged members members :=
    List.forall₂_same.mpr fun m _ => same m
  have namespaces : Rearranged (.record [("app",.string "urn:app"),("gml",.string "urn:gml")])
      (.record [("gml",.string "urn:gml"),("app",.string "urn:app")]) := .object (all _) (.swap ..)
  have road : Rearranged (nearRoad.operands[0].toJson) roadBackwards :=
    .object (.cons (same _) (.cons (same _) (.cons (.intro _ namespaces) (all _)))) (List.reverse_perm _).symm
  have point : Rearranged (nearRoad.operands[1].toJson) pointBackwards :=
    .object (all _) (List.reverse_perm _).symm
  exact .object (.cons (same _) (.cons (.intro _ (.array (.cons road (.cons point .nil)))) (all _)))
    (List.reverse_perm _).symm

theorem nearRoadBackwards_legible : Legible nearRoadBackwards := by
  have text (s : String) : Legible (Json.string s) := .text s
  have namespaces : Legible (.record [("gml",.string "urn:gml"),("app",.string "urn:app")]) :=
    legible_record (by simp [text])
  have road : Legible roadBackwards := legible_record (by simp [text,namespaces])
  have point : Legible pointBackwards := legible_record (by simp [text,legible_ofNumber])
  have operands : Legible (.array [roadBackwards,pointBackwards]) := .array (by simp [road,point])
  exact legible_record (by simp [text,legible_ofNumber,operands])

theorem ofJsonText?_nearRoadBackwards : ofJsonText? nearRoad.jsonText = some nearRoad ∧
    ofJsonText? (String.ofList nearRoadBackwards.write) = some nearRoad := by
  have accepted : ofJsonText? nearRoad.jsonText = some nearRoad := by
    rw [ofJsonText?,ofText_jsonText]
    decide +kernel
  obtain ⟨j,only,same⟩ := ofJsonText?_rearranged accepted
  obtain rfl := (only nearRoad.toJson).mp (ofText?_eq_some.mp nearRoad.ofText_jsonText)
  obtain ⟨q,read,rfl,-⟩ := same nearRoad.distinct nearRoadBackwards nearRoad_rearranged _
    (ofText?_eq_some.mp (ofText?_write nearRoadBackwards_legible))
  exact ⟨accepted,read⟩

end Predicate
end SpatialFilter
