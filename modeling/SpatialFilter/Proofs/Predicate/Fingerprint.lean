import SpatialFilter.Predicate.Fingerprint
import SpatialFilter.Proofs.Predicate.Json

/-! Predicates with the same text. The text that is hashed has every field of a predicate in it, and
each but the infinities and NaN can be told from it. -/
namespace SpatialFilter
open Json

theorem eq_iff_of_read {α β : Type} {f : α → β} {read? : β → Option α} (back : ∀ x, read? (f x) = some x) {x y : α} :
    f x = f y ↔ x = y := by
  constructor
  · intro same
    have read := back x
    rw [same,back] at read
    exact (Option.some.inj read).symm
  · intro same
    rw [same]

theorem Json.string_inj {s t : String} : Json.string s = Json.string t ↔ s = t := by
  simp [Json.string]

theorem Json.record_inj {members others : List (String × Json)} :
    record members = record others ↔ members = others := by
  have injective : Function.Injective fun m : String × Json => (some m.1,m.2) := by
    intro m n same
    simpa [Prod.ext_iff] using same
  rw [record,record,Json.object.injEq,injective.list_map.eq_iff]

theorem Json.optionalMember_eq_iff {name : String} {z w : Option Number} :
    (z.map fun n => (name,ofNumber n)).toList = (w.map fun n => (name,ofNumber n)).toList ↔
      z.map Number.blurred = w.map Number.blurred := by
  cases z <;> cases w <;> simp [ofNumber_eq_iff]

/-! ### Geometries -/

namespace Geometry

/-- A geometry up to the differences between numbers that are not finite. -/
def blurred : Geometry → Geometry
  | envelope lower upper => envelope (lower.map Number.blurred) (upper.map Number.blurred)
  | point x y z => point x.blurred y.blurred (z.map Number.blurred)
  | lineString positions => lineString (positions.map (List.map Number.blurred))
  | unsupported kind => unsupported kind

theorem positionJson_eq_iff (p q : Position) :
    positionJson p = positionJson q ↔ p.map Number.blurred = q.map Number.blurred := by
  rw [positionJson,positionJson,Json.array.injEq,map_eq_iff_map_eq ofNumber_eq_iff]

theorem jsonMembers_eq_iff {g h : Geometry} : g.jsonMembers = h.jsonMembers ↔ g.blurred = h.blurred := by
  cases g with
  | envelope lower upper =>
    cases h with
    | envelope low high => simp [jsonMembers,blurred,positionJson_eq_iff]
    | _ => simp [jsonMembers,blurred,string_inj]
  | point x y z =>
    cases h with
    | point a b c => simp [jsonMembers,blurred,ofNumber_eq_iff,optionalMember_eq_iff]
    | _ => simp [jsonMembers,blurred,string_inj]
  | lineString positions =>
    cases h with
    | lineString others => simp [jsonMembers,blurred,map_eq_iff_map_eq positionJson_eq_iff]
    | _ => simp [jsonMembers,blurred,string_inj]
  | unsupported kind =>
    cases h with
    | unsupported other => simp [jsonMembers,blurred,string_inj,eq_iff_of_read UnsupportedKind.ofName_name]
    | _ => simp [jsonMembers,blurred,string_inj]

end Geometry

/-! ### Operands -/

theorem PropertyReference.jsonMembers_inj {r s : PropertyReference} : r.jsonMembers = s.jsonMembers ↔ r = s := by
  rw [← record_inj]
  exact eq_iff_of_read ofJson_jsonMembers

def Operand.blurred : Operand → Operand
  | property r => property r
  | geometry g => geometry g.blurred

theorem Operand.toJson_eq_iff (o a : Operand) : o.toJson = a.toJson ↔ o.blurred = a.blurred := by
  cases o with
  | property r =>
    cases a with
    | property s => simp [toJson,blurred,record_inj,PropertyReference.jsonMembers_inj]
    | geometry h => simp [toJson,blurred,record_inj,string_inj]
  | geometry g =>
    cases a with
    | property s => simp [toJson,blurred,record_inj,string_inj]
    | geometry h => simp [toJson,blurred,record_inj,Geometry.jsonMembers_eq_iff]

/-! ### Predicates -/

namespace Predicate

/-- A predicate up to the differences between numbers that are not finite. -/
def blurred (p : Predicate) : Predicate :=
  ⟨p.operator,p.operands.map Operand.blurred,p.distance.map Number.blurred⟩

theorem toJson_eq_iff {p q : Predicate} : p.toJson = q.toJson ↔ p.blurred = q.blurred := by
  simp [toJson,blurred,record_inj,Operator.toJson,string_inj,eq_iff_of_read Operator.ofName_name,
    map_eq_iff_map_eq Operand.toJson_eq_iff,optionalMember_eq_iff]

theorem jsonText_eq_iff {p q : Predicate} : p.jsonText = q.jsonText ↔ p.blurred = q.blurred := by
  rw [← toJson_eq_iff]
  constructor
  · intro same
    exact write_injective p.legible q.legible (String.ofList_inj.mp same)
  · intro same
    rw [jsonText,same,jsonText]

end Predicate

/-! ### Numbers that are all finite -/

theorem Number.blurred_eq {n : Number} (finite : n.isFinite = true) : n.blurred = n := if_pos finite

theorem Geometry.blurred_eq {g : Geometry} (finite : ∀ n ∈ g.ordinates, n.isFinite = true) : g.blurred = g := by
  have position {p : Position} (all : ∀ n ∈ p, n.isFinite = true) : p.map Number.blurred = p :=
    map_eq_self fun n member => Number.blurred_eq (all n member)
  cases g with
  | envelope lower upper =>
    rw [blurred,position fun n member => finite n (List.mem_append_left upper member),
      position fun n member => finite n (List.mem_append_right lower member)]
  | point x y z =>
    have height : z.map Number.blurred = z :=
      option_map_eq_self fun n member => Number.blurred_eq (finite n (by simp [ordinates,Option.mem_def.mp member]))
    rw [blurred,height,Number.blurred_eq (finite x (by simp [ordinates])),
      Number.blurred_eq (finite y (by simp [ordinates]))]
  | lineString positions =>
    have all : positions.map (List.map Number.blurred) = positions :=
      map_eq_self fun p member => position fun n inside => finite n (List.mem_flatten_of_mem member inside)
    rw [blurred,all]
  | unsupported kind => rfl

theorem Operand.blurred_eq {o : Operand} (finite : ∀ n ∈ o.numbers, n.isFinite = true) : o.blurred = o := by
  cases o with
  | property r => rfl
  | geometry g => rw [blurred,Geometry.blurred_eq finite]

namespace Predicate

theorem blurred_eq {p : Predicate} (finite : ∀ n ∈ p.numbers, n.isFinite = true) : p.blurred = p := by
  have operands : p.operands.map Operand.blurred = p.operands := by
    apply map_eq_self
    intro o member
    apply Operand.blurred_eq
    intro n inside
    exact finite n (List.mem_append_left _ (List.mem_flatMap.mpr ⟨o,member,inside⟩))
  have distance : p.distance.map Number.blurred = p.distance := by
    apply option_map_eq_self
    intro d member
    exact Number.blurred_eq (finite d (List.mem_append_right _ (Option.mem_toList.mpr member)))
  rw [blurred,operands,distance]

/-- The hashed text tells predicates apart, whatever their numbers are, up to the numbers that are not
finite. The order in which namespaces were bound does not show. -/
theorem fingerprint_separates (p q : Predicate) :
    (p.jsonText = q.jsonText ↔ p.blurred = q.blurred) ∧
      ((∀ n ∈ p.numbers, n.isFinite = true) → (∀ n ∈ q.numbers, n.isFinite = true) →
        p.jsonText = q.jsonText → p = q) ∧
      ∀ (build : Namespaces → Predicate) (bindings others : List (String × String)), bindings.Perm others →
        (bindings.map (·.1)).Nodup →
          (build (NameMap.ofList bindings)).fingerprint = (build (NameMap.ofList others)).fingerprint := by
  refine ⟨jsonText_eq_iff,?_,?_⟩
  · intro first second same
    have blurred := jsonText_eq_iff.mp same
    rwa [blurred_eq first,blurred_eq second] at blurred
  · intro build bindings others perm distinct
    rw [NameMap.ofList_perm perm distinct]

/-- A road that meets a point on the first axis. -/
def roadAt (namespaces : Namespaces) (x : Number) : Predicate :=
  ⟨.intersects,[.property ⟨"gml:road",namespaces,.geometry⟩,.geometry (.point x (.int 0) none)],none⟩

theorem fingerprint_separates_roads :
    (roadAt NameMap.empty (.int 1)).jsonText ≠ (roadAt NameMap.empty (.float ⟨4607182418800017408⟩)).jsonText ∧
      (roadAt NameMap.empty (.float Double.nan)).jsonText =
        (roadAt NameMap.empty (.float (Double.infinity true))).jsonText ∧
      (roadAt (NameMap.ofList [("gml","urn:gml"),("app","urn:app")]) (.int 1)).fingerprint =
        (roadAt (NameMap.ofList [("app","urn:app"),("gml","urn:gml")]) (.int 1)).fingerprint := by
  refine ⟨?_,?_,?_⟩
  · intro same
    have equal := (fingerprint_separates _ _).2.1 (by decide) (by decide) same
    revert equal
    decide
  · exact (fingerprint_separates _ _).1.mpr (by decide)
  · exact (fingerprint_separates (roadAt NameMap.empty (.int 1)) (roadAt NameMap.empty (.int 1))).2.2
      (fun namespaces => roadAt namespaces (.int 1)) _ _ (List.Perm.swap ..) (by decide)

end Predicate
end SpatialFilter
