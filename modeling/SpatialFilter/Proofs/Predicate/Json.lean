import SpatialFilter.Predicate.Json
import SpatialFilter.Proofs.Json.Number
import SpatialFilter.Proofs.NameMap
import SpatialFilter.Proofs.Sequence

/-! Predicates that travel as JSON. What the reader makes of the text of a predicate is settled by
its numbers: those that are not finite are dropped where they may be missing, and spoil the text
where they may not. -/
namespace SpatialFilter
open Json

/-! ### Structures -/

theorem Json.tagged_record {tag : String} (value : Json) {members : List (String × Json)}
    (fresh : tag ∉ members.map (·.1)) :
    (record ((tag,value) :: members)).tagged? tag = some (value,record members) := by
  have apart : ∀ m ∈ members, m.1 ≠ tag := fun m member same => fresh (same ▸ List.mem_map_of_mem member)
  have others : (members.map fun m => (some m.1,m.2)).filter (fun m => m.1 == some tag) = [] := by
    rw [List.filter_eq_nil_iff]
    intro m member
    obtain ⟨n,inside,rfl⟩ := List.mem_map.mp member
    simpa using apart n inside
  have rest : (members.map fun m => (some m.1,m.2)).filter (fun m => m.1 != some tag) =
      members.map fun m => (some m.1,m.2) := by
    rw [List.filter_eq_self]
    intro m member
    obtain ⟨n,inside,rfl⟩ := List.mem_map.mp member
    simpa using apart n inside
  unfold record tagged? member?
  simp [others,rest]

theorem Json.isReadable_record (depth : Nat) (members : List (String × Json)) :
    isReadable (depth + 1) (record members) = members.all fun m => isReadable depth m.2 := by
  rw [record,isReadable,List.all_map]
  rfl

theorem Json.legible_record {members : List (String × Json)} (all : ∀ m ∈ members, Legible m.2) :
    Legible (record members) := by
  apply Legible.object
  · intro m member
    obtain ⟨n,-,rfl⟩ := List.mem_map.mp member
    rfl
  · intro m member
    obtain ⟨n,inside,rfl⟩ := List.mem_map.mp member
    exact all n inside

/-! ### Names -/

theorem Operator.ofName_name (o : Operator) : ofName? o.name = some o := by
  cases o <;> rfl

theorem ValueType.ofName_name (t : ValueType) : ofName? t.name = some t := by
  cases t <;> rfl

theorem UnsupportedKind.ofName_name (k : UnsupportedKind) : ofName? k.name = some k := by
  cases k <;> rfl

/-! ### Numbers -/

/-- A number that is read back, if it has a text at all. -/
def Number.Survives (n : Number) : Prop := n.isFinite = true → (ofNumber n).toNumber? = some n

theorem Number.Survives.read {n : Number} (survives : n.Survives) :
    (ofNumber n).toNumber? = if n.isFinite then some n else none := by
  split
  · rename_i finite
    exact survives finite
  · rename_i infinite
    rcases n.finite_or_infinite with finite | ⟨x,rfl,beyond⟩
    · exact absurd finite infinite
    · rw [ofNumber_infinite beyond]
      rfl

theorem Number.Survives.readable {n : Number} (survives : n.Survives) (depth : Nat) :
    isReadable depth (ofNumber n) = true := by
  rcases n.finite_or_infinite with finite | ⟨x,rfl,beyond⟩
  · obtain ⟨token,text,-⟩ := token_of_finite finite
    have read := survives finite
    rw [text] at read ⊢
    rw [isReadable]
    exact Option.isSome_iff_exists.mpr ⟨n,read⟩
  · rw [ofNumber_infinite beyond,isReadable]

theorem Number.Survives.optional {z : Option Number} (survives : ∀ n ∈ z, n.Survives) :
    optional? toNumber? (z.map ofNumber) = some (z.filter Number.isFinite) := by
  cases z with
  | none => rfl
  | some n =>
    rcases n.finite_or_infinite with finite | ⟨x,rfl,beyond⟩
    · obtain ⟨token,text,-⟩ := token_of_finite finite
      have read := survives n rfl finite
      rw [text] at read
      rw [Option.map_some,text,optional?,read,Option.filter_some,if_pos finite]
      · rfl
      · simp
    · rw [Option.map_some,ofNumber_infinite beyond,Option.filter_some,if_neg (by simp [Number.isFinite,beyond])]
      rfl

/-! ### Geometries -/

namespace Geometry

/-- The ordinates that no text of a geometry can be without. -/
def required : Geometry → List Number
  | envelope lower upper => lower ++ upper
  | point x y _ => [x,y]
  | lineString positions => positions.flatten
  | unsupported _ => []

/-- A geometry without a height that is not finite. -/
def settled : Geometry → Geometry
  | point x y z => point x y (z.filter Number.isFinite)
  | g => g

theorem positionOfJson {p : Position} (survive : ∀ n ∈ p, n.Survives) :
    positionOfJson? (positionJson p) = if p.all Number.isFinite then some p else none := by
  have read : (p.map ofNumber).mapM toNumber? = if p.all Number.isFinite then some (p.map id) else none := by
    rw [List.mapM_map]
    exact mapM_option_eq fun n member => (survive n member).read
  rw [List.map_id] at read
  exact read

theorem ofJson_envelope (lower upper : Position) : ofJson? (.record (jsonMembers (.envelope lower upper))) = (do
    return .envelope (← positionOfJson? (positionJson lower)) (← positionOfJson? (positionJson upper))) := by
  rw [ofJson?,jsonMembers,tagged_record _ (by simp)]
  rfl

theorem ofJson_point (x y : Number) (z : Option Number) : ofJson? (.record (jsonMembers (.point x y z))) = (do
    return .point (← (ofNumber x).toNumber?) (← (ofNumber y).toNumber?)
      (← optional? toNumber? (z.map ofNumber))) := by
  cases z with
  | none =>
    rw [ofJson?,jsonMembers,List.cons_append,tagged_record _ (by simp)]
    rfl
  | some z =>
    rw [ofJson?,jsonMembers,List.cons_append,tagged_record _ (by simp)]
    rfl

theorem ofJson_lineString (positions : List Position) :
    ofJson? (.record (jsonMembers (.lineString positions))) = (do
      return .lineString (← (positions.map positionJson).mapM positionOfJson?)) := by
  rw [ofJson?,jsonMembers,tagged_record _ (by simp)]
  rfl

theorem ofJson_unsupported (kind : UnsupportedKind) :
    ofJson? (.record (jsonMembers (.unsupported kind))) = some (.unsupported kind) := by
  rw [ofJson?,jsonMembers,tagged_record _ (by simp)]
  cases kind <;> rfl

theorem ofJson_jsonMembers {g : Geometry} (survive : ∀ n ∈ g.ordinates, n.Survives) :
    ofJson? (.record g.jsonMembers) = if g.required.all Number.isFinite then some g.settled else none := by
  cases g with
  | envelope lower upper =>
    have low := positionOfJson fun n member => survive n (List.mem_append_left upper member)
    have high := positionOfJson fun n member => survive n (List.mem_append_right lower member)
    rw [ofJson_envelope,low,high,required,List.all_append]
    cases lower.all Number.isFinite <;> cases upper.all Number.isFinite <;> rfl
  | point x y z =>
    have height : optional? toNumber? (z.map ofNumber) = some (z.filter Number.isFinite) := by
      apply Number.Survives.optional
      intro n member
      exact survive n (by simpa [ordinates] using .inr (.inr member))
    have first := (survive x (by simp [ordinates])).read
    have second := (survive y (by simp [ordinates])).read
    rw [ofJson_point,first,second,height,required,List.all_cons,List.all_cons]
    cases x.isFinite <;> cases y.isFinite <;> rfl
  | lineString positions =>
    have read : (positions.map positionJson).mapM positionOfJson? =
        if positions.all (fun p => p.all Number.isFinite) then some (positions.map id) else none := by
      rw [List.mapM_map]
      apply mapM_option_eq
      intro p member
      apply positionOfJson
      intro n inside
      exact survive n (List.mem_flatten_of_mem member inside)
    rw [List.map_id] at read
    rw [ofJson_lineString,read,required,List.all_flatten]
    cases positions.all (fun p => p.all Number.isFinite) <;> rfl
  | unsupported kind => exact ofJson_unsupported kind

end Geometry

/-! ### References -/

namespace PropertyReference

theorem namespacesOfJson (namespaces : Namespaces) :
    namespacesOfJson? (namespacesJson namespaces) = some namespaces := by
  have read : (namespaces.entries.map fun entry => (some entry.1,Json.string entry.2)).mapM
      (fun member => do return (← member.1,← member.2.toText?)) = some (namespaces.entries.map id) := by
    rw [List.mapM_map]
    exact mapM_option_some fun entry _ => rfl
  rw [List.map_id] at read
  have whole : namespacesOfJson? (namespacesJson namespaces) = (do
      return NameMap.ofList (← (namespaces.entries.map fun entry => (some entry.1,Json.string entry.2)).mapM
        fun member => do return (← member.1,← member.2.toText?))) := by
    rw [namespacesJson,Json.record,List.map_map]
    rfl
  rw [whole,read]
  exact congrArg some namespaces.ofList_entries

theorem ofJson_jsonMembers (r : PropertyReference) : ofJson? (.record r.jsonMembers) = some r := by
  obtain ⟨name,namespaces,declaredType⟩ := r
  cases none : namespaces.isEmpty with
  | true =>
    obtain rfl := NameMap.isEmpty_iff.mp none
    have read : ofJson? (.record (jsonMembers ⟨name,NameMap.empty,declaredType⟩)) = (do
        return ⟨name,NameMap.empty,← ValueType.ofName? declaredType.name⟩) := rfl
    rw [read,ValueType.ofName_name]
    rfl
  | false =>
    have read : ofJson? (.record (jsonMembers ⟨name,namespaces,declaredType⟩)) = (do
        return ⟨name,← namespacesOfJson? (namespacesJson namespaces),← ValueType.ofName? declaredType.name⟩) := by
      rw [jsonMembers,if_neg (by simp [none])]
      rfl
    rw [read,namespacesOfJson,ValueType.ofName_name]
    rfl

end PropertyReference

/-! ### What can be read at all -/

private theorem readable_text (depth : Nat) (s : String) : isReadable depth (.string s) = true := by
  cases depth <;> rfl

theorem Geometry.readable_position {p : Position} (survive : ∀ n ∈ p, n.Survives) (depth : Nat) :
    isReadable (depth + 1) (positionJson p) = true := by
  rw [positionJson,isReadable,List.all_map,List.all_eq_true]
  intro n member
  exact (survive n member).readable depth

theorem Geometry.readable_members {g : Geometry} (survive : ∀ n ∈ g.ordinates, n.Survives) (depth : Nat) :
    ∀ m ∈ g.jsonMembers, isReadable (depth + 2) m.2 = true := by
  cases g with
  | envelope lower upper =>
    have low := readable_position (fun n member => survive n (List.mem_append_left upper member)) (depth + 1)
    have high := readable_position (fun n member => survive n (List.mem_append_right lower member)) (depth + 1)
    simp [jsonMembers,readable_text,low,high]
  | point x y z =>
    have first := (survive x (by simp [ordinates])).readable (depth + 2)
    have second := (survive y (by simp [ordinates])).readable (depth + 2)
    cases z with
    | none => simp [jsonMembers,readable_text,first,second]
    | some z =>
      have third := (survive z (by simp [ordinates])).readable (depth + 2)
      simp [jsonMembers,readable_text,first,second,third]
  | lineString positions =>
    have all : isReadable (depth + 2) (.array (positions.map positionJson)) = true := by
      rw [isReadable,List.all_map,List.all_eq_true]
      intro p member
      apply readable_position
      intro n inside
      exact survive n (List.mem_flatten_of_mem member inside)
    simp [jsonMembers,readable_text,all]
  | unsupported kind => simp [jsonMembers,readable_text]

theorem PropertyReference.readable_members (r : PropertyReference) (depth : Nat) :
    ∀ m ∈ r.jsonMembers, isReadable (depth + 1) m.2 = true := by
  have namespaces : isReadable (depth + 1) (namespacesJson r.namespaces) = true := by
    rw [namespacesJson,isReadable_record,List.all_map,List.all_eq_true]
    intro entry _
    exact readable_text depth entry.2
  cases none : r.namespaces.isEmpty with
  | true => simp [jsonMembers,none,ValueType.toJson,readable_text]
  | false => simp [jsonMembers,none,ValueType.toJson,readable_text,namespaces]

/-! ### Operands -/

theorem PropertyReference.names_nodup (r : PropertyReference) : ("operand" :: r.jsonMembers.map (·.1)).Nodup := by
  cases none : r.namespaces.isEmpty <;> simp [jsonMembers,none]

theorem Geometry.names_nodup (g : Geometry) : ("operand" :: g.jsonMembers.map (·.1)).Nodup := by
  cases g with
  | point x y z => cases z <;> simp [jsonMembers]
  | envelope lower upper | lineString positions | unsupported kind => simp [jsonMembers]

namespace Operand

/-- The ordinates that no text of an operand can be without. -/
def required : Operand → List Number
  | property _ => []
  | geometry g => g.required

def settled : Operand → Operand
  | property r => property r
  | geometry g => geometry g.settled

/-- All numbers of an operand. -/
def numbers : Operand → List Number
  | property _ => []
  | geometry g => g.ordinates

theorem readable {o : Operand} (survive : ∀ n ∈ o.numbers, n.Survives) (depth : Nat) :
    isReadable (depth + 3) o.toJson = true := by
  have tag (kind : String) := readable_text (depth + 2) kind
  cases o with
  | property r =>
    rw [toJson,isReadable_record,List.all_cons,tag,Bool.true_and,List.all_eq_true]
    exact r.readable_members (depth + 1)
  | geometry g =>
    rw [toJson,isReadable_record,List.all_cons,tag,Bool.true_and,List.all_eq_true]
    exact Geometry.readable_members survive depth

theorem ofJson_toJson {o : Operand} (survive : ∀ n ∈ o.numbers, n.Survives) :
    ofJson? o.toJson = if o.required.all Number.isFinite then some o.settled else none := by
  have whole : (!isReadable (depthLimit - 2) o.toJson) = false := by
    rw [show depthLimit - 2 = 122 + 3 from rfl,readable survive 122]
    rfl
  unfold ofJson?
  rw [whole]
  cases o with
  | property r =>
    rw [toJson,tagged_record _ (List.nodup_cons.mp r.names_nodup).1]
    change (do return property (← PropertyReference.ofJson? (record r.jsonMembers))) = _
    rw [r.ofJson_jsonMembers]
    rfl
  | geometry g =>
    rw [toJson,tagged_record _ (List.nodup_cons.mp g.names_nodup).1]
    change (do return geometry (← Geometry.ofJson? (record g.jsonMembers))) = _
    rw [Geometry.ofJson_jsonMembers survive,required]
    cases g.required.all Number.isFinite <;> rfl

end Operand

/-! ### Predicates -/

namespace Predicate

/-- All numbers of a predicate. -/
def numbers (p : Predicate) : List Number := p.operands.flatMap Operand.numbers ++ p.distance.toList

/-- A predicate without the numbers that are not finite and may be missing. -/
def settled (p : Predicate) : Predicate :=
  ⟨p.operator,p.operands.map Operand.settled,p.distance.filter Number.isFinite⟩

theorem ofJson_toJson {p : Predicate} (survive : ∀ n ∈ p.numbers, n.Survives) :
    ofJson? p.toJson = if p.operands.all (fun o => o.required.all Number.isFinite) then some p.settled else none := by
  obtain ⟨operator,operands,distance⟩ := p
  have read : (operands.map Operand.toJson).mapM Operand.ofJson? =
      if operands.all (fun o => o.required.all Number.isFinite) then some (operands.map Operand.settled) else none := by
    rw [List.mapM_map]
    apply mapM_option_eq
    intro o member
    apply Operand.ofJson_toJson
    intro n inside
    exact survive n (List.mem_append_left _ (List.mem_flatMap.mpr ⟨o,member,inside⟩))
  have far : optional? toNumber? (distance.map ofNumber) = some (distance.filter Number.isFinite) := by
    apply Number.Survives.optional
    intro n member
    exact survive n (List.mem_append_right _ (by simpa using member))
  have whole : ofJson? (toJson ⟨operator,operands,distance⟩) = (do
      return ⟨← Operator.ofName? operator.name,← (operands.map Operand.toJson).mapM Operand.ofJson?,
        ← optional? toNumber? (distance.map ofNumber)⟩) := by
    cases distance <;> rfl
  rw [whole,Operator.ofName_name,read,far]
  cases operands.all fun o => o.required.all Number.isFinite <;> rfl

end Predicate

/-! ### Texts -/

/-- What holds of strings and numbers, and of arrays and objects if it holds of their parts. The members of an object
have names of their own. -/
structure Json.Inherited (holds : Json → Prop) : Prop where
  string (s : String) : holds (.string s)
  number (n : Number) : holds (ofNumber n)
  array {elements : List Json} (all : ∀ j ∈ elements, holds j) : holds (.array elements)
  record {members : List (String × Json)} (names : (members.map (·.1)).Nodup) (all : ∀ m ∈ members, holds m.2) :
    holds (.record members)

section Inherited
variable {holds : Json → Prop}

theorem Json.Inherited.arrayOf (inherited : Inherited holds) {α : Type} {toJson : α → Json} {values : List α}
    (all : ∀ value, holds (toJson value)) : holds (.array (values.map toJson)) := by
  apply inherited.array
  intro j member
  obtain ⟨value,-,rfl⟩ := List.mem_map.mp member
  exact all value

theorem Geometry.inherited (g : Geometry) (inherited : Inherited holds) : ∀ m ∈ g.jsonMembers, holds m.2 := by
  have position (p : Position) : holds (positionJson p) := inherited.arrayOf inherited.number
  cases g with
  | envelope lower upper => simp [jsonMembers,inherited.string,position]
  | point x y z => cases z <;> simp [jsonMembers,inherited.string,inherited.number]
  | lineString positions => simp [jsonMembers,inherited.string,inherited.arrayOf position]
  | unsupported kind => simp [jsonMembers,inherited.string]

theorem PropertyReference.inherited (r : PropertyReference) (inherited : Inherited holds) :
    ∀ m ∈ r.jsonMembers, holds m.2 := by
  have namespaces : holds (namespacesJson r.namespaces) := by
    apply inherited.record
    · simpa [Function.comp_def] using r.namespaces.nodup_names
    · intro m member
      obtain ⟨entry,-,rfl⟩ := List.mem_map.mp member
      exact inherited.string entry.2
  cases none : r.namespaces.isEmpty <;> simp [jsonMembers,none,inherited.string,namespaces,ValueType.toJson]

theorem Operand.inherited (o : Operand) (inherited : Inherited holds) : holds o.toJson := by
  cases o with
  | property r =>
    refine inherited.record r.names_nodup ?_
    rw [List.forall_mem_cons]
    exact ⟨inherited.string _,r.inherited inherited⟩
  | geometry g =>
    refine inherited.record g.names_nodup ?_
    rw [List.forall_mem_cons]
    exact ⟨inherited.string _,g.inherited inherited⟩

theorem Predicate.inherited (p : Predicate) (inherited : Inherited holds) : holds p.toJson := by
  have operands : holds (.array (p.operands.map Operand.toJson)) := inherited.arrayOf fun o => o.inherited inherited
  apply inherited.record
  · cases p.distance <;> simp
  · cases p.distance <;> simp [Operator.toJson,inherited.string,inherited.number,operands]

end Inherited

namespace Predicate

theorem legible (p : Predicate) : Legible p.toJson :=
  p.inherited ⟨.text,legible_ofNumber,.array,fun _ all => legible_record all⟩

theorem ofText_jsonText (p : Predicate) : Json.ofText? p.jsonText = some p.toJson :=
  ofText?_write p.legible

theorem mem_geometries {p : Predicate} {g : Geometry} : g ∈ p.geometries ↔ .geometry g ∈ p.operands := by
  unfold geometries
  rw [List.mem_filterMap]
  constructor
  · intro ⟨o,member,same⟩
    cases o with
    | property r => cases same
    | geometry h =>
      cases same
      exact member
  · intro member
    exact ⟨_,member,rfl⟩

theorem all_required {p : Predicate} : p.operands.all (fun o => o.required.all Number.isFinite) = true ↔
    ∀ g ∈ p.geometries, ∀ n ∈ g.required, n.isFinite = true := by
  rw [List.all_eq_true]
  constructor
  · intro all g member n inside
    exact List.all_eq_true.mp (all (.geometry g) (mem_geometries.mp member)) n inside
  · intro all o member
    rw [List.all_eq_true]
    cases o with
    | property r => simp [Operand.required]
    | geometry g => exact all g (mem_geometries.mpr member)

end Predicate

/-! ### What is lost -/

theorem Geometry.settled_eq {g : Geometry} (finite : ∀ n ∈ g.ordinates, n.isFinite = true) : g.settled = g := by
  cases g with
  | point x y z =>
    cases z with
    | none => rfl
    | some z => simp [settled,finite z (by simp [ordinates])]
  | envelope lower upper | lineString positions | unsupported kind => rfl

theorem Geometry.mem_ordinates {g : Geometry} {n : Number} (member : n ∈ g.required) : n ∈ g.ordinates := by
  cases g with
  | point x y z => exact List.mem_append_left z.toList member
  | envelope lower upper | lineString positions | unsupported kind => exact member

theorem Operand.settled_eq {o : Operand} (finite : ∀ n ∈ o.numbers, n.isFinite = true) : o.settled = o := by
  cases o with
  | property r => rfl
  | geometry g => rw [settled,Geometry.settled_eq finite]

namespace Predicate

theorem mem_numbers {p : Predicate} {g : Geometry} (member : g ∈ p.geometries) {n : Number}
    (inside : n ∈ g.ordinates) : n ∈ p.numbers :=
  List.mem_append_left _ (List.mem_flatMap.mpr ⟨_,mem_geometries.mp member,inside⟩)

theorem settled_eq {p : Predicate} (finite : ∀ n ∈ p.numbers, n.isFinite = true) : p.settled = p := by
  obtain ⟨operator,operands,distance⟩ := p
  have same : operands.map Operand.settled = operands := by
    apply map_eq_self
    intro o member
    apply Operand.settled_eq
    intro n inside
    exact finite n (List.mem_append_left _ (List.mem_flatMap.mpr ⟨o,member,inside⟩))
  have far : distance.filter Number.isFinite = distance := by
    cases distance with
    | none => rfl
    | some d => simp [finite d (by simp [numbers])]
  rw [settled,same,far]

/-- A predicate is read back from its text without the distance and the heights that are not finite,
unless another of its ordinates is not finite. Its floats must be such as their own texts keep. -/
theorem ofJsonText_jsonText (p : Predicate) (kept : ∀ x : Double, .float x ∈ p.numbers → x.isFinite = true →
      Number.ofJsonText? (Number.jsonText (.float x)) = some (.float x)) :
    (ofJsonText? p.jsonText = none ↔ ∃ g ∈ p.geometries, ∃ n ∈ g.required, n.isFinite = false) ∧
      ((∀ g ∈ p.geometries, ∀ n ∈ g.required, n.isFinite = true) → ofJsonText? p.jsonText = some p.settled) ∧
      ((∀ n ∈ p.numbers, n.isFinite = true) → ofJsonText? p.jsonText = some p) := by
  have survive : ∀ n ∈ p.numbers, n.Survives := by
    intro n member finite
    rw [← Number.ofJsonText_toNumber]
    cases n with
    | int i => exact Number.ofJsonText_int i
    | float x => exact kept x member finite
  have read : ofJsonText? p.jsonText = ofJson? p.toJson := by
    rw [ofJsonText?,ofText_jsonText]
    rfl
  have arrives : (∀ g ∈ p.geometries, ∀ n ∈ g.required, n.isFinite = true) → ofJsonText? p.jsonText = some p.settled := by
    intro finite
    rw [read,ofJson_toJson survive,if_pos (all_required.mpr finite)]
  refine ⟨?_,arrives,?_⟩
  · constructor
    · intro lost
      by_contra finite
      have all : ∀ g ∈ p.geometries, ∀ n ∈ g.required, n.isFinite = true := by simpa using finite
      rw [arrives all] at lost
      cases lost
    · intro ⟨g,member,n,inside,infinite⟩
      have missed : ¬ p.operands.all (fun o => o.required.all Number.isFinite) = true := by
        intro all
        rw [all_required.mp all g member n inside] at infinite
        cases infinite
      rw [read,ofJson_toJson survive,if_neg missed]
  · intro finite
    have whole := arrives fun g member n inside => finite n (mem_numbers member (Geometry.mem_ordinates inside))
    rwa [settled_eq finite] at whole

/-- A name to be escaped, a tenth beside an integer, no number as the height, and an infinite distance. -/
def vagueRoad : Predicate :=
  ⟨.dwithin,[.property ⟨"ro\"ad\n",NameMap.ofList [("é","urn:é")],.geometry⟩,
    .geometry (.point (.float ⟨4591870180066957722⟩) (.int (-2)) (some (.float Double.nan)))],
    some (.float (Double.infinity false))⟩

theorem ofJsonText_jsonText_vagueRoad : ofJsonText? vagueRoad.jsonText =
    some ⟨.dwithin,[.property ⟨"ro\"ad\n",NameMap.ofList [("é","urn:é")],.geometry⟩,
      .geometry (.point (.float ⟨4591870180066957722⟩) (.int (-2)) none)],none⟩ := by
  have numbers : vagueRoad.numbers =
      [.float ⟨4591870180066957722⟩,.int (-2),.float Double.nan,.float (Double.infinity false)] := rfl
  have kept : ∀ x : Double, .float x ∈ vagueRoad.numbers → x.isFinite = true →
      Number.ofJsonText? (Number.jsonText (.float x)) = some (.float x) := by
    intro x member finite
    rw [numbers] at member
    simp only [List.mem_cons,Number.float.injEq,reduceCtorEq,List.not_mem_nil,or_false,false_or] at member
    rcases member with rfl | rfl | rfl
    · decide +kernel
    · exact absurd finite (by decide)
    · exact absurd finite (by decide)
  exact (ofJsonText_jsonText vagueRoad kept).2.1 (by decide)

end Predicate
end SpatialFilter
