import SpatialFilter.Registry
import Mathlib.Data.List.Perm.Basic
import Mathlib.Data.List.TakeWhile

/-! Registries as lists of bindings. Grouping by names does not show: a reference is answered as by a look
through all bindings in the order of their registration. -/
namespace SpatialFilter

/-! ### Names -/

namespace QualifiedName
variable {name qualifier localName : String}

theorem ofString_unqualified (free : ':' ∉ name.toList) : ofString name = ⟨none,name⟩ := by
  have whole : name.toList.dropWhile (· ≠ ':') = [] := by
    rw [List.dropWhile_eq_nil_iff]
    intro c member
    simpa using ne_of_mem_of_not_mem member free
  rw [ofString,split,whole]
  simp

theorem ofString_qualified (first : ':' ∉ qualifier.toList) :
    ofString (qualifier ++ ":" ++ localName) = ⟨some qualifier,localName⟩ := by
  have text : (qualifier ++ ":" ++ localName).toList = qualifier.toList ++ ':' :: localName.toList := by simp
  have free : ∀ c ∈ qualifier.toList, decide (c ≠ ':') = true := by
    intro c member
    simpa using ne_of_mem_of_not_mem member first
  rw [ofString,text,split,List.takeWhile_append_of_pos free,List.dropWhile_append_of_pos free]
  simp

theorem colon_mem (split : name = qualifier ++ ":" ++ localName) : ':' ∈ name.toList := by
  simp [split]

theorem name_forms (name : String) :
    ':' ∉ name.toList ∨ ∃ qualifier localName, name = qualifier ++ ":" ++ localName ∧ ':' ∉ qualifier.toList := by
  by_cases colon : ':' ∈ name.toList
  · obtain ⟨before,after,split,free⟩ := List.eq_append_cons_of_mem colon
    refine .inr ⟨String.ofList before,String.ofList after,?_,by simpa using free⟩
    rw [← String.toList_inj,split]
    simp
  · exact .inl colon

end QualifiedName

namespace Registry

/-! ### What a reference asks for -/

/-- The namespace that a reference asks for, if it has a qualifier, and the local name behind the first colon. -/
inductive Asks (reference : PropertyReference) : Option String → String → Prop where
  | unqualified (free : ':' ∉ reference.name.toList) : Asks reference none reference.name
  | qualified {qualifier uri localName : String} (split : reference.name = qualifier ++ ":" ++ localName)
      (first : ':' ∉ qualifier.toList) (bound : reference.namespaces.get? qualifier = some uri) :
      Asks reference (some uri) localName

/-- The qualifier of a reference is bound to no namespace. -/
structure Unbound (reference : PropertyReference) (qualifier : String) : Prop where
  split : ∃ localName, reference.name = qualifier ++ ":" ++ localName
  first : ':' ∉ qualifier.toList
  missing : reference.namespaces.get? qualifier = none

variable {reference : PropertyReference} {wanted : Option String} {qualifier localName : String} {r : Registry}
  {b : Binding} {bindings others : List Binding}

theorem asks_or_unbound (reference : PropertyReference) :
    (∃ wanted localName, Asks reference wanted localName) ∨ ∃ qualifier, Unbound reference qualifier := by
  rcases QualifiedName.name_forms reference.name with free | ⟨qualifier,localName,split,first⟩
  · exact .inl ⟨_,_,.unqualified free⟩
  · cases bound : reference.namespaces.get? qualifier with
    | none => exact .inr ⟨qualifier,⟨localName,split⟩,first,bound⟩
    | some uri => exact .inl ⟨_,_,.qualified split first bound⟩

theorem resolve_asks (r : Registry) (asks : Asks reference wanted localName) :
    r.resolve reference =
      choose reference ((r.named localName).filter (·.accepts wanted reference.declaredType)) := by
  unfold resolve
  cases asks with
  | unqualified free =>
    rw [QualifiedName.ofString_unqualified free]
    rfl
  | qualified split first bound =>
    rw [split,QualifiedName.ofString_qualified first]
    simp only [wantedUri,bound]
    rfl

theorem resolve_unbound (r : Registry) (unbound : Unbound reference qualifier) :
    r.resolve reference = .error (.unboundQualifier qualifier reference.name) := by
  obtain ⟨⟨localName,split⟩,first,missing⟩ := unbound
  unfold resolve
  rw [split,QualifiedName.ofString_qualified first]
  simp only [wantedUri,missing]
  rw [split]
  rfl

/-! ### Groups -/

theorem named_addTo (b : Binding) (groups : List (String × List Binding)) (localName : String) :
    named ⟨addTo b groups⟩ localName = named ⟨groups⟩ localName ++ if b.name = localName then [b] else [] := by
  unfold named
  induction groups with
  | nil => by_cases same : b.name = localName <;> simp [addTo,same]
  | cons group groups ih =>
    obtain ⟨name,present⟩ := group
    by_cases joined : name = b.name
    · subst joined
      by_cases same : b.name = localName <;> simp [addTo,same]
    · by_cases here : name = localName
      · subst here
        simp [addTo,joined,Ne.symm joined]
      · simpa [addTo,joined,here] using ih

theorem size_behind (groups : List (String × List Binding)) (count : Nat) :
    groups.foldl (fun count group => count + group.2.length) count = count + size ⟨groups⟩ := by
  induction groups generalizing count with
  | nil => rfl
  | cons group groups ih =>
    have first : size ⟨group :: groups⟩ = 0 + group.2.length + size ⟨groups⟩ := ih _
    rw [List.foldl_cons,ih,first]
    omega

theorem size_cons (group : String × List Binding) (groups : List (String × List Binding)) :
    size ⟨group :: groups⟩ = group.2.length + size ⟨groups⟩ := by
  rw [size,List.foldl_cons,size_behind,Nat.zero_add]

theorem size_addTo (b : Binding) (groups : List (String × List Binding)) :
    size ⟨addTo b groups⟩ = size ⟨groups⟩ + 1 := by
  induction groups with
  | nil => rfl
  | cons group groups ih =>
    by_cases joined : group.1 = b.name
    · simp only [addTo,joined,if_true,size_cons,List.length_append,List.length_singleton]
      omega
    · simp only [addTo,joined,if_false,size_cons,ih]
      omega

theorem addTo_some (b : Binding) {groups : List (String × List Binding)} (some : ∀ group ∈ groups, group.2 ≠ []) :
    ∀ group ∈ addTo b groups, group.2 ≠ [] := by
  induction groups with
  | nil => simp [addTo]
  | cons first groups ih =>
    rw [List.forall_mem_cons] at some
    by_cases joined : first.1 = b.name
    · simp only [addTo,joined,if_true,List.forall_mem_cons]
      exact ⟨by simp,some.2⟩
    · simp only [addTo,joined,if_false,List.forall_mem_cons]
      exact ⟨some.1,ih some.2⟩

/-- These bindings were registered, in this order. -/
structure Holds (r : Registry) (bindings : List Binding) : Prop where
  named : ∀ localName, r.named localName = bindings.filter fun b => decide (b.name = localName)
  size : r.size = bindings.length
  some : ∀ group ∈ r.groups, group.2 ≠ []

namespace Holds

theorem empty : Holds empty [] := ⟨fun _ => rfl,rfl,by simp [Registry.empty]⟩

theorem register (holds : Holds r bindings) (b : Binding) : Holds (r.register b) (bindings ++ [b]) where
  named localName := by
    rw [Registry.register,named_addTo,holds.named,List.filter_append,List.filter_singleton]
    simp
  size := by
    rw [Registry.register,size_addTo,holds.size,List.length_append,List.length_singleton]
  some := addTo_some b holds.some

theorem registerAll (holds : Holds r bindings) (others : List Binding) :
    Holds (others.foldl Registry.register r) (bindings ++ others) := by
  induction others generalizing r bindings with
  | nil => simpa using holds
  | cons b others ih => simpa using ih (holds.register b)

theorem isEmpty_iff (holds : Holds r bindings) : r.isEmpty = true ↔ r.size = 0 := by
  obtain ⟨groups⟩ := r
  cases groups with
  | nil => exact ⟨fun _ => rfl,fun _ => rfl⟩
  | cons group groups =>
    have counted := List.length_pos_iff.mpr (holds.some group (List.mem_cons_self ..))
    rw [size_cons]
    simp only [Registry.isEmpty,List.isEmpty_cons]
    constructor
    · rintro ⟨⟩
    · omega

end Holds

theorem holds_ofList (bindings : List Binding) : Holds (ofList bindings) bindings := by
  simpa [ofList] using Holds.empty.registerAll bindings

/-! ### Candidates -/

/-- A binding answers for a name. A namespace or types that it does not give fit all references. -/
structure Fits (b : Binding) (wanted : Option String) (localName : String) (declared : ValueType) : Prop where
  name : b.name = localName
  uri : b.uri = none ∨ wanted = none ∨ b.uri = wanted
  type : b.types = [] ∨ declared ∈ b.types ∨ declared = .unknown

variable {declared : ValueType}

instance : Decidable (Fits b wanted localName declared) :=
  decidable_of_iff (b.name = localName ∧ (b.uri = none ∨ wanted = none ∨ b.uri = wanted) ∧
      (b.types = [] ∨ declared ∈ b.types ∨ declared = .unknown))
    ⟨fun ⟨name,uri,type⟩ => ⟨name,uri,type⟩,fun fits => ⟨fits.name,fits.uri,fits.type⟩⟩

theorem acceptsUri_iff : b.acceptsUri wanted = true ↔ b.uri = none ∨ wanted = none ∨ b.uri = wanted := by
  unfold Binding.acceptsUri
  cases wanted with
  | none => simp
  | some wanted =>
    cases b.uri with
    | none => simp
    | some bound => simpa using eq_comm

theorem acceptsType_iff :
    b.acceptsType declared = true ↔ b.types = [] ∨ declared ∈ b.types ∨ declared = .unknown := by
  simp only [Binding.acceptsType,Bool.or_eq_true,List.isEmpty_iff,beq_iff_eq,List.contains_iff_mem]
  tauto

theorem fits_iff : Fits b wanted localName declared ↔ b.name = localName ∧ b.accepts wanted declared = true := by
  rw [Binding.accepts,Bool.and_eq_true,acceptsUri_iff,acceptsType_iff]
  exact ⟨fun fits => ⟨fits.name,fits.uri,fits.type⟩,fun ⟨name,uri,type⟩ => ⟨name,uri,type⟩⟩

def kept (bindings : List Binding) (wanted : Option String) (localName : String) (declared : ValueType) :
    List Binding :=
  bindings.filter fun b => decide (Fits b wanted localName declared)

theorem filter_named (bindings : List Binding) (wanted : Option String) (localName : String) (declared : ValueType) :
    (bindings.filter fun b => decide (b.name = localName)).filter (·.accepts wanted declared) =
      kept bindings wanted localName declared := by
  rw [List.filter_filter,kept]
  apply List.filter_congr
  intro b _
  rw [Bool.eq_iff_iff,Bool.and_eq_true,decide_eq_true_iff,decide_eq_true_iff,fits_iff,and_comm]

theorem Holds.kept (holds : Holds r bindings) :
    (r.named localName).filter (·.accepts wanted declared) = kept bindings wanted localName declared := by
  rw [holds.named,filter_named]

/-! ### Answers -/

/-- The answers to a reference by a list of bindings, looked through in its order. -/
inductive Answers (bindings : List Binding) (reference : PropertyReference) : Except ResolveError Column → Prop where
  | unbound {qualifier : String} (unbound : Unbound reference qualifier) :
      Answers bindings reference (.error (.unboundQualifier qualifier reference.name))
  | unknown {wanted : Option String} {localName : String} (asks : Asks reference wanted localName)
      (none : kept bindings wanted localName reference.declaredType = []) :
      Answers bindings reference (.error (.unknownProperty reference.name))
  | found {wanted : Option String} {localName : String} {b : Binding} (asks : Asks reference wanted localName)
      (one : kept bindings wanted localName reference.declaredType = [b]) :
      Answers bindings reference (.ok {
        expression := b.expression.getD (if reference.declaredType = .envelope
          then "Box2D(" ++ b.table ++ "." ++ b.column ++ ")" else b.table ++ "." ++ b.column)
        table := b.table
        column := b.column })
  | ambiguous {wanted : Option String} {localName : String} (asks : Asks reference wanted localName)
      (several : 2 ≤ (kept bindings wanted localName reference.declaredType).length) :
      Answers bindings reference (.error (.ambiguous reference.name
        ((kept bindings wanted localName reference.declaredType).map fun b => b.table ++ "." ++ b.column)))

theorem columnExpression_eq (b : Binding) (declared : ValueType) :
    b.columnExpression declared = b.expression.getD (if declared = .envelope
      then "Box2D(" ++ b.table ++ "." ++ b.column ++ ")" else b.table ++ "." ++ b.column) := by
  unfold Binding.columnExpression
  cases b.expression with
  | some expression => rfl
  | none => cases declared <;> rfl

theorem choose_several (reference : PropertyReference) (several : 2 ≤ bindings.length) :
    choose reference bindings = .error (.ambiguous reference.name (bindings.map Binding.qualifiedColumn)) := by
  match bindings,several with
  | _ :: _ :: _,_ => rfl

theorem Holds.resolve (holds : Holds r bindings) (asks : Asks reference wanted localName) :
    r.resolve reference = choose reference (Registry.kept bindings wanted localName reference.declaredType) := by
  rw [resolve_asks r asks,holds.kept]

theorem Answers.resolve {answer : Except ResolveError Column} (answers : Answers bindings reference answer)
    (holds : Holds r bindings) : r.resolve reference = answer := by
  cases answers with
  | unbound unbound => exact resolve_unbound r unbound
  | unknown asks none =>
    rw [holds.resolve asks,none]
    rfl
  | found asks one =>
    rw [holds.resolve asks,one,choose,columnExpression_eq]
  | ambiguous asks several =>
    rw [holds.resolve asks,choose_several _ several]
    rfl

theorem answers_some (bindings : List Binding) (reference : PropertyReference) :
    ∃ answer, Answers bindings reference answer := by
  rcases asks_or_unbound reference with ⟨wanted,localName,asks⟩ | ⟨qualifier,unbound⟩
  · match candidates : kept bindings wanted localName reference.declaredType with
    | [] => exact ⟨_,.unknown asks candidates⟩
    | [b] => exact ⟨_,.found asks candidates⟩
    | b :: other :: rest =>
      have several : 2 ≤ (kept bindings wanted localName reference.declaredType).length := by
        rw [candidates]
        simp
      exact ⟨_,.ambiguous asks several⟩
  · exact ⟨_,.unbound unbound⟩

theorem Holds.resolve_iff (holds : Holds r bindings) {answer : Except ResolveError Column} :
    r.resolve reference = answer ↔ Answers bindings reference answer := by
  constructor
  · rintro rfl
    obtain ⟨answer,answers⟩ := answers_some bindings reference
    rwa [answers.resolve holds]
  · intro answers
    exact answers.resolve holds

/-- Answers that differ at most in the order of the candidates of an ambiguous reference. -/
inductive SameUpToOrder : Except ResolveError Column → Except ResolveError Column → Prop where
  | same (answer : Except ResolveError Column) : SameUpToOrder answer answer
  | reordered (name : String) {candidates others : List String} (order : candidates.Perm others) :
      SameUpToOrder (.error (.ambiguous name candidates)) (.error (.ambiguous name others))

theorem choose_perm (reference : PropertyReference) (order : bindings.Perm others) :
    SameUpToOrder (choose reference bindings) (choose reference others) := by
  match bindings with
  | [] =>
    rw [order.nil_eq]
    exact .same _
  | [b] =>
    rw [order.singleton_eq]
    exact .same _
  | b :: other :: rest =>
    have several : 2 ≤ others.length := by simp [← order.length_eq]
    rw [choose_several reference (by simp),choose_several reference several]
    exact .reordered _ (order.map _)

theorem Holds.resolve_perm {first second : Registry} (holds : Holds first bindings) (also : Holds second others)
    (order : bindings.Perm others) (reference : PropertyReference) :
    SameUpToOrder (first.resolve reference) (second.resolve reference) := by
  rcases asks_or_unbound reference with ⟨wanted,localName,asks⟩ | ⟨qualifier,unbound⟩
  · rw [holds.resolve asks,also.resolve asks]
    exact choose_perm reference (order.filter _)
  · rw [resolve_unbound first unbound,resolve_unbound second unbound]
    exact .same _

/-- A registry answers as a look through all its bindings does. Another order of registration shows only in
the order of ambiguous candidates. -/
theorem resolve_ofList (bindings : List Binding) :
    (∀ reference answer, (ofList bindings).resolve reference = answer ↔ Answers bindings reference answer) ∧
      (ofList bindings).size = bindings.length ∧ ((ofList bindings).isEmpty = true ↔ (ofList bindings).size = 0) ∧
      ∀ others : List Binding, bindings.Perm others → ∀ reference,
        SameUpToOrder ((ofList bindings).resolve reference) ((ofList others).resolve reference) := by
  have holds := holds_ofList bindings
  refine ⟨fun reference answer => holds.resolve_iff,holds.size,holds.isEmpty_iff,?_⟩
  intro others order
  exact holds.resolve_perm (holds_ofList others) order

/-- Two bindings of one name. The second is for geometries of a namespace only. -/
def shapes : List Binding :=
  [⟨"geom",none,"roads","geom",none,[]⟩,⟨"geom",some "http://example.com/app","rivers","shape",none,[.geometry]⟩]

theorem resolve_ofList_shapes : shapes.Perm shapes.reverse ∧
    (ofList shapes).resolve ⟨"geom",.empty,.geometry⟩ = .error (.ambiguous "geom" ["roads.geom","rivers.shape"]) ∧
    SameUpToOrder ((ofList shapes).resolve ⟨"geom",.empty,.geometry⟩)
      ((ofList shapes.reverse).resolve ⟨"geom",.empty,.geometry⟩) := by
  have order : shapes.Perm shapes.reverse := shapes.reverse_perm.symm
  obtain ⟨answers,-,-,reordered⟩ := resolve_ofList shapes
  refine ⟨order,(answers _ _).mpr ?_,reordered _ order _⟩
  exact .ambiguous (.unqualified (by decide)) (by decide)

end Registry
end SpatialFilter
