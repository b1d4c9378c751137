import SpatialFilter.Json.Record
import SpatialFilter.Proofs.Sequence
import Mathlib.Data.List.Perm.Lattice

/-! The order of members. Trees that differ in nothing else are read alike: whatever looks for a member finds it at
its new place, and whatever reads the elements of an array or the members of an object as a whole finds the same ones. -/
namespace SpatialFilter.Json

mutual

/-- The members of any objects of a tree are put into another order. -/
inductive Rearranged : Json → Json → Prop where
  | refl (j : Json) : Rearranged j j
  | array {elements others : List Json} (all : List.Forall₂ Rearranged elements others) :
      Rearranged (.array elements) (.array others)
  | object {members changed others : List (Option String × Json)}
      (all : List.Forall₂ MemberRearranged members changed) (order : changed.Perm others) :
      Rearranged (.object members) (.object others)

/-- Names are kept. -/
inductive MemberRearranged : Option String × Json → Option String × Json → Prop where
  | intro {j k : Json} (name : Option String) (value : Rearranged j k) : MemberRearranged (name,j) (name,k)

end

/-- No object of a tree has two members of the same name. -/
inductive Distinct : Json → Prop where
  | null : Distinct .null
  | bool (value : Bool) : Distinct (.bool value)
  | number (token : Numeral) : Distinct (.number token)
  | text (value : Option String) : Distinct (.text value)
  | array {elements : List Json} (all : ∀ j ∈ elements, Distinct j) : Distinct (.array elements)
  | object {members : List (Option String × Json)} (names : (members.filterMap (·.1)).Nodup)
      (all : ∀ m ∈ members, Distinct m.2) : Distinct (.object members)

/-- The trees that are read alike. -/
structure Alike (j k : Json) : Prop where
  distinct : Distinct j
  rearranged : Rearranged j k

def MemberAlike (m n : Option String × Json) : Prop := m.1 = n.1 ∧ Alike m.2 n.2

/-! ### Parts of trees that are alike -/

theorem Distinct.alike {j : Json} (distinct : Distinct j) : Alike j j := ⟨distinct,.refl j⟩

theorem distinct_array {elements : List Json} : Distinct (.array elements) ↔ ∀ j ∈ elements, Distinct j := by
  constructor
  · intro distinct
    cases distinct with
    | array all => exact all
  · exact .array

theorem distinct_object {members : List (Option String × Json)} :
    Distinct (.object members) ↔ (members.filterMap (·.1)).Nodup ∧ ∀ m ∈ members, Distinct m.2 := by
  constructor
  · intro distinct
    cases distinct with
    | object names all => exact ⟨names,all⟩
  · intro ⟨names,all⟩
    exact .object names all

theorem Distinct.filter {members : List (Option String × Json)} (distinct : Distinct (.object members))
    (keeps : Option String × Json → Bool) : Distinct (.object (members.filter keeps)) :=
  have ⟨names,all⟩ := distinct_object.mp distinct
  .object (names.sublist (List.filter_sublist.filterMap _)) fun m member => all m (List.mem_of_mem_filter member)

/-- Two trees that are alike, by the form they share. -/
inductive Alike.View : Json → Json → Prop where
  | null : View .null .null
  | bool (value : Bool) : View (.bool value) (.bool value)
  | number (token : Numeral) : View (.number token) (.number token)
  | text (value : Option String) : View (.text value) (.text value)
  | array {elements others : List Json} (all : List.Forall₂ Alike elements others) :
      View (.array elements) (.array others)
  | object {members changed others : List (Option String × Json)} (names : (members.filterMap (·.1)).Nodup)
      (all : List.Forall₂ MemberAlike members changed) (order : changed.Perm others) :
      View (.object members) (.object others)

private theorem Distinct.view {j : Json} (distinct : Distinct j) : Alike.View j j := by
  cases distinct with
  | null => exact .null
  | bool value => exact .bool value
  | number token => exact .number token
  | text value => exact .text value
  | array all => exact .array (List.forall₂_same.mpr fun j member => (all j member).alike)
  | object names all =>
    exact .object names (List.forall₂_same.mpr fun m member => ⟨rfl,(all m member).alike⟩) (.refl _)

theorem Alike.view {j k : Json} (alike : Alike j k) : View j k := by
  obtain ⟨distinct,rearranged⟩ := alike
  cases rearranged with
  | refl => exact distinct.view
  | array all =>
    exact .array (related_of_mem (fun j member k related => ⟨distinct_array.mp distinct j member,related⟩) all)
  | object all order =>
    obtain ⟨names,values⟩ := distinct_object.mp distinct
    refine .object names (related_of_mem ?_ all) order
    rintro ⟨name,j⟩ member _ ⟨_,value⟩
    exact ⟨rfl,values _ member,value⟩

theorem Alike.members {members changed others : List (Option String × Json)}
    (all : List.Forall₂ MemberAlike members changed) (order : changed.Perm others) :
    (∃ m n, members = [m] ∧ others = [n] ∧ MemberAlike m n) ∨ members.length ≠ 1 ∧ others.length ≠ 1 := by
  by_cases single : members.length = 1
  · obtain ⟨m,rfl⟩ := List.length_eq_one_iff.mp single
    obtain ⟨n,rest,alike,none,rfl⟩ := List.forall₂_cons_left_iff.mp all
    obtain rfl := List.forall₂_nil_left_iff.mp none
    exact .inl ⟨m,n,rfl,List.perm_singleton.mp order.symm,alike⟩
  · exact .inr ⟨single,by rwa [← order.length_eq,← all.length_eq]⟩

/-! ### Values -/

theorem Alike.toNumber? {j k : Json} (alike : Alike j k) : j.toNumber? = k.toNumber? := by
  cases alike.view <;> rfl

theorem Alike.toText? {j k : Json} (alike : Alike j k) : j.toText? = k.toText? := by
  cases alike.view <;> rfl

theorem Alike.toList? {j k : Json} (alike : Alike j k) : Option.Rel (List.Forall₂ Alike) j.toList? k.toList? := by
  cases alike.view with
  | array all => exact .some all
  | _ => exact .none

/-- Null and an empty object have no parts that could be rearranged. -/
theorem Alike.eq_null_iff {j k : Json} (alike : Alike j k) : j = .null ↔ k = .null := by
  cases alike.view <;> simp

theorem Alike.eq_empty_iff {j k : Json} (alike : Alike j k) : j = .object [] ↔ k = .object [] := by
  cases alike.view with
  | object names all order =>
    rw [Json.object.injEq,Json.object.injEq,← List.length_eq_zero_iff,← List.length_eq_zero_iff,all.length_eq,
      order.length_eq]
  | _ => simp

theorem Alike.optional? {α : Type} {value? : Json → Option α} (same : ∀ j k, Alike j k → value? j = value? k)
    {j k : Option Json} (alike : Option.Rel Alike j k) : optional? value? j = optional? value? k := by
  cases alike with
  | none => rfl
  | @some j k alike =>
    by_cases null : j = .null
    · rw [null,alike.eq_null_iff.mp null]
    · have other : k ≠ .null := fun null => absurd (alike.eq_null_iff.mpr null) (by assumption)
      simp only [Json.optional?,same j k alike]

theorem Alike.defaulted? {α : Type} {value? : Json → Option α} (same : ∀ j k, Alike j k → value? j = value? k)
    (default : α) {j k : Option Json} (alike : Option.Rel Alike j k) :
    defaulted? value? default j = defaulted? value? default k := by
  cases alike with
  | none => rfl
  | some alike => exact same _ _ alike

private theorem choice?_several {members : List (Option String × Json)} (several : members.length ≠ 1) :
    choice? (.object members) = none := by
  unfold choice?
  split <;> simp_all

private theorem choice?_filled {value : Json} (filled : value ≠ .null) (name : Option String) :
    choice? (.object [(name,value)]) = none := by
  unfold choice?
  split <;> simp_all

theorem Alike.choice? {j k : Json} (alike : Alike j k) : j.choice? = k.choice? := by
  cases alike.view with
  | object names all order =>
    obtain ⟨⟨name,j⟩,⟨_,k⟩,rfl,rfl,rfl,inner⟩ | ⟨several,others⟩ := Alike.members all order
    · change Alike j k at inner
      by_cases null : j = .null
      · rw [null,inner.eq_null_iff.mp null]
      · rw [choice?_filled null,choice?_filled (mt inner.eq_null_iff.mpr null)]
    · rw [choice?_several several,choice?_several others]
  | _ => rfl

private theorem looseChoice?_filled {j : Json} (filled : ∀ name, j ≠ .object [(name,.object [])]) :
    looseChoice? j = choice? j := by
  unfold looseChoice?
  split
  · exact absurd rfl (filled _)
  · rfl

theorem Alike.looseChoice? {j k : Json} (alike : Alike j k) : j.looseChoice? = k.looseChoice? := by
  cases alike.view with
  | object names all order =>
    obtain ⟨⟨name,j⟩,⟨_,k⟩,rfl,rfl,rfl,inner⟩ | ⟨several,others⟩ := Alike.members all order
    · change Alike j k at inner
      by_cases empty : j = .object []
      · rw [empty,inner.eq_empty_iff.mp empty]
      · rw [looseChoice?_filled (by simp [empty]),looseChoice?_filled (by simp [mt inner.eq_empty_iff.mpr empty]),
          alike.choice?]
    · have filled {members : List (Option String × Json)} (several : members.length ≠ 1) (name : Option String) :
          Json.object members ≠ .object [(name,.object [])] := by
        intro same
        simp [Json.object.inj same] at several
      rw [looseChoice?_filled (filled several),looseChoice?_filled (filled others),alike.choice?]
  | _ => rfl

/-! ### Members -/

theorem member?_perm {members others : List (Option String × Json)} (order : members.Perm others) (name : String) :
    member? members name = member? others name := by
  have found := order.filter fun m => m.1 == some name
  unfold member?
  generalize members.filter (fun m => m.1 == some name) = left at found
  generalize others.filter (fun m => m.1 == some name) = right at found
  match left,right,found with
  | [],right,found => rw [List.nil_perm.mp found]
  | [m],right,found => rw [List.singleton_perm.mp found]
  | m :: n :: more,[],found => cases found.length_eq
  | m :: n :: more,[o],found => cases found.length_eq
  | m :: n :: more,o :: p :: rest,found => rfl

theorem member?_alike {members others : List (Option String × Json)} (all : List.Forall₂ MemberAlike members others)
    (name : String) : Option.Rel (Option.Rel Alike) (member? members name) (member? others name) := by
  have found : List.Forall₂ MemberAlike (members.filter fun m => m.1 == some name)
      (others.filter fun m => m.1 == some name) := List.rel_filter (fun m n alike => by simp [alike.1]) all
  unfold member?
  generalize members.filter (fun m => m.1 == some name) = left at found
  generalize others.filter (fun m => m.1 == some name) = right at found
  cases found with
  | nil => exact .some .none
  | cons alike more =>
    cases more with
    | nil => exact .some (.some alike.2)
    | cons => exact .none

theorem member?_view {members changed others : List (Option String × Json)}
    (all : List.Forall₂ MemberAlike members changed) (order : changed.Perm others) (name : String) :
    Option.Rel (Option.Rel Alike) (member? members name) (member? others name) :=
  member?_perm order name ▸ member?_alike all name

private theorem named_alike {members changed others : List (Option String × Json)}
    (all : List.Forall₂ MemberAlike members changed) (order : changed.Perm others) :
    (members.all fun m => m.1.isSome) = others.all fun m => m.1.isSome := by
  rw [← order.all_eq]
  exact all_eq_of_related (fun m n alike => by rw [alike.1]) all

theorem Alike.fields? {j k : Json} (alike : Alike j k) (names : List String) :
    Option.Rel (List.Forall₂ (Option.Rel Alike)) (j.fields? names) (k.fields? names) := by
  cases alike.view with
  | array all =>
    simp only [Json.fields?,all.length_eq]
    split
    · refine .some (List.rel_append ?_ (List.forall₂_same.mpr fun _ member => ?_))
      · rw [List.forall₂_map_left_iff,List.forall₂_map_right_iff]
        exact all.imp fun _ _ alike => .some alike
      · rw [List.eq_of_mem_replicate member]
        exact .none
    · exact .none
  | object _ all order =>
    simp only [Json.fields?,named_alike all order]
    split
    · exact mapM_related (member?_view all order) names
    · exact .none
  | _ => exact .none

/-- What is left without the tag is alike, too. -/
theorem Alike.tagged? {j k : Json} (alike : Alike j k) (tag : String) :
    Option.Rel (fun s t => Alike s.1 t.1 ∧ Alike s.2 t.2) (j.tagged? tag) (k.tagged? tag) := by
  cases alike.view with
  | array all =>
    cases all with
    | nil => exact .none
    | cons value rest =>
      refine .some ⟨value,?_,.array (rest.imp fun _ _ alike => alike.rearranged)⟩
      exact .array fun j member => distinct_array.mp alike.distinct j (.tail _ member)
  | @object members changed others names all order =>
    have found := member?_view all order tag
    have rest : Alike (.object (members.filter fun m => m.1 != some tag))
        (.object (others.filter fun m => m.1 != some tag)) := by
      refine ⟨alike.distinct.filter _,.object ?_ (order.filter _)⟩
      refine (List.rel_filter (fun m n alike => by simp [alike.1]) all).imp ?_
      rintro ⟨name,j⟩ ⟨_,k⟩ ⟨rfl,alike⟩
      exact .intro name alike.rearranged
    simp only [Json.tagged?]
    generalize member? members tag = left at found
    generalize member? others tag = right at found
    cases found with
    | none => exact .none
    | some found =>
      cases found with
      | none => exact .none
      | some value => exact .some ⟨value,rest⟩
  | _ => exact .none

theorem Alike.isReadable {j k : Json} (alike : Alike j k) (depth : Nat) :
    j.isReadable depth = k.isReadable depth := by
  induction depth generalizing j k with
  | zero => cases alike.view <;> rfl
  | succ depth ih =>
    cases alike.view with
    | array all =>
      rw [Json.isReadable,Json.isReadable]
      exact all_eq_of_related (fun _ _ alike => ih alike) all
    | object names all order =>
      rw [Json.isReadable,Json.isReadable,← order.all_eq]
      exact all_eq_of_related (fun _ _ alike => by rw [alike.1,ih alike.2]) all
    | _ => rfl

end SpatialFilter.Json
