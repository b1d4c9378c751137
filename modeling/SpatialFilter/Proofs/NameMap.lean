import SpatialFilter.NameMap
import Mathlib.Data.List.Perm.Basic
import Mathlib.Data.List.Nodup

/-! Maps of names by their bindings. A map is determined by what it binds, in whatever order the
bindings were made. -/
namespace SpatialFilter
namespace NameMap
variable {α : Type}

theorem precedes_asymm {s t : List Char} (before : precedes s t = true) : ¬ precedes t s = true := by
  intro after
  have itself := precedes_trans before after
  rw [precedes_irrefl] at itself
  cases itself

/-! ### A map and its bindings -/

theorem nodup_names (m : NameMap α) : (m.entries.map (·.1)).Nodup := by
  unfold List.Nodup
  rw [List.pairwise_map]
  apply m.sorted.imp
  intro first second before same
  rw [same] at before
  exact precedes_asymm before before

theorem ext_mem {m n : NameMap α} (same : ∀ entry, entry ∈ m.entries ↔ entry ∈ n.entries) : m = n := by
  have perm := (List.perm_ext_iff_of_nodup m.nodup_names.of_map n.nodup_names.of_map).mpr same
  have entries : m.entries = n.entries := by
    apply List.Perm.eq_of_pairwise _ m.sorted n.sorted perm
    intro first second _ _ before after
    exact absurd after (precedes_asymm before)
  cases m
  cases n
  simpa using entries

theorem isEmpty_iff {m : NameMap α} : m.isEmpty = true ↔ m = empty := by
  constructor
  · intro none
    have entries : m.entries = [] := List.isEmpty_iff.mp none
    apply ext_mem
    intro entry
    rw [entries]
    rfl
  · intro same
    rw [same]
    rfl

theorem value_unique {m : NameMap α} {name : String} {first second : α} (one : (name,first) ∈ m.entries)
    (other : (name,second) ∈ m.entries) : first = second :=
  (Prod.mk.inj (List.inj_on_of_nodup_map m.nodup_names one other rfl)).2

theorem get?_eq_some {m : NameMap α} {name : String} {value : α} :
    m.get? name = some value ↔ (name,value) ∈ m.entries := by
  unfold get?
  constructor
  · intro bound
    obtain ⟨entry,found,rfl⟩ := Option.map_eq_some_iff.mp bound
    have same := List.find?_some found
    obtain rfl : entry.1 = name := by simpa using same
    exact List.mem_of_find?_eq_some found
  · intro member
    cases found : m.entries.find? fun entry => entry.1 == name with
    | none =>
      have none := List.find?_eq_none.mp found _ member
      simp at none
    | some entry =>
      have same := List.find?_some found
      obtain rfl : entry.1 = name := by simpa using same
      rw [Option.map_some,value_unique (List.mem_of_find?_eq_some found) member]

theorem ext_get? {m n : NameMap α} (same : ∀ name, m.get? name = n.get? name) : m = n := by
  apply ext_mem
  intro ⟨name,value⟩
  rw [← get?_eq_some,← get?_eq_some,same]

/-! ### Bindings that are made -/

section Insert
variable {name other : String} {value : α} {entries : List (String × α)}

theorem find?_insertEntry_self :
    (insertEntry name value entries).find? (fun entry => entry.1 == name) = some (name,value) := by
  induction entries with
  | nil => simp [insertEntry]
  | cons head rest ih =>
    rw [insertEntry]
    split_ifs with bound before
    · simp
    · simp
    · rw [List.find?_cons_of_neg (by simpa using bound),ih]

theorem find?_insertEntry_of_ne (differ : other ≠ name) :
    (insertEntry name value entries).find? (fun entry => entry.1 == other) =
      entries.find? fun entry => entry.1 == other := by
  have skip (rest : List (String × α)) : ((name,value) :: rest).find? (fun entry => entry.1 == other) =
      rest.find? fun entry => entry.1 == other := List.find?_cons_of_neg (by simpa using Ne.symm differ)
  induction entries with
  | nil => exact skip []
  | cons head rest ih =>
    rw [insertEntry]
    split_ifs with bound before
    · rw [skip,List.find?_cons_of_neg (by simpa [bound] using Ne.symm differ)]
    · exact skip _
    · rw [List.find?_cons,ih,List.find?_cons]

@[simp]
theorem get?_insert_self (m : NameMap α) : (m.insert name value).get? name = some value := by
  rw [get?,insert,find?_insertEntry_self]
  rfl

theorem get?_insert_of_ne (m : NameMap α) (differ : other ≠ name) : (m.insert name value).get? other = m.get? other := by
  rw [get?,insert,find?_insertEntry_of_ne differ,get?]

end Insert

/-! ### Maps of lists -/

theorem mem_insertEntry_of_fresh {name : String} {value : α} {entries : List (String × α)}
    (fresh : name ∉ entries.map (·.1)) {entry : String × α} :
    entry ∈ insertEntry name value entries ↔ entry = (name,value) ∨ entry ∈ entries := by
  induction entries with
  | nil => simp [insertEntry]
  | cons head rest ih =>
    rw [List.map_cons,List.mem_cons,not_or] at fresh
    rw [insertEntry,if_neg (Ne.symm fresh.1)]
    split
    · rw [List.mem_cons]
    · rw [List.mem_cons,ih fresh.2,List.mem_cons]
      exact or_left_comm

theorem mem_foldl_insert {entries : List (String × α)} {m : NameMap α} (distinct : (entries.map (·.1)).Nodup)
    (fresh : ∀ entry ∈ entries, entry.1 ∉ m.entries.map (·.1)) {entry : String × α} :
    entry ∈ (entries.foldl (fun m entry => m.insert entry.1 entry.2) m).entries ↔
      entry ∈ entries ∨ entry ∈ m.entries := by
  induction entries generalizing m with
  | nil => simp
  | cons head rest ih =>
    rw [List.map_cons,List.nodup_cons] at distinct
    have inserted {other : String × α} : other ∈ (m.insert head.1 head.2).entries ↔ other = head ∨ other ∈ m.entries :=
      mem_insertEntry_of_fresh (fresh head (by simp))
    rw [List.foldl_cons,ih distinct.2,inserted,List.mem_cons]
    · exact or_left_comm.trans or_assoc.symm
    · intro other member
      rw [List.mem_map]
      intro ⟨bound,inside,same⟩
      rcases inserted.mp inside with rfl | earlier
      · exact distinct.1 (List.mem_map.mpr ⟨other,member,same.symm⟩)
      · exact fresh other (by simp [member]) (List.mem_map.mpr ⟨bound,earlier,same⟩)

theorem mem_ofList {entries : List (String × α)} (distinct : (entries.map (·.1)).Nodup) {entry : String × α} :
    entry ∈ (ofList entries).entries ↔ entry ∈ entries := by
  rw [ofList,mem_foldl_insert distinct (by simp [empty])]
  simp [empty]

theorem ofList_perm {entries others : List (String × α)} (perm : entries.Perm others)
    (distinct : (entries.map (·.1)).Nodup) : ofList entries = ofList others := by
  apply ext_mem
  intro entry
  rw [mem_ofList distinct,mem_ofList ((perm.map (·.1)).nodup_iff.mp distinct),perm.mem_iff]

theorem ofList_entries (m : NameMap α) : ofList m.entries = m := by
  apply ext_mem
  intro entry
  exact mem_ofList m.nodup_names

end NameMap
end SpatialFilter
