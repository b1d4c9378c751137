import SpatialFilter.Proofs.NameMap

/-! Sets of names by their members. No name stands twice in a set. -/
namespace SpatialFilter

theorem NameMap.mem_insertEntry {α : Type} {name other : String} {value : α} {entries : List (String × α)} :
    other ∈ (insertEntry name value entries).map (·.1) ↔ other = name ∨ other ∈ entries.map (·.1) := by
  induction entries with
  | nil => simp [insertEntry]
  | cons head rest ih =>
    unfold insertEntry
    split
    · rename_i same
      simp [same]
    · split
      · simp
      · rw [List.map_cons,List.mem_cons,ih,List.map_cons,List.mem_cons]
        exact or_left_comm

namespace NameSet

theorem mem_add {s : NameSet} {name other : String} :
    other ∈ (s.add name).toList ↔ other = name ∨ other ∈ s.toList :=
  NameMap.mem_insertEntry

theorem mem_foldl_add {names : List String} {s : NameSet} {name : String} :
    name ∈ (names.foldl add s).toList ↔ name ∈ names ∨ name ∈ s.toList := by
  induction names generalizing s with
  | nil => simp
  | cons first names ih =>
    rw [List.foldl_cons,ih,mem_add,List.mem_cons]
    exact or_left_comm.trans or_assoc.symm

theorem mem_ofNames {names : List String} {name : String} : name ∈ (ofNames names).toList ↔ name ∈ names := by
  rw [ofNames,mem_foldl_add]
  simp [NameMap.empty,toList]

theorem mem_foldl_union {α : Type} {names : α → NameSet} {xs : List α} {s : NameSet} {name : String} :
    name ∈ (xs.foldl (fun found x => found.union (names x)) s).toList ↔
      (∃ x ∈ xs, name ∈ (names x).toList) ∨ name ∈ s.toList := by
  induction xs generalizing s with
  | nil => simp
  | cons x xs ih =>
    rw [List.foldl_cons,ih,union,mem_foldl_add,List.exists_mem_cons_iff]
    exact or_left_comm.trans or_assoc.symm

theorem nodup (s : NameSet) : s.toList.Nodup := s.nodup_names

theorem mem_toList {s : NameSet} {name : String} : name ∈ s.toList ↔ (name,()) ∈ s.entries := by
  rw [toList,List.mem_map]
  constructor
  · rintro ⟨entry,member,rfl⟩
    exact member
  · exact fun member => ⟨_,member,rfl⟩

theorem ext_mem {s t : NameSet} (same : ∀ name, name ∈ s.toList ↔ name ∈ t.toList) : s = t :=
  NameMap.ext_mem fun entry => by rw [← mem_toList,← mem_toList,same]

theorem toList_inj {s t : NameSet} : s.toList = t.toList ↔ s = t :=
  ⟨fun same => ext_mem fun name => by rw [same],congrArg _⟩

end NameSet
end SpatialFilter
