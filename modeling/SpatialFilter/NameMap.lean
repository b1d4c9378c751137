import SpatialFilter.Text.Order

/-! Finite maps and sets of names. Entries are kept in the order of their names and no name
stands twice, so two maps with the same bindings are the same map. -/
namespace SpatialFilter

structure NameMap (α : Type) where
  entries : List (String × α)
  sorted : entries.Pairwise fun a b => precedes a.1.toList b.1.toList = true

namespace NameMap
variable {α : Type}

instance [DecidableEq α] : DecidableEq (NameMap α) := fun a b =>
  if same : a.entries = b.entries then
    isTrue (by cases a; cases b; simpa using same)
  else isFalse fun h => same (h ▸ rfl)

def empty : NameMap α := ⟨[],.nil⟩

instance : Inhabited (NameMap α) := ⟨empty⟩

def insertEntry (name : String) (value : α) : List (String × α) → List (String × α)
  | [] => [(name,value)]
  | entry :: rest =>
    if entry.1 = name then (name,value) :: rest
    else if precedes name.toList entry.1.toList then (name,value) :: entry :: rest
    else entry :: insertEntry name value rest

theorem fst_of_mem_insertEntry {name : String} {value : α} {entries : List (String × α)}
    {entry : String × α} (member : entry ∈ insertEntry name value entries) :
    entry.1 = name ∨ entry ∈ entries := by
  induction entries with
  | nil => exact .inl (by simp_all [insertEntry])
  | cons head rest ih =>
    simp only [insertEntry] at member
    split at member
    · rcases List.mem_cons.mp member with rfl | inside
      · exact .inl rfl
      · exact .inr (.tail _ inside)
    · split at member
      · rcases List.mem_cons.mp member with rfl | inside
        · exact .inl rfl
        · exact .inr inside
      · rcases List.mem_cons.mp member with rfl | inside
        · exact .inr (.head _)
        · exact (ih inside).imp id (.tail _)

theorem sorted_insertEntry (name : String) (value : α) {entries : List (String × α)}
    (sorted : entries.Pairwise fun a b => precedes a.1.toList b.1.toList = true) :
    (insertEntry name value entries).Pairwise fun a b => precedes a.1.toList b.1.toList = true := by
  induction sorted with
  | nil => exact .cons (by simp) .nil
  | @cons head rest above sorted ih =>
    simp only [insertEntry]
    split
    · rename_i same
      exact .cons (fun entry member => same ▸ above entry member) sorted
    · rename_i differ
      split
      · rename_i before
        refine .cons (fun entry member => ?_) (.cons above sorted)
        rcases List.mem_cons.mp member with rfl | inside
        · exact before
        · exact precedes_trans before (above entry inside)
      · rename_i after
        refine .cons (fun entry member => ?_) ih
        rcases fst_of_mem_insertEntry member with same | inside
        · rw [same]
          refine precedes_of_not_precedes (fun h => differ ?_) (by simpa using after)
          exact (String.toList_inj.mp h).symm
        · exact above entry inside

def insert (m : NameMap α) (name : String) (value : α) : NameMap α :=
  ⟨insertEntry name value m.entries,sorted_insertEntry name value m.sorted⟩

def get? (m : NameMap α) (name : String) : Option α :=
  (m.entries.find? fun entry => entry.1 == name).map (·.2)

def isEmpty (m : NameMap α) : Bool := m.entries.isEmpty

/-- The map of a list of bindings, of which a later one takes the place of an earlier. -/
def ofList (entries : List (String × α)) : NameMap α :=
  entries.foldl (fun m entry => m.insert entry.1 entry.2) empty

end NameMap

abbrev NameSet := NameMap Unit

namespace NameSet

def toList (s : NameSet) : List String := s.entries.map (·.1)

def add (s : NameSet) (name : String) : NameSet := s.insert name ()

def ofNames (names : List String) : NameSet := names.foldl add NameMap.empty

def union (s t : NameSet) : NameSet := t.toList.foldl add s

end NameSet

abbrev Namespaces := NameMap String

end SpatialFilter
