import Mathlib.Data.List.Basic

/-! Texts put together with marks. Where the mark is in none of the parts, the parts can be told from
the text. -/
namespace SpatialFilter
variable {α : Type} {mark : Char}

theorem append_mark_inj {left right before after : List Char} (free : mark ∉ left) (others : mark ∉ right)
    (same : left ++ mark :: before = right ++ mark :: after) : left = right ∧ before = after := by
  induction left generalizing right with
  | nil =>
    cases right with
    | nil => exact ⟨rfl,(List.cons.inj same).2⟩
    | cons c right => simp [(List.cons.inj same).1] at others
  | cons c left ih =>
    cases right with
    | nil => simp [(List.cons.inj same).1] at free
    | cons d right =>
      obtain ⟨rfl,rest⟩ := List.cons.inj same
      obtain ⟨rfl,behind⟩ := ih (List.not_mem_of_not_mem_cons free) (List.not_mem_of_not_mem_cons others) rest
      exact ⟨rfl,behind⟩

/-- The parts between the marks of a text, each behind a mark of its own. -/
theorem splitOn_parts (mark : Char) (cs : List Char) :
    (cs.splitOn mark).flatMap (mark :: ·) = mark :: cs ∧ ∀ part ∈ cs.splitOn mark, mark ∉ part := by
  induction cs with
  | nil => simp
  | cons c cs ih =>
    by_cases same : c = mark
    · subst same
      have split : (c :: cs).splitOn c = [] :: cs.splitOn c := List.splitOn_append_cons_self [] cs
      simpa [split] using ih
    · obtain ⟨first,parts,split⟩ := List.exists_cons_of_ne_nil (List.splitOn_ne_nil mark cs)
      have longer : (c :: cs).splitOn mark = (c :: first) :: parts := by
        rw [List.splitOn_eq_splitOnP] at split ⊢
        rw [List.splitOnP_cons_eq_if_modifyHead,split]
        simp [same]
      rw [split] at ih
      simpa [longer,Ne.symm same] using ih

section Parts
variable {f : α → List Char} {x y : α} {xs ys : List α}

/-- A mark behind each part. -/
theorem flatMap_ended_inj (free : ∀ z ∈ xs, mark ∉ f z) (others : ∀ z ∈ ys, mark ∉ f z)
    (injective : ∀ x ∈ xs, ∀ y ∈ ys, f x = f y → x = y)
    (same : (xs.flatMap fun z => f z ++ [mark]) = ys.flatMap fun z => f z ++ [mark]) : xs = ys := by
  induction xs generalizing ys with
  | nil =>
    cases ys with
    | nil => rfl
    | cons y ys => simp at same
  | cons x xs ih =>
    cases ys with
    | nil => simp at same
    | cons y ys =>
      simp only [List.flatMap_cons,List.append_assoc,List.singleton_append] at same
      obtain ⟨head,rest⟩ := append_mark_inj (free x (by simp)) (others y (by simp)) same
      rw [injective x (by simp) y (by simp) head,
        ih (fun z member => free z (by simp [member])) (fun z member => others z (by simp [member]))
          (fun z member w inside => injective z (by simp [member]) w (by simp [inside])) rest]

theorem flatMap_shift (f : α → List Char) (mark : Char) (xs : List α) :
    (xs.flatMap fun z => mark :: f z) ++ [mark] = mark :: xs.flatMap fun z => f z ++ [mark] := by
  induction xs with
  | nil => rfl
  | cons x xs ih => simp [ih]

/-- A mark between each part and the next. -/
theorem flatMap_joined_inj (free : ∀ z ∈ x :: xs, mark ∉ f z) (others : ∀ z ∈ y :: ys, mark ∉ f z)
    (injective : ∀ z ∈ x :: xs, ∀ w ∈ y :: ys, f z = f w → z = w)
    (same : (f x ++ xs.flatMap fun z => mark :: f z) = f y ++ ys.flatMap fun z => mark :: f z) :
    x :: xs = y :: ys := by
  apply flatMap_ended_inj free others injective
  have ended := congrArg (· ++ [mark]) same
  simpa [flatMap_shift] using ended

end Parts
end SpatialFilter
