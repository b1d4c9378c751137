import SpatialFilter.Proofs.Text.Balance

/-! Texts cut at a mark wherever it stands outside parentheses. Parts in parentheses, joined by the mark,
are what the text is cut into, whatever stands inside. -/
namespace SpatialFilter

/-- How many groups are open behind a character. -/
def depthAfter (depth : Nat) (c : Char) : Nat :=
  if c = '(' then depth + 1 else if c = ')' then depth - 1 else depth

/-- The parts of a text between the marks that no group is open at. -/
def cutAt (mark : List Char) (depth : Nat) : List Char → List (List Char)
  | [] => [[]]
  | c :: cs =>
    if depth = 0 ∧ mark <+: c :: cs then [] :: cutAt mark 0 (cs.drop (mark.length - 1))
    else (cutAt mark (depthAfter depth c) cs).modifyHead (c :: ·)
termination_by cs => cs.length

def enclosed (cs : List Char) : List Char := '(' :: (cs ++ [')'])

theorem enclosed_inj {cs ds : List Char} (same : enclosed cs = enclosed ds) : cs = ds :=
  List.append_cancel_right (List.cons.inj same).2

section Cut
variable {mark : List Char} {depth : Nat} {c : Char} {cs rest : List Char}

theorem cutAt_mark (some : mark ≠ []) : cutAt mark 0 (mark ++ rest) = [] :: cutAt mark 0 rest := by
  obtain ⟨c,cs,rfl⟩ := List.exists_cons_of_ne_nil some
  rw [List.cons_append,cutAt,if_pos ⟨rfl,List.prefix_append _ _⟩]
  simp

theorem cutAt_other (uncut : depth ≠ 0 ∨ ¬ mark <+: c :: cs) :
    cutAt mark depth (c :: cs) = (cutAt mark (depthAfter depth c) cs).modifyHead (c :: ·) := by
  rw [cutAt,if_neg]
  rintro ⟨outside,marked⟩
  exact uncut.elim (· outside) (· marked)

theorem cutAt_inside (balanced : Balanced depth cs) :
    cutAt mark (depth + 1) (cs ++ rest) = (cutAt mark 1 rest).modifyHead (cs ++ ·) := by
  induction cs generalizing depth with
  | nil =>
    obtain rfl := Balanced.nil_iff.mp balanced
    exact (congrFun List.modifyHead_id _).symm
  | cons c cs ih =>
    have step (next : Nat) (after : depthAfter (depth + 1) c = next + 1) (more : Balanced next cs) :
        cutAt mark (depth + 1) (c :: cs ++ rest) = (cutAt mark 1 rest).modifyHead (c :: cs ++ ·) := by
      rw [List.cons_append,cutAt_other (.inl (Nat.succ_ne_zero _)),after,ih more,List.modifyHead_modifyHead]
      rfl
    by_cases opening : c = '('
    · subst opening
      exact step (depth + 1) rfl (Balanced.open_iff.mp balanced)
    · by_cases closing : c = ')'
      · subst closing
        cases depth with
        | zero => exact absurd balanced Balanced.not_close
        | succ depth => exact step depth rfl (Balanced.close_iff.mp balanced)
      · exact step depth (by simp [depthAfter,opening,closing]) ((Balanced.other_iff opening closing).mp balanced)

theorem cutAt_enclosed (unopened : mark.head? ≠ some '(') (some : mark ≠ []) (balanced : Balanced 0 cs)
    (rest : List Char) :
    cutAt mark 0 (enclosed cs ++ rest) = (cutAt mark 0 rest).modifyHead (enclosed cs ++ ·) := by
  have uncut : ¬ mark <+: '(' :: (cs ++ ([')'] ++ rest)) := by
    intro marked
    obtain ⟨m,ms,rfl⟩ := List.exists_cons_of_ne_nil some
    obtain ⟨rfl,-⟩ := List.cons_prefix_cons.mp marked
    exact unopened rfl
  rw [enclosed,List.cons_append,List.append_assoc,cutAt_other (.inr uncut)]
  change (cutAt mark (0 + 1) _).modifyHead _ = _
  rw [cutAt_inside balanced,List.singleton_append,cutAt_other (.inl Nat.one_ne_zero),List.modifyHead_modifyHead,
    List.modifyHead_modifyHead]
  simp [depthAfter,Function.comp_def]

theorem cutAt_intercalate (unopened : mark.head? ≠ some '(') (separates : mark ≠ []) {parts : List (List Char)}
    (some : parts ≠ []) (balanced : ∀ part ∈ parts, Balanced 0 part) :
    cutAt mark 0 (mark.intercalate (parts.map enclosed)) = parts.map enclosed := by
  induction parts with
  | nil => exact absurd rfl some
  | cons part parts ih =>
    have first := balanced part (by simp)
    cases parts with
    | nil =>
      have cut := cutAt_enclosed unopened separates first []
      rw [List.append_nil] at cut
      simpa [cutAt] using cut
    | cons next parts =>
      have more := ih (by simp) fun other member => balanced other (List.mem_cons_of_mem _ member)
      rw [List.map_cons,List.map_cons,List.intercalate_cons_cons,List.append_assoc,
        cutAt_enclosed unopened separates first,cutAt_mark separates,← List.map_cons,more]
      simp

end Cut

end SpatialFilter
