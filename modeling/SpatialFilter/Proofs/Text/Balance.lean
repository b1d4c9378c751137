import Mathlib.Data.List.Count

/-! Parentheses that match, told by counting them. -/
namespace SpatialFilter

/-- Behind `depth` open groups: no parenthesis is closed that was not opened before, and in the end
all are closed. -/
structure Balanced (depth : Nat) (cs : List Char) : Prop where
  never : ∀ front, front <+: cs → front.count ')' ≤ front.count '(' + depth
  last : cs.count ')' = cs.count '(' + depth

/-- No parenthesis. -/
def isPlain (c : Char) : Bool := c != '(' && c != ')'

theorem isPlain_iff {c : Char} : isPlain c = true ↔ c ≠ '(' ∧ c ≠ ')' := by
  simp [isPlain]

namespace Balanced
variable {depth : Nat} {c : Char} {cs ds : List Char}

theorem nil_iff : Balanced depth [] ↔ depth = 0 := by
  constructor
  · intro balanced
    simpa using balanced.last.symm
  · rintro rfl
    exact ⟨fun front inside => by simp [List.prefix_nil.mp inside],rfl⟩

/-- The empty front never closes too much, so only longer ones count. -/
private theorem cons_iff : Balanced depth (c :: cs) ↔
    (∀ front, front <+: cs → (c :: front).count ')' ≤ (c :: front).count '(' + depth) ∧
      (c :: cs).count ')' = (c :: cs).count '(' + depth := by
  constructor
  · intro balanced
    exact ⟨fun front inside => balanced.never _ ((List.prefix_cons_inj _).mpr inside),balanced.last⟩
  · intro ⟨never,last⟩
    refine ⟨fun front inside => ?_,last⟩
    rcases List.prefix_cons_iff.mp inside with rfl | ⟨tail,rfl,within⟩
    · simp
    · exact never tail within

theorem open_iff : Balanced depth ('(' :: cs) ↔ Balanced (depth + 1) cs := by
  have shifted (front : List Char) : ('(' :: front).count ')' = front.count ')' ∧
      ('(' :: front).count '(' + depth = front.count '(' + (depth + 1) := by
    simp
    omega
  rw [cons_iff]
  simp only [shifted]
  exact ⟨fun ⟨never,last⟩ => ⟨never,last⟩,fun ⟨never,last⟩ => ⟨never,last⟩⟩

theorem close_iff : Balanced (depth + 1) (')' :: cs) ↔ Balanced depth cs := by
  have shifted (front : List Char) : (')' :: front).count ')' = front.count ')' + 1 ∧
      (')' :: front).count '(' + (depth + 1) = front.count '(' + depth + 1 := by
    simp
    omega
  rw [cons_iff]
  simp only [shifted,Nat.add_le_add_iff_right,Nat.add_right_cancel_iff]
  exact ⟨fun ⟨never,last⟩ => ⟨never,last⟩,fun ⟨never,last⟩ => ⟨never,last⟩⟩

theorem not_close : ¬ Balanced 0 (')' :: cs) := by
  intro balanced
  have first := balanced.never [')'] (List.prefix_iff_eq_take.mpr rfl)
  simp at first

theorem other_iff (opening : c ≠ '(') (closing : c ≠ ')') :
    Balanced depth (c :: cs) ↔ Balanced depth cs := by
  rw [cons_iff]
  simp only [List.count_cons_of_ne opening,List.count_cons_of_ne closing]
  exact ⟨fun ⟨never,last⟩ => ⟨never,last⟩,fun ⟨never,last⟩ => ⟨never,last⟩⟩

theorem plain_append {plain : List Char} (free : ∀ c ∈ plain, isPlain c = true) :
    Balanced depth (plain ++ cs) ↔ Balanced depth cs := by
  induction plain with
  | nil => rfl
  | cons c plain ih =>
    obtain ⟨opening,closing⟩ := isPlain_iff.mp (free c (by simp))
    rw [List.cons_append,other_iff opening closing]
    exact ih fun d member => free d (by simp [member])

theorem of_plain (free : ∀ c ∈ cs, isPlain c = true) : Balanced 0 cs := by
  have padded : Balanced 0 (cs ++ []) := (plain_append free).mpr (nil_iff.mpr rfl)
  simpa using padded

theorem append (first : Balanced 0 cs) (second : Balanced depth ds) : Balanced depth (cs ++ ds) where
  never front inside := by
    rcases List.prefix_or_prefix_of_prefix inside (List.prefix_append cs ds) with within | beyond
    · exact Nat.le_trans (first.never front within) (Nat.le_add_right _ depth)
    · obtain ⟨rest,rfl⟩ := beyond
      have total := first.last
      have behind := second.never rest ((List.prefix_append_right_inj cs).mp inside)
      rw [List.count_append,List.count_append]
      omega
  last := by
    have total := first.last
    have behind := second.last
    rw [List.count_append,List.count_append]
    omega

theorem close (body : Balanced 0 cs) (rest : Balanced 0 ds) : Balanced 0 ('(' :: (cs ++ ')' :: ds)) :=
  open_iff.mpr (body.append (close_iff.mpr rest))

theorem intercalate {mark : List Char} (between : Balanced 0 mark) {parts : List (List Char)}
    (all : ∀ part ∈ parts, Balanced 0 part) : Balanced 0 (mark.intercalate parts) := by
  induction parts with
  | nil => exact nil_iff.mpr rfl
  | cons part parts ih =>
    cases parts with
    | nil => simpa using all
    | cons next parts =>
      rw [List.intercalate_cons_cons,List.append_assoc]
      have more := ih fun other member => all other (List.mem_cons_of_mem _ member)
      exact (all part (by simp)).append (between.append more)

end Balanced
end SpatialFilter
