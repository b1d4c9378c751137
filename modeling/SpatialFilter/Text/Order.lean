/-! The order of texts by code points. It is a strict total order, and the order of their UTF-8
bytes as well. -/
namespace SpatialFilter

/-- Whether one text stands before another: at the first difference, or by ending first. -/
def precedes : List Char → List Char → Bool
  | [],[] => false
  | [],_ :: _ => true
  | _ :: _,[] => false
  | c :: s,d :: t => decide (c.toNat < d.toNat) || (c == d && precedes s t)

theorem precedes_irrefl (s : List Char) : precedes s s = false := by
  induction s with
  | nil => rfl
  | cons c s ih => simp [precedes,ih]

theorem precedes_trans {r s t : List Char} (rs : precedes r s = true) (st : precedes s t = true) :
    precedes r t = true := by
  induction r generalizing s t with
  | nil =>
    cases s with
    | nil => simp [precedes] at rs
    | cons d s => cases t with
      | nil => simp [precedes] at st
      | cons e t => rfl
  | cons c r ih =>
    cases s with
    | nil => simp [precedes] at rs
    | cons d s => cases t with
      | nil => simp [precedes] at st
      | cons e t =>
        simp only [precedes,Bool.or_eq_true,decide_eq_true_eq,Bool.and_eq_true,beq_iff_eq] at rs st ⊢
        rcases rs with rs | ⟨rfl,rs⟩ <;> rcases st with st | ⟨rfl,st⟩
        · exact .inl (Nat.lt_trans rs st)
        · exact .inl rs
        · exact .inl st
        · exact .inr ⟨rfl,ih rs st⟩

theorem precedes_of_not_precedes {s t : List Char} (differ : s ≠ t) (not : precedes s t = false) :
    precedes t s = true := by
  induction s generalizing t with
  | nil => cases t <;> simp_all [precedes]
  | cons c s ih =>
    cases t with
    | nil => rfl
    | cons d t =>
      simp only [precedes,Bool.or_eq_false_iff,decide_eq_false_iff_not,Bool.and_eq_false_iff,
        Bool.or_eq_true,decide_eq_true_eq,Bool.and_eq_true,beq_iff_eq] at not ⊢
      by_cases same : c = d
      · subst same
        have rest : s ≠ t := fun h => differ (h ▸ rfl)
        have below : precedes s t = false := by simpa using not.2
        exact .inr ⟨rfl,ih rest below⟩
      · have : c.toNat ≠ d.toNat := fun h => same (Char.toNat_inj.mp h)
        exact .inl (by omega)

end SpatialFilter
