import Mathlib.Data.List.Forall2

/-! Steps that may fail, taken one after the other. All succeed, or the first one that fails is the
error of the whole. -/
namespace SpatialFilter
variable {ε α β : Type}

theorem bind_eq_ok {x : Except ε α} {f : α → Except ε β} {y : β} :
    (x >>= f) = .ok y ↔ ∃ value, x = .ok value ∧ f value = .ok y := by
  cases x with
  | error e => simp [bind,Except.bind]
  | ok value => simp [bind,Except.bind]

section Error
variable {δ : Type} {f : ε → δ} {x : Except ε α}

theorem mapError_eq_ok {y : α} : x.mapError f = .ok y ↔ x = .ok y := by
  cases x <;> simp [Except.mapError]

theorem mapError_eq_error {e : δ} : x.mapError f = .error e ↔ ∃ cause, x = .error cause ∧ e = f cause := by
  cases x <;> simp [Except.mapError,eq_comm]

end Error

/-- The first element without a property is the same however the list is split at it. -/
theorem first_unique {has : α → Prop} {xs before after others rest : List α} {x y : α}
    (split : xs = before ++ x :: after) (earlier : ∀ z ∈ before, has z) (lacks : ¬ has x)
    (other : xs = others ++ y :: rest) (preceding : ∀ z ∈ others, has z) (misses : ¬ has y) : x = y := by
  subst split
  -- Two fronts of different lengths would have `x` or `y` among the elements with the property.
  induction before generalizing others with
  | nil =>
    cases others with
    | nil => exact (List.cons.inj other).1
    | cons z others =>
      obtain ⟨rfl,-⟩ := List.cons.inj other
      exact absurd (preceding x (by simp)) lacks
  | cons w before ih =>
    cases others with
    | nil =>
      obtain ⟨rfl,-⟩ := List.cons.inj other
      exact absurd (earlier w (by simp)) misses
    | cons z others =>
      obtain ⟨rfl,behind⟩ := List.cons.inj other
      exact ih (fun v member => earlier v (by simp [member])) (fun v member => preceding v (by simp [member]))
        behind

/-- What is lost of one element is lost of the whole list. -/
theorem mapM_option_eq {f : α → Option β} {keeps : α → Bool} {g : α → β} {xs : List α}
    (step : ∀ x ∈ xs, f x = if keeps x then some (g x) else none) :
    xs.mapM f = if xs.all keeps then some (xs.map g) else none := by
  induction xs with
  | nil => rfl
  | cons x xs ih =>
    rw [List.mapM_cons,step x (by simp),ih fun y member => step y (by simp [member]),List.all_cons]
    cases keeps x <;> cases xs.all keeps <;> rfl

theorem mapM_option_some {f : α → Option β} {g : α → β} {xs : List α} (step : ∀ x ∈ xs, f x = some (g x)) :
    xs.mapM f = some (xs.map g) := by
  have all := @mapM_option_eq _ _ f (fun _ => true) g xs (by simpa using step)
  simpa using all

theorem mapM_cons_eq (f : α → Except ε β) (x : α) (xs : List α) :
    (x :: xs).mapM f = match f x with
      | .error e => .error e
      | .ok y => match xs.mapM f with
        | .error e => .error e
        | .ok ys => .ok (y :: ys) := by
  rw [List.mapM_cons]
  cases f x with
  | error e => rfl
  | ok y => cases xs.mapM f <;> rfl

theorem mapM_eq_ok {f : α → Except ε β} {xs : List α} {ys : List β} :
    xs.mapM f = .ok ys ↔ List.Forall₂ (fun x y => f x = .ok y) xs ys := by
  induction xs generalizing ys with
  | nil =>
    rw [List.mapM_nil,List.forall₂_nil_left_iff]
    constructor
    · intro ok
      cases ok
      rfl
    · rintro rfl
      rfl
  | cons x xs ih =>
    rw [mapM_cons_eq,List.forall₂_cons_left_iff]
    cases first : f x with
    | error e => simp
    | ok y =>
      cases rest : xs.mapM f with
      | error e =>
        have failed (zs : List β) : ¬ List.Forall₂ (fun x y => f x = .ok y) xs zs := by
          rw [← ih,rest]
          simp
        simp [failed]
      | ok values =>
        have only (zs : List β) : List.Forall₂ (fun x y => f x = .ok y) xs zs ↔ values = zs := by
          rw [← ih,rest]
          simp
        simp [only,eq_comm]

theorem mapM_ok_map_iff {γ : Type} {f : α → Except ε β} {g : γ → β} {xs : List α} {zs : List γ} :
    xs.mapM f = .ok (zs.map g) ↔ List.Forall₂ (fun x z => f x = .ok (g z)) xs zs := by
  rw [mapM_eq_ok,List.forall₂_map_right_iff]

theorem mapM_eq_ok_map {f : α → Except ε β} {xs : List α} {ys : List β} :
    xs.mapM f = .ok ys ↔ xs.map f = ys.map .ok := by
  rw [mapM_eq_ok,← List.forall₂_eq_eq_eq,List.forall₂_map_left_iff,List.forall₂_map_right_iff]

theorem mem_map_ok_iff {f : α → Except ε β} {xs : List α} {ys : List β} (all : xs.map f = ys.map .ok) {y : β} :
    y ∈ ys ↔ ∃ x ∈ xs, f x = .ok y := by
  rw [← List.mem_map,all,List.mem_map]
  simp

theorem mem_of_map_ok {f : α → Except ε β} {xs : List α} {ys : List β} (all : xs.map f = ys.map .ok) :
    ∀ y ∈ ys, ∃ x ∈ xs, f x = .ok y :=
  fun _ member => (mem_map_ok_iff all).mp member

theorem mapM_ok_of_mem {f : α → Except ε β} {xs : List α} {ys : List β} (ok : xs.mapM f = .ok ys) :
    ∀ x ∈ xs, ∃ y, f x = .ok y := by
  intro x member
  have answer : f x ∈ ys.map .ok := by
    rw [← mapM_eq_ok_map.mp ok]
    exact List.mem_map_of_mem member
  obtain ⟨y,-,answer⟩ := List.mem_map.mp answer
  exact ⟨y,answer.symm⟩

private theorem mapM_of_first_error {f : α → Except ε β} {before after : List α} {x : α} {e : ε}
    (earlier : ∀ z ∈ before, ∃ y, f z = .ok y) (fails : f x = .error e) :
    (before ++ x :: after).mapM f = .error e := by
  induction before with
  | nil => rw [List.nil_append,mapM_cons_eq,fails]
  | cons z before ih =>
    obtain ⟨y,first⟩ := earlier z (by simp)
    rw [List.cons_append,mapM_cons_eq,first,ih fun w inside => earlier w (by simp [inside])]

private theorem first_error_of_mapM {f : α → Except ε β} {xs : List α} {e : ε} (failed : xs.mapM f = .error e) :
    ∃ before x after, xs = before ++ x :: after ∧ (∀ z ∈ before, ∃ y, f z = .ok y) ∧ f x = .error e := by
  induction xs with
  | nil => cases failed
  | cons x xs ih =>
    rw [mapM_cons_eq] at failed
    cases first : f x with
    | error found =>
      rw [first] at failed
      cases failed
      exact ⟨[],x,xs,rfl,by simp,first⟩
    | ok y =>
      cases rest : xs.mapM f with
      | ok ys => simp [first,rest] at failed
      | error found =>
        simp only [first,rest,Except.error.injEq] at failed
        subst failed
        obtain ⟨before,z,after,rfl,earlier,fails⟩ := ih rest
        refine ⟨x :: before,z,after,rfl,?_,fails⟩
        intro w member
        rcases List.mem_cons.mp member with rfl | inside
        · exact ⟨y,first⟩
        · exact earlier w inside

theorem mapM_eq_error {f : α → Except ε β} {xs : List α} {e : ε} :
    xs.mapM f = .error e ↔ ∃ before x after, xs = before ++ x :: after ∧
      (∀ earlier ∈ before, ∃ y, f earlier = .ok y) ∧ f x = .error e := by
  constructor
  · exact first_error_of_mapM
  · rintro ⟨before,x,after,rfl,earlier,fails⟩
    exact mapM_of_first_error earlier fails

/-- Each element has a partner, or those before the first element that has none do. -/
theorem forall₂_or_first {related : α → β → Prop} {alone : α → Prop} {xs : List α}
    (each : ∀ x ∈ xs, (∃ y, related x y) ∨ alone x) : (∃ ys, List.Forall₂ related xs ys) ∨
      ∃ before ys x after, xs = before ++ x :: after ∧ List.Forall₂ related before ys ∧ alone x := by
  induction xs with
  | nil => exact .inl ⟨[],.nil⟩
  | cons x xs ih =>
    rcases each x (by simp) with ⟨y,first⟩ | first
    · rcases ih fun z member => each z (by simp [member]) with ⟨ys,all⟩ | ⟨before,ys,z,after,rfl,front,last⟩
      · exact .inl ⟨y :: ys,.cons first all⟩
      · exact .inr ⟨x :: before,y :: ys,z,after,rfl,.cons first front,last⟩
    · exact .inr ⟨[],[],x,xs,rfl,.nil,first⟩

/-! ### Related lists -/

section Related
variable {related : α → α → Prop} {xs ys : List α}

theorem map_eq_of_related {f : α → β} (same : ∀ x y, related x y → f x = f y) (all : List.Forall₂ related xs ys) :
    xs.map f = ys.map f := by
  rw [← List.forall₂_eq_eq_eq,List.forall₂_map_left_iff,List.forall₂_map_right_iff]
  exact all.imp same

theorem all_eq_of_related {keeps : α → Bool} (same : ∀ x y, related x y → keeps x = keeps y)
    (all : List.Forall₂ related xs ys) : xs.all keeps = ys.all keeps := by
  have answers := congrArg (List.all · id) (map_eq_of_related same all)
  simpa [List.all_map] using answers

theorem mapM_eq_of_related {f : α → Option β} (same : ∀ x y, related x y → f x = f y)
    (all : List.Forall₂ related xs ys) : xs.mapM f = ys.mapM f := by
  have answers := congrArg (List.mapM id) (map_eq_of_related same all)
  simpa [List.mapM_map] using answers

theorem related_of_mem {γ : Type} {related both : α → γ → Prop} {xs : List α} {zs : List γ}
    (step : ∀ x ∈ xs, ∀ z, related x z → both x z) (all : List.Forall₂ related xs zs) : List.Forall₂ both xs zs := by
  induction all with
  | nil => exact .nil
  | cons first _ ih => exact .cons (step _ (by simp) _ first) (ih fun x member => step x (by simp [member]))

end Related

/-- What is made of related results in the same way is the same. -/
theorem bind_eq_of_related {γ : Type} {related : α → β → Prop} {x : Option α} {y : Option β} {f : α → Option γ}
    {g : β → Option γ} (both : Option.Rel related x y) (same : ∀ a b, related a b → f a = g b) :
    (x >>= f) = (y >>= g) := by
  cases both with
  | none => rfl
  | some found => exact same _ _ found

/-- Steps with related results give related lists of them. -/
theorem mapM_related {related : β → β → Prop} {f g : α → Option β} (each : ∀ x, Option.Rel related (f x) (g x))
    (xs : List α) : Option.Rel (List.Forall₂ related) (xs.mapM f) (xs.mapM g) := by
  induction xs with
  | nil => exact .some .nil
  | cons x xs ih =>
    have first := each x
    rw [List.mapM_cons,List.mapM_cons]
    generalize f x = left at first
    generalize g x = right at first
    generalize xs.mapM f = lefts at ih
    generalize xs.mapM g = rights at ih
    cases first with
    | none => exact .none
    | some first =>
      cases ih with
      | none => exact .none
      | some others => exact .some (.cons first others)

theorem mapM_perm (f : α → Option β) {xs ys : List α} (order : xs.Perm ys) :
    Option.Rel List.Perm (xs.mapM f) (ys.mapM f) := by
  induction order with
  | nil => exact .some .nil
  | @cons x xs ys _ ih =>
    rw [List.mapM_cons,List.mapM_cons]
    generalize xs.mapM f = lefts at ih
    generalize ys.mapM f = rights at ih
    cases f x with
    | none => exact .none
    | some y =>
      cases ih with
      | none => exact .none
      | some others => exact .some (others.cons y)
  | swap x y xs =>
    simp only [List.mapM_cons]
    cases f x with
    | none => cases f y <;> exact .none
    | some first =>
      cases f y with
      | none => exact .none
      | some second =>
        cases xs.mapM f with
        | none => exact .none
        | some others => exact .some (.swap first second others)
  | trans _ _ first second =>
    generalize List.mapM f _ = left at first
    generalize List.mapM f _ = middle at first second
    generalize List.mapM f _ = right at second
    cases first with
    | none => exact second
    | some one =>
      cases second with
      | some two => exact .some (one.trans two)

/-! ### Lists and options seen through functions -/

theorem intercalate_cons (sep first : List α) (more : List (List α)) :
    sep.intercalate (first :: more) = first ++ more.flatMap (sep ++ ·) := by
  induction more generalizing first with
  | nil => simp
  | cons second more ih => rw [List.intercalate_cons_cons,ih,List.flatMap_cons,List.append_assoc,List.append_assoc]

theorem map_eq_self {f : α → α} {xs : List α} (same : ∀ x ∈ xs, f x = x) : xs.map f = xs :=
  (List.map_congr_left same).trans (List.map_id xs)

theorem option_map_eq_self {f : α → α} {z : Option α} (same : ∀ x ∈ z, f x = x) : z.map f = z := by
  cases z with
  | none => rfl
  | some x => rw [Option.map_some,same x rfl]

theorem map_eq_iff_map_eq {γ : Type} {f : α → β} {g : α → γ} (same : ∀ x y, f x = f y ↔ g x = g y) {xs ys : List α} :
    xs.map f = ys.map f ↔ xs.map g = ys.map g := by
  induction xs generalizing ys with
  | nil => simp
  | cons x xs ih =>
    cases ys with
    | nil => simp
    | cons y ys => rw [List.map_cons,List.map_cons,List.cons.injEq,same,ih,List.map_cons,List.map_cons,List.cons.injEq]

end SpatialFilter
