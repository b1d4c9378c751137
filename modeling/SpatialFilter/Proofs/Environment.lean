import SpatialFilter.Environment.File
import SpatialFilter.Proofs.NameMap

/-! What a file of assignments adds to an environment. A variable that is set stays as it is, and of several
assignments of one variable the first counts. Only a value that its variable cannot hold spoils the file. -/
namespace SpatialFilter.Environment
variable {e f : Environment} {name value : String}

theorem get?_setDefault (set : e.setDefault name value = some f) (other : String) :
    f.get? other = (e.get? other).or (if other = name then some value else none) := by
  unfold setDefault at set
  split at set
  · rename_i present bound
    cases set
    split_ifs with same
    · rw [same,bound,Option.some_or]
    · rw [Option.or_none]
  · rename_i absent
    split_ifs at set
    cases set
    split_ifs with same
    · rw [same,absent,NameMap.get?_insert_self,Option.none_or]
    · rw [NameMap.get?_insert_of_ne e same,Option.or_none]

theorem setDefault_eq_none : e.setDefault name value = none ↔ e.get? name = none ∧ canHold value = false := by
  unfold setDefault
  cases e.get? name with
  | some present => simp
  | none => cases fits : canHold value <;> simp

namespace File

/-- The assignments of lines, in order. Each value is read where the ones before it are made. -/
def assignments : List (List Char) → Environment → List (String × String)
  | [],_ => []
  | line :: rest,e =>
    match readLine e line with
    | .blank => assignments rest e
    | .assignment name value => (name,value) :: assignments rest ((e.setDefault name value).getD e)
    | .malformed => []

theorem get?_assign {lines : List (List Char)} (made : assign lines e = some f) (name : String) :
    f.get? name = (e.get? name).or ((assignments lines e).lookup name) := by
  -- A line is read where the assignments before it are made, so the environment changes along the induction.
  induction lines generalizing e with
  | nil =>
    cases made
    rw [assignments,List.lookup_nil,Option.or_none]
  | cons line rest ih =>
    rw [assign] at made
    rw [assignments]
    cases read : readLine e line with
    | blank =>
      rw [read] at made
      exact ih made
    | assignment bound value =>
      rw [read] at made
      dsimp only at made ⊢
      cases set : e.setDefault bound value with
      | none => simp [set] at made
      | some g =>
        rw [set] at made
        rw [ih made,get?_setDefault set,Option.or_assoc,List.lookup_cons,Option.getD_some]
        by_cases same : name = bound
        · simp [same]
        · simp [same,beq_false_of_ne same]
    | malformed =>
      rw [read] at made
      cases made
      rw [List.lookup_nil,Option.or_none]

/-- The first assignment of a variable that is not set gives it what it cannot hold. -/
def Spoils (e : Environment) (assignments : List (String × String)) : Prop :=
  ∃ name value, e.get? name = none ∧ assignments.lookup name = some value ∧ canHold value = false

theorem Spoils.cons {assignments : List (String × String)} (set : e.setDefault name value = some f) :
    Spoils e ((name,value) :: assignments) ↔ Spoils f assignments := by
  refine exists_congr fun other => exists_congr fun given => ?_
  rw [get?_setDefault set,List.lookup_cons]
  by_cases same : other = name
  · subst same
    rw [beq_self_eq_true,if_pos rfl]
    refine iff_of_false ?_ (by simp)
    rintro ⟨unset,⟨⟩,long⟩
    rw [setDefault_eq_none.mpr ⟨unset,long⟩] at set
    cases set
  · simp [same,beq_false_of_ne same]

theorem assign_eq_none {lines : List (List Char)} : assign lines e = none ↔ Spoils e (assignments lines e) := by
  induction lines generalizing e with
  | nil => simp [assign,assignments,Spoils]
  | cons line rest ih =>
    rw [assign,assignments]
    cases readLine e line with
    | blank => exact ih
    | assignment name value =>
      dsimp only
      cases set : e.setDefault name value with
      | none =>
        obtain ⟨unset,long⟩ := setDefault_eq_none.mp set
        exact iff_of_true rfl ⟨name,value,unset,List.lookup_cons_self,long⟩
      | some f =>
        rw [Option.getD_some,Spoils.cons set]
        exact ih
    | malformed => simp [Spoils]

def made (e : Environment) : FileState → List (String × String)
  | .regular content => assignments (joinLines (dropOrderMark (rawLines content.size content)) [] .outside) e
  | _ => []

theorem get?_extend {file : FileState} (extended : extend e file = some f) (name : String) :
    f.get? name = (e.get? name).or ((made e file).lookup name) := by
  cases file with
  | regular content => exact get?_assign extended name
  | _ =>
    cases extended
    exact (Option.or_none).symm

theorem extend_eq_none {file : FileState} : extend e file = none ↔ Spoils e (made e file) := by
  cases file with
  | regular content => exact assign_eq_none
  | _ => simp [extend,made,Spoils]

end File
end SpatialFilter.Environment
