import SpatialFilter.Proofs.Text.Reader
import Mathlib

/-! Texts in upper case. Where a class of characters has all letters or none of them, raising the letters of a
text changes no membership, so runs, marks and keywords are found at the same places as in the text itself. -/
namespace SpatialFilter
variable {α : Type}

theorem upper_upper (cs : List Char) : upper (upper cs) = upper cs := by
  simp [upper]

theorem upper_length (cs : List Char) : (upper cs).length = cs.length := List.length_map _

theorem upper_append (s t : List Char) : upper (s ++ t) = upper s ++ upper t := List.map_append

theorem sameLetters_upper (s t : List Char) : sameLetters (upper s) t = sameLetters s t := by
  rw [sameLetters,upper_upper,sameLetters]

/-! ### Characters -/

theorem toUpper_of_not_isAlpha {c : Char} (other : c.isAlpha = false) : c.toUpper = c := by
  apply Char.toUpper_eq_of_not_isLower
  intro lower
  simp [Char.isAlpha,lower] at other

theorem toUpper_eq_iff {mark c : Char} (other : mark.isAlpha = false) : c.toUpper = mark ↔ c = mark := by
  constructor
  · rintro rfl
    rw [Char.isAlpha_toUpper_eq_isAlpha] at other
    exact (toUpper_of_not_isAlpha other).symm
  · rintro rfl
    exact toUpper_of_not_isAlpha other

/-- A class that has all letters or none of them. -/
def Caseless (member : Char → Bool) : Prop := ∀ c d, c.isAlpha = true → d.isAlpha = true → member c = member d

theorem Caseless.of_letters {member : Char → Bool} (all : Bool) (letters : ∀ c, c.isAlpha = true → member c = all) :
    Caseless member :=
  fun c d letter other => (letters c letter).trans (letters d other).symm

theorem Caseless.toUpper {member : Char → Bool} (caseless : Caseless member) (c : Char) :
    member c.toUpper = member c := by
  cases letter : c.isAlpha with
  | true => exact caseless _ _ (by simpa using letter) letter
  | false => rw [toUpper_of_not_isAlpha letter]

theorem isAlpha_caseless : Caseless Char.isAlpha := .of_letters true fun _ letter => letter

theorem isBlank_caseless : Caseless isBlank := .of_letters false fun _ letter => isBlank_eq_false (by simp) letter

/-! ### Runs, marks and keywords -/

theorem takeWhile_upper {member : Char → Bool} (caseless : Caseless member) (cs : List Char) :
    (upper cs).takeWhile member = upper (cs.takeWhile member) := by
  have same : member ∘ Char.toUpper = member := funext caseless.toUpper
  rw [upper,List.takeWhile_map,same,upper]

theorem dropWhile_upper {member : Char → Bool} (caseless : Caseless member) (cs : List Char) :
    (upper cs).dropWhile member = upper (cs.dropWhile member) := by
  have same : member ∘ Char.toUpper = member := funext caseless.toUpper
  rw [upper,List.dropWhile_map,same,upper]

theorem skipBlanks_upper (cs : List Char) : skipBlanks (upper cs) = upper (skipBlanks cs) :=
  dropWhile_upper isBlank_caseless cs

theorem readMark_upper {mark : Char} (caseless : mark.isAlpha = false) (cs : List Char) :
    readMark mark (upper cs) = (readMark mark cs).map upper := by
  unfold readMark
  rw [skipBlanks_upper]
  cases skipBlanks cs with
  | nil => rfl
  | cons c rest => by_cases same : c = mark <;> simp [upper,toUpper_eq_iff caseless,same]

theorem readKeyword_upper (keyword cs : List Char) :
    readKeyword keyword (upper cs) = (readKeyword keyword cs).map upper := by
  have front : (upper cs).take keyword.length = upper (cs.take keyword.length) := List.map_take.symm
  have rest : (upper cs).drop keyword.length = upper (cs.drop keyword.length) := List.map_drop.symm
  unfold readKeyword
  rw [front,rest,sameLetters_upper]
  split <;> rfl

/-! ### Readers that case does not matter to -/

/-- From a text in upper case the reader takes what it takes from the text itself, with its letters raised. -/
def IgnoresCase (raised : α → α) (reader : Reader α) : Prop :=
  ∀ cs, reader (upper cs) = (reader cs).map fun result => (raised result.1,upper result.2)

theorem readRun_upper {member : Char → Bool} (caseless : Caseless member) : IgnoresCase upper (readRun member) := by
  intro cs
  unfold readRun
  rw [takeWhile_upper caseless,dropWhile_upper caseless]
  cases cs.takeWhile member <;> rfl

namespace IgnoresCase
variable {raised : α → α}

theorem mark {mark : Char} (caseless : mark.isAlpha = false) {reader : Reader α} (ignores : IgnoresCase raised reader) :
    IgnoresCase raised fun cs => (readMark mark cs).bind reader := by
  intro cs
  dsimp only
  rw [readMark_upper caseless]
  cases readMark mark cs with
  | none => rfl
  | some rest => exact ignores rest

theorem either {first second : Reader α} (one : IgnoresCase raised first) (other : IgnoresCase raised second) :
    IgnoresCase raised (readEither first second) := by
  intro cs
  unfold readEither
  rw [one]
  cases first cs with
  | none => exact other cs
  | some result => rfl

theorem many {part : Reader α} (ignores : IgnoresCase raised part) (cs : List Char) :
    readMany part (upper cs) = ((readMany part cs).1.map raised,upper (readMany part cs).2) := by
  fun_induction readMany part cs with
  | case1 cs refused => rw [readMany_none (by rw [ignores,refused]; rfl),List.map_nil]
  | case2 cs value rest ok shorter values last more ih =>
    rw [more] at ih
    rw [readMany_some (by rw [ignores,ok]; rfl) (by simpa [upper_length] using shorter),ih,List.map_cons]
  | case3 cs value rest ok longer =>
    rw [readMany,ignores,ok]
    simp [upper_length,longer]

end IgnoresCase
end SpatialFilter
