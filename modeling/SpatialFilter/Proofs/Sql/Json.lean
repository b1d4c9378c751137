import SpatialFilter.Proofs.NameSet
import SpatialFilter.Proofs.Predicate.Fingerprint
import SpatialFilter.Sql.Json

/-! Conditions in JSON. The text of a condition stands on one line, and conditions with the same text are
the same. -/
namespace SpatialFilter

/-! ### Texts on one line -/

namespace Json

theorem newline_not_mem_hexPair : ∀ n < 32, '\n' ∉ hexPair n := by
  decide

theorem newline_not_mem_escape (c : Char) : '\n' ∉ escape c := by
  unfold escape
  split
  case h_8 noQuote noEscape noBackspace noFeed noNewline noReturn noTab =>
    split
    · rename_i control
      simpa using newline_not_mem_hexPair c.toNat control
    · simpa using Ne.symm noNewline
  all_goals decide

theorem newline_not_mem_writeString (s : String) : '\n' ∉ writeString s := by
  have pieces : '\n' ∉ s.toList.flatMap escape := by
    intro member
    obtain ⟨c,-,inside⟩ := List.mem_flatMap.mp member
    exact newline_not_mem_escape c inside
  simpa [writeString] using pieces

theorem newline_not_mem_writeElements {elements : List Json} (all : ∀ j ∈ elements, '\n' ∉ j.write) :
    '\n' ∉ writeElements elements := by
  induction elements with
  | nil => simp [writeElements]
  | cons j more ih =>
    have first := all j (by simp)
    have others := ih fun k member => all k (by simp [member])
    cases more with
    | nil => simpa [writeElements] using first
    | cons k more => simpa [writeElements] using ⟨first,others⟩

theorem newline_not_mem_writeMembers {members : List (Option String × Json)}
    (all : ∀ m ∈ members, '\n' ∉ m.2.write) : '\n' ∉ writeMembers members := by
  induction members with
  | nil => simp [writeMembers]
  | cons m more ih =>
    have name := newline_not_mem_writeString (m.1.getD "")
    have first := all m (by simp)
    have others := ih fun k member => all k (by simp [member])
    cases more with
    | nil => simpa [writeMembers] using ⟨name,first⟩
    | cons k more => simpa [writeMembers] using ⟨name,first,others⟩

theorem newline_not_mem_write {j : Json} (legible : Legible j) : '\n' ∉ j.write := by
  induction legible with
  | null => decide
  | bool value => cases value <;> decide
  | @number token plain =>
    have spells : Numeral.Spells token token.text :=
      ⟨plain.wellFormed,'e',.inl rfl,Numeral.text_eq_spelling token⟩
    intro member
    exact absurd (spells.numeric '\n' (by simpa [write] using member)) (by decide)
  | text s => exact newline_not_mem_writeString s
  | array all free => simpa [write] using newline_not_mem_writeElements free
  | object named all free => simpa [write] using newline_not_mem_writeMembers free

end Json

/-! ### The text of a condition -/

namespace Condition

theorem namesJson_inj {s t : NameSet} : namesJson s = namesJson t ↔ s = t := by
  have injective : Function.Injective Json.string := fun first second same => Json.string_inj.mp same
  rw [namesJson,namesJson,Json.array.injEq,injective.list_map.eq_iff,NameSet.toList_inj]

theorem toJson_inj {c k : Condition} : c.toJson = k.toJson ↔ c = k := by
  cases c
  cases k
  simp [toJson,Json.record_inj,Json.string_inj,namesJson_inj]

theorem legible (c : Condition) : Json.Legible c.toJson := by
  have names (s : NameSet) : Json.Legible (namesJson s) := by
    apply Json.Legible.array
    intro j member
    obtain ⟨name,-,rfl⟩ := List.mem_map.mp member
    exact .text name
  have sql : Json.Legible (.string c.sql) := .text c.sql
  apply Json.legible_record
  simp [sql,names]

theorem jsonText_injective : Function.Injective jsonText := by
  intro c k same
  rw [jsonText,jsonText,String.ofList_inj] at same
  exact toJson_inj.mp (Json.write_injective c.legible k.legible same)

theorem newline_not_mem_jsonText (c : Condition) : '\n' ∉ c.jsonText.toList := by
  rw [jsonText,String.toList_ofList]
  exact Json.newline_not_mem_write c.legible

end Condition
end SpatialFilter
