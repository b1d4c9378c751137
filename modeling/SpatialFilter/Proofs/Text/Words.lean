import SpatialFilter.Text.Letter
import Mathlib.Tactic.SplitIfs

/-! Lists of words in a text, between blanks and commas. -/
namespace SpatialFilter

def isSeparator (c : Char) : Bool := isBlank c || c = ','

/-- What stands between separators, wherever something does. -/
def words (cs : List Char) : List (List Char) := (cs.splitOnP isSeparator).filter (!·.isEmpty)

theorem words_separated (left right : List Char) {c : Char} (separates : isSeparator c = true) :
    words (left ++ c :: right) = words left ++ words right := by
  rw [words,List.splitOnP_append_cons left right separates,List.filter_append]
  rfl

theorem words_behind {c : Char} (separates : isSeparator c = true) (cs : List Char) : words (c :: cs) = words cs :=
  words_separated [] cs separates

theorem words_single {word : List Char} (some : word ≠ []) (whole : ∀ c ∈ word, isSeparator c = false) :
    words word = [word] := by
  rw [words,List.splitOnP_eq_singleton whole]
  simp [some]

theorem mem_words {cs : List Char} {c : Char} (member : c ∈ cs) (visible : isSeparator c = false) :
    ∃ word ∈ words cs, c ∈ word := by
  have piece : ∃ word ∈ cs.splitOnP isSeparator, c ∈ word := by
    induction cs with
    | nil => cases member
    | cons d cs ih =>
      rw [List.splitOnP_cons_eq_if_modifyHead]
      obtain ⟨first,more,split⟩ := List.exists_cons_of_ne_nil (List.splitOnP_ne_nil isSeparator cs)
      rcases List.mem_cons.mp member with rfl | inside
      · rw [if_neg (by simp [visible]),split]
        exact ⟨c :: first,by simp,by simp⟩
      · obtain ⟨word,present,has⟩ := ih inside
        split_ifs
        · exact ⟨word,by simp [present],has⟩
        · rw [split,List.modifyHead_cons]
          rw [split] at present
          rcases List.mem_cons.mp present with rfl | later
          · exact ⟨d :: word,by simp,by simp [has]⟩
          · exact ⟨word,by simp [later],has⟩
  obtain ⟨word,present,has⟩ := piece
  exact ⟨word,List.mem_filter.mpr ⟨present,by simpa using List.ne_nil_of_mem has⟩,has⟩

end SpatialFilter
