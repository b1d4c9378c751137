import SpatialFilter.Proofs.Phrase.Form
import Mathlib

/-! Geometries in a text. Whatever its tag is, a geometry extends over one group in parentheses that
match; the tag and the body of the group alone decide what is read. -/
namespace SpatialFilter
variable {α : Type}

theorem isBlank_eq_false_of_isAlpha {c : Char} (letter : c.isAlpha = true) : isBlank c = false :=
  isBlank_eq_false (by simp) letter

theorem isPlain_of_isBlank {c : Char} (blank : isBlank c = true) : isPlain c = true := by
  have plain : ∀ d ∈ [' ','\t','\r','\n'], isPlain d = true := by simp [isPlain]
  exact plain c (isBlank_iff.mp blank)

theorem isPlain_of_isNumeric {c : Char} (numeric : Numeral.isNumeric c = true) : isPlain c = true := by
  rw [isPlain_iff]
  constructor <;> rintro rfl <;> exact absurd numeric (by decide)

theorem sameLetters_length {left right : List Char} (same : sameLetters left right = true) :
    left.length = right.length := by
  have equal := sameLetters_iff.mp same
  simpa [upper] using congrArg List.length equal

theorem isAlpha_of_sameLetters {left right : List Char} (same : sameLetters left right = true)
    (letters : ∀ c ∈ right, c.isAlpha = true) : ∀ c ∈ left, c.isAlpha = true := by
  intro c member
  have equal := sameLetters_iff.mp same
  have raised : c.toUpper ∈ upper right := equal ▸ List.mem_map_of_mem member
  obtain ⟨d,inside,folded⟩ := List.mem_map.mp raised
  rw [← Char.isAlpha_toUpper_eq_isAlpha,← folded,Char.isAlpha_toUpper_eq_isAlpha]
  exact letters d inside

theorem isWord_of_sameLetters {tag keyword : List Char} (same : sameLetters tag keyword = true)
    (isKeyword : IsWord keyword) : IsWord tag := by
  refine ⟨?_,isAlpha_of_sameLetters same isKeyword.letters⟩
  rintro rfl
  exact isKeyword.nonempty (List.length_eq_zero_iff.mp (sameLetters_length same).symm)

theorem readKeyword_append {keyword tag : List Char} (same : sameLetters tag keyword = true)
    (rest : List Char) : readKeyword keyword (tag ++ rest) = some rest := by
  have lengths := sameLetters_length same
  simp [readKeyword,← lengths,same]

theorem readKeyword_eq_some {keyword cs rest : List Char} (ok : readKeyword keyword cs = some rest) :
    ∃ tag, sameLetters tag keyword = true ∧ cs = tag ++ rest := by
  unfold readKeyword at ok
  split at ok
  · rename_i same
    cases ok
    exact ⟨_,same,(List.take_append_drop _ cs).symm⟩
  · cases ok

namespace Phrase

/-! ### Groups whose parentheses match -/

theorem closeGroup_of_balanced {depth : Nat} {body : List Char} (balanced : Balanced depth body)
    (rest : List Char) : closeGroup depth (body ++ ')' :: rest) = some rest := by
  induction body generalizing depth with
  | nil =>
    obtain rfl := Balanced.nil_iff.mp balanced
    rfl
  | cons c body ih =>
    by_cases opening : c = '('
    · subst opening
      simpa [closeGroup] using ih (Balanced.open_iff.mp balanced)
    · by_cases closing : c = ')'
      · subst closing
        cases depth with
        | zero => exact absurd balanced Balanced.not_close
        | succ depth => simpa [closeGroup] using ih (Balanced.close_iff.mp balanced)
      · simpa [closeGroup,opening,closing] using ih ((Balanced.other_iff opening closing).mp balanced)

theorem balanced_of_closeGroup {depth : Nat} {cs rest : List Char} (ok : closeGroup depth cs = some rest) :
    ∃ body, cs = body ++ ')' :: rest ∧ Balanced depth body := by
  fun_induction closeGroup depth cs with
  | case1 => cases ok
  | case2 depth cs ih =>
    obtain ⟨body,rfl,balanced⟩ := ih ok
    exact ⟨'(' :: body,rfl,Balanced.open_iff.mpr balanced⟩
  | case3 cs =>
    cases ok
    exact ⟨[],rfl,Balanced.nil_iff.mpr rfl⟩
  | case4 depth cs ih =>
    obtain ⟨body,rfl,balanced⟩ := ih ok
    exact ⟨')' :: body,rfl,Balanced.close_iff.mpr balanced⟩
  | case5 depth c cs opening outermost nested ih =>
    obtain ⟨body,rfl,balanced⟩ := ih ok
    refine ⟨c :: body,rfl,(Balanced.other_iff opening ?_).mpr balanced⟩
    intro closing
    cases depth with
    | zero => exact outermost rfl closing
    | succ depth => exact nested depth rfl closing

theorem closeGroup_plain {c : Char} (plain : isPlain c = true) (depth : Nat) (cs : List Char) :
    closeGroup depth (c :: cs) = closeGroup depth cs := by
  obtain ⟨opening,closing⟩ := isPlain_iff.mp plain
  cases depth <;> simp [closeGroup,closing]

theorem closeGroup_blanks {blanks : List Char} (blank : AllBlank blanks) (depth : Nat) (cs : List Char) :
    closeGroup depth (blanks ++ cs) = closeGroup depth cs := by
  induction blanks with
  | nil => rfl
  | cons c blanks ih =>
    rw [List.cons_append,closeGroup_plain (isPlain_of_isBlank (blank c (by simp)))]
    exact ih fun d member => blank d (by simp [member])

/-- Inner groups are closed before outer ones. -/
theorem closeGroup_inner (outer depth : Nat) (cs : List Char) :
    closeGroup (outer + (depth + 1)) cs = (closeGroup depth cs).bind (closeGroup outer) := by
  fun_induction closeGroup depth cs with
  | case1 depth => rfl
  | case2 depth cs ih => exact ih
  | case3 cs => rfl
  | case4 depth cs ih => exact ih
  | case5 depth c cs opening outermost nested ih =>
    have closing : c ≠ ')' := by
      rintro rfl
      cases depth with
      | zero => exact outermost rfl rfl
      | succ depth => exact nested depth rfl rfl
    rw [closeGroup_plain (isPlain_iff.mpr ⟨opening,closing⟩),ih]

theorem skipBlanks_word {word : List Char} (isWord : IsWord word) {blanks : List Char}
    (blank : AllBlank blanks) (rest : List Char) : skipBlanks (blanks ++ word ++ rest) = word ++ rest := by
  obtain ⟨c,tail,rfl⟩ := List.exists_cons_of_ne_nil isWord.nonempty
  have letter := isWord.letters c (by simp)
  rw [List.append_assoc,List.cons_append,skipBlanks_behind blank (isBlank_eq_false_of_isAlpha letter)]

/-- What stands behind a word in front of a group cannot be read as part of the word. -/
theorem not_isAlpha_behind_word {gap : List Char} (blank : AllBlank gap) (rest : List Char) :
    ∀ c ∈ (gap ++ '(' :: rest).head?, c.isAlpha = false := by
  intro c first
  cases gap with
  | nil =>
    cases first
    rfl
  | cons d more =>
    cases first
    by_contra letter
    have visible := isBlank_eq_false_of_isAlpha (c := c) (by simpa using letter)
    simp [blank c (by simp)] at visible

theorem readWord_append {word : List Char} (isWord : IsWord word) {rest : List Char}
    (boundary : ∀ c ∈ rest.head?, c.isAlpha = false) : readWord (word ++ rest) = some (word,rest) :=
  readRun_eq_some.mpr ⟨rfl,isWord.nonempty,isWord.letters,boundary⟩

theorem text_append (g : GroupForm) (rest : List Char) :
    g.text ++ rest = g.tag ++ (g.gap ++ '(' :: (g.body ++ ')' :: rest)) := by
  simp [GroupForm.text]

theorem readMark_gap (g : GroupForm) (cs : List Char) : readMark '(' (g.gap ++ '(' :: cs) = some cs :=
  readMark_behind rfl g.isGap cs

theorem readWord_group (g : GroupForm) (rest : List Char) :
    readWord (g.text ++ rest) = some (g.tag,g.gap ++ '(' :: (g.body ++ ')' :: rest)) := by
  rw [text_append]
  exact readWord_append g.isTag (not_isAlpha_behind_word g.isGap _)

theorem readTagged_group (g : GroupForm) (rest : List Char) :
    readTagged (g.text ++ rest) = some (.tagged g.tag,rest) := by
  have opened := readMark_gap g (g.body ++ ')' :: rest)
  simp [readTagged,readWord_group,opened,closeGroup_of_balanced g.isBalanced]

theorem group_of_readTagged {cs rest : List Char} {phrase : GeometryPhrase}
    (ok : readTagged cs = some (phrase,rest)) : ∃ g : GroupForm, cs = g.text ++ rest := by
  obtain ⟨⟨tag,afterTag⟩,wordRead,ok⟩ := Option.bind_eq_some_iff.mp ok
  obtain ⟨inner,opened,ok⟩ := Option.bind_eq_some_iff.mp ok
  obtain ⟨left,closed,ok⟩ := Option.bind_eq_some_iff.mp ok
  cases ok
  obtain ⟨rfl,nonempty,letters,-⟩ := readRun_eq_some.mp wordRead
  obtain ⟨gap,blank,rfl⟩ := readMark_eq_some opened
  obtain ⟨body,rfl,balanced⟩ := balanced_of_closeGroup closed
  exact ⟨⟨tag,gap,body,⟨nonempty,letters⟩,blank,balanced⟩,by simp [GroupForm.text]⟩

/-! ### Tags with a body of their own -/

/-- A keyword, and a body in parentheses. -/
def readEnclosed (keyword : List Char) (body : Reader α) : Reader α := fun cs => do
  let cs ← readMark '(' (← readKeyword keyword cs)
  let (value,cs) ← body cs
  return (value,← readMark ')' cs)

/-- The value of a text that a reader reads to its end. -/
def readBody (body : Reader α) (cs : List Char) : Option α :=
  match body cs with
  | some (value,left) => if (skipBlanks left).isEmpty then some value else none
  | none => none

theorem group_of_readEnclosed {keyword : List Char} (isKeyword : IsWord keyword) {body : Reader α}
    (consumes : Consumes isPlain body) {cs rest : List Char} {value : α}
    (ok : readEnclosed keyword body cs = some (value,rest)) : ∃ g : GroupForm, cs = g.text ++ rest := by
  obtain ⟨afterTag,keywordRead,ok⟩ := Option.bind_eq_some_iff.mp ok
  obtain ⟨inner,opened,ok⟩ := Option.bind_eq_some_iff.mp ok
  obtain ⟨⟨found,afterBody⟩,bodyRead,ok⟩ := Option.bind_eq_some_iff.mp ok
  obtain ⟨left,closed,ok⟩ := Option.bind_eq_some_iff.mp ok
  cases ok
  obtain ⟨tag,same,rfl⟩ := readKeyword_eq_some keywordRead
  obtain ⟨gap,gapBlank,rfl⟩ := readMark_eq_some opened
  obtain ⟨used,rfl,free⟩ := consumes _ _ _ bodyRead
  obtain ⟨blanks,blank,rfl⟩ := readMark_eq_some closed
  have plain : ∀ c ∈ used ++ blanks, isPlain c = true := fun c member =>
    (List.mem_append.mp member).elim (free c) fun inside => isPlain_of_isBlank (blank c inside)
  exact ⟨⟨tag,gap,used ++ blanks,isWord_of_sameLetters same isKeyword,gapBlank,Balanced.of_plain plain⟩,
    by simp [GroupForm.text]⟩

/-- Only the tag of a group can be its keyword. -/
private theorem readMark_of_readKeyword {keyword : List Char} (isKeyword : IsWord keyword) (g : GroupForm)
    (rest : List Char) : (readKeyword keyword (g.text ++ rest)).bind (readMark '(') =
      if sameLetters g.tag keyword then some (g.body ++ ')' :: rest) else none := by
  rw [text_append]
  by_cases same : sameLetters g.tag keyword = true
  · rw [readKeyword_append same,if_pos same]
    exact readMark_gap g _
  · rw [if_neg same,Option.bind_eq_none_iff]
    intro afterKeyword keywordRead
    obtain ⟨tag,sameTag,joined⟩ := readKeyword_eq_some keywordRead
    have letters := isAlpha_of_sameLetters sameTag isKeyword.letters
    rcases List.append_eq_append_iff.mp joined with ⟨more,rfl,behind⟩ | ⟨more,longer,rfl⟩
    · -- The keyword would go on behind the tag, where no letter stands.
      cases more with
      | nil => exact absurd (by simpa using sameTag) same
      | cons c more =>
        have outside := not_isAlpha_behind_word g.isGap _ c (by rw [behind]; rfl)
        simp [letters c (by simp)] at outside
    · -- The keyword would end inside the tag, where no group opens.
      cases more with
      | nil => exact absurd (by simpa [longer] using sameTag) same
      | cons c more =>
        have letter := g.isTag.letters c (by simp [longer])
        have differ : c ≠ '(' := by
          rintro rfl
          exact absurd letter (by decide)
        exact readMark_cons_other differ (isBlank_eq_false_of_isAlpha letter) _

/-- A tag that fits, and a body that its reader reads to the end. -/
def enclosed (keyword : List Char) (body : Reader α) (g : GroupForm) : Option α :=
  if sameLetters g.tag keyword then readBody body g.body else none

theorem enclosed_same {keyword : List Char} {g : GroupForm} (same : sameLetters g.tag keyword = true)
    (body : Reader α) : enclosed keyword body g = readBody body g.body :=
  if_pos same

theorem enclosed_other {keyword : List Char} {g : GroupForm} (differ : sameLetters g.tag keyword = false)
    (body : Reader α) : enclosed keyword body g = none :=
  if_neg (by simp [differ])

/-- What is left of a body does not start with the parenthesis that closes the group. -/
private theorem readMark_left {g : GroupForm} {used left : List Char} (split : g.body = used ++ left)
    (free : ∀ c ∈ used, isPlain c = true) (rest : List Char) :
    readMark ')' (left ++ ')' :: rest) = if (skipBlanks left).isEmpty then some rest else none := by
  rcases blanks_or_visible left with blank | ⟨blanks,c,more,blank,visible,rfl⟩
  · rw [skipBlanks_eq_nil.mpr blank]
    exact readMark_behind rfl blank rest
  · have balanced : Balanced 0 (c :: more) := by
      have whole := g.isBalanced
      rw [split,Balanced.plain_append free,
        Balanced.plain_append fun d inside => isPlain_of_isBlank (blank d inside)] at whole
      exact whole
    have differ : c ≠ ')' := by
      rintro rfl
      exact Balanced.not_close balanced
    rw [List.append_assoc,List.cons_append,readMark_other differ visible blank,
      skipBlanks_behind blank visible]
    rfl

theorem readEnclosed_group {keyword : List Char} (isKeyword : IsWord keyword) {body : Reader α}
    (consumes : Consumes isPlain body) (stops : StopsAt ')' body) (g : GroupForm) (rest : List Char) :
    readEnclosed keyword body (g.text ++ rest) = (enclosed keyword body g).map fun value => (value,rest) := by
  have joined : readEnclosed keyword body (g.text ++ rest) =
      ((readKeyword keyword (g.text ++ rest)).bind (readMark '(')).bind fun inner =>
        (body inner).bind fun found => (readMark ')' found.2).map fun left => (found.1,left) := by
    simp [readEnclosed,Option.bind_assoc,Option.map_eq_bind]
  rw [joined,readMark_of_readKeyword isKeyword g rest]
  unfold enclosed readBody
  split
  · rw [Option.bind_some,stops]
    cases bodyRead : body g.body with
    | none => rfl
    | some found =>
      obtain ⟨value,left⟩ := found
      obtain ⟨used,split,free⟩ := consumes _ _ _ bodyRead
      simp only [Option.map_some,Option.bind_some,readMark_left split free]
      split <;> rfl
  · rfl

end Phrase
end SpatialFilter
