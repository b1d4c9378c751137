import SpatialFilter.Proofs.Text.Reader
import Mathlib.Logic.Relation

/-! Blanks that do not count. Of a run of blanks only its presence counts, and not even that at the ends of a
text and beside parentheses and commas. A squeezed text keeps one blank where a run counts; readers that
take the same from a text and from its squeezed form cannot tell two layouts apart. -/
namespace SpatialFilter
variable {α : Type}

def isMark (c : Char) : Bool := c = '(' || c = ')' || c = ','

/-- One change of layout: a run of blanks becomes another one, or blanks are put at an end or beside a mark. -/
inductive BlankChange : List Char → List Char → Prop where
  | run (front rest : List Char) {blanks others : List Char} (blank : AllBlank blanks) (some : blanks ≠ [])
      (otherBlank : AllBlank others) (otherSome : others ≠ []) :
      BlankChange (front ++ (blanks ++ rest)) (front ++ (others ++ rest))
  | start {blanks : List Char} (blank : AllBlank blanks) (text : List Char) : BlankChange text (blanks ++ text)
  | ending {blanks : List Char} (blank : AllBlank blanks) (text : List Char) : BlankChange text (text ++ blanks)
  | before {mark : Char} (marks : isMark mark = true) (front rest : List Char) {blanks : List Char}
      (blank : AllBlank blanks) : BlankChange (front ++ mark :: rest) (front ++ (blanks ++ mark :: rest))
  | behind {mark : Char} (marks : isMark mark = true) (front rest : List Char) {blanks : List Char}
      (blank : AllBlank blanks) : BlankChange (front ++ mark :: rest) (front ++ mark :: (blanks ++ rest))

/-- Two texts of which each comes from the other by changes of layout, made or undone. -/
def Relaid (s t : List Char) : Prop := Relation.EqvGen BlankChange s t

/-! ### Squeezed texts -/

/-- What stands in front of a place: a character of a token, blanks behind such a character, or a mark or the
start of the text, where blanks do not count. -/
inductive Gap where
  | inside | apart | free
deriving DecidableEq

def Gap.behind (gap : Gap) (c : Char) : Gap :=
  if isBlank c then if gap = .free then .free else .apart
  else if isMark c then .free
  else .inside

/-- What is kept of a character. A run of blanks is kept as one blank in front of the character behind it. -/
def Gap.kept (gap : Gap) (c : Char) : List Char :=
  if isBlank c then [] else if gap = .apart ∧ isMark c = false then [' ',c] else [c]

def squeeze : Gap → List Char → List Char
  | _,[] => []
  | gap,c :: cs => gap.kept c ++ squeeze (gap.behind c) cs

theorem isBlank_eq_false_of_isMark {c : Char} (marks : isMark c = true) : isBlank c = false :=
  isBlank_eq_false (by simp [isMark]) marks

theorem squeeze_blank {c : Char} (blank : isBlank c = true) (gap : Gap) (cs : List Char) :
    squeeze gap (c :: cs) = squeeze (gap.behind c) cs := by
  simp [squeeze,Gap.kept,blank]

theorem squeeze_mark {c : Char} (marks : isMark c = true) (gap : Gap) (cs : List Char) :
    squeeze gap (c :: cs) = c :: squeeze .free cs := by
  simp [squeeze,Gap.kept,Gap.behind,marks,isBlank_eq_false_of_isMark marks]

theorem squeeze_visible {c : Char} (visible : isBlank c = false) (cs : List Char) {gap : Gap} (joined : gap ≠ .apart) :
    squeeze gap (c :: cs) = c :: squeeze (gap.behind c) cs := by
  simp [squeeze,Gap.kept,visible,joined]

theorem squeeze_append (gap : Gap) (front rest : List Char) :
    squeeze gap (front ++ rest) = squeeze gap front ++ squeeze (front.foldl Gap.behind gap) rest := by
  induction front generalizing gap with
  | nil => rfl
  | cons c front ih => simp [squeeze,ih]

theorem squeeze_allBlank {blanks : List Char} (blank : AllBlank blanks) (gap : Gap) : squeeze gap blanks = [] := by
  induction blanks generalizing gap with
  | nil => rfl
  | cons c blanks ih =>
    rw [squeeze_blank (blank c (by simp)),ih fun d member => blank d (by simp [member])]

theorem behind_free {blanks : List Char} (blank : AllBlank blanks) : blanks.foldl Gap.behind .free = .free := by
  induction blanks with
  | nil => rfl
  | cons c blanks ih =>
    have first : Gap.behind .free c = .free := by simp [Gap.behind,blank c (by simp)]
    rw [List.foldl_cons,first,ih fun d member => blank d (by simp [member])]

theorem behind_apart {blanks : List Char} (blank : AllBlank blanks) : blanks.foldl Gap.behind .apart = .apart := by
  induction blanks with
  | nil => rfl
  | cons c blanks ih =>
    have first : Gap.behind .apart c = .apart := by simp [Gap.behind,blank c (by simp)]
    rw [List.foldl_cons,first,ih fun d member => blank d (by simp [member])]

/-- All runs of blanks leave the same gap. -/
theorem behind_blanks {blanks : List Char} (blank : AllBlank blanks) (some : blanks ≠ []) (gap : Gap) :
    blanks.foldl Gap.behind gap = if gap = .free then .free else .apart := by
  obtain ⟨c,more,rfl⟩ := List.exists_cons_of_ne_nil some
  have first : gap.behind c = if gap = .free then .free else .apart := by simp [Gap.behind,blank c (by simp)]
  have others : AllBlank more := fun d member => blank d (by simp [member])
  rw [List.foldl_cons,first]
  split
  · exact behind_free others
  · exact behind_apart others

theorem squeeze_blanks {blanks : List Char} (blank : AllBlank blanks) (gap : Gap) (rest : List Char) :
    squeeze gap (blanks ++ rest) = squeeze (blanks.foldl Gap.behind gap) rest := by
  rw [squeeze_append,squeeze_allBlank blank,List.nil_append]

theorem BlankChange.squeeze {s t : List Char} (change : BlankChange s t) : squeeze .free s = squeeze .free t := by
  cases change with
  | run front rest blank some otherBlank otherSome =>
    rw [squeeze_append,squeeze_append _ front (_ ++ rest),squeeze_blanks blank,squeeze_blanks otherBlank,
      behind_blanks blank some,behind_blanks otherBlank otherSome]
  | start blank text => rw [squeeze_blanks blank,behind_free blank]
  | ending blank text => rw [squeeze_append,squeeze_allBlank blank,List.append_nil]
  | before marks front rest blank =>
    rw [squeeze_append,squeeze_append _ front (_ ++ _ :: rest),squeeze_blanks blank,squeeze_mark marks,
      squeeze_mark marks]
  | behind marks front rest blank =>
    rw [squeeze_append,squeeze_append,squeeze_mark marks,squeeze_mark marks,squeeze_blanks blank,behind_free blank]

theorem Relaid.squeeze {s t : List Char} (relaid : Relaid s t) : squeeze .free s = squeeze .free t := by
  induction relaid with
  | rel s t change => exact change.squeeze
  | refl s => rfl
  | symm s t _ ih => exact ih.symm
  | trans s t u _ _ first second => exact first.trans second

/-! ### Tokens of a squeezed text -/

/-- Characters of tokens: neither blanks nor marks. -/
def isSolid (c : Char) : Bool := !isBlank c && !isMark c

theorem isSolid_iff {c : Char} : isSolid c = true ↔ isBlank c = false ∧ isMark c = false := by
  simp [isSolid]

theorem isMark_iff {c : Char} : isMark c = true ↔ c ∈ ['(',')',','] := by
  simp [isMark,or_assoc]

/-- A class without blanks and marks has only characters of tokens. -/
theorem isSolid_of_member {member : Char → Bool} (visible : ∀ d ∈ [' ','\t','\r','\n'], member d = false)
    (unmarked : ∀ d ∈ ['(',')',','], member d = false) {c : Char} (inside : member c = true) : isSolid c = true := by
  refine isSolid_iff.mpr ⟨isBlank_eq_false visible inside,?_⟩
  rw [Bool.eq_false_iff]
  intro marks
  rw [unmarked c (isMark_iff.mp marks)] at inside
  cases inside

theorem squeeze_solid {c : Char} (solid : isSolid c = true) {gap : Gap} (joined : gap ≠ .apart) (cs : List Char) :
    squeeze gap (c :: cs) = c :: squeeze .inside cs := by
  obtain ⟨visible,unmarked⟩ := isSolid_iff.mp solid
  rw [squeeze_visible visible cs joined]
  simp [Gap.behind,visible,unmarked]

/-- Behind blanks that count, no character of a token comes first. -/
theorem squeeze_apart_head (cs : List Char) : ∀ d ∈ (squeeze .apart cs).head?, isSolid d = false := by
  induction cs with
  | nil => simp [squeeze]
  | cons c cs ih =>
    cases visible : isBlank c with
    | true =>
      have apart : Gap.behind .apart c = .apart := by simp [Gap.behind,visible]
      rwa [squeeze_blank visible,apart]
    | false =>
      rintro d first
      cases marks : isMark c with
      | true =>
        rw [squeeze_mark marks] at first
        cases first
        simp [isSolid,marks]
      | false =>
        simp only [squeeze,Gap.kept,visible,marks,Bool.false_eq_true,if_false,and_self,if_true,List.cons_append,
          List.head?_cons,Option.mem_some_iff] at first
        subst first
        rfl

/-- A squeezed text starts with a character of a token if and only if the text itself does. -/
theorem squeeze_eq_cons {c : Char} (solid : isSolid c = true) {cs rest : List Char} :
    squeeze .inside cs = c :: rest ↔ ∃ left, cs = c :: left ∧ rest = squeeze .inside left := by
  constructor
  · intro same
    cases cs with
    | nil => simp [squeeze] at same
    | cons d left =>
      cases inside : isSolid d with
      | true =>
        rw [squeeze_solid inside (by decide)] at same
        cases same
        exact ⟨left,rfl,rfl⟩
      | false =>
        cases visible : isBlank d with
        | true =>
          have apart : Gap.behind .inside d = .apart := by simp [Gap.behind,visible]
          rw [squeeze_blank visible,apart] at same
          have other := squeeze_apart_head left c (by rw [same]; rfl)
          rw [solid] at other
          cases other
        | false =>
          have marks : isMark d = true := by simpa [isSolid,visible] using inside
          rw [squeeze_mark marks] at same
          cases same
          rw [solid] at inside
          cases inside
  · rintro ⟨left,rfl,rfl⟩
    exact squeeze_solid solid (by decide) left

theorem squeeze_eq_append {token : List Char} (solid : ∀ c ∈ token, isSolid c = true) {cs rest : List Char} :
    squeeze .inside cs = token ++ rest ↔ ∃ left, cs = token ++ left ∧ rest = squeeze .inside left := by
  induction token generalizing cs with
  | nil => simp [eq_comm]
  | cons c token ih =>
    rw [List.cons_append,squeeze_eq_cons (solid c (by simp))]
    constructor
    · rintro ⟨left,rfl,same⟩
      obtain ⟨more,rfl,rfl⟩ := (ih fun d member => solid d (by simp [member])).mp same.symm
      exact ⟨more,rfl,rfl⟩
    · rintro ⟨left,rfl,rfl⟩
      exact ⟨token ++ left,rfl,((ih fun d member => solid d (by simp [member])).mpr ⟨left,rfl,rfl⟩).symm⟩

/-! ### Readers of a squeezed text -/

private theorem skipBlanks_kept {c : Char} (visible : isBlank c = false) (gap : Gap) (rest : List Char) :
    skipBlanks (gap.kept c ++ rest) = c :: rest := by
  have blank : AllBlank [' '] := by simp [AllBlank,isBlank]
  rw [Gap.kept,if_neg (by simp [visible])]
  split
  · exact skipBlanks_behind blank visible rest
  · exact skipBlanks_cons rest visible

theorem skipBlanks_squeeze (gap : Gap) (cs : List Char) :
    skipBlanks (squeeze gap cs) = squeeze .inside (skipBlanks cs) := by
  rcases blanks_or_visible cs with blank | ⟨blanks,c,rest,blank,visible,rfl⟩
  · rw [squeeze_allBlank blank,skipBlanks_eq_nil.mpr blank]
    rfl
  · have behind (gap : Gap) : gap.behind c = Gap.behind .inside c := by simp [Gap.behind,visible]
    have joined : squeeze .inside (c :: rest) = c :: squeeze (Gap.behind .inside c) rest :=
      squeeze_visible visible rest (by decide)
    rw [squeeze_blanks blank,skipBlanks_behind blank visible,joined,squeeze,behind]
    exact skipBlanks_kept visible _ _

theorem readMark_squeeze {mark : Char} (marks : isMark mark = true) (gap : Gap) (cs : List Char) :
    readMark mark (squeeze gap cs) = (readMark mark cs).map (squeeze .free) := by
  unfold readMark
  rw [skipBlanks_squeeze]
  cases skipped : skipBlanks cs with
  | nil => rfl
  | cons c rest =>
    rw [squeeze_visible (skipBlanks_eq_cons skipped).1 rest (by decide)]
    by_cases same : c = mark
    · subst same
      simp [Gap.behind,marks,isBlank_eq_false_of_isMark marks]
    · simp [same]

section Tokens
variable {member : Char → Bool} (solid : ∀ c, member c = true → isSolid c = true)
include solid

theorem squeeze_other {c : Char} (other : member c = false) (cs : List Char) :
    ∀ d ∈ (squeeze .inside (c :: cs)).head?, member d = false := by
  intro d first
  rw [Bool.eq_false_iff]
  intro inside
  obtain ⟨rest,same⟩ := List.head?_eq_some_iff.mp first
  obtain ⟨left,cons,-⟩ := (squeeze_eq_cons (solid d inside)).mp same
  cases cons
  rw [other] at inside
  cases inside

theorem takeWhile_squeeze (cs : List Char) : (squeeze .inside cs).takeWhile member = cs.takeWhile member := by
  induction cs with
  | nil => rfl
  | cons c cs ih =>
    cases inside : member c with
    | true => simp [squeeze_solid (solid c inside),inside,ih]
    | false =>
      have none : ([] ++ squeeze .inside (c :: cs)).takeWhile member = [] :=
        takeWhile_run (by simp) (squeeze_other solid inside cs)
      simpa [inside] using none

theorem dropWhile_squeeze (cs : List Char) :
    (squeeze .inside cs).dropWhile member = squeeze .inside (cs.dropWhile member) := by
  induction cs with
  | nil => rfl
  | cons c cs ih =>
    cases inside : member c with
    | true => simp [squeeze_solid (solid c inside),inside,ih]
    | false =>
      have all : ([] ++ squeeze .inside (c :: cs)).dropWhile member = squeeze .inside (c :: cs) :=
        dropWhile_run (by simp) (squeeze_other solid inside cs)
      simpa [inside] using all

theorem readRun_squeeze (cs : List Char) : readRun member (squeeze .inside cs) =
    (readRun member cs).map fun result => (result.1,squeeze .inside result.2) := by
  unfold readRun
  rw [takeWhile_squeeze solid,dropWhile_squeeze solid]
  cases cs.takeWhile member <;> rfl

end Tokens

/-! ### Readers that layout does not matter to -/

/-- From a squeezed text the reader takes the same as from the text itself. -/
def IgnoresLayout (gap : Gap) (reader : Reader α) : Prop :=
  ∀ cs, ∃ after, reader (squeeze gap cs) = (reader cs).map fun result => (result.1,squeeze after result.2)

namespace IgnoresLayout
variable {β : Type} {gap : Gap}

theorem done (value : α) (gap : Gap) : IgnoresLayout gap fun cs => some (value,cs) := fun _ => ⟨gap,rfl⟩

theorem bind {first : Reader α} {next : α → Reader β} (ignores : IgnoresLayout gap first)
    (then_ : ∀ value gap, IgnoresLayout gap (next value)) :
    IgnoresLayout gap fun cs => (first cs).bind fun result => next result.1 result.2 := by
  intro cs
  obtain ⟨after,same⟩ := ignores cs
  dsimp only
  rw [same]
  cases first cs with
  | none => exact ⟨gap,rfl⟩
  | some result => exact then_ result.1 after result.2

/-- Whatever stands in front of a mark, nothing but the mark counts. -/
theorem mark {mark : Char} (marks : isMark mark = true) (gap : Gap) {reader : Reader α}
    (ignores : IgnoresLayout .free reader) : IgnoresLayout gap fun cs => (readMark mark cs).bind reader := by
  intro cs
  dsimp only
  rw [readMark_squeeze marks]
  cases readMark mark cs with
  | none => exact ⟨gap,rfl⟩
  | some rest => exact ignores rest

theorem either {first second : Reader α} (one : IgnoresLayout gap first) (other : IgnoresLayout gap second) :
    IgnoresLayout gap (readEither first second) := by
  intro cs
  obtain ⟨after,same⟩ := one cs
  unfold readEither
  rw [same]
  cases first cs with
  | none => exact other cs
  | some result => exact ⟨after,rfl⟩

theorem many {part : Reader α} (shortens : Shortens part) (ignores : ∀ gap, IgnoresLayout gap part) (gap : Gap)
    (cs : List Char) : ∃ after,
      readMany part (squeeze gap cs) = ((readMany part cs).1,squeeze after (readMany part cs).2) := by
  fun_induction readMany part cs generalizing gap with
  | case1 cs refused =>
    obtain ⟨after,same⟩ := ignores gap cs
    rw [refused] at same
    exact ⟨gap,readMany_none same⟩
  | case2 cs value rest ok shorter values last more ih =>
    obtain ⟨after,same⟩ := ignores gap cs
    rw [ok,Option.map_some] at same
    obtain ⟨final,others⟩ := ih after
    refine ⟨final,?_⟩
    rw [more] at others
    rw [readMany_some same (shortens _ _ _ same),others]
  | case3 cs value rest ok longer => exact absurd (shortens _ _ _ ok) longer

end IgnoresLayout

end SpatialFilter
