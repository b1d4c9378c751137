import SpatialFilter.Text.Reader
import Mathlib.Data.List.DropRight
import Mathlib.Data.List.TakeWhile

/-! What readers take from the front of a text: runs of a class, marks behind blanks, and sequences
of parts. A reader that stops at a character reads what stands in front of that character as it
would read it at the end of a text. -/
namespace SpatialFilter
variable {α : Type}

theorem isBlank_iff {c : Char} : isBlank c = true ↔ c ∈ [' ','\t','\r','\n'] := by
  simp [isBlank,or_assoc]

/-- A class without the four blanks has no other blank in it. -/
theorem isBlank_eq_false {member : Char → Bool} (visible : ∀ d ∈ [' ','\t','\r','\n'], member d = false)
    {c : Char} (inside : member c = true) : isBlank c = false := by
  rw [Bool.eq_false_iff]
  intro blank
  rw [visible c (isBlank_iff.mp blank)] at inside
  cases inside

theorem sameLetters_iff {s t : List Char} : sameLetters s t = true ↔ upper s = upper t := by
  simp [sameLetters]

def AllBlank (cs : List Char) : Prop := ∀ c ∈ cs, isBlank c = true

theorem allBlank_nil : AllBlank [] := by
  simp [AllBlank]

theorem allBlank_append {left right : List Char} :
    AllBlank (left ++ right) ↔ AllBlank left ∧ AllBlank right := by
  simp [AllBlank,or_imp,forall_and]

theorem skipBlanks_append {blanks : List Char} (blank : AllBlank blanks) (cs : List Char) :
    skipBlanks (blanks ++ cs) = skipBlanks cs :=
  List.dropWhile_append_of_pos blank

theorem skipBlanks_cons {c : Char} (cs : List Char) (visible : isBlank c = false) :
    skipBlanks (c :: cs) = c :: cs :=
  List.dropWhile_cons_of_neg (by simp [visible])

theorem skipBlanks_behind {blanks : List Char} (blank : AllBlank blanks) {c : Char}
    (visible : isBlank c = false) (cs : List Char) : skipBlanks (blanks ++ c :: cs) = c :: cs := by
  rw [skipBlanks_append blank,skipBlanks_cons cs visible]

theorem skipBlanks_eq_nil {cs : List Char} : skipBlanks cs = [] ↔ AllBlank cs :=
  List.dropWhile_eq_nil_iff

theorem skipBlanks_eq_cons {cs rest : List Char} {c : Char} (skipped : skipBlanks cs = c :: rest) :
    isBlank c = false ∧ ∃ blanks, AllBlank blanks ∧ cs = blanks ++ c :: rest := by
  constructor
  · have first := List.dropWhile_get_zero_not (p := isBlank) cs (by
      rw [show cs.dropWhile isBlank = c :: rest from skipped]; simp)
    simpa [show cs.dropWhile isBlank = c :: rest from skipped] using first
  · refine ⟨cs.takeWhile isBlank,fun d member => List.mem_takeWhile_imp member,?_⟩
    rw [← skipped]
    exact List.takeWhile_append_dropWhile.symm

theorem skipBlanks_split (cs : List Char) : ∃ blanks, AllBlank blanks ∧ cs = blanks ++ skipBlanks cs :=
  ⟨cs.takeWhile isBlank,fun _ member => List.mem_takeWhile_imp member,List.takeWhile_append_dropWhile.symm⟩

theorem skipBlanks_twice (cs : List Char) : skipBlanks (skipBlanks cs) = skipBlanks cs :=
  List.dropWhile_idempotent isBlank cs

/-- Every text is blanks, and then nothing or something visible. -/
theorem blanks_or_visible (cs : List Char) :
    AllBlank cs ∨ ∃ blanks c rest, AllBlank blanks ∧ isBlank c = false ∧ cs = blanks ++ c :: rest := by
  cases skipped : skipBlanks cs with
  | nil => exact .inl (skipBlanks_eq_nil.mp skipped)
  | cons c rest =>
    obtain ⟨visible,blanks,blank,equal⟩ := skipBlanks_eq_cons skipped
    exact .inr ⟨blanks,c,rest,blank,visible,equal⟩

/-! ### Runs -/

theorem takeWhile_stop {member : Char → Bool} {stop : Char} (outside : member stop = false)
    (front rest : List Char) : (front ++ stop :: rest).takeWhile member = front.takeWhile member := by
  induction front with
  | nil => simp [outside]
  | cons c front ih => simp [List.takeWhile_cons,ih]

theorem dropWhile_stop {member : Char → Bool} {stop : Char} (outside : member stop = false)
    (front rest : List Char) :
    (front ++ stop :: rest).dropWhile member = front.dropWhile member ++ stop :: rest := by
  induction front with
  | nil => simp [outside]
  | cons c front ih =>
    cases inside : member c
    · simp [inside]
    · simp [inside,ih]

/-- A run ends where a character outside of its class stands. -/
theorem takeWhile_run {member : Char → Bool} {run rest : List Char} (inside : ∀ c ∈ run, member c = true)
    (boundary : ∀ c ∈ rest.head?, member c = false) : (run ++ rest).takeWhile member = run := by
  rw [List.takeWhile_append_of_pos inside]
  cases rest with
  | nil => simp
  | cons c rest => simp [boundary c rfl]

theorem dropWhile_run {member : Char → Bool} {run rest : List Char} (inside : ∀ c ∈ run, member c = true)
    (boundary : ∀ c ∈ rest.head?, member c = false) : (run ++ rest).dropWhile member = rest := by
  rw [List.dropWhile_append_of_pos inside]
  cases rest with
  | nil => rfl
  | cons c rest => simp [boundary c rfl]

theorem readRun_eq_some {member : Char → Bool} {cs run rest : List Char} :
    readRun member cs = some (run,rest) ↔
      cs = run ++ rest ∧ run ≠ [] ∧ (∀ c ∈ run, member c = true) ∧ ∀ c ∈ rest.head?, member c = false := by
  constructor
  · intro ok
    unfold readRun at ok
    split at ok
    · cases ok
    · rename_i nonempty
      cases ok
      refine ⟨List.takeWhile_append_dropWhile.symm,nonempty,fun c inside => List.mem_takeWhile_imp inside,?_⟩
      intro c first
      cases dropped : cs.dropWhile member with
      | nil => simp [dropped] at first
      | cons d tail =>
        have outside := List.dropWhile_get_zero_not (p := member) cs (by simp [dropped])
        simp only [dropped,List.head?_cons,Option.mem_some_iff] at first
        subst first
        simpa [dropped] using outside
  · rintro ⟨rfl,nonempty,inside,outside⟩
    unfold readRun
    rw [takeWhile_run inside outside,dropWhile_run inside outside]
    cases run with
    | nil => exact absurd rfl nonempty
    | cons c run => rfl

/-! ### Marks -/

theorem readMark_behind {mark : Char} (visible : isBlank mark = false) {blanks : List Char}
    (blank : AllBlank blanks) (rest : List Char) : readMark mark (blanks ++ mark :: rest) = some rest := by
  simp [readMark,skipBlanks_behind blank visible]

theorem readMark_other {mark c : Char} (differ : c ≠ mark) (visible : isBlank c = false)
    {blanks : List Char} (blank : AllBlank blanks) (rest : List Char) :
    readMark mark (blanks ++ c :: rest) = none := by
  simp [readMark,skipBlanks_behind blank visible,differ]

theorem readMark_cons_other {mark c : Char} (differ : c ≠ mark) (visible : isBlank c = false)
    (rest : List Char) : readMark mark (c :: rest) = none := by
  simp [readMark,skipBlanks_cons rest visible,differ]

theorem readMark_eq_some {mark : Char} {cs rest : List Char} (ok : readMark mark cs = some rest) :
    ∃ blanks, AllBlank blanks ∧ cs = blanks ++ mark :: rest := by
  unfold readMark at ok
  split at ok
  · cases ok
  · rename_i c tail skipped
    split at ok
    · rename_i same
      cases ok
      subst same
      exact (skipBlanks_eq_cons skipped).2
    · cases ok

theorem length_of_readMark {mark : Char} {cs rest : List Char} (ok : readMark mark cs = some rest) :
    rest.length < cs.length := by
  obtain ⟨blanks,-,rfl⟩ := readMark_eq_some ok
  simp
  omega

/-! ### Sequences of parts -/

theorem readMany_none {part : Reader α} {cs : List Char} (refused : part cs = none) :
    readMany part cs = ([],cs) := by
  rw [readMany,refused]

theorem readMany_some {part : Reader α} {cs rest : List Char} {value : α}
    (ok : part cs = some (value,rest)) (shorter : rest.length < cs.length) :
    readMany part cs = (value :: (readMany part rest).1,(readMany part rest).2) := by
  rw [readMany,ok]
  simp [shorter]

theorem of_readMany_nil {part : Reader α} {cs last : List Char} (many : readMany part cs = ([],last)) : last = cs := by
  unfold readMany at many
  split at many
  · cases many
    rfl
  · split at many <;> cases many
    rfl

theorem of_readMany_cons {part : Reader α} {cs last : List Char} {value : α} {values : List α}
    (many : readMany part cs = (value :: values,last)) :
    ∃ rest, part cs = some (value,rest) ∧ readMany part rest = (values,last) := by
  unfold readMany at many
  split at many
  · cases many
  · rename_i first rest ok
    split at many
    · cases many
      exact ⟨rest,ok,rfl⟩
    · cases many

theorem length_of_readMany (part : Reader α) (cs : List Char) : (readMany part cs).2.length ≤ cs.length := by
  fun_induction readMany part cs with
  | case1 cs refused => exact Nat.le_refl _
  | case2 cs value rest read shorter values last more ih =>
    rw [more] at ih
    exact Nat.le_trans ih (Nat.le_of_lt shorter)
  | case3 cs value rest read longer => exact Nat.le_refl _

/-- A part that is read is not empty. -/
def Shortens (part : Reader α) : Prop := ∀ cs value rest, part cs = some (value,rest) → rest.length < cs.length

theorem readMany_refused {part : Reader α} (shortens : Shortens part) (cs : List Char) :
    part (readMany part cs).2 = none := by
  fun_induction readMany part cs with
  | case1 cs refused => exact refused
  | case2 cs value rest read shorter values last more ih => rwa [more] at ih
  | case3 cs value rest read longer => exact absurd (shortens _ _ _ read) longer

/-! ### Where readers stop -/

/-- What stands behind the first `stop` of a text has no influence on a reader that stops there. -/
def StopsAt (stop : Char) (reader : Reader α) : Prop :=
  ∀ front rest, reader (front ++ stop :: rest) =
    (reader front).map fun result => (result.1,result.2 ++ stop :: rest)

theorem readRun_stops {member : Char → Bool} {stop : Char} (outside : member stop = false) :
    StopsAt stop (readRun member) := by
  intro front rest
  unfold readRun
  rw [takeWhile_stop outside,dropWhile_stop outside]
  cases front.takeWhile member <;> rfl

theorem skipBlanks_stops {stop : Char} (visible : isBlank stop = false) (front rest : List Char) :
    skipBlanks (front ++ stop :: rest) = skipBlanks front ++ stop :: rest :=
  dropWhile_stop visible front rest

theorem readMark_stops {mark stop : Char} (differ : stop ≠ mark) (visible : isBlank stop = false)
    (front rest : List Char) :
    readMark mark (front ++ stop :: rest) = (readMark mark front).map (· ++ stop :: rest) := by
  unfold readMark
  rw [skipBlanks_stops visible]
  cases skipBlanks front with
  | nil => simp [differ]
  | cons c tail => by_cases same : c = mark <;> simp [same]

theorem readMany_stops {stop : Char} {part : Reader α} (stops : StopsAt stop part)
    (front rest : List Char) :
    readMany part (front ++ stop :: rest) =
      ((readMany part front).1,(readMany part front).2 ++ stop :: rest) := by
  fun_induction readMany part front with
  | case1 front refused => rw [readMany_none (by rw [stops,refused]; rfl)]
  | case2 front value left ok shorter values last more ih =>
    rw [more] at ih
    rw [readMany_some (by rw [stops,ok]; rfl) (by simpa using shorter),ih]
  | case3 front value left ok longer =>
    rw [readMany,stops,ok]
    simp [longer]

/-! ### What readers consume -/

/-- Every character that is read belongs to a class. -/
def Consumes (member : Char → Bool) (reader : Reader α) : Prop :=
  ∀ cs value rest, reader cs = some (value,rest) → ∃ used, cs = used ++ rest ∧ ∀ c ∈ used, member c = true

theorem readMany_consumes {member : Char → Bool} {part : Reader α} (consumes : Consumes member part)
    (cs : List Char) : ∃ used, cs = used ++ (readMany part cs).2 ∧ ∀ c ∈ used, member c = true := by
  fun_induction readMany part cs with
  | case1 cs refused => exact ⟨[],rfl,by simp⟩
  | case2 cs value rest ok shorter values last more ih =>
    obtain ⟨first,split,inside⟩ := consumes _ _ _ ok
    obtain ⟨others,rejoined,within⟩ := ih
    rw [more] at rejoined
    refine ⟨first ++ others,by rw [split,rejoined]; simp,?_⟩
    intro c present
    exact (List.mem_append.mp present).elim (inside c) (within c)
  | case3 cs value rest ok longer => exact ⟨[],rfl,by simp⟩

end SpatialFilter
