import SpatialFilter.Number.Numeral
import SpatialFilter.Proofs.Text.Reader

/-! Tokens of numbers, spelled part by part. Reading finds exactly the spelled tokens: the parts of
a token are read back in front of anything that cannot continue it, and what is read was spelled. -/
namespace SpatialFilter

structure AllDigits (cs : List Char) : Prop where
  nonempty : cs ≠ []
  digits : ∀ c ∈ cs, c.isDigit = true

namespace Numeral

/-- A text that cannot continue a token in front of it. -/
def Boundary (rest : List Char) : Prop :=
  ∀ c ∈ rest.head?, c.isDigit = false ∧ c ≠ '.' ∧ c ≠ 'e' ∧ c ≠ 'E'

/-- The parts of a token that are there have digits. -/
structure WellFormed (n : Numeral) : Prop where
  whole : AllDigits n.whole
  fraction : ∀ digits ∈ n.fraction, AllDigits digits
  exponent : ∀ part ∈ n.exponent, AllDigits part.2

def exponentSpelling (letter : Char) : Option (ExponentSign × List Char) → List Char
  | none => []
  | some (sign,digits) => letter :: (ExponentSign.text sign ++ digits)

/-- The parts of a token in order, with this letter in front of the exponent. -/
def spelling (letter : Char) (n : Numeral) : List Char :=
  (if n.negative then ['-'] else []) ++
    (n.whole ++ (fractionText n.fraction ++ exponentSpelling letter n.exponent))

/-- A token has two spellings if it has an exponent: the letter may stand in either case. -/
def Spells (n : Numeral) (text : List Char) : Prop :=
  n.WellFormed ∧ ∃ letter, (letter = 'e' ∨ letter = 'E') ∧ text = n.spelling letter

theorem text_eq_spelling (n : Numeral) : n.text = n.spelling 'e' := by
  unfold text spelling
  cases n.exponent <;> simp [exponentText,exponentSpelling]

/-! ### Spelled parts are read back -/

private theorem readRun_digits {digits rest : List Char} (all : AllDigits digits)
    (boundary : ∀ c ∈ rest.head?, c.isDigit = false) :
    readRun Char.isDigit (digits ++ rest) = some (digits,rest) :=
  readRun_eq_some.mpr ⟨rfl,all.nonempty,all.digits,boundary⟩

private theorem digits_head {digits : List Char} (all : AllDigits digits) :
    ∃ c tail, digits = c :: tail ∧ c.isDigit = true := by
  cases digits with
  | nil => exact absurd rfl all.nonempty
  | cons c tail => exact ⟨c,tail,rfl,all.digits c (by simp)⟩

theorem readSign_spelling (negative : Bool) {digits : List Char} (all : AllDigits digits)
    (rest : List Char) :
    readSign ((if negative then ['-'] else []) ++ (digits ++ rest)) = (negative,digits ++ rest) := by
  obtain ⟨c,tail,rfl,digit⟩ := digits_head all
  have unsigned : c ≠ '-' := by
    rintro rfl
    exact absurd digit (by decide)
  cases negative
  · simp [readSign,unsigned]
  · rfl

theorem readExponentSign_spelling (sign : ExponentSign) {digits : List Char}
    (all : AllDigits digits) (rest : List Char) :
    readExponentSign (ExponentSign.text sign ++ digits ++ rest) = (sign,digits ++ rest) := by
  obtain ⟨c,tail,rfl,digit⟩ := digits_head all
  have unsigned : c ≠ '+' ∧ c ≠ '-' := by
    constructor <;> rintro rfl <;> exact absurd digit (by decide)
  cases sign with
  | unmarked => simp [ExponentSign.text,readExponentSign,unsigned]
  | plus | minus => rfl

private theorem readFraction_spelling {fraction : Option (List Char)}
    (all : ∀ digits ∈ fraction, AllDigits digits) {rest : List Char}
    (boundary : ∀ c ∈ rest.head?, c.isDigit = false ∧ c ≠ '.') :
    readFraction (fractionText fraction ++ rest) = (fraction,rest) := by
  cases fraction with
  | some digits =>
    have read := readRun_digits (all digits rfl) fun c first => (boundary c first).1
    simp [fractionText,readFraction,read]
  | none =>
    cases rest with
    | nil => rfl
    | cons c rest => simp [fractionText,readFraction,(boundary c rfl).2]

private theorem readExponent_spelling {letter : Char} (isLetter : letter = 'e' ∨ letter = 'E')
    {exponent : Option (ExponentSign × List Char)} (all : ∀ part ∈ exponent, AllDigits part.2)
    {rest : List Char} (boundary : Boundary rest) :
    readExponent (exponentSpelling letter exponent ++ rest) = (exponent,rest) := by
  cases exponent with
  | some part =>
    obtain ⟨sign,digits⟩ := part
    have digitsRead := readRun_digits (all (sign,digits) rfl) fun c first => (boundary c first).1
    have signRead := readExponentSign_spelling sign (all (sign,digits) rfl) rest
    simp only [List.append_assoc] at signRead
    simp [exponentSpelling,readExponent,isLetter,signRead,digitsRead]
  | none =>
    cases rest with
    | nil => rfl
    | cons c rest => simp [exponentSpelling,readExponent,(boundary c rfl).2.2]

private theorem exponentSpelling_head {letter : Char} (isLetter : letter = 'e' ∨ letter = 'E')
    (exponent : Option (ExponentSign × List Char)) {rest : List Char} (boundary : Boundary rest) :
    ∀ c ∈ (exponentSpelling letter exponent ++ rest).head?, c.isDigit = false ∧ c ≠ '.' := by
  intro c first
  cases exponent with
  | none => exact ⟨(boundary c first).1,(boundary c first).2.1⟩
  | some part =>
    cases first
    rcases isLetter with rfl | rfl <;> decide

private theorem fractionText_head {letter : Char} (isLetter : letter = 'e' ∨ letter = 'E')
    (n : Numeral) {rest : List Char} (boundary : Boundary rest) :
    ∀ c ∈ (fractionText n.fraction ++ (exponentSpelling letter n.exponent ++ rest)).head?,
      c.isDigit = false := by
  intro c first
  cases point : n.fraction with
  | none =>
    rw [point] at first
    exact (exponentSpelling_head isLetter _ boundary c first).1
  | some digits =>
    rw [point] at first
    cases first
    rfl

theorem read_spelling {letter : Char} (isLetter : letter = 'e' ∨ letter = 'E') {n : Numeral}
    (wellFormed : n.WellFormed) {rest : List Char} (boundary : Boundary rest) :
    read (n.spelling letter ++ rest) = some (n,rest) := by
  have signRead := readSign_spelling n.negative wellFormed.whole
    (fractionText n.fraction ++ (exponentSpelling letter n.exponent ++ rest))
  have wholeRead := readRun_digits wellFormed.whole (fractionText_head isLetter n boundary)
  have fractionRead := readFraction_spelling wellFormed.fraction
    (exponentSpelling_head isLetter n.exponent boundary)
  have exponentRead := readExponent_spelling isLetter wellFormed.exponent boundary
  unfold spelling read
  simp only [List.append_assoc] at signRead ⊢
  rw [signRead]
  simp only [wholeRead,fractionRead,exponentRead]

theorem Spells.read {n : Numeral} {text : List Char} (spells : n.Spells text) {rest : List Char}
    (boundary : Boundary rest) : Numeral.read (text ++ rest) = some (n,rest) := by
  obtain ⟨wellFormed,letter,isLetter,rfl⟩ := spells
  exact read_spelling isLetter wellFormed boundary

/-! ### What is read was spelled -/

private theorem readSign_split {cs rest : List Char} {negative : Bool}
    (read : readSign cs = (negative,rest)) : cs = (if negative then ['-'] else []) ++ rest := by
  unfold readSign at read
  split at read <;> cases read <;> rfl

private theorem readExponentSign_split {cs rest : List Char} {sign : ExponentSign}
    (read : readExponentSign cs = (sign,rest)) : cs = ExponentSign.text sign ++ rest := by
  unfold readExponentSign at read
  split at read <;> cases read <;> rfl

theorem readFraction_split {cs rest : List Char} {fraction : Option (List Char)}
    (read : readFraction cs = (fraction,rest)) :
    cs = fractionText fraction ++ rest ∧ ∀ digits ∈ fraction, AllDigits digits := by
  unfold readFraction at read
  split at read
  · split at read
    · rename_i digits left ok
      cases read
      obtain ⟨rfl,nonempty,inside,-⟩ := readRun_eq_some.mp ok
      exact ⟨rfl,fun found same => by cases same; exact ⟨nonempty,inside⟩⟩
    · cases read
      exact ⟨rfl,by simp⟩
  · cases read
    exact ⟨rfl,by simp⟩

theorem readExponent_split {cs rest : List Char} {exponent : Option (ExponentSign × List Char)}
    (read : readExponent cs = (exponent,rest)) :
    (∃ letter, (letter = 'e' ∨ letter = 'E') ∧ cs = exponentSpelling letter exponent ++ rest) ∧
      ∀ part ∈ exponent, AllDigits part.2 := by
  unfold readExponent at read
  split at read
  · rename_i c tail
    split at read
    · rename_i isLetter
      cases signed : readExponentSign tail with
      | mk sign digitsOn =>
        rw [signed] at read
        dsimp only at read
        split at read
        · rename_i digits left ok
          cases read
          obtain ⟨rfl,nonempty,inside,-⟩ := readRun_eq_some.mp ok
          refine ⟨⟨c,by simpa using isLetter,?_⟩,fun part same => by cases same; exact ⟨nonempty,inside⟩⟩
          simp [exponentSpelling,readExponentSign_split signed]
        · cases read
          exact ⟨⟨'e',.inl rfl,rfl⟩,by simp⟩
    · cases read
      exact ⟨⟨'e',.inl rfl,rfl⟩,by simp⟩
  · cases read
    exact ⟨⟨'e',.inl rfl,rfl⟩,by simp⟩

theorem spells_of_read {cs rest : List Char} {n : Numeral} (ok : read cs = some (n,rest)) :
    ∃ text, cs = text ++ rest ∧ n.Spells text := by
  unfold read at ok
  cases signed : readSign cs with
  | mk negative unsigned =>
    rw [signed] at ok
    dsimp only at ok
    split at ok
    · cases ok
    · rename_i whole afterWhole wholeRead
      cases pointed : readFraction afterWhole with
      | mk fraction afterFraction =>
        cases powered : readExponent afterFraction with
        | mk exponent left =>
          simp only [pointed,powered,Option.some.injEq,Prod.mk.injEq] at ok
          obtain ⟨rfl,rfl⟩ := ok
          obtain ⟨split,nonempty,inside,-⟩ := readRun_eq_some.mp wholeRead
          obtain ⟨fractionSplit,fractionDigits⟩ := readFraction_split pointed
          obtain ⟨⟨letter,isLetter,exponentSplit⟩,exponentDigits⟩ := readExponent_split powered
          refine ⟨_,?_,⟨⟨nonempty,inside⟩,fractionDigits,exponentDigits⟩,letter,isLetter,rfl⟩
          rw [readSign_split signed,split,fractionSplit,exponentSplit]
          simp [spelling]

/-! ### Characters of tokens -/

def isNumeric (c : Char) : Bool :=
  c.isDigit || c = '-' || c = '+' || c = '.' || c = 'e' || c = 'E'

private theorem numeric_of_digits {digits : List Char} (all : AllDigits digits) :
    ∀ c ∈ digits, isNumeric c = true :=
  fun c member => by simp [isNumeric,all.digits c member]

private theorem fractionText_numeric {fraction : Option (List Char)}
    (digits : ∀ part ∈ fraction, AllDigits part) : ∀ c ∈ fractionText fraction, isNumeric c = true := by
  cases fraction with
  | none => simp [fractionText]
  | some part =>
    intro c member
    rcases List.mem_cons.mp member with rfl | inside
    · rfl
    · exact numeric_of_digits (digits part rfl) c inside

private theorem exponentSpelling_numeric {letter : Char} (isLetter : letter = 'e' ∨ letter = 'E')
    {exponent : Option (ExponentSign × List Char)} (digits : ∀ part ∈ exponent, AllDigits part.2) :
    ∀ c ∈ exponentSpelling letter exponent, isNumeric c = true := by
  cases exponent with
  | none => simp [exponentSpelling]
  | some part =>
    obtain ⟨sign,power⟩ := part
    intro c member
    rcases List.mem_cons.mp member with rfl | inside
    · rcases isLetter with rfl | rfl <;> rfl
    · rcases List.mem_append.mp inside with signed | inside
      · cases sign <;> simp only [ExponentSign.text,List.mem_singleton,List.not_mem_nil] at signed
        all_goals
          subst signed
          rfl
      · exact numeric_of_digits (digits _ rfl) c inside

theorem Spells.numeric {n : Numeral} {text : List Char} (spells : n.Spells text) :
    ∀ c ∈ text, isNumeric c = true := by
  obtain ⟨wellFormed,letter,isLetter,rfl⟩ := spells
  intro c member
  simp only [spelling,List.mem_append] at member
  rcases member with sign | whole | fraction | exponent
  · cases negative : n.negative
    · simp [negative] at sign
    · simp only [negative,if_true,List.mem_singleton] at sign
      subst sign
      rfl
  · exact numeric_of_digits wellFormed.whole c whole
  · exact fractionText_numeric wellFormed.fraction c fraction
  · exact exponentSpelling_numeric isLetter wellFormed.exponent c exponent

theorem Spells.head {n : Numeral} {text : List Char} (spells : n.Spells text) :
    ∃ c tail, text = c :: tail ∧ (c = '-' ∨ c.isDigit = true) := by
  obtain ⟨wellFormed,letter,-,rfl⟩ := spells
  obtain ⟨c,tail,split,digit⟩ := digits_head wellFormed.whole
  unfold spelling
  rw [split]
  cases n.negative
  · exact ⟨c,_,rfl,.inr digit⟩
  · exact ⟨'-',_,rfl,.inl rfl⟩

theorem isBlank_eq_false_of_isNumeric {c : Char} (numeric : isNumeric c = true) : isBlank c = false :=
  isBlank_eq_false (by simp [isNumeric]) numeric

theorem Spells.skipBlanks_text {n : Numeral} {text blanks : List Char} (spells : n.Spells text)
    (blank : AllBlank blanks) (rest : List Char) : skipBlanks (blanks ++ text ++ rest) = text ++ rest := by
  obtain ⟨c,tail,rfl,-⟩ := spells.head
  have visible := isBlank_eq_false_of_isNumeric (spells.numeric c (by simp))
  rw [List.append_assoc,List.cons_append,skipBlanks_behind blank visible]

private theorem not_digit_of_foreign {stop : Char} (foreign : isNumeric stop = false) :
    stop.isDigit = false := by
  simp only [isNumeric,Bool.or_eq_false_iff] at foreign
  exact foreign.1.1.1.1.1

private theorem readSign_stops {stop : Char} (foreign : isNumeric stop = false) (front rest : List Char) :
    readSign (front ++ stop :: rest) = ((readSign front).1,(readSign front).2 ++ stop :: rest) := by
  have unsigned : stop ≠ '-' := by
    rintro rfl
    exact absurd foreign (by decide)
  cases front with
  | nil => simp [readSign,unsigned]
  | cons c front => by_cases same : c = '-' <;> simp [readSign,same]

private theorem readFraction_stops {stop : Char} (foreign : isNumeric stop = false) (front rest : List Char) :
    readFraction (front ++ stop :: rest) =
      ((readFraction front).1,(readFraction front).2 ++ stop :: rest) := by
  have digitless := not_digit_of_foreign foreign
  have pointless : stop ≠ '.' := by
    rintro rfl
    exact absurd foreign (by decide)
  cases front with
  | nil => simp [readFraction,pointless]
  | cons c front =>
    by_cases same : c = '.'
    · subst same
      simp only [readFraction,List.cons_append,readRun_stops digitless front rest]
      cases readRun Char.isDigit front <;> rfl
    · simp [readFraction,same]

private theorem readExponentSign_stops {stop : Char} (foreign : isNumeric stop = false)
    (front rest : List Char) : readExponentSign (front ++ stop :: rest) =
      ((readExponentSign front).1,(readExponentSign front).2 ++ stop :: rest) := by
  have unsigned : stop ≠ '+' ∧ stop ≠ '-' := by
    constructor <;> rintro rfl <;> exact absurd foreign (by decide)
  cases front with
  | nil => simp [readExponentSign,unsigned]
  | cons c front =>
    by_cases plus : c = '+'
    · simp [readExponentSign,plus]
    · by_cases minus : c = '-' <;> simp [readExponentSign,plus,minus]

private theorem readExponent_stops {stop : Char} (foreign : isNumeric stop = false) (front rest : List Char) :
    readExponent (front ++ stop :: rest) =
      ((readExponent front).1,(readExponent front).2 ++ stop :: rest) := by
  have digitless := not_digit_of_foreign foreign
  have powerless : stop ≠ 'e' ∧ stop ≠ 'E' := by
    constructor <;> rintro rfl <;> exact absurd foreign (by decide)
  cases front with
  | nil => simp [readExponent,powerless]
  | cons c front =>
    by_cases isLetter : c = 'e' ∨ c = 'E'
    · simp only [readExponent,List.cons_append,isLetter,readExponentSign_stops foreign,
        readRun_stops digitless (readExponentSign front).2 rest,Bool.or_eq_true,
        decide_eq_true_eq,if_true]
      cases readRun Char.isDigit (readExponentSign front).2 <;> rfl
    · simp [readExponent,isLetter]

theorem read_stops {stop : Char} (foreign : isNumeric stop = false) : StopsAt stop read := by
  have digitless := not_digit_of_foreign foreign
  intro front rest
  unfold read
  simp only [readSign_stops foreign,readRun_stops digitless (readSign front).2 rest]
  cases readRun Char.isDigit (readSign front).2 with
  | none => rfl
  | some found => simp [readFraction_stops foreign,readExponent_stops foreign]

end Numeral
end SpatialFilter
