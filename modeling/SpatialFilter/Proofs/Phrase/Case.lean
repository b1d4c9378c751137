import SpatialFilter.Proofs.Phrase.Predicate
import SpatialFilter.Proofs.Text.Case

/-! Predicates and geometries in upper case. A phrase is read from a text in upper case as it is read from the
text itself, with the letters of its words and names raised; nothing but the names of properties shows them. -/
namespace SpatialFilter

namespace GeometryPhrase

def raised : GeometryPhrase → GeometryPhrase
  | tagged tag => tagged (upper tag)
  | phrase => phrase

end GeometryPhrase

def Item.raised : Item → Item
  | geometry phrase => geometry phrase.raised
  | property name => property (upper name)

def PredicatePhrase.raised (phrase : PredicatePhrase) : PredicatePhrase :=
  ⟨upper phrase.operator,phrase.items.map Item.raised,phrase.distance⟩

/-! ### Numbers -/

namespace Numeral

theorem isDigit_caseless : Caseless Char.isDigit := .of_letters false fun c letter => by
  rw [Bool.eq_false_iff]
  intro digit
  rw [Phrase.isAlpha_eq_false_of_isDigit digit] at letter
  cases letter

/-- Digits have no case. -/
theorem readDigits_upper : IgnoresCase id (readRun Char.isDigit) := by
  intro cs
  rw [readRun_upper isDigit_caseless]
  cases read : readRun Char.isDigit cs with
  | none => rfl
  | some found =>
    have digits := (readRun_eq_some.mp read).2.2.1
    have same : upper found.1 = found.1 := map_eq_self fun c member =>
      toUpper_of_not_isAlpha (Phrase.isAlpha_eq_false_of_isDigit (digits c member))
    simp [same]

theorem readSign_upper (cs : List Char) : readSign (upper cs) = ((readSign cs).1,upper (readSign cs).2) := by
  cases cs with
  | nil => rfl
  | cons c rest =>
    have minus : c.toUpper = '-' ↔ c = '-' := toUpper_eq_iff rfl
    by_cases same : c = '-'
    · subst same
      rfl
    · simp [readSign,upper,minus,same]

theorem readFraction_upper (cs : List Char) :
    readFraction (upper cs) = ((readFraction cs).1,upper (readFraction cs).2) := by
  cases cs with
  | nil => rfl
  | cons c rest =>
    have point : c.toUpper = '.' ↔ c = '.' := toUpper_eq_iff rfl
    by_cases same : c = '.'
    · subst same
      have digits := readDigits_upper rest
      rw [upper] at digits
      simp only [readFraction,upper,List.map_cons,point.mpr rfl,digits]
      cases readRun Char.isDigit rest <;> rfl
    · simp [readFraction,upper,point,same]

theorem toUpper_exponent {c : Char} : c.toUpper = 'e' ∨ c.toUpper = 'E' ↔ c = 'e' ∨ c = 'E' := by
  constructor
  · intro raised
    cases lower : c.isLower with
    | false => rwa [Char.toUpper_eq_of_not_isLower (by simp [lower])] at raised
    | true =>
      have bounds : 97 ≤ c.toNat ∧ c.toNat ≤ 122 := by
        simpa [Char.isLower,UInt32.le_iff_toNat_le] using lower
      have code := Char.toUpper_eq_of_isLower lower
      have valid : (c.toNat - 32).isValidChar := .inl (by omega)
      have value : c.toUpper.toNat = c.toNat - 32 := by rw [code,Char.toNat_ofNat,if_pos valid]
      left
      apply Char.toNat_inj.mp
      rcases raised with raised | raised <;> rw [raised] at value
      · change 101 = _ at value
        omega
      · change 69 = _ at value
        change c.toNat = 101
        omega
  · rintro (rfl | rfl) <;> decide

theorem readExponentSign_upper (cs : List Char) :
    readExponentSign (upper cs) = ((readExponentSign cs).1,upper (readExponentSign cs).2) := by
  cases cs with
  | nil => rfl
  | cons c rest =>
    have plus : c.toUpper = '+' ↔ c = '+' := toUpper_eq_iff rfl
    have minus : c.toUpper = '-' ↔ c = '-' := toUpper_eq_iff rfl
    by_cases positive : c = '+'
    · subst positive
      rfl
    · by_cases negative : c = '-'
      · subst negative
        rfl
      · simp [readExponentSign,upper,plus,minus,positive,negative]

theorem readExponent_upper (cs : List Char) :
    readExponent (upper cs) = ((readExponent cs).1,upper (readExponent cs).2) := by
  cases cs with
  | nil => rfl
  | cons c rest =>
    by_cases letter : c = 'e' ∨ c = 'E'
    · have sign := readExponentSign_upper rest
      have digits := readDigits_upper (readExponentSign rest).2
      rw [upper] at sign
      simp only [readExponent,upper,List.map_cons,Bool.or_eq_true,decide_eq_true_eq,toUpper_exponent,letter,if_true]
      rw [sign]
      dsimp only
      rw [digits]
      cases readRun Char.isDigit (readExponentSign rest).2 <;> rfl
    · simp [readExponent,upper,toUpper_exponent,letter]

theorem read_upper : IgnoresCase id read := by
  intro cs
  unfold read
  rw [readSign_upper]
  dsimp only
  rw [readDigits_upper]
  cases readRun Char.isDigit (readSign cs).2 with
  | none => rfl
  | some found => simp [readFraction_upper,readExponent_upper]

end Numeral

namespace Phrase
open IgnoresCase

/-! ### Positions -/

theorem readNumber_upper : IgnoresCase id readNumber := by
  intro cs
  unfold readNumber
  rw [skipBlanks_upper]
  exact Numeral.read_upper _

theorem readPosition_upper : IgnoresCase id readPosition := by
  intro cs
  have numbers := many readNumber_upper cs
  unfold readPosition
  rw [numbers,List.map_id]
  match readMany readNumber cs with
  | ([],rest) => rfl
  | ([first],rest) => rfl
  | (first :: second :: more,rest) => rfl

theorem readNextPosition_upper : IgnoresCase id readNextPosition := mark rfl readPosition_upper

theorem pointBody_upper : IgnoresCase GeometryPhrase.raised pointBody := by
  intro cs
  unfold pointBody
  rw [readPosition_upper]
  cases readPosition cs <;> rfl

theorem lineStringBody_upper : IgnoresCase GeometryPhrase.raised lineStringBody := by
  intro cs
  unfold lineStringBody
  rw [readPosition_upper]
  cases readPosition cs with
  | none => rfl
  | some first => simp [many readNextPosition_upper,GeometryPhrase.raised]

theorem envelopeBody_upper : IgnoresCase GeometryPhrase.raised envelopeBody := by
  intro cs
  unfold envelopeBody
  rw [readPosition_upper]
  cases readPosition cs with
  | none => rfl
  | some lower =>
    have next := readNextPosition_upper lower.2
    simp only [Option.map_some,Option.bind_eq_bind,Option.bind_some,next]
    cases readNextPosition lower.2 <;> rfl

/-! ### Geometries -/

theorem readEnclosed_upper {α : Type} {raised : α → α} (keyword : List Char) {body : Reader α}
    (ignores : IgnoresCase raised body) : IgnoresCase raised (readEnclosed keyword body) := by
  intro cs
  unfold readEnclosed
  rw [readKeyword_upper]
  cases readKeyword keyword cs with
  | none => rfl
  | some behind =>
    simp only [Option.map_some,Option.bind_eq_bind,Option.bind_some,
      readMark_upper (show '('.isAlpha = false from rfl)]
    cases readMark '(' behind with
    | none => rfl
    | some inner =>
      simp only [Option.map_some,Option.bind_some,ignores inner]
      cases body inner with
      | none => rfl
      | some found =>
        simp only [Option.map_some,Option.bind_some,readMark_upper (show ')'.isAlpha = false from rfl)]
        cases readMark ')' found.2 <;> rfl

theorem closeGroup_upper (depth : Nat) (cs : List Char) :
    closeGroup depth (upper cs) = (closeGroup depth cs).map upper := by
  induction cs generalizing depth with
  | nil => cases depth <;> rfl
  | cons c cs ih =>
    by_cases opening : c = '('
    · subst opening
      cases depth <;> exact ih _
    · by_cases closing : c = ')'
      · subst closing
        cases depth with
        | zero => rfl
        | succ depth => exact ih depth
      · have plain : isPlain c = true := isPlain_iff.mpr ⟨opening,closing⟩
        have raised : isPlain c.toUpper = true := by
          rwa [isPlain_iff,Ne,toUpper_eq_iff rfl,Ne,toUpper_eq_iff rfl,← isPlain_iff]
        rw [upper,List.map_cons,closeGroup_plain raised,closeGroup_plain plain]
        exact ih depth

theorem readWord_upper : IgnoresCase upper readWord := readRun_upper isAlpha_caseless

theorem readTagged_upper : IgnoresCase GeometryPhrase.raised readTagged := by
  intro cs
  unfold readTagged
  rw [readWord_upper]
  cases readWord cs with
  | none => rfl
  | some found =>
    simp only [Option.map_some,Option.bind_eq_bind,Option.bind_some,
      readMark_upper (show '('.isAlpha = false from rfl)]
    cases readMark '(' found.2 with
    | none => rfl
    | some inner =>
      simp only [Option.map_some,Option.bind_some,closeGroup_upper]
      cases closeGroup 0 inner <;> rfl

theorem readGeometry_upper : IgnoresCase GeometryPhrase.raised readGeometry := by
  unfold readGeometry
  rw [readPoint_eq,readLineString_eq,readEnvelope_eq]
  exact (readEnclosed_upper _ pointBody_upper).either ((readEnclosed_upper _ lineStringBody_upper).either
    ((readEnclosed_upper _ envelopeBody_upper).either readTagged_upper))

/-! ### Items -/

theorem isNameStart_caseless : Caseless isNameStart := .of_letters true fun c letter => by simp [isNameStart,letter]

theorem isNamePart_caseless : Caseless isNamePart := .of_letters true fun c letter => by
  simp [isNamePart,Char.isAlphanum,letter]

theorem readName_upper : IgnoresCase upper readName := by
  intro cs
  cases cs with
  | nil => rfl
  | cons c rest =>
    have start := isNameStart_caseless.toUpper c
    have more := takeWhile_upper isNamePart_caseless rest
    have behind := dropWhile_upper isNamePart_caseless rest
    rw [upper] at more behind
    simp only [readName,upper,List.map_cons,start,more,behind]
    split <;> rfl

theorem readProperty_upper : IgnoresCase upper readProperty := by
  intro cs
  have first := readName_upper cs
  cases read : readName cs with
  | none =>
    rw [read] at first
    simp [readProperty,first,read]
  | some found =>
    obtain ⟨name,rest⟩ := found
    rw [read,Option.map_some] at first
    by_cases colon : ∃ more, rest = ':' :: more
    · obtain ⟨more,rfl⟩ := colon
      have joined (cs : List Char) : upper (':' :: cs) = ':' :: upper cs := rfl
      have second := readName_upper more
      rw [joined] at first
      cases localRead : readName more with
      | none =>
        rw [localRead] at second
        simp [readProperty,first,read,second,localRead,joined]
      | some found =>
        rw [localRead] at second
        simp [readProperty,first,read,second,localRead,upper_append,joined]
    · have raised : ¬ ∃ more, upper rest = ':' :: more := by
        rintro ⟨more,same⟩
        obtain ⟨c,left,rfl,mark,-⟩ := List.map_eq_cons_iff.mp same
        exact colon ⟨left,by rw [(toUpper_eq_iff rfl).mp mark]⟩
      rw [readProperty_plain read colon,readProperty_plain first raised]
      rfl

theorem readItem_upper : IgnoresCase Item.raised readItem := by
  intro cs
  have geometry := readGeometry_upper (skipBlanks cs)
  have property := readProperty_upper (skipBlanks cs)
  unfold readItem
  dsimp only
  rw [skipBlanks_upper,geometry,property]
  cases readGeometry (skipBlanks cs) with
  | some found => rfl
  | none => cases readProperty (skipBlanks cs) <;> rfl

theorem readNextItem_upper : IgnoresCase Item.raised readNextItem := mark rfl readItem_upper

/-! ### Predicates -/

theorem readDistance_upper (cs : List Char) :
    readDistance (upper cs) = ((readDistance cs).1,upper (readDistance cs).2) := by
  unfold readDistance
  rw [readMark_upper rfl]
  cases readMark ',' cs with
  | none => rfl
  | some more =>
    have number := readNumber_upper more
    dsimp only [Option.map_some]
    rw [number]
    cases readNumber more <;> rfl

theorem readPredicate_upper : IgnoresCase PredicatePhrase.raised readPredicate := by
  intro cs
  unfold readPredicate
  rw [readWord_upper]
  cases readWord cs with
  | none => rfl
  | some word =>
    simp only [Option.map_some,Option.bind_eq_bind,Option.bind_some,
      readMark_upper (show '('.isAlpha = false from rfl)]
    cases readMark '(' word.2 with
    | none => rfl
    | some inner =>
      have first := readItem_upper inner
      simp only [Option.map_some,Option.bind_some,first]
      cases readItem inner with
      | none => rfl
      | some item =>
        simp only [Option.map_some,Option.bind_some,many readNextItem_upper,readDistance_upper,
          readMark_upper (show ')'.isAlpha = false from rfl)]
        cases readMark ')' (readDistance (readMany readNextItem item.2).2).2 <;> rfl

theorem readWhole_upper {α : Type} {raised : α → α} {phrase : Reader α} (ignores : IgnoresCase raised phrase)
    (cs : List Char) : readWhole phrase (upper cs) = (readWhole phrase cs).map raised := by
  unfold readWhole
  rw [skipBlanks_upper,ignores]
  cases phrase (skipBlanks cs) with
  | none => rfl
  | some found =>
    have ended : (skipBlanks (upper found.2)).isEmpty = (skipBlanks found.2).isEmpty := by
      rw [skipBlanks_upper,upper,List.isEmpty_map]
    simp only [Option.map_some,ended]
    split <;> rfl

/-- Texts that differ at most in case are both refused, or their phrases differ at most in case. -/
theorem readWhole_sameLetters {α : Type} {raised : α → α} {phrase : Reader α} (ignores : IgnoresCase raised phrase)
    {s t : List Char} (letters : upper s = upper t) : (readWhole phrase s = none ∧ readWhole phrase t = none) ∨
      ∃ value other, readWhole phrase s = some value ∧ readWhole phrase t = some other ∧ raised value = raised other := by
  have same : (readWhole phrase s).map raised = (readWhole phrase t).map raised := by
    rw [← readWhole_upper ignores,letters,readWhole_upper ignores]
  cases first : readWhole phrase s with
  | none =>
    rw [first,Option.map_none,eq_comm,Option.map_eq_none_iff] at same
    exact .inl ⟨rfl,same⟩
  | some value =>
    rw [first,Option.map_some,eq_comm,Option.map_eq_some_iff] at same
    obtain ⟨other,second,raised⟩ := same
    exact .inr ⟨value,other,rfl,second,raised.symm⟩

end Phrase
end SpatialFilter
