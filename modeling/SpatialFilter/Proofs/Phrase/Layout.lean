import SpatialFilter.Proofs.Phrase.Item
import SpatialFilter.Proofs.Text.Layout

/-! Layout of predicates and geometries. Every part of a phrase is read from a squeezed text as it is read
from the text itself, so texts that differ in their layout alone have the same meaning or none at all. -/
namespace SpatialFilter

theorem not_cons_squeeze {c : Char} (solid : isSolid c = true) {cs : List Char} (other : ¬ ∃ rest, cs = c :: rest) :
    ¬ ∃ rest, squeeze .inside cs = c :: rest := by
  rintro ⟨rest,same⟩
  obtain ⟨left,cons,-⟩ := (squeeze_eq_cons solid).mp same
  exact other ⟨left,cons⟩

/-! ### Numbers -/

namespace Numeral

theorem isSolid_of_isDigit : ∀ c : Char, c.isDigit = true → isSolid c = true :=
  fun _ digit => isSolid_of_member (by simp) (by simp) digit

private theorem readSign_other {cs : List Char} (other : ¬ ∃ rest, cs = '-' :: rest) : readSign cs = (false,cs) := by
  unfold readSign
  split
  · exact absurd ⟨_,rfl⟩ other
  · rfl

private theorem readSign_squeeze (cs : List Char) :
    readSign (squeeze .inside cs) = ((readSign cs).1,squeeze .inside (readSign cs).2) := by
  by_cases minus : ∃ rest, cs = '-' :: rest
  · obtain ⟨rest,rfl⟩ := minus
    rw [squeeze_solid rfl (by decide)]
    rfl
  · rw [readSign_other minus,readSign_other (not_cons_squeeze rfl minus)]

private theorem readFraction_other {cs : List Char} (other : ¬ ∃ rest, cs = '.' :: rest) :
    readFraction cs = (none,cs) := by
  unfold readFraction
  split
  · exact absurd ⟨_,rfl⟩ other
  · rfl

private theorem readFraction_squeeze (cs : List Char) :
    readFraction (squeeze .inside cs) = ((readFraction cs).1,squeeze .inside (readFraction cs).2) := by
  by_cases point : ∃ rest, cs = '.' :: rest
  · obtain ⟨rest,rfl⟩ := point
    have joined : squeeze .inside ('.' :: rest) = '.' :: squeeze .inside rest := squeeze_solid rfl (by decide) rest
    rw [joined]
    simp only [readFraction,readRun_squeeze isSolid_of_isDigit rest]
    cases readRun Char.isDigit rest with
    | none => exact congrArg _ joined.symm
    | some found => rfl
  · rw [readFraction_other point,readFraction_other (not_cons_squeeze rfl point)]

private theorem readExponentSign_other {cs : List Char} (noPlus : ¬ ∃ rest, cs = '+' :: rest)
    (noMinus : ¬ ∃ rest, cs = '-' :: rest) : readExponentSign cs = (.unmarked,cs) := by
  unfold readExponentSign
  split
  · exact absurd ⟨_,rfl⟩ noPlus
  · exact absurd ⟨_,rfl⟩ noMinus
  · rfl

private theorem readExponentSign_squeeze (cs : List Char) : readExponentSign (squeeze .inside cs) =
    ((readExponentSign cs).1,squeeze .inside (readExponentSign cs).2) := by
  by_cases plus : ∃ rest, cs = '+' :: rest
  · obtain ⟨rest,rfl⟩ := plus
    rw [squeeze_solid rfl (by decide)]
    rfl
  · by_cases minus : ∃ rest, cs = '-' :: rest
    · obtain ⟨rest,rfl⟩ := minus
      rw [squeeze_solid rfl (by decide)]
      rfl
    · rw [readExponentSign_other plus minus,
        readExponentSign_other (not_cons_squeeze rfl plus) (not_cons_squeeze rfl minus)]

private theorem readExponent_other {cs : List Char}
    (other : ∀ c, c = 'e' ∨ c = 'E' → ¬ ∃ rest, cs = c :: rest) : readExponent cs = (none,cs) := by
  unfold readExponent
  split
  · rename_i c rest
    rw [if_neg]
    intro letter
    exact other c (by simpa using letter) ⟨rest,rfl⟩
  · rfl

private theorem readExponent_squeeze (cs : List Char) :
    readExponent (squeeze .inside cs) = ((readExponent cs).1,squeeze .inside (readExponent cs).2) := by
  have solid : ∀ c, c = 'e' ∨ c = 'E' → isSolid c = true := by
    rintro c (rfl | rfl) <;> rfl
  by_cases letter : ∃ c, (c = 'e' ∨ c = 'E') ∧ ∃ rest, cs = c :: rest
  · obtain ⟨c,isLetter,rest,rfl⟩ := letter
    have joined : squeeze .inside (c :: rest) = c :: squeeze .inside rest :=
      squeeze_solid (solid c isLetter) (by decide) rest
    rw [joined]
    simp only [readExponent,Bool.or_eq_true,decide_eq_true_eq,isLetter,if_true,readExponentSign_squeeze,
      readRun_squeeze isSolid_of_isDigit]
    cases readRun Char.isDigit (readExponentSign rest).2 with
    | none => exact congrArg _ joined.symm
    | some found => rfl
  · have other : ∀ c, c = 'e' ∨ c = 'E' → ¬ ∃ rest, cs = c :: rest := fun c isLetter found =>
      letter ⟨c,isLetter,found⟩
    rw [readExponent_other other,readExponent_other fun c isLetter => not_cons_squeeze (solid c isLetter) (other c isLetter)]

theorem read_squeeze (cs : List Char) :
    read (squeeze .inside cs) = (read cs).map fun result => (result.1,squeeze .inside result.2) := by
  unfold read
  rw [readSign_squeeze]
  dsimp only
  rw [readRun_squeeze isSolid_of_isDigit]
  cases readRun Char.isDigit (readSign cs).2 with
  | none => rfl
  | some found => simp [readFraction_squeeze,readExponent_squeeze]

end Numeral

namespace Phrase
open IgnoresLayout

/-! ### Positions -/

theorem readNumber_squeeze (gap : Gap) : IgnoresLayout gap readNumber := by
  intro cs
  refine ⟨.inside,?_⟩
  unfold readNumber
  rw [skipBlanks_squeeze,Numeral.read_squeeze]

theorem readPosition_squeeze (gap : Gap) : IgnoresLayout gap readPosition := by
  intro cs
  obtain ⟨after,same⟩ := many readNumber_shortens readNumber_squeeze gap cs
  refine ⟨after,?_⟩
  unfold readPosition
  rw [same]
  match readMany readNumber cs with
  | ([],rest) => rfl
  | ([first],rest) => rfl
  | (first :: second :: more,rest) => rfl

theorem readNextPosition_squeeze (gap : Gap) : IgnoresLayout gap readNextPosition :=
  mark rfl gap (readPosition_squeeze .free)

theorem pointBody_squeeze (gap : Gap) : IgnoresLayout gap pointBody :=
  (readPosition_squeeze gap).bind fun _ => done _

theorem lineStringBody_squeeze (gap : Gap) : IgnoresLayout gap lineStringBody := by
  have behind (first : List Numeral) (gap : Gap) : IgnoresLayout gap fun cs =>
      some (GeometryPhrase.lineString (first :: (readMany readNextPosition cs).1),(readMany readNextPosition cs).2) := by
    intro cs
    obtain ⟨after,same⟩ := many readNextPosition_shortens readNextPosition_squeeze gap cs
    exact ⟨after,by simp [same]⟩
  exact (readPosition_squeeze gap).bind behind

theorem envelopeBody_squeeze (gap : Gap) : IgnoresLayout gap envelopeBody :=
  (readPosition_squeeze gap).bind fun _ gap => (readNextPosition_squeeze gap).bind fun _ => done _

/-! ### Geometries -/

theorem isSolid_of_isAlpha : ∀ c : Char, c.isAlpha = true → isSolid c = true :=
  fun _ letter => isSolid_of_member (by simp) (by simp) letter

theorem readKeyword_squeeze {keyword : List Char} (isKeyword : IsWord keyword) (cs : List Char) :
    readKeyword keyword (squeeze .inside cs) = (readKeyword keyword cs).map (squeeze .inside) := by
  have solid {tag : List Char} (same : sameLetters tag keyword = true) : ∀ c ∈ tag, isSolid c = true :=
    fun c member => isSolid_of_isAlpha c (isAlpha_of_sameLetters same isKeyword.letters c member)
  cases read : readKeyword keyword cs with
  | some rest =>
    obtain ⟨tag,same,rfl⟩ := readKeyword_eq_some read
    rw [(squeeze_eq_append (solid same)).mpr ⟨rest,rfl,rfl⟩,readKeyword_append same]
    rfl
  | none =>
    rw [Option.map_none,Option.eq_none_iff_forall_ne_some]
    intro rest found
    obtain ⟨tag,same,split⟩ := readKeyword_eq_some found
    obtain ⟨left,rfl,-⟩ := (squeeze_eq_append (solid same)).mp split
    rw [readKeyword_append same] at read
    cases read

theorem readEnclosed_squeeze {α : Type} {keyword : List Char} (isKeyword : IsWord keyword) {body : Reader α}
    (ignores : IgnoresLayout .free body) : IgnoresLayout .inside (readEnclosed keyword body) := by
  intro cs
  unfold readEnclosed
  rw [readKeyword_squeeze isKeyword]
  cases readKeyword keyword cs with
  | none => exact ⟨.inside,rfl⟩
  | some rest => exact mark rfl .inside (ignores.bind fun value gap => mark rfl gap (done value .free)) rest

theorem closeGroup_squeeze (depth : Nat) (gap : Gap) (cs : List Char) :
    closeGroup depth (squeeze gap cs) = (closeGroup depth cs).map (squeeze .free) := by
  induction cs generalizing depth gap with
  | nil => cases depth <;> rfl
  | cons c cs ih =>
    by_cases opening : c = '('
    · subst opening
      rw [squeeze_mark rfl]
      cases depth <;> exact ih _ _
    · by_cases closing : c = ')'
      · subst closing
        rw [squeeze_mark rfl]
        cases depth with
        | zero => rfl
        | succ depth => exact ih depth _
      · have plain : isPlain c = true := isPlain_iff.mpr ⟨opening,closing⟩
        rw [closeGroup_plain plain,squeeze,← ih depth (gap.behind c)]
        unfold Gap.kept
        split
        · rfl
        · split
          · rw [List.cons_append,List.singleton_append,closeGroup_plain rfl,closeGroup_plain plain]
          · rw [List.singleton_append,closeGroup_plain plain]

theorem readTagged_squeeze : IgnoresLayout .inside readTagged := by
  intro cs
  refine ⟨.free,?_⟩
  unfold readTagged readWord
  rw [readRun_squeeze isSolid_of_isAlpha]
  cases readRun Char.isAlpha cs with
  | none => rfl
  | some found =>
    simp only [Option.map_some,Option.bind_eq_bind,Option.bind_some,readMark_squeeze (show isMark '(' = true from rfl)]
    cases readMark '(' found.2 with
    | none => rfl
    | some inner =>
      simp only [Option.map_some,Option.bind_some,closeGroup_squeeze]
      cases closeGroup 0 inner <;> rfl

theorem readGeometry_squeeze : IgnoresLayout .inside readGeometry := by
  unfold readGeometry
  rw [readPoint_eq,readLineString_eq,readEnvelope_eq]
  exact (readEnclosed_squeeze isWord_point (pointBody_squeeze .free)).either
    ((readEnclosed_squeeze isWord_lineString (lineStringBody_squeeze .free)).either
      ((readEnclosed_squeeze isWord_envelope (envelopeBody_squeeze .free)).either readTagged_squeeze))

/-! ### Items -/

theorem isSolid_of_isNamePart : ∀ c : Char, isNamePart c = true → isSolid c = true :=
  fun _ part => isSolid_of_member (by simp [isNamePart]) (by simp [isNamePart]) part

theorem isSolid_of_isNameStart : ∀ c : Char, isNameStart c = true → isSolid c = true :=
  fun _ start => isSolid_of_member (by simp [isNameStart]) (by simp [isNameStart]) start

theorem readName_squeeze (cs : List Char) :
    readName (squeeze .inside cs) = (readName cs).map fun result => (result.1,squeeze .inside result.2) := by
  cases cs with
  | nil => rfl
  | cons c rest =>
    cases start : isNameStart c with
    | true =>
      rw [squeeze_solid (isSolid_of_isNameStart c start) (by decide)]
      simp [readName,start,takeWhile_squeeze isSolid_of_isNamePart,dropWhile_squeeze isSolid_of_isNamePart]
    | false =>
      have refused : readName (squeeze .inside (c :: rest)) = none := by
        cases squeezed : squeeze .inside (c :: rest) with
        | nil => rfl
        | cons d more =>
          have other := squeeze_other isSolid_of_isNameStart start rest d (by rw [squeezed]; rfl)
          simp [readName,other]
      rw [refused]
      simp [readName,start]

theorem readProperty_squeeze : IgnoresLayout .inside readProperty := by
  intro cs
  refine ⟨.inside,?_⟩
  have first := readName_squeeze cs
  cases read : readName cs with
  | none =>
    rw [read] at first
    simp [readProperty,first,read]
  | some found =>
    obtain ⟨name,rest⟩ := found
    rw [read,Option.map_some] at first
    by_cases colon : ∃ more, rest = ':' :: more
    · obtain ⟨more,rfl⟩ := colon
      have joined : squeeze .inside (':' :: more) = ':' :: squeeze .inside more := squeeze_solid rfl (by decide) more
      have second := readName_squeeze more
      simp only [joined] at first
      cases localRead : readName more with
      | none => simp [readProperty,first,read,second,localRead,joined]
      | some found => simp [readProperty,first,read,second,localRead]
    · rw [readProperty_plain read colon,readProperty_plain first (not_cons_squeeze rfl colon)]
      rfl

theorem readItem_squeeze (gap : Gap) : IgnoresLayout gap readItem := by
  intro cs
  unfold readItem
  dsimp only
  rw [skipBlanks_squeeze]
  obtain ⟨behind,geometry⟩ := readGeometry_squeeze (skipBlanks cs)
  obtain ⟨after,property⟩ := readProperty_squeeze (skipBlanks cs)
  rw [geometry,property]
  cases readGeometry (skipBlanks cs) with
  | some found => exact ⟨behind,rfl⟩
  | none => exact ⟨after,by cases readProperty (skipBlanks cs) <;> rfl⟩

theorem readNextItem_squeeze (gap : Gap) : IgnoresLayout gap readNextItem :=
  mark rfl gap (readItem_squeeze .free)

/-! ### Predicates -/

theorem readDistance_squeeze (gap : Gap) (cs : List Char) : ∃ after,
    readDistance (squeeze gap cs) = ((readDistance cs).1,squeeze after (readDistance cs).2) := by
  unfold readDistance
  rw [readMark_squeeze rfl]
  cases readMark ',' cs with
  | none => exact ⟨gap,rfl⟩
  | some more =>
    obtain ⟨after,same⟩ := readNumber_squeeze .free more
    dsimp only [Option.map_some]
    rw [same]
    cases readNumber more with
    | none => exact ⟨gap,rfl⟩
    | some found => exact ⟨after,rfl⟩

theorem readPredicate_squeeze : IgnoresLayout .inside readPredicate := by
  have closing (operator : List Char) (first : Item) (gap : Gap) : IgnoresLayout gap fun cs =>
      let more := readMany readNextItem cs
      let distance := readDistance more.2
      (readMark ')' distance.2).bind fun rest => some (PredicatePhrase.mk operator (first :: more.1) distance.1,rest) := by
    intro cs
    obtain ⟨behind,items⟩ := many readNextItem_shortens readNextItem_squeeze gap cs
    obtain ⟨after,distance⟩ := readDistance_squeeze behind (readMany readNextItem cs).2
    simp only [items,distance]
    exact mark rfl after (done _ .free) _
  have arguments (operator : List Char) (gap : Gap) : IgnoresLayout gap fun cs =>
      (readMark '(' cs).bind fun cs => (readItem cs).bind fun first =>
        let more := readMany readNextItem first.2
        let distance := readDistance more.2
        (readMark ')' distance.2).bind fun rest =>
          some (PredicatePhrase.mk operator (first.1 :: more.1) distance.1,rest) :=
    mark rfl gap ((readItem_squeeze .free).bind (closing operator))
  have word : IgnoresLayout .inside readWord := fun cs => ⟨.inside,readRun_squeeze isSolid_of_isAlpha cs⟩
  exact word.bind arguments

/-- A text is read as a whole in any layout. -/
theorem readWhole_squeeze {α : Type} {phrase : Reader α} (ignores : IgnoresLayout .inside phrase) (cs : List Char) :
    readWhole phrase (squeeze .free cs) = readWhole phrase cs := by
  have ended (gap : Gap) (rest : List Char) :
      (skipBlanks (squeeze gap rest)).isEmpty = (skipBlanks rest).isEmpty := by
    rw [skipBlanks_squeeze]
    cases skipped : skipBlanks rest with
    | nil => rfl
    | cons c more => rw [squeeze_visible (skipBlanks_eq_cons skipped).1 more (by decide)]; rfl
  obtain ⟨after,same⟩ := ignores (skipBlanks cs)
  unfold readWhole
  rw [skipBlanks_squeeze,same]
  cases phrase (skipBlanks cs) with
  | none => rfl
  | some found => simp [ended]

theorem readWhole_relaid {α : Type} {phrase : Reader α} (ignores : IgnoresLayout .inside phrase) {s t : List Char}
    (relaid : Relaid s t) : readWhole phrase s = readWhole phrase t := by
  rw [← readWhole_squeeze ignores s,relaid.squeeze,readWhole_squeeze ignores]

end Phrase

/-- The same value or error, or texts that both do not fit the grammar. -/
inductive ReadAlike {α : Type} : Except ReadError α → Except ReadError α → Prop where
  | same (result : Except ReadError α) : ReadAlike result result
  | mismatch (found other : Mismatch) : ReadAlike (.error (.mismatch found)) (.error (.mismatch other))

/-- The layout of a text does not matter to what it means. -/
theorem read_relaid {s t : String} (relaid : Relaid s.toList t.toList) :
    (∀ namespaces declaredType,
      ReadAlike (readPredicate namespaces declaredType s) (readPredicate namespaces declaredType t)) ∧
    ReadAlike (readGeometry s) (readGeometry t) := by
  have predicate := Phrase.readWhole_relaid Phrase.readPredicate_squeeze relaid
  have geometry := Phrase.readWhole_relaid Phrase.readGeometry_squeeze relaid
  constructor
  · intro namespaces declaredType
    unfold readPredicate
    rw [predicate]
    split
    · exact .mismatch _ _
    · exact .same _
  · unfold readGeometry
    rw [geometry]
    split
    · exact .mismatch _ _
    · exact .same _

/-- A blank in front of a comma, another run between two numbers, and a line end behind everything. -/
theorem read_relaid_dwithin :
    Relaid "dwithin(geom,POINT(1 2),5)".toList "dwithin(geom ,POINT(1\t\n2),5)\n".toList ∧
      ReadAlike (readPredicate .empty .geometry "dwithin(geom,POINT(1 2),5)")
        (readPredicate .empty .geometry "dwithin(geom ,POINT(1\t\n2),5)\n") := by
  have comma : BlankChange "dwithin(geom,POINT(1 2),5)".toList "dwithin(geom ,POINT(1 2),5)".toList :=
    .before (show isMark ',' = true from rfl) "dwithin(geom".toList "POINT(1 2),5)".toList
      (show AllBlank [' '] by simp [AllBlank,isBlank])
  have run : BlankChange "dwithin(geom ,POINT(1 2),5)".toList "dwithin(geom ,POINT(1\t\n2),5)".toList :=
    .run "dwithin(geom ,POINT(1".toList "2),5)".toList (show AllBlank [' '] by simp [AllBlank,isBlank]) (by simp)
      (show AllBlank ['\t','\n'] by simp [AllBlank,isBlank]) (by simp)
  have ending : BlankChange "dwithin(geom ,POINT(1\t\n2),5)".toList "dwithin(geom ,POINT(1\t\n2),5)\n".toList :=
    .ending (show AllBlank ['\n'] by simp [AllBlank,isBlank]) _
  have relaid : Relaid "dwithin(geom,POINT(1 2),5)".toList "dwithin(geom ,POINT(1\t\n2),5)\n".toList :=
    .trans _ _ _ (.rel _ _ comma) (.trans _ _ _ (.rel _ _ run) (.rel _ _ ending))
  exact ⟨relaid,(read_relaid relaid).1 .empty .geometry⟩

end SpatialFilter
