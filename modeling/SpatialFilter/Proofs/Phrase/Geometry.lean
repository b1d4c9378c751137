import SpatialFilter.Proofs.Phrase.Group

/-! What a group means as a geometry. Its body is read as a point, a line string or an envelope if
its tag says so and the body fits to its end; in all other cases the group is a mere tag. -/
namespace SpatialFilter
namespace Phrase
variable {α : Type}

/-! ### Positions -/

theorem readNumber_spelled {blanks : List Char} (blank : AllBlank blanks) {n : Numeral} {text : List Char}
    (spells : n.Spells text) {rest : List Char} (boundary : Numeral.Boundary rest) :
    readNumber (blanks ++ text ++ rest) = some (n,rest) := by
  rw [readNumber,spells.skipBlanks_text blank]
  exact spells.read boundary

theorem number_of_readNumber {cs rest : List Char} {n : Numeral} (ok : readNumber cs = some (n,rest)) :
    ∃ blanks text, AllBlank blanks ∧ cs = blanks ++ text ++ rest ∧ n.Spells text := by
  obtain ⟨blanks,blank,split⟩ := skipBlanks_split cs
  obtain ⟨text,found,spells⟩ := Numeral.spells_of_read ok
  exact ⟨blanks,text,blank,by rw [split,found,List.append_assoc],spells⟩

theorem readNumber_consumes : Consumes isPlain readNumber := by
  intro cs n rest ok
  obtain ⟨blanks,text,blank,split,spells⟩ := number_of_readNumber ok
  refine ⟨blanks ++ text,split,fun c member => ?_⟩
  rcases List.mem_append.mp member with inside | inside
  · exact isPlain_of_isBlank (blank c inside)
  · exact isPlain_of_isNumeric (spells.numeric c inside)

theorem readNumber_stops {stop : Char} (foreign : Numeral.isNumeric stop = false)
    (visible : isBlank stop = false) : StopsAt stop readNumber := by
  intro front rest
  unfold readNumber
  rw [skipBlanks_stops visible]
  exact Numeral.read_stops foreign _ _

theorem readNumber_shortens : Shortens readNumber := by
  intro cs n rest ok
  obtain ⟨blanks,text,-,rfl,spells⟩ := number_of_readNumber ok
  obtain ⟨c,tail,rfl,-⟩ := spells.head
  simp
  omega

theorem readPosition_eq_some {cs rest : List Char} {ordinates : List Numeral} :
    readPosition cs = some (ordinates,rest) ↔
      readMany readNumber cs = (ordinates,rest) ∧ 2 ≤ ordinates.length := by
  unfold readPosition
  split
  · rename_i first second more left found
    rw [found]
    constructor
    · intro ok
      cases ok
      exact ⟨rfl,by simp⟩
    · intro ⟨same,_⟩
      cases same
      rfl
  · rename_i few
    constructor
    · intro ok
      cases ok
    · intro ⟨found,enough⟩
      obtain ⟨first,second,more,rfl⟩ : ∃ first second more, ordinates = first :: second :: more := by
        match ordinates,enough with
        | first :: second :: more,_ => exact ⟨first,second,more,rfl⟩
      exact absurd found (few first second more rest)

theorem readPosition_consumes : Consumes isPlain readPosition := by
  intro cs ordinates rest ok
  obtain ⟨used,split,free⟩ := readMany_consumes readNumber_consumes cs
  rw [(readPosition_eq_some.mp ok).1] at split
  exact ⟨used,split,free⟩

theorem readPosition_stops {stop : Char} (foreign : Numeral.isNumeric stop = false)
    (visible : isBlank stop = false) : StopsAt stop readPosition := by
  intro front rest
  have many := readMany_stops (readNumber_stops foreign visible) front rest
  unfold readPosition
  rw [many]
  match readMany readNumber front with
  | ([],left) => rfl
  | ([first],left) => rfl
  | (first :: second :: more,left) => rfl

theorem readNextPosition_consumes : Consumes isPlain readNextPosition := by
  intro cs ordinates rest ok
  obtain ⟨behind,marked,read⟩ := Option.bind_eq_some_iff.mp ok
  obtain ⟨blanks,blank,rfl⟩ := readMark_eq_some marked
  obtain ⟨used,rfl,free⟩ := readPosition_consumes _ _ _ read
  refine ⟨blanks ++ ',' :: used,by simp,fun c member => ?_⟩
  rcases List.mem_append.mp member with inside | inside
  · exact isPlain_of_isBlank (blank c inside)
  · rcases List.mem_cons.mp inside with rfl | inside
    · rfl
    · exact free c inside

theorem readNextPosition_stops : StopsAt ')' readNextPosition := by
  intro front rest
  unfold readNextPosition
  rw [readMark_stops (by decide) (by decide)]
  cases readMark ',' front with
  | none => rfl
  | some behind => exact readPosition_stops (by decide) (by decide) behind rest

theorem readNextPosition_shortens : Shortens readNextPosition := by
  intro cs ordinates rest ok
  obtain ⟨behind,marked,read⟩ := Option.bind_eq_some_iff.mp ok
  obtain ⟨used,rfl,-⟩ := readPosition_consumes _ _ _ read
  have shorter := length_of_readMark marked
  rw [List.length_append] at shorter
  omega

/-! ### Bodies -/

def pointBody : Reader GeometryPhrase := fun cs => do
  let (ordinates,cs) ← readPosition cs
  return (.point ordinates,cs)

def lineStringBody : Reader GeometryPhrase := fun cs => do
  let (first,cs) ← readPosition cs
  let (more,cs) := readMany readNextPosition cs
  return (.lineString (first :: more),cs)

def envelopeBody : Reader GeometryPhrase := fun cs => do
  let (lower,cs) ← readPosition cs
  let (upper,cs) ← readNextPosition cs
  return (.envelope lower upper,cs)

theorem pointBody_consumes : Consumes isPlain pointBody := by
  intro cs phrase rest ok
  obtain ⟨found,read,ok⟩ := Option.bind_eq_some_iff.mp ok
  cases ok
  exact readPosition_consumes _ _ _ read

theorem lineStringBody_consumes : Consumes isPlain lineStringBody := by
  intro cs phrase rest ok
  obtain ⟨⟨first,behind⟩,read,ok⟩ := Option.bind_eq_some_iff.mp ok
  cases ok
  obtain ⟨used,rfl,free⟩ := readPosition_consumes _ _ _ read
  obtain ⟨others,split,within⟩ := readMany_consumes readNextPosition_consumes behind
  refine ⟨used ++ others,by rw [List.append_assoc,← split],fun c member => ?_⟩
  exact (List.mem_append.mp member).elim (free c) (within c)

theorem envelopeBody_consumes : Consumes isPlain envelopeBody := by
  intro cs phrase rest ok
  obtain ⟨lower,lowerRead,ok⟩ := Option.bind_eq_some_iff.mp ok
  obtain ⟨upper,upperRead,ok⟩ := Option.bind_eq_some_iff.mp ok
  cases ok
  obtain ⟨used,rfl,free⟩ := readPosition_consumes _ _ _ lowerRead
  obtain ⟨others,split,within⟩ := readNextPosition_consumes _ _ _ upperRead
  refine ⟨used ++ others,by rw [List.append_assoc,← split],fun c member => ?_⟩
  exact (List.mem_append.mp member).elim (free c) (within c)

theorem pointBody_stops : StopsAt ')' pointBody := by
  intro front rest
  unfold pointBody
  rw [readPosition_stops (by decide) (by decide)]
  cases readPosition front <;> rfl

theorem lineStringBody_stops : StopsAt ')' lineStringBody := by
  intro front rest
  unfold lineStringBody
  rw [readPosition_stops (by decide) (by decide)]
  cases readPosition front with
  | none => rfl
  | some found => simp [readMany_stops readNextPosition_stops]

theorem envelopeBody_stops : StopsAt ')' envelopeBody := by
  intro front rest
  unfold envelopeBody
  rw [readPosition_stops (by decide) (by decide)]
  cases readPosition front with
  | none => rfl
  | some lower =>
    have upper := readNextPosition_stops lower.2 rest
    simp only [Option.map_some,Option.bind_eq_bind,Option.bind_some,upper]
    cases readNextPosition lower.2 <;> rfl

theorem readPoint_eq : readPoint = readEnclosed "POINT".toList pointBody := by
  funext cs
  simp [readPoint,readEnclosed,pointBody,Option.bind_assoc]

theorem readLineString_eq : readLineString = readEnclosed "LINESTRING".toList lineStringBody := by
  funext cs
  simp [readLineString,readEnclosed,lineStringBody,Option.bind_assoc]

theorem readEnvelope_eq : readEnvelope = readEnclosed "ENVELOPE".toList envelopeBody := by
  funext cs
  simp [readEnvelope,readEnclosed,envelopeBody,Option.bind_assoc]

/-! ### The geometry of a group -/

theorem isWord_point : IsWord "POINT".toList := ⟨by simp,by simp⟩

theorem isWord_lineString : IsWord "LINESTRING".toList := ⟨by simp,by simp⟩

theorem isWord_envelope : IsWord "ENVELOPE".toList := ⟨by simp,by simp⟩

end Phrase

namespace GroupForm

/-- The body under its tag, if it is one of the three that have bodies of their own. -/
def shape? (g : GroupForm) : Option GeometryPhrase :=
  (Phrase.enclosed "POINT".toList Phrase.pointBody g).or
    ((Phrase.enclosed "LINESTRING".toList Phrase.lineStringBody g).or
      (Phrase.enclosed "ENVELOPE".toList Phrase.envelopeBody g))

def phrase (g : GroupForm) : GeometryPhrase := g.shape?.getD (.tagged g.tag)

variable {g : GroupForm}

private theorem other_keyword {tag keyword other : List Char} (same : sameLetters tag keyword = true)
    (differ : sameLetters keyword other = false) : sameLetters tag other = false := by
  rwa [sameLetters,sameLetters_iff.mp same]

/-- A tag is one of the three that have bodies of their own, or none of them. -/
theorem tag_cases (tag : List Char) : sameLetters tag "POINT".toList = true ∨
    sameLetters tag "LINESTRING".toList = true ∨ sameLetters tag "ENVELOPE".toList = true ∨
      ∀ keyword ∈ ["POINT","LINESTRING","ENVELOPE"], sameLetters tag keyword.toList = false := by
  by_cases known : ∃ keyword ∈ ["POINT","LINESTRING","ENVELOPE"], sameLetters tag keyword.toList = true
  · obtain ⟨keyword,member,same⟩ := known
    simp only [List.mem_cons,List.not_mem_nil,or_false] at member
    rcases member with rfl | rfl | rfl
    · exact .inl same
    · exact .inr (.inl same)
    · exact .inr (.inr (.inl same))
  · exact .inr (.inr (.inr (by simpa using known)))

theorem phrase_point (same : sameLetters g.tag "POINT".toList = true) :
    g.phrase = (Phrase.readBody Phrase.pointBody g.body).getD (.tagged g.tag) := by
  rw [phrase,shape?,Phrase.enclosed_same same,Phrase.enclosed_other (other_keyword same (by decide)),
    Phrase.enclosed_other (other_keyword same (by decide)),Option.or_none,Option.or_none]

theorem phrase_lineString (same : sameLetters g.tag "LINESTRING".toList = true) :
    g.phrase = (Phrase.readBody Phrase.lineStringBody g.body).getD (.tagged g.tag) := by
  rw [phrase,shape?,Phrase.enclosed_same same,Phrase.enclosed_other (other_keyword same (by decide)),
    Phrase.enclosed_other (other_keyword same (by decide)),Option.or_none,Option.none_or]

theorem phrase_envelope (same : sameLetters g.tag "ENVELOPE".toList = true) :
    g.phrase = (Phrase.readBody Phrase.envelopeBody g.body).getD (.tagged g.tag) := by
  rw [phrase,shape?,Phrase.enclosed_same same,Phrase.enclosed_other (other_keyword same (by decide)),
    Phrase.enclosed_other (other_keyword same (by decide)),Option.none_or,Option.none_or]

theorem phrase_foreign (foreign : ∀ keyword ∈ ["POINT","LINESTRING","ENVELOPE"],
    sameLetters g.tag keyword.toList = false) : g.phrase = .tagged g.tag := by
  rw [phrase,shape?,Phrase.enclosed_other (foreign "POINT" (by simp)),
    Phrase.enclosed_other (foreign "LINESTRING" (by simp)),Phrase.enclosed_other (foreign "ENVELOPE" (by simp))]
  rfl

end GroupForm

namespace Phrase

/-- A group is read as the same geometry whatever stands behind it. -/
theorem readGeometry_group (g : GroupForm) (rest : List Char) :
    readGeometry (g.text ++ rest) = some (g.phrase,rest) := by
  have point := readEnclosed_group isWord_point pointBody_consumes pointBody_stops g rest
  have lineString := readEnclosed_group isWord_lineString lineStringBody_consumes lineStringBody_stops g rest
  have envelope := readEnclosed_group isWord_envelope envelopeBody_consumes envelopeBody_stops g rest
  unfold readGeometry readEither GroupForm.phrase GroupForm.shape?
  rw [readPoint_eq,readLineString_eq,readEnvelope_eq,point,lineString,envelope,readTagged_group]
  cases enclosed "POINT".toList pointBody g with
  | some found => rfl
  | none =>
    cases enclosed "LINESTRING".toList lineStringBody g with
    | some found => rfl
    | none => cases enclosed "ENVELOPE".toList envelopeBody g <;> rfl

theorem group_of_readGeometry {cs rest : List Char} {phrase : GeometryPhrase}
    (ok : readGeometry cs = some (phrase,rest)) :
    ∃ g : GroupForm, cs = g.text ++ rest ∧ phrase = g.phrase := by
  have extent : ∃ g : GroupForm, cs = g.text ++ rest := by
    unfold readGeometry readEither at ok
    rw [readPoint_eq,readLineString_eq,readEnvelope_eq] at ok
    split at ok
    · rename_i found point
      cases ok
      exact group_of_readEnclosed isWord_point pointBody_consumes point
    · split at ok
      · rename_i found lineString
        cases ok
        exact group_of_readEnclosed isWord_lineString lineStringBody_consumes lineString
      · split at ok
        · rename_i found envelope
          cases ok
          exact group_of_readEnclosed isWord_envelope envelopeBody_consumes envelope
        · exact group_of_readTagged ok
  obtain ⟨g,rfl⟩ := extent
  rw [readGeometry_group] at ok
  cases ok
  exact ⟨g,rfl,rfl⟩

end Phrase

theorem GeometryPhrase.toGeometry_fits (phrase : GeometryPhrase) (found : Mismatch) :
    phrase.toGeometry ≠ .error (.mismatch found) := by
  unfold toGeometry
  split
  · split <;> simp
  · split <;> simp
  · simp
  · split <;> simp

theorem Phrase.skipBlanks_group {blanks : List Char} (blank : AllBlank blanks) (g : GroupForm) (rest : List Char) :
    skipBlanks (blanks ++ g.text ++ rest) = g.text ++ rest := by
  have word := skipBlanks_word g.isTag blank (g.gap ++ '(' :: (g.body ++ ')' :: rest))
  rwa [List.append_assoc,← text_append,← List.append_assoc] at word

/-- The text of a group alone is a geometry or has a word without a meaning; it fits the grammar. -/
theorem readGeometry_groupText (g : GroupForm) :
    readGeometry (String.ofList g.text) = g.phrase.toGeometry := by
  have start := Phrase.skipBlanks_group allBlank_nil g []
  have read := Phrase.readGeometry_group g []
  simp only [List.append_nil,List.nil_append] at start read
  unfold readGeometry Phrase.readWhole
  rw [String.toList_ofList,start,read]
  rfl

/-- A text that fits the grammar is a group, with no more than blanks around it, and means what the group means. -/
theorem group_of_text {text : String} (fits : ∀ found, readGeometry text ≠ .error (.mismatch found)) :
    ∃ (g : GroupForm) (blanks rest : List Char), AllBlank blanks ∧ AllBlank rest ∧
      text.toList = blanks ++ g.text ++ rest ∧ readGeometry text = g.phrase.toGeometry := by
  cases whole : Phrase.readWhole Phrase.readGeometry text.toList with
  | none => exact absurd (by rw [readGeometry,whole]) (fits _)
  | some phrase =>
    have meaning : readGeometry text = phrase.toGeometry := by rw [readGeometry,whole]
    obtain ⟨blanks,blank,split⟩ := skipBlanks_split text.toList
    unfold Phrase.readWhole at whole
    split at whole
    · rename_i value rest read
      split at whole
      · rename_i ending
        cases whole
        obtain ⟨g,same,rfl⟩ := Phrase.group_of_readGeometry read
        refine ⟨g,blanks,rest,blank,skipBlanks_eq_nil.mp (by simpa using ending),?_,meaning⟩
        rw [split,same,List.append_assoc]
      · cases whole
    · cases whole

end SpatialFilter
