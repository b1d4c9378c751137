import SpatialFilter.Json
import SpatialFilter.Proofs.Number.Token
import SpatialFilter.Proofs.Sequence

/-! JSON texts by a grammar. Blanks may stand around elements, names and values, and nowhere else. Reading finds
exactly what the grammar has: the text of a value is read as this value in front of whatever cannot continue a
number, and whatever is read as a value is a text of it. -/
namespace SpatialFilter.Json

/-! ### The grammar -/

/-- One character of a string, or one unit of it, as it can be written. -/
inductive PieceText : Piece → List Char → Prop where
  | plain {c : Char} (noQuote : c ≠ '"') (noEscape : c ≠ '\\') (visible : ¬ c.toNat < 32) :
      PieceText (.plain c) [c]
  | letter {letter c : Char} (escape : letterEscape? letter = some c) : PieceText (.plain c) ['\\',letter]
  | unit {a b c d : Char} {code : Nat} (digits : hexValue? [a,b,c,d] = some code) :
      PieceText (.unit code) ['\\','u',a,b,c,d]

inductive StringText : Option String → List Char → Prop where
  | intro {pieces : List Piece} {texts : List (List Char)} (all : List.Forall₂ PieceText pieces texts) :
      StringText ((joinPairs pieces).map String.ofList) ('"' :: (texts.flatten ++ ['"']))

/-- No needless zero in front. -/
def Unpadded (token : Numeral) : Prop := token.whole.head? = some '0' → token.whole.length ≤ 1

mutual

/-- The texts of a tree, without blanks around them. -/
inductive Spelled : Json → List Char → Prop where
  | null : Spelled .null ['n','u','l','l']
  | yes : Spelled (.bool true) ['t','r','u','e']
  | no : Spelled (.bool false) ['f','a','l','s','e']
  | number {token : Numeral} {text : List Char} (spells : token.Spells text) (unpadded : Unpadded token) :
      Spelled (.number token) text
  | text {value : Option String} {text : List Char} (string : StringText value text) : Spelled (.text value) text
  | noElements {blanks : List Char} (blank : AllBlank blanks) : Spelled (.array []) ('[' :: (blanks ++ [']']))
  | array {elements : List Json} {texts : List (List Char)} (some : elements ≠ [])
      (all : List.Forall₂ Padded elements texts) : Spelled (.array elements) ('[' :: ([','].intercalate texts ++ [']']))
  | noMembers {blanks : List Char} (blank : AllBlank blanks) : Spelled (.object []) ('{' :: (blanks ++ ['}']))
  | object {members : List (Option String × Json)} {texts : List (List Char)} (some : members ≠ [])
      (all : List.Forall₂ MemberText members texts) :
      Spelled (.object members) ('{' :: ([','].intercalate texts ++ ['}']))

/-- The texts of a tree with blanks around them. -/
inductive Padded : Json → List Char → Prop where
  | intro {before text after : List Char} {j : Json} (blank : AllBlank before) (spelled : Spelled j text)
      (clear : AllBlank after) : Padded j (before ++ text ++ after)

inductive MemberText : Option String × Json → List Char → Prop where
  | intro {before text between behind : List Char} {name : Option String} {j : Json} (blank : AllBlank before)
      (string : StringText name text) (clear : AllBlank between) (value : Padded j behind) :
      MemberText (name,j) (before ++ text ++ (between ++ ':' :: behind))

end

/-! ### Strings -/

theorem PieceText.read {piece : Piece} {text : List Char} (spelled : PieceText piece text) (cs : List Char) :
    readPieces (text ++ cs) = (readPieces cs).map fun result => (piece :: result.1,result.2) := by
  cases spelled with
  | @plain c noQuote noEscape visible =>
    rw [List.singleton_append,readPieces.eq_def]
    split
    case h_5 same =>
      cases same
      rw [if_neg visible]
      cases readPieces cs <;> rfl
    all_goals simp_all
  | @letter letter c escape =>
    rw [List.cons_append,List.singleton_append,readPieces.eq_def]
    split
    case h_3 same =>
      cases same
      cases escape
    case h_4 same =>
      cases same
      rw [escape]
      cases readPieces cs <;> rfl
    case h_5 noLetter same =>
      cases same
      exact absurd rfl (noLetter letter cs rfl)
    all_goals simp_all
  | unit digits =>
    simp only [List.cons_append,List.nil_append]
    rw [readPieces,digits]
    cases readPieces cs <;> rfl

theorem readPieces_texts {pieces : List Piece} {texts : List (List Char)} (all : List.Forall₂ PieceText pieces texts)
    (rest : List Char) : readPieces (texts.flatten ++ '"' :: rest) = some (pieces,rest) := by
  induction all with
  | nil => rfl
  | cons spelled _ ih =>
    rw [List.flatten_cons,List.append_assoc,spelled.read,ih]
    rfl

theorem texts_of_readPieces {cs rest : List Char} {pieces : List Piece} (read : readPieces cs = some (pieces,rest)) :
    ∃ texts, List.Forall₂ PieceText pieces texts ∧ cs = texts.flatten ++ '"' :: rest := by
  fun_induction readPieces cs generalizing pieces with
  | case1 => cases read
  | case2 cs =>
    cases read
    exact ⟨[],.nil,rfl⟩
  | case3 a b c d cs ih =>
    obtain ⟨code,digits,read⟩ := Option.bind_eq_some_iff.mp read
    obtain ⟨⟨more,left⟩,behind,same⟩ := Option.bind_eq_some_iff.mp read
    cases same
    obtain ⟨texts,all,rfl⟩ := ih behind
    exact ⟨_ :: texts,.cons (.unit digits) all,rfl⟩
  | case4 letter cs _ ih =>
    obtain ⟨c,escape,read⟩ := Option.bind_eq_some_iff.mp read
    obtain ⟨⟨more,left⟩,behind,same⟩ := Option.bind_eq_some_iff.mp read
    cases same
    obtain ⟨texts,all,rfl⟩ := ih behind
    exact ⟨_ :: texts,.cons (.letter escape) all,rfl⟩
  | case5 => cases read
  | case6 c cs noQuote _ noLetter visible ih =>
    obtain ⟨⟨more,left⟩,behind,same⟩ := Option.bind_eq_some_iff.mp read
    cases same
    have noEscape : c ≠ '\\' := by
      rintro rfl
      cases cs with
      | nil => cases behind
      | cons letter cs => exact noLetter letter cs rfl rfl
    obtain ⟨texts,all,rfl⟩ := ih behind
    exact ⟨_ :: texts,.cons (.plain noQuote noEscape visible) all,rfl⟩

theorem StringText.read {value : Option String} {text before : List Char} (string : StringText value text)
    (blank : AllBlank before) (rest : List Char) : readString (before ++ text ++ rest) = some (value,rest) := by
  obtain ⟨all⟩ := string
  rename_i pieces texts
  have opened : readMark '"' (before ++ '"' :: (texts.flatten ++ '"' :: rest)) = some (texts.flatten ++ '"' :: rest) :=
    readMark_behind rfl blank _
  unfold readString
  simp [opened,readPieces_texts all rest]

theorem string_of_readString {cs rest : List Char} {value : Option String}
    (read : readString cs = some (value,rest)) :
    ∃ before text, AllBlank before ∧ StringText value text ∧ cs = before ++ text ++ rest := by
  obtain ⟨content,opened,read⟩ := Option.bind_eq_some_iff.mp read
  obtain ⟨⟨pieces,left⟩,found,same⟩ := Option.bind_eq_some_iff.mp read
  cases same
  obtain ⟨before,blank,rfl⟩ := readMark_eq_some opened
  obtain ⟨texts,all,rfl⟩ := texts_of_readPieces found
  exact ⟨before,_,blank,.intro all,by simp⟩

/-! ### The start of a text -/

/-- How the text of a value can start. -/
structure Opens (c : Char) : Prop where
  visible : isBlank c = false
  noClose : c ≠ ']'

private theorem opens_number {c : Char} (first : c = '-' ∨ c.isDigit = true) : Opens c := by
  have numeric : Numeral.isNumeric c = true := by
    rcases first with same | digit
    · rw [same]
      rfl
    · simp [Numeral.isNumeric,digit]
  refine ⟨Numeral.isBlank_eq_false_of_isNumeric numeric,?_⟩
  rintro rfl
  exact absurd numeric (by decide)

theorem Spelled.head {j : Json} {text : List Char} (spelled : Spelled j text) :
    ∃ c tail, text = c :: tail ∧ Opens c := by
  cases spelled with
  | number spells unpadded =>
    obtain ⟨c,tail,same,first⟩ := spells.head
    exact ⟨c,tail,same,opens_number first⟩
  | text string =>
    obtain ⟨all⟩ := string
    exact ⟨_,_,rfl,by decide,by decide⟩
  | _ => exact ⟨_,_,rfl,by decide,by decide⟩

/-- No text of a value closes an array. -/
theorem Padded.unclosed {j : Json} {text : List Char} (padded : Padded j text) (rest : List Char) :
    readMark ']' (text ++ rest) = none := by
  obtain ⟨blank,spelled,clear⟩ := padded
  obtain ⟨c,tail,rfl,opens⟩ := spelled.head
  simp only [List.append_assoc,List.cons_append]
  exact readMark_other opens.noClose opens.visible blank _

private theorem elements_unclosed {elements : List Json} {texts : List (List Char)} (some : elements ≠ [])
    (all : List.Forall₂ Padded elements texts) (rest : List Char) :
    readMark ']' ([','].intercalate texts ++ rest) = none := by
  cases all with
  | nil => exact absurd rfl some
  | cons padded others =>
    rw [intercalate_cons,List.append_assoc]
    exact padded.unclosed _

private theorem members_unclosed {members : List (Option String × Json)} {texts : List (List Char)}
    (some : members ≠ []) (all : List.Forall₂ MemberText members texts) (rest : List Char) :
    readMark '}' ([','].intercalate texts ++ rest) = none := by
  cases all with
  | nil => exact absurd rfl some
  | cons spelled others =>
    obtain ⟨blank,string,gap,padded⟩ := spelled
    obtain ⟨all⟩ := string
    rw [intercalate_cons]
    simp only [List.append_assoc,List.cons_append]
    exact readMark_other (by decide) rfl blank _

/-! ### Texts are read -/

theorem readValue_blanks {blanks : List Char} (blank : AllBlank blanks) (bound : Nat) (cs : List Char) :
    readValue bound (blanks ++ cs) = readValue bound cs := by
  cases bound with
  | zero => rfl
  | succ bound => rw [readValue,readValue,skipBlanks_append blank]

private theorem boundary_cons {c : Char} (foreign : c.isDigit = false ∧ c ≠ '.' ∧ c ≠ 'e' ∧ c ≠ 'E')
    (rest : List Char) : Numeral.Boundary (c :: rest) := by
  intro d first
  cases first
  exact foreign

/-- What a mark ends does not go on as a number. -/
private theorem boundary_behind {blanks : List Char} (blank : AllBlank blanks) {rest : List Char}
    (boundary : Numeral.Boundary rest) : Numeral.Boundary (blanks ++ rest) := by
  cases blanks with
  | nil => exact boundary
  | cons c blanks =>
    have outside : ∀ d ∈ [' ','\t','\r','\n'], d.isDigit = false ∧ d ≠ '.' ∧ d ≠ 'e' ∧ d ≠ 'E' := by simp
    exact boundary_cons (outside c (isBlank_iff.mp (blank c (by simp)))) _

theorem readNumber_spelled {token : Numeral} {text rest : List Char} (spells : token.Spells text)
    (unpadded : Unpadded token) (boundary : Numeral.Boundary rest) :
    readNumber (text ++ rest) = some (.number token,rest) := by
  have padded : ¬ (token.whole.head? = some '0' ∧ 1 < token.whole.length) := by
    intro ⟨zero,long⟩
    have short := unpadded zero
    omega
  rw [readNumber,spells.read boundary]
  exact if_neg padded

theorem readValue_number {token : Numeral} {text rest : List Char} (spells : token.Spells text)
    (unpadded : Unpadded token) (bound : Nat) (boundary : Numeral.Boundary rest) :
    readValue (bound + 1) (text ++ rest) = some (.number token,rest) := by
  have read := readNumber_spelled spells unpadded boundary
  obtain ⟨c,tail,rfl,first⟩ := spells.head
  rw [List.cons_append] at read ⊢
  generalize tail ++ rest = cs at read ⊢
  rw [readValue,skipBlanks_cons _ (opens_number first).visible]
  split
  case h_7 => exact read
  all_goals
    rename_i same
    cases same
    exact absurd first (by decide)

/-- With this bound, the texts of values are read. -/
def ReadsWithin (bound : Nat) : Prop :=
  ∀ j text rest, Spelled j text → text.length ≤ bound → Numeral.Boundary rest →
    readValue bound (text ++ rest) = some (j,rest)

theorem ReadsWithin.padded {bound : Nat} (reads : ReadsWithin bound) {j : Json} {text : List Char}
    (padded : Padded j text) (enough : text.length ≤ bound) (rest : List Char) (boundary : Numeral.Boundary rest) :
    ∃ after, AllBlank after ∧ readValue bound (text ++ rest) = some (j,after ++ rest) := by
  obtain ⟨blank,spelled,clear⟩ := padded
  rename_i before text after
  rw [List.length_append,List.length_append] at enough
  refine ⟨after,clear,?_⟩
  rw [List.append_assoc,List.append_assoc,readValue_blanks blank]
  exact reads j text _ spelled (by omega) (boundary_behind clear boundary)

private theorem readElements_texts {bound : Nat} (reads : ∀ b < bound, ReadsWithin b) {elements : List Json}
    {texts : List (List Char)} (some : elements ≠ []) (all : List.Forall₂ Padded elements texts)
    (enough : ([','].intercalate texts).length < bound) (rest : List Char) :
    readElements bound ([','].intercalate texts ++ ']' :: rest) = .some (elements,rest) := by
  induction all generalizing bound with
  | nil => exact absurd rfl some
  | @cons j text elements texts padded others ih =>
    obtain ⟨bound,rfl⟩ := Nat.exists_eq_succ_of_ne_zero (Nat.ne_zero_of_lt enough)
    have within := reads bound (Nat.lt_succ_self bound)
    cases others with
    | nil =>
      rw [List.intercalate_singleton] at enough ⊢
      obtain ⟨after,clear,read⟩ := within.padded padded (by omega) (']' :: rest) (boundary_cons (by decide) _)
      have alone : readMark ',' (after ++ ']' :: rest) = none := readMark_other (by decide) rfl clear _
      have closed : readMark ']' (after ++ ']' :: rest) = .some rest := readMark_behind rfl clear _
      simp [readElements,read,alone,closed]
    | @cons k next more texts following others =>
      rw [List.intercalate_cons_cons] at enough ⊢
      generalize [','].intercalate (next :: texts) = tail at enough ih ⊢
      simp only [List.length_append,List.length_singleton] at enough
      obtain ⟨after,clear,read⟩ := within.padded padded (by omega) (',' :: (tail ++ ']' :: rest))
        (boundary_cons (by decide) _)
      have marked : readMark ',' (after ++ ',' :: (tail ++ ']' :: rest)) = .some (tail ++ ']' :: rest) :=
        readMark_behind rfl clear _
      have behind : readElements bound (tail ++ ']' :: rest) = .some (k :: more,rest) :=
        ih (fun b small => reads b (by omega)) (by simp) (by omega)
      simp [readElements,read,marked,behind]

private theorem readMembers_texts {bound : Nat} (reads : ∀ b < bound, ReadsWithin b)
    {members : List (Option String × Json)} {texts : List (List Char)} (some : members ≠ [])
    (all : List.Forall₂ MemberText members texts) (enough : ([','].intercalate texts).length < bound)
    (rest : List Char) : readMembers bound ([','].intercalate texts ++ '}' :: rest) = .some (members,rest) := by
  induction all generalizing bound with
  | nil => exact absurd rfl some
  | @cons m text members texts spelled others ih =>
    obtain ⟨bound,rfl⟩ := Nat.exists_eq_succ_of_ne_zero (Nat.ne_zero_of_lt enough)
    have within := reads bound (Nat.lt_succ_self bound)
    obtain ⟨blank,string,gap,padded⟩ := spelled
    rename_i before quoted between behind name j
    have named (cs : List Char) := string.read blank (between ++ ':' :: cs)
    have colon (cs : List Char) : readMark ':' (between ++ ':' :: cs) = .some cs := readMark_behind rfl gap _
    cases others with
    | nil =>
      rw [List.intercalate_singleton] at enough ⊢
      simp only [List.length_append,List.length_cons] at enough
      obtain ⟨after,clear,read⟩ := within.padded padded (by omega) ('}' :: rest) (boundary_cons (by decide) _)
      have alone : readMark ',' (after ++ '}' :: rest) = none := readMark_other (by decide) rfl clear _
      have closed : readMark '}' (after ++ '}' :: rest) = .some rest := readMark_behind rfl clear _
      simp only [List.append_assoc,List.cons_append] at named ⊢
      simp [readMembers,named,colon,read,alone,closed]
    | @cons n next more texts following others =>
      rw [List.intercalate_cons_cons] at enough ⊢
      generalize [','].intercalate (next :: texts) = tail at enough ih ⊢
      simp only [List.length_append,List.length_cons] at enough
      obtain ⟨after,clear,read⟩ := within.padded padded (by omega) (',' :: (tail ++ '}' :: rest))
        (boundary_cons (by decide) _)
      have marked : readMark ',' (after ++ ',' :: (tail ++ '}' :: rest)) = .some (tail ++ '}' :: rest) :=
        readMark_behind rfl clear _
      have others : readMembers bound (tail ++ '}' :: rest) = .some (n :: more,rest) :=
        ih (fun b small => reads b (by omega)) (by simp) (by omega)
      simp only [List.append_assoc,List.cons_append,List.nil_append] at named ⊢
      simp [readMembers,named,colon,read,marked,others]

/-- The text of a container is longer than the texts in it, and so the length of a text bounds the depth. -/
theorem readsWithin (bound : Nat) : ReadsWithin bound := by
  induction bound using Nat.strongRecOn with
  | ind bound ih =>
    intro j text rest spelled enough boundary
    obtain ⟨c,tail,same,opens⟩ := spelled.head
    obtain ⟨bound,rfl⟩ := Nat.exists_eq_succ_of_ne_zero (n := bound) (by rw [same] at enough; simp at enough; omega)
    have within : ∀ b < bound, ReadsWithin b := fun b small => ih b (Nat.lt_succ_of_lt small)
    cases spelled with
    | null => rfl
    | yes => rfl
    | no => rfl
    | number spells unpadded => exact readValue_number spells unpadded bound boundary
    | text string =>
      have read := string.read allBlank_nil rest
      obtain ⟨all⟩ := string
      rw [List.nil_append,List.cons_append] at read
      rw [Nat.succ_eq_add_one,List.cons_append,readValue,skipBlanks_cons _ (by decide)]
      simp only
      rw [read]
      rfl
    | noElements blank =>
      have closed : readMark ']' (_ ++ ']' :: rest) = some rest := readMark_behind rfl blank _
      simp [readValue,skipBlanks_cons,isBlank,closed]
    | noMembers blank =>
      have closed : readMark '}' (_ ++ '}' :: rest) = some rest := readMark_behind rfl blank _
      simp [readValue,skipBlanks_cons,isBlank,closed]
    | @array elements texts some all =>
      simp only [List.length_cons,List.length_append] at enough
      have read := readElements_texts within some all (by omega) rest
      have unclosed := elements_unclosed some all (']' :: rest)
      simp [readValue,skipBlanks_cons,isBlank,unclosed,read]
    | @object members texts some all =>
      simp only [List.length_cons,List.length_append] at enough
      have read := readMembers_texts within some all (by omega) rest
      have unclosed := members_unclosed some all ('}' :: rest)
      simp [readValue,skipBlanks_cons,isBlank,unclosed,read]

/-! ### What is read is spelled -/

/-- With this bound, only the texts of values are read. -/
def FindsWithin (bound : Nat) : Prop := ∀ cs j rest, readValue bound cs = some (j,rest) →
  ∃ before text, AllBlank before ∧ Spelled j text ∧ cs = before ++ text ++ rest

theorem number_of_readNumber {cs rest : List Char} {j : Json} (read : readNumber cs = some (j,rest)) :
    ∃ text, Spelled j text ∧ cs = text ++ rest := by
  obtain ⟨⟨token,left⟩,found,read⟩ := Option.bind_eq_some_iff.mp read
  dsimp only at read
  split at read
  · cases read
  · rename_i padded
    cases read
    obtain ⟨text,split,spells⟩ := Numeral.spells_of_read found
    refine ⟨text,.number spells fun zero => ?_,split⟩
    by_contra long
    exact padded ⟨zero,by omega⟩

/-- What is read in front of a mark has its blanks around it. -/
private theorem FindsWithin.padded {bound : Nat} (finds : FindsWithin bound) {cs left rest : List Char} {j : Json}
    {mark : Char} (read : readValue bound cs = some (j,left)) (marked : readMark mark left = some rest) :
    ∃ text, Padded j text ∧ cs = text ++ mark :: rest := by
  obtain ⟨before,text,blank,spelled,rfl⟩ := finds _ _ _ read
  obtain ⟨after,clear,rfl⟩ := readMark_eq_some marked
  exact ⟨_,.intro blank spelled clear,by simp⟩

private theorem texts_of_readElements {bound : Nat} (finds : ∀ b < bound, FindsWithin b) {cs rest : List Char}
    {elements : List Json} (read : readElements bound cs = some (elements,rest)) :
    ∃ texts, elements ≠ [] ∧ List.Forall₂ Padded elements texts ∧ cs = [','].intercalate texts ++ ']' :: rest := by
  induction bound generalizing cs elements with
  | zero => cases read
  | succ bound ih =>
    have within := finds bound (Nat.lt_succ_self bound)
    obtain ⟨⟨j,left⟩,found,read⟩ := Option.bind_eq_some_iff.mp read
    dsimp only at read
    split at read
    · rename_i more marked
      obtain ⟨⟨elements,last⟩,others,same⟩ := Option.bind_eq_some_iff.mp read
      cases same
      obtain ⟨text,padded,rfl⟩ := within.padded found marked
      obtain ⟨texts,some,all,rfl⟩ := ih (fun b small => finds b (by omega)) others
      refine ⟨text :: texts,by simp,.cons padded all,?_⟩
      cases all with
      | nil => exact absurd rfl some
      | cons next all => simp [List.intercalate_cons_cons]
    · obtain ⟨last,closed,same⟩ := Option.bind_eq_some_iff.mp read
      cases same
      obtain ⟨text,padded,rfl⟩ := within.padded found closed
      exact ⟨[text],by simp,.cons padded .nil,by simp⟩

private theorem texts_of_readMembers {bound : Nat} (finds : ∀ b < bound, FindsWithin b) {cs rest : List Char}
    {members : List (Option String × Json)} (ok : readMembers bound cs = some (members,rest)) :
    ∃ texts, members ≠ [] ∧ List.Forall₂ MemberText members texts ∧ cs = [','].intercalate texts ++ '}' :: rest := by
  induction bound generalizing cs members with
  | zero => cases ok
  | succ bound ih =>
    have within := finds bound (Nat.lt_succ_self bound)
    obtain ⟨⟨name,behind⟩,named,ok⟩ := Option.bind_eq_some_iff.mp ok
    obtain ⟨value,colon,ok⟩ := Option.bind_eq_some_iff.mp ok
    obtain ⟨⟨j,left⟩,found,read⟩ := Option.bind_eq_some_iff.mp ok
    dsimp only at colon read
    obtain ⟨before,quoted,blank,string,rfl⟩ := string_of_readString named
    obtain ⟨between,gap,rfl⟩ := readMark_eq_some colon
    split at read
    · rename_i more marked
      obtain ⟨⟨members,last⟩,others,same⟩ := Option.bind_eq_some_iff.mp read
      cases same
      obtain ⟨text,padded,rfl⟩ := within.padded found marked
      obtain ⟨texts,some,all,rfl⟩ := ih (fun b small => finds b (by omega)) others
      refine ⟨_,by simp,.cons (.intro blank string gap padded) all,?_⟩
      cases all with
      | nil => exact absurd rfl some
      | cons next all => simp [List.intercalate_cons_cons]
    · obtain ⟨last,closed,same⟩ := Option.bind_eq_some_iff.mp read
      cases same
      obtain ⟨text,padded,rfl⟩ := within.padded found closed
      exact ⟨_,by simp,.cons (.intro blank string gap padded) .nil,by simp⟩

theorem findsWithin (bound : Nat) : FindsWithin bound := by
  induction bound using Nat.strongRecOn with
  | ind bound ih =>
    intro cs j rest read
    cases bound with
    | zero => cases read
    | succ bound =>
      have within : ∀ b < bound, FindsWithin b := fun b small => ih b (Nat.lt_succ_of_lt small)
      obtain ⟨before,blank,split⟩ := skipBlanks_split cs
      suffices spelled : ∃ text, Spelled j text ∧ skipBlanks cs = text ++ rest by
        obtain ⟨text,spelled,same⟩ := spelled
        exact ⟨before,text,blank,spelled,by rw [split,same,List.append_assoc]⟩
      rw [readValue] at read
      split at read
      · rename_i same
        cases read
        exact ⟨_,.null,same⟩
      · rename_i same
        cases read
        exact ⟨_,.yes,same⟩
      · rename_i same
        cases read
        exact ⟨_,.no,same⟩
      · rename_i content same
        obtain ⟨⟨value,left⟩,found,read⟩ := Option.map_eq_some_iff.mp read
        cases read
        obtain ⟨others,text,none,string,behind⟩ := string_of_readString found
        cases others with
        | nil => exact ⟨text,.text string,by rw [same,behind,List.nil_append]⟩
        | cons c others =>
          -- A quote is no blank.
          obtain ⟨rfl,-⟩ := List.cons.inj behind
          exact absurd (none '"' (by simp)) (by decide)
      · rename_i content same
        rw [same]
        split at read
        · rename_i left closed
          cases read
          obtain ⟨blanks,clear,rfl⟩ := readMark_eq_some closed
          exact ⟨_,.noElements clear,by simp⟩
        · obtain ⟨⟨elements,left⟩,found,read⟩ := Option.map_eq_some_iff.mp read
          cases read
          obtain ⟨texts,some,all,rfl⟩ := texts_of_readElements within found
          exact ⟨_,.array some all,by simp⟩
      · rename_i content same
        rw [same]
        split at read
        · rename_i left closed
          cases read
          obtain ⟨blanks,clear,rfl⟩ := readMark_eq_some closed
          exact ⟨_,.noMembers clear,by simp⟩
        · obtain ⟨⟨members,left⟩,found,read⟩ := Option.map_eq_some_iff.mp read
          cases read
          obtain ⟨texts,some,all,rfl⟩ := texts_of_readMembers within found
          exact ⟨_,.object some all,by simp⟩
      · exact number_of_readNumber read

/-! ### Whole texts -/

/-- A text is read if the grammar has it, and then as the only tree that it is a text of. -/
theorem ofText?_eq_some {text : String} {j : Json} : ofText? text = some j ↔ Padded j text.toList := by
  unfold ofText?
  dsimp only
  constructor
  · intro read
    split at read
    · rename_i value rest found
      split at read
      · rename_i ending
        cases read
        obtain ⟨before,inner,blank,spelled,same⟩ := findsWithin _ _ _ _ found
        rw [same]
        exact .intro blank spelled (skipBlanks_eq_nil.mp (by simpa using ending))
      · cases read
    · cases read
  · generalize text.toList = cs
    intro padded
    obtain ⟨after,clear,read⟩ := (readsWithin (cs.length + 1)).padded padded (by omega) [] (by simp [Numeral.Boundary])
    rw [List.append_nil,List.append_nil] at read
    simp [read,skipBlanks_eq_nil.mpr clear]

end SpatialFilter.Json
