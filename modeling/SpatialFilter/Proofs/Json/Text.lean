import SpatialFilter.Proofs.Json.Grammar

/-! JSON texts that are read back. Whatever a tree is, if its strings and names are texts and its
number tokens are well-formed, its text is one of those that the grammar has for it. So different trees
have different texts. -/
namespace SpatialFilter.Json

/-! ### Strings -/

/-- A character is read as itself, or by its number if it is a control character. -/
inductive Denotes : Piece → Char → Prop where
  | plain (c : Char) : Denotes (.plain c) c
  | unit {c : Char} (control : c.toNat < 32) : Denotes (.unit c.toNat) c

private theorem hexValue_hexPair : ∀ n < 32, hexValue? (['0','0'] ++ hexPair n) = some n := by
  decide

theorem escape_spelled (c : Char) : ∃ piece, Denotes piece c ∧ PieceText piece (escape c) := by
  unfold escape
  split
  case h_8 noQuote noEscape _ _ _ _ _ =>
    split
    · rename_i control
      exact ⟨_,.unit control,.unit (hexValue_hexPair _ control)⟩
    · rename_i visible
      exact ⟨_,.plain c,.plain noQuote noEscape visible⟩
  all_goals exact ⟨_,.plain _,.letter rfl⟩

private theorem joinPairs_unit {code : Nat} (control : code < 32) (pieces : List Piece) :
    joinPairs (.unit code :: pieces) = (joinPairs pieces).map (Char.ofNat code :: ·) := by
  have noHigh : isHighSurrogate code = false := by
    simp [isHighSurrogate]
    omega
  have noLow : isLowSurrogate code = false := by
    simp [isLowSurrogate]
    omega
  cases pieces with
  | nil => simp [joinPairs,noHigh,noLow]
  | cons piece rest =>
    cases piece with
    | plain c => simp [joinPairs,noHigh,noLow,Function.comp_def]
    | unit next => simp [joinPairs,noHigh,noLow]

theorem joinPairs_denotes {piece : Piece} {c : Char} (denotes : Denotes piece c) (pieces : List Piece) :
    joinPairs (piece :: pieces) = (joinPairs pieces).map (c :: ·) := by
  cases denotes with
  | plain c => rfl
  | unit control => rw [joinPairs_unit control,Char.ofNat_toNat]

private theorem flatMap_escape_spelled (cs : List Char) : ∃ pieces texts,
    List.Forall₂ PieceText pieces texts ∧ texts.flatten = cs.flatMap escape ∧ joinPairs pieces = some cs := by
  induction cs with
  | nil => exact ⟨[],[],.nil,rfl,rfl⟩
  | cons c cs ih =>
    obtain ⟨pieces,texts,all,flat,joined⟩ := ih
    obtain ⟨piece,denotes,spelled⟩ := escape_spelled c
    refine ⟨piece :: pieces,escape c :: texts,.cons spelled all,?_,?_⟩
    · rw [List.flatten_cons,flat,List.flatMap_cons]
    · rw [joinPairs_denotes denotes,joined]
      rfl

theorem writeString_spelled (s : String) : StringText (some s) (writeString s) := by
  obtain ⟨pieces,texts,all,flat,joined⟩ := flatMap_escape_spelled s.toList
  have string := StringText.intro all
  rwa [joined,flat,Option.map_some,String.ofList_toList] at string

/-! ### Trees -/

/-- A token without a needless zero in front. -/
structure Plain (token : Numeral) : Prop where
  wellFormed : token.WellFormed
  unpadded : Unpadded token

/-- Trees of which everything stands in their text. -/
inductive Legible : Json → Prop where
  | null : Legible .null
  | bool (value : Bool) : Legible (.bool value)
  | number {token : Numeral} (plain : Plain token) : Legible (.number token)
  | text (s : String) : Legible (.text (some s))
  | array {elements : List Json} (all : ∀ j ∈ elements, Legible j) : Legible (.array elements)
  | object {members : List (Option String × Json)} (named : ∀ m ∈ members, m.1.isSome = true)
      (all : ∀ m ∈ members, Legible m.2) : Legible (.object members)

theorem Spelled.bare {j : Json} {text : List Char} (spelled : Spelled j text) : Padded j text := by
  have padded := Padded.intro allBlank_nil spelled allBlank_nil
  rwa [List.nil_append,List.append_nil] at padded

theorem writeElements_eq (elements : List Json) : writeElements elements = [','].intercalate (elements.map write) := by
  induction elements with
  | nil => rfl
  | cons j more ih =>
    cases more with
    | nil => simp [writeElements]
    | cons k more => simp [writeElements,ih,List.intercalate_cons_cons]

def writeMember (m : Option String × Json) : List Char := writeString (m.1.getD "") ++ ':' :: m.2.write

theorem writeMembers_eq (members : List (Option String × Json)) :
    writeMembers members = [','].intercalate (members.map writeMember) := by
  induction members with
  | nil => rfl
  | cons m more ih =>
    obtain ⟨name,value⟩ := m
    cases more with
    | nil => simp [writeMembers,writeMember]
    | cons other more => simp [writeMembers,ih,writeMember,List.intercalate_cons_cons]

theorem writeMember_spelled {m : Option String × Json} (named : m.1.isSome = true) (spelled : Spelled m.2 m.2.write) :
    MemberText m (writeMember m) := by
  obtain ⟨name,value⟩ := m
  obtain ⟨name,rfl⟩ := Option.isSome_iff_exists.mp named
  have member := MemberText.intro allBlank_nil (writeString_spelled name) allBlank_nil spelled.bare
  simpa [writeMember] using member

/-- The text of a tree is one of those that the grammar has for it. -/
theorem Legible.spelled {j : Json} (legible : Legible j) : Spelled j j.write := by
  induction legible with
  | null => exact .null
  | bool value =>
    cases value
    · exact .no
    · exact .yes
  | number plain => exact .number ⟨plain.wellFormed,'e',.inl rfl,Numeral.text_eq_spelling _⟩ plain.unpadded
  | text s => exact .text (writeString_spelled s)
  | @array elements all spelled =>
    by_cases none : elements = []
    · subst none
      exact .noElements allBlank_nil
    · rw [write,writeElements_eq]
      apply Spelled.array none
      rw [List.forall₂_map_right_iff,List.forall₂_same]
      exact fun j member => (spelled j member).bare
  | @object members named all spelled =>
    by_cases none : members = []
    · subst none
      exact .noMembers allBlank_nil
    · rw [write,writeMembers_eq]
      apply Spelled.object none
      rw [List.forall₂_map_right_iff,List.forall₂_same]
      exact fun m member => writeMember_spelled (named m member) (spelled m member)

theorem ofText?_write {j : Json} (legible : Legible j) : ofText? (String.ofList j.write) = some j := by
  rw [ofText?_eq_some,String.toList_ofList]
  exact legible.spelled.bare

/-- Trees with the same text are the same. -/
theorem write_injective {j k : Json} (legible : Legible j) (other : Legible k) (same : j.write = k.write) :
    j = k := by
  have first := ofText?_write legible
  rw [same,ofText?_write other] at first
  exact (Option.some.inj first).symm

end SpatialFilter.Json
