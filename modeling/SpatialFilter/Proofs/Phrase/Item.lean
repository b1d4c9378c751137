import SpatialFilter.Proofs.Phrase.Geometry

/-! Items of a predicate. A group is read as its geometry, and a name as a property because no group
opens behind it. -/
namespace SpatialFilter
namespace Phrase

/-! ### Names -/

private theorem isNamePart_of_isNameStart {c : Char} (start : isNameStart c = true) : isNamePart c = true := by
  simp only [isNameStart,Bool.or_eq_true] at start
  rcases start with letter | underscore
  · simp [isNamePart,Char.isAlphanum,letter]
  · simp only [decide_eq_true_eq] at underscore
    subst underscore
    rfl

theorem isAlpha_eq_false_of_isDigit {c : Char} (digit : c.isDigit = true) : c.isAlpha = false := by
  obtain ⟨-,most⟩ := Char.isDigit_iff_toNat.mp digit
  have below : c.val ≤ '9'.val := UInt32.le_iff_toNat_le.mpr most
  have upper : ¬ c.val ≥ 'A'.val := fun above => absurd (UInt32.le_trans above below) (by decide)
  have lower : ¬ c.val ≥ 'a'.val := fun above => absurd (UInt32.le_trans above below) (by decide)
  change (decide (c.val ≥ 'A'.val ∧ c.val ≤ 'Z'.val) || (decide (c.val ≥ 'a'.val) && _)) = false
  rw [decide_eq_false fun both => upper both.1,decide_eq_false lower]
  rfl

private theorem not_isNameStart_of_isDigit {c : Char} (digit : c.isDigit = true) : isNameStart c = false := by
  rw [isNameStart,isAlpha_eq_false_of_isDigit digit,Bool.false_or,decide_eq_false_iff_not]
  rintro rfl
  exact absurd digit (by decide)

theorem readName_append {name : List Char} (isName : IsName name) {rest : List Char}
    (boundary : ∀ c ∈ rest.head?, isNamePart c = false) : readName (name ++ rest) = some (name,rest) := by
  obtain ⟨first,more,rfl,start,parts⟩ := isName
  simp [readName,start,takeWhile_run parts boundary,dropWhile_run parts boundary]

theorem isName_of_readName {cs name rest : List Char} (ok : readName cs = some (name,rest)) :
    cs = name ++ rest ∧ IsName name := by
  unfold readName at ok
  split at ok
  · cases ok
  · rename_i first more
    split at ok
    · rename_i start
      cases ok
      refine ⟨by simp [List.takeWhile_append_dropWhile],first,_,rfl,start,?_⟩
      exact fun c member => List.mem_takeWhile_imp member
    · cases ok

/-- What cannot continue the name of a property. -/
def NameBoundary (rest : List Char) : Prop := ∀ c ∈ rest.head?, isNamePart c = false ∧ c ≠ ':'

theorem readProperty_plain {cs name rest : List Char} (read : readName cs = some (name,rest))
    (other : ¬ ∃ more, rest = ':' :: more) : readProperty cs = some (name,rest) := by
  unfold readProperty
  rw [read]
  dsimp only [Option.bind_eq_bind,Option.bind_some]
  split
  · exact absurd ⟨_,rfl⟩ other
  · rfl

theorem readProperty_append {name : List Char} (isName : IsPropertyName name) {rest : List Char}
    (boundary : NameBoundary rest) : readProperty (name ++ rest) = some (name,rest) := by
  have behind : ∀ c ∈ rest.head?, isNamePart c = false := fun c first => (boundary c first).1
  rcases isName with plain | ⟨qualifier,localName,rfl,isQualifier,isLocal⟩
  · have read := readName_append plain behind
    unfold readProperty
    rw [read]
    cases rest with
    | nil => rfl
    | cons c rest => simp [(boundary c rfl).2]
  · have colon : ∀ c ∈ (':' :: (localName ++ rest)).head?, isNamePart c = false := by
      rintro c ⟨⟩
      rfl
    have first := readName_append isQualifier colon
    have second := readName_append isLocal behind
    simp [readProperty,first,second]

theorem isPropertyName_of_readProperty {cs name rest : List Char} (ok : readProperty cs = some (name,rest)) :
    cs = name ++ rest ∧ IsPropertyName name := by
  obtain ⟨⟨qualifier,behind⟩,qualifierRead,read⟩ := Option.bind_eq_some_iff.mp ok
  obtain ⟨rfl,isQualifier⟩ := isName_of_readName qualifierRead
  dsimp only at read
  split at read
  · rename_i more
    split at read
    · rename_i localName left localRead
      cases read
      obtain ⟨rfl,isLocal⟩ := isName_of_readName localRead
      exact ⟨by simp,.inr ⟨qualifier,localName,rfl,isQualifier,isLocal⟩⟩
    · cases read
      exact ⟨rfl,.inl isQualifier⟩
  · cases read
    exact ⟨rfl,.inl isQualifier⟩

private theorem name_characters {name : List Char} (isName : IsPropertyName name) :
    ∀ c ∈ name, isNamePart c = true ∨ c = ':' := by
  have plain {cs : List Char} (named : IsName cs) : ∀ c ∈ cs, isNamePart c = true := by
    obtain ⟨first,more,rfl,start,parts⟩ := named
    intro c member
    rcases List.mem_cons.mp member with rfl | inside
    · exact isNamePart_of_isNameStart start
    · exact parts c inside
  rcases isName with named | ⟨qualifier,localName,rfl,isQualifier,isLocal⟩
  · exact fun c member => .inl (plain named c member)
  · intro c member
    simp only [List.mem_append,List.mem_cons] at member
    rcases member with inside | rfl | inside
    · exact .inl (plain isQualifier c inside)
    · exact .inr rfl
    · exact .inl (plain isLocal c inside)

private theorem name_head {name : List Char} (isName : IsPropertyName name) :
    ∃ c tail, name = c :: tail ∧ isNameStart c = true := by
  rcases isName with ⟨first,more,rfl,start,-⟩ | ⟨qualifier,localName,rfl,⟨first,more,rfl,start,-⟩,-⟩
  · exact ⟨first,more,rfl,start⟩
  · exact ⟨first,_,rfl,start⟩

private theorem isBlank_eq_false_of_isNamePart {c : Char} (part : isNamePart c = true) : isBlank c = false :=
  isBlank_eq_false (by simp [isNamePart]) part

/-! ### What follows an item -/

/-- The next visible character separates items or ends them. -/
def ItemBoundary (rest : List Char) : Prop :=
  ∃ blanks c more, AllBlank blanks ∧ (c = ',' ∨ c = ')') ∧ rest = blanks ++ c :: more

theorem ItemBoundary.head {rest : List Char} (boundary : ItemBoundary rest) :
    ∀ c ∈ rest.head?, isBlank c = true ∨ c = ',' ∨ c = ')' := by
  obtain ⟨blanks,c,more,blank,mark,rfl⟩ := boundary
  cases blanks with
  | nil =>
    rintro _ ⟨⟩
    exact .inr mark
  | cons d blanks =>
    rintro _ ⟨⟩
    exact .inl (blank d (by simp))

theorem ItemBoundary.nameBoundary {rest : List Char} (boundary : ItemBoundary rest) : NameBoundary rest := by
  intro c first
  rcases boundary.head c first with blank | rfl | rfl
  · constructor
    · rw [Bool.eq_false_iff]
      intro part
      simp [isBlank_eq_false_of_isNamePart part] at blank
    · rintro rfl
      exact absurd blank (by decide)
  · decide
  · decide

private theorem ItemBoundary.not_isAlpha {rest : List Char} (boundary : ItemBoundary rest) :
    rest.dropWhile Char.isAlpha = rest := by
  cases rest with
  | nil => rfl
  | cons c rest =>
    have other : c.isAlpha = false := by
      rcases boundary.head c rfl with blank | rfl | rfl
      · by_contra letter
        simp [isBlank_eq_false_of_isAlpha (by simpa using letter)] at blank
      · rfl
      · rfl
    simp [other]

private theorem ItemBoundary.unopened {rest : List Char} (boundary : ItemBoundary rest) :
    readMark '(' rest = none := by
  obtain ⟨blanks,c,more,blank,rfl | rfl,rfl⟩ := boundary
  · exact readMark_other (by decide) rfl blank more
  · exact readMark_other (by decide) rfl blank more

/-- No group opens behind the letters of a name. -/
private theorem name_unopened {name : List Char} (characters : ∀ c ∈ name, isNamePart c = true ∨ c = ':')
    {rest : List Char} (boundary : ItemBoundary rest) :
    readMark '(' ((name ++ rest).dropWhile Char.isAlpha) = none := by
  -- Letters may still belong to a tag; the first other character decides.
  induction name with
  | nil =>
    rw [List.nil_append,boundary.not_isAlpha]
    exact boundary.unopened
  | cons c name ih =>
    cases letter : c.isAlpha
    · rw [List.cons_append,List.dropWhile_cons_of_neg (by simp [letter])]
      rcases characters c (by simp) with part | rfl
      · refine readMark_cons_other ?_ (isBlank_eq_false_of_isNamePart part) _
        rintro rfl
        exact absurd part (by decide)
      · exact readMark_cons_other (by decide) rfl _
    · rw [List.cons_append,List.dropWhile_cons_of_pos letter]
      exact ih fun d member => characters d (by simp [member])

theorem readGeometry_name {name : List Char} (isName : IsPropertyName name) {rest : List Char}
    (boundary : ItemBoundary rest) : readGeometry (name ++ rest) = none := by
  rw [Option.eq_none_iff_forall_ne_some]
  intro found read
  obtain ⟨phrase,left⟩ := found
  obtain ⟨g,split,-⟩ := group_of_readGeometry read
  have unopened := name_unopened (name_characters isName) boundary
  rw [split,text_append,dropWhile_run g.isTag.letters (not_isAlpha_behind_word g.isGap _),readMark_gap] at unopened
  cases unopened

end Phrase

/-! ### Items -/

namespace ItemForm

def item : ItemForm → Item
  | geometry group => .geometry group.phrase
  | property name => .property name.text

theorem toOperand_item (namespaces : Namespaces) (declaredType : ValueType) (i : ItemForm) :
    i.item.toOperand namespaces declaredType = i.evaluate namespaces declaredType := by
  cases i with
  | geometry group => rw [evaluate,readGeometry_groupText]; rfl
  | property name => rfl

theorem head (i : ItemForm) : ∃ c tail, i.text = c :: tail ∧ Phrase.isNameStart c = true := by
  cases i with
  | property name => exact Phrase.name_head name.isName
  | geometry group =>
    obtain ⟨c,tag,split⟩ := List.exists_cons_of_ne_nil group.isTag.nonempty
    have letter := group.isTag.letters c (by simp [split])
    exact ⟨c,_,by simp [text,GroupForm.text,split]; rfl,by simp [Phrase.isNameStart,letter]⟩

theorem skipBlanks_text {blanks : List Char} (blank : AllBlank blanks) (i : ItemForm) (rest : List Char) :
    skipBlanks (blanks ++ i.text ++ rest) = i.text ++ rest := by
  obtain ⟨c,tail,split,start⟩ := i.head
  have visible := Phrase.isBlank_eq_false_of_isNamePart (Phrase.isNamePart_of_isNameStart start)
  rw [split,List.append_assoc,List.cons_append,skipBlanks_behind blank visible]

end ItemForm

namespace Phrase

theorem readItem_form {blanks : List Char} (blank : AllBlank blanks) (i : ItemForm) {rest : List Char}
    (boundary : ItemBoundary rest) : readItem (blanks ++ i.text ++ rest) = some (i.item,rest) := by
  unfold readItem
  dsimp only
  rw [i.skipBlanks_text blank]
  cases i with
  | geometry group =>
    rw [ItemForm.text,readGeometry_group]
    rfl
  | property name =>
    rw [ItemForm.text,readGeometry_name name.isName boundary]
    rw [readProperty_append name.isName boundary.nameBoundary]
    rfl

theorem form_of_readItem {cs rest : List Char} {item : Item} (ok : readItem cs = some (item,rest)) :
    ∃ blanks i, AllBlank blanks ∧ cs = blanks ++ ItemForm.text i ++ rest ∧ item = i.item := by
  obtain ⟨blanks,blank,split⟩ := skipBlanks_split cs
  unfold readItem at ok
  dsimp only at ok
  split at ok
  · rename_i phrase left read
    cases ok
    obtain ⟨g,behind,rfl⟩ := group_of_readGeometry read
    exact ⟨blanks,.geometry g,blank,by rw [split,behind]; simp [ItemForm.text],rfl⟩
  · obtain ⟨⟨name,left⟩,read,same⟩ := Option.map_eq_some_iff.mp ok
    cases same
    obtain ⟨behind,isName⟩ := isPropertyName_of_readProperty read
    exact ⟨blanks,.property ⟨name,isName⟩,blank,by rw [split,behind]; simp [ItemForm.text],rfl⟩

theorem readNextItem_shortens : Shortens readNextItem := by
  intro cs item rest ok
  obtain ⟨behind,marked,read⟩ := Option.bind_eq_some_iff.mp ok
  obtain ⟨blanks,form,-,rfl,-⟩ := form_of_readItem read
  have shorter := length_of_readMark marked
  simp only [List.length_append] at shorter
  omega

/-- Numbers and items start with different characters. -/
theorem readItem_number {blanks : List Char} (blank : AllBlank blanks) {n : Numeral} {text : List Char}
    (spells : n.Spells text) (rest : List Char) : readItem (blanks ++ text ++ rest) = none := by
  rw [Option.eq_none_iff_forall_ne_some]
  intro found read
  obtain ⟨item,left⟩ := found
  obtain ⟨others,i,otherBlank,same,-⟩ := form_of_readItem read
  have skipped := congrArg skipBlanks same
  obtain ⟨c,tail,split,numeric⟩ := spells.head
  obtain ⟨d,more,itemSplit,start⟩ := i.head
  rw [spells.skipBlanks_text blank,i.skipBlanks_text otherBlank,split,itemSplit,List.cons_append,
    List.cons_append] at skipped
  obtain ⟨rfl,-⟩ := List.cons.inj skipped
  rcases numeric with rfl | digit
  · exact absurd start (by decide)
  · exact absurd start (by simp [not_isNameStart_of_isDigit digit])

end Phrase
end SpatialFilter
