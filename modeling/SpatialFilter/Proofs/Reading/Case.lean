import SpatialFilter.Proofs.Phrase.Case

/-! Meanings of texts in any case. Words are looked up without regard to the case of their letters, so texts that
differ in it alone mean the same up to the names of their properties, or have errors whose messages differ in it
alone. -/
namespace SpatialFilter

/-! ### Words -/

theorem sameLetters_congr {word other : List Char} (same : upper word = upper other) (name : List Char) :
    sameLetters name word = sameLetters name other := by
  rw [sameLetters,same,sameLetters]

theorem Operator.ofWord?_congr {word other : List Char} (same : upper word = upper other) :
    ofWord? word = ofWord? other := by
  simp only [ofWord?,sameLetters_congr same]

theorem UnsupportedKind.ofTag?_congr {tag other : List Char} (same : upper tag = upper other) :
    ofTag? tag = ofTag? other := by
  simp only [ofTag?,sameLetters_congr same]

/-! ### Meanings that differ at most in case -/

/-- Both texts do not fit the grammar, or both have a word without a meaning and their messages are the same up to
the case of letters. -/
inductive ReadError.SameUpToCase : ReadError → ReadError → Prop where
  | mismatch (found other : Mismatch) : SameUpToCase (.mismatch found) (.mismatch other)
  | meaningless {error other : ReadError} (fits : ∀ found, error ≠ .mismatch found)
      (alsoFits : ∀ found, other ≠ .mismatch found)
      (message : sameLetters error.message.toList other.message.toList = true) : SameUpToCase error other

/-- The same geometry, or properties whose names are the same up to the case of letters. -/
inductive Operand.SameUpToCase : Operand → Operand → Prop where
  | geometry (value : Geometry) : SameUpToCase (.geometry value) (.geometry value)
  | property {name other : String} (letters : sameLetters name.toList other.toList = true) (namespaces : Namespaces)
      (declaredType : ValueType) :
      SameUpToCase (.property ⟨name,namespaces,declaredType⟩) (.property ⟨other,namespaces,declaredType⟩)

structure Predicate.SameUpToCase (p q : Predicate) : Prop where
  operator : p.operator = q.operator
  operands : List.Forall₂ Operand.SameUpToCase p.operands q.operands
  distance : p.distance = q.distance

/-- Both texts have a meaning or both have none. -/
inductive ReadUpToCase {α : Type} (same : α → α → Prop) : Except ReadError α → Except ReadError α → Prop where
  | ok {value other : α} (alike : same value other) : ReadUpToCase same (.ok value) (.ok other)
  | error {error other : ReadError} (alike : error.SameUpToCase other) : ReadUpToCase same (.error error) (.error other)

namespace ReadError.SameUpToCase

theorem refl (error : ReadError) : SameUpToCase error error := by
  cases error with
  | mismatch found => exact .mismatch found found
  | _ => exact .meaningless (by simp) (by simp) (by simp [sameLetters])

theorem of_word {error other : ReadError} (fits : ∀ found, error ≠ .mismatch found)
    (alsoFits : ∀ found, other ≠ .mismatch found) {word also : List Char} (same : upper word = upper also) {text : String}
    (first : error.message = text ++ String.ofList word) (second : other.message = text ++ String.ofList also) :
    SameUpToCase error other := by
  apply meaningless fits alsoFits
  rw [sameLetters_iff,first,second,String.toList_append,String.toList_append,upper_append,upper_append,
    String.toList_ofList,String.toList_ofList,same]

theorem unknownOperator {word other : List Char} (same : upper word = upper other) :
    SameUpToCase (.unknownOperator (String.ofList word)) (.unknownOperator (String.ofList other)) :=
  of_word (by simp) (by simp) same (String.append_assoc ..).symm (String.append_assoc ..).symm

theorem unknownGeometry {tag other : List Char} (same : upper tag = upper other) :
    SameUpToCase (.unknownGeometry (String.ofList tag)) (.unknownGeometry (String.ofList other)) :=
  of_word (by simp) (by simp) same rfl rfl

end ReadError.SameUpToCase

namespace ReadUpToCase
variable {α β : Type}

theorem refl (result : Except ReadError α) : ReadUpToCase Eq result result := by
  cases result with
  | error error => exact .error (.refl error)
  | ok value => exact .ok rfl

theorem mapM {same : β → β → Prop} {f g : α → Except ReadError β} {xs ys : List α}
    (each : List.Forall₂ (fun x y => ReadUpToCase same (f x) (g y)) xs ys) :
    ReadUpToCase (List.Forall₂ same) (xs.mapM f) (ys.mapM g) := by
  induction each with
  | nil => exact .ok .nil
  | @cons x y xs ys first _ ih =>
    rw [mapM_cons_eq,mapM_cons_eq]
    generalize f x = left at first
    generalize g y = right at first
    generalize xs.mapM f = behindLeft at ih
    generalize ys.mapM g = behindRight at ih
    cases first with
    | error alike => exact .error alike
    | ok alike =>
      cases ih with
      | error other => exact .error other
      | ok others => exact .ok (.cons alike others)

end ReadUpToCase

/-! ### Phrases that differ at most in case -/

theorem GeometryPhrase.raised_inj {p q : GeometryPhrase} (same : p.raised = q.raised) :
    p = q ∨ ∃ tag other, p = .tagged tag ∧ q = .tagged other ∧ upper tag = upper other := by
  cases p <;> cases q <;> simp_all [raised]

theorem GeometryPhrase.toGeometry_upToCase {p q : GeometryPhrase} (same : p.raised = q.raised) :
    ReadUpToCase Eq p.toGeometry q.toGeometry := by
  obtain rfl | ⟨tag,other,rfl,rfl,letters⟩ := raised_inj same
  · exact .refl _
  · rw [toGeometry,toGeometry,UnsupportedKind.ofTag?_congr letters]
    cases UnsupportedKind.ofTag? other with
    | none => exact .error (.unknownGeometry letters)
    | some kind => exact .ok rfl

theorem Item.toOperand_upToCase (namespaces : Namespaces) (declaredType : ValueType) {item other : Item}
    (same : item.raised = other.raised) : ReadUpToCase Operand.SameUpToCase
      (item.toOperand namespaces declaredType) (other.toOperand namespaces declaredType) := by
  cases item with
  | property name =>
    cases other with
    | geometry phrase => cases same
    | property also => exact .ok (.property (by simpa [sameLetters_iff] using Item.property.inj same) _ _)
  | geometry phrase =>
    cases other with
    | property name => cases same
    | geometry also =>
      have geometry := GeometryPhrase.toGeometry_upToCase (Item.geometry.inj same)
      rw [toOperand,toOperand]
      generalize phrase.toGeometry = left at geometry
      generalize also.toGeometry = right at geometry
      cases geometry with
      | error alike => exact .error alike
      | ok alike => exact .ok (alike ▸ .geometry _)

theorem PredicatePhrase.toPredicate_upToCase (namespaces : Namespaces) (declaredType : ValueType)
    {phrase other : PredicatePhrase} (same : phrase.raised = other.raised) : ReadUpToCase Predicate.SameUpToCase
      (phrase.toPredicate namespaces declaredType) (other.toPredicate namespaces declaredType) := by
  obtain ⟨word,items,distance⟩ := phrase
  obtain ⟨also,others,farther⟩ := other
  obtain ⟨letters,raised,rfl⟩ := PredicatePhrase.mk.inj same
  have alike : List.Forall₂ (fun item other => item.raised = other.raised) items others := by
    rwa [← List.forall₂_map_right_iff,← List.forall₂_map_left_iff,List.forall₂_eq_eq_eq]
  have operands := ReadUpToCase.mapM (alike.imp fun item other same =>
    Item.toOperand_upToCase namespaces declaredType same)
  unfold toPredicate
  dsimp only
  rw [Operator.ofWord?_congr letters]
  cases Operator.ofWord? also with
  | none => exact .error (.unknownOperator letters)
  | some operator =>
    dsimp only
    generalize items.mapM (Item.toOperand namespaces declaredType) = left at operands
    generalize others.mapM (Item.toOperand namespaces declaredType) = right at operands
    cases operands with
    | error alike => exact .error alike
    | ok alike => exact .ok ⟨rfl,alike,rfl⟩

/-- Two texts that differ at most in the case of letters are read alike: only names of properties and the words
that messages quote keep the case that they are written in. -/
theorem read_sameLetters {s t : String} (same : sameLetters s.toList t.toList = true) :
    (∀ namespaces declaredType, ReadUpToCase Predicate.SameUpToCase
      (readPredicate namespaces declaredType s) (readPredicate namespaces declaredType t)) ∧
    ReadUpToCase Eq (readGeometry s) (readGeometry t) := by
  have letters := sameLetters_iff.mp same
  constructor
  · intro namespaces declaredType
    unfold readPredicate
    obtain ⟨first,second⟩ | ⟨phrase,other,first,second,raised⟩ :=
      Phrase.readWhole_sameLetters Phrase.readPredicate_upper letters
    · rw [first,second]
      exact .error (.mismatch _ _)
    · rw [first,second]
      exact PredicatePhrase.toPredicate_upToCase namespaces declaredType raised
  · unfold readGeometry
    obtain ⟨first,second⟩ | ⟨phrase,other,first,second,raised⟩ :=
      Phrase.readWhole_sameLetters Phrase.readGeometry_upper letters
    · rw [first,second]
      exact .error (.mismatch _ _)
    · rw [first,second]
      exact GeometryPhrase.toGeometry_upToCase raised

/-- Letters in an operator, a qualified name, a tag and an exponent; and a tag that means nothing in any case. -/
theorem read_sameLetters_dwithin :
    sameLetters "DWithin(app:Geom,Point(1e3 2),5)".toList "dwithin(APP:geom,POINT(1E3 2),5)".toList = true ∧
      ReadUpToCase Predicate.SameUpToCase (readPredicate .empty .geometry "DWithin(app:Geom,Point(1e3 2),5)")
        (readPredicate .empty .geometry "dwithin(APP:geom,POINT(1E3 2),5)") ∧
      ReadUpToCase Eq (readGeometry "Hexagon(1 2)") (readGeometry "HEXAGON(1 2)") := by
  have predicates : sameLetters "DWithin(app:Geom,Point(1e3 2),5)".toList
      "dwithin(APP:geom,POINT(1E3 2),5)".toList = true := by decide
  have geometries : sameLetters "Hexagon(1 2)".toList "HEXAGON(1 2)".toList = true := by decide
  exact ⟨predicates,(read_sameLetters predicates).1 .empty .geometry,(read_sameLetters geometries).2⟩

end SpatialFilter
