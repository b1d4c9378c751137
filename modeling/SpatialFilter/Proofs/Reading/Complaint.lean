import SpatialFilter.Proofs.Reading.Body
import SpatialFilter.Proofs.Reading.Tree

/-! Complaints about texts that fit the grammar. There are four of them, each about something that is written in the
text; none is about the tree of the text. -/
namespace SpatialFilter

/-- The messages about geometries. -/
inductive GeometryComplaint : String → Prop where
  | unknown {tag : List Char} (word : IsWord tag) :
      GeometryComplaint ("Syntax error: Unknown geometry type: " ++ String.ofList tag)
  | ordinates {count : Nat} (many : 4 ≤ count) :
      GeometryComplaint ("Syntax error: POINT takes 2 or 3 ordinates, got " ++ toString count)
  | positions : GeometryComplaint "Syntax error: LINESTRING needs at least two positions"

/-- The messages about predicates: those about their geometries, and one about their operator. -/
inductive PredicateComplaint : String → Prop where
  | operator {word : List Char} (isWord : IsWord word)
      (foreign : ∀ o ∈ Operator.all, sameLetters o.name.toList word = false) :
      PredicateComplaint ("Syntax error: Unknown spatial operator: " ++ String.ofList word)
  | geometry {message : String} (complaint : GeometryComplaint message) : PredicateComplaint message

/-- The failures of a walk that are not failures of reading. -/
def TreeError.isInternal : TreeError → Bool
  | reading _ => false
  | _ => true

/-! ### Complaints of phrases -/

/-- What the grammar promises of a geometry that is read. -/
def GeometryPhrase.Promised : GeometryPhrase → Prop
  | point ordinates => 2 ≤ ordinates.length
  | tagged tag => IsWord tag
  | _ => True

theorem GroupForm.promised (g : GroupForm) : g.phrase.Promised := by
  rcases g.phrase_cases with ⟨ordinates,position,same⟩ | ⟨positions,-,same⟩ | ⟨lower,upper,-,same⟩ | same
  · rw [same]
    exact position.enough
  · rw [same]
    trivial
  · rw [same]
    trivial
  · rw [same]
    exact g.isTag

theorem GeometryPhrase.complaint {phrase : GeometryPhrase} (promised : phrase.Promised) {error : ReadError}
    (failed : phrase.toGeometry = .error error) : GeometryComplaint error.message := by
  cases phrase with
  | point ordinates =>
    match ordinates,promised with
    | [x,y],_ => cases failed
    | [x,y,z],_ => cases failed
    | x :: y :: z :: t :: more,_ =>
      rw [toGeometry_many (by simp)] at failed
      cases failed
      exact .ordinates (by simp)
  | lineString positions =>
    rw [toGeometry] at failed
    split at failed <;> cases failed
    exact .positions
  | envelope lower upper => cases failed
  | tagged tag =>
    rw [toGeometry] at failed
    split at failed <;> cases failed
    exact .unknown promised

theorem ItemForm.complaint {namespaces : Namespaces} {declaredType : ValueType} {item : ItemForm} {error : ReadError}
    (failed : item.evaluate namespaces declaredType = .error error) : GeometryComplaint error.message := by
  cases item with
  | property name => cases failed
  | geometry group =>
    rw [evaluate,readGeometry_groupText] at failed
    cases meant : group.phrase.toGeometry with
    | ok geometry => simp [meant,Except.map] at failed
    | error other =>
      rw [meant] at failed
      cases failed
      exact GeometryPhrase.complaint group.promised meant

theorem ReadError.message_unknownOperator (word : String) :
    (unknownOperator word).message = "Syntax error: Unknown spatial operator: " ++ word := by
  change "Syntax error: " ++ ("Unknown spatial operator: " ++ word) = _
  rw [← String.append_assoc]
  rfl

theorem PredicateForm.Yields.complaint {namespaces : Namespaces} {declaredType : ValueType} {f : PredicateForm}
    {error : ReadError} (yields : f.Yields namespaces declaredType (.error error)) : PredicateComplaint error.message := by
  cases yields with
  | unknownOperator foreign =>
    rw [ReadError.message_unknownOperator]
    exact .operator f.isWord foreign
  | item _ _ _ fails => exact .geometry (ItemForm.complaint fails)

/-! ### Complaints of texts -/

theorem readGeometry_complaint {text : String} {error : ReadError} (failed : readGeometry text = .error error) :
    (∃ found, error = .mismatch found) ∨ GeometryComplaint error.message := by
  by_cases mismatch : ∃ found, error = .mismatch found
  · exact .inl mismatch
  · -- A text that fits is a group, and means what the group means.
    have fits (found : Mismatch) : readGeometry text ≠ .error (.mismatch found) := by
      rw [failed]
      rintro ⟨⟩
      exact mismatch ⟨found,rfl⟩
    obtain ⟨g,-,-,-,-,-,meaning⟩ := group_of_text fits
    exact .inr (GeometryPhrase.complaint g.promised (meaning.symm.trans failed))

theorem readPredicate_complaint {namespaces : Namespaces} {declaredType : ValueType} {text : String} {error : ReadError}
    (failed : readPredicate namespaces declaredType text = .error error) :
    (∃ found, error = .mismatch found) ∨ PredicateComplaint error.message := by
  rw [readPredicate] at failed
  cases whole : Phrase.readWhole Phrase.readPredicate text.toList with
  | none =>
    rw [whole] at failed
    cases failed
    exact .inl ⟨_,rfl⟩
  | some phrase =>
    rw [whole] at failed
    obtain ⟨f,rfl,-⟩ := Phrase.readWhole_predicate.mp whole
    exact .inr (PredicateForm.yields_iff.mpr failed).complaint

/-! ### Messages -/

/-- The first letters of a message tell which one it is. -/
def startOf (message : String) : List Char := message.toList.take 17

theorem GeometryComplaint.start {message : String} (complaint : GeometryComplaint message) :
    startOf message ∈ ["Syntax error: Unk".toList,"Syntax error: POI".toList,"Syntax error: LIN".toList] := by
  cases complaint <;> simp [startOf]

theorem PredicateComplaint.start {message : String} (complaint : PredicateComplaint message) :
    startOf message ∈ ["Syntax error: Unk".toList,"Syntax error: POI".toList,"Syntax error: LIN".toList] := by
  cases complaint with
  | operator => simp [startOf]
  | geometry complaint => exact complaint.start

theorem TreeError.start {error : TreeError} (internal : error.isInternal = true) : startOf error.message ∈
    ["Syntax error: Emp".toList,"Syntax error: Mis".toList,"Syntax error: Une".toList,"Syntax error: Inv".toList] := by
  cases error with
  | reading error => cases internal
  | emptyInput =>
    change startOf "Syntax error: Empty input" ∈ _
    simp [startOf]
  | missing what =>
    change startOf ("Syntax error: Missing " ++ what) ∈ _
    simp [startOf]
  | unexpected part =>
    change startOf ("Syntax error: Unexpected element: " ++ part.name) ∈ _
    simp [startOf]
  | invalidNumber text =>
    change startOf ("Syntax error: Invalid number: " ++ text) ∈ _
    simp [startOf]

theorem TreeError.not_complaint {error : TreeError} (internal : error.isInternal = true) :
    ¬ PredicateComplaint error.message := by
  intro complaint
  have apart : ∀ start ∈ ["Syntax error: Unk".toList,"Syntax error: POI".toList,"Syntax error: LIN".toList],
      start ∉ ["Syntax error: Emp".toList,"Syntax error: Mis".toList,"Syntax error: Une".toList,
        "Syntax error: Inv".toList] := by decide
  exact apart _ complaint.start (start internal)

theorem TreeError.not_mismatch {error : TreeError} (internal : error.isInternal = true) (found : Mismatch) :
    error.message ≠ (ReadError.mismatch found).message := by
  intro same
  have other := start internal
  rw [same] at other
  change startOf ("Pest error: " ++ found.text) ∈ _ at other
  simp [startOf] at other

section Walk
variable (namespaces : Namespaces) (declaredType : ValueType) (text : String)

/-- A walk through the tree of a text finds what is read without a tree. A text that fits the grammar makes it fail
only with one of four messages, and nothing makes it fail with a message about the tree. -/
theorem walk_complaints :
    walkPredicate namespaces declaredType text = (readPredicate namespaces declaredType text).mapError .reading ∧
    walkGeometry text = (readGeometry text).mapError .reading ∧
    (∀ error, walkPredicate namespaces declaredType text = .error error →
      (∃ found, error = .reading (.mismatch found)) ∨ PredicateComplaint error.message) ∧
    (∀ error, walkGeometry text = .error error →
      (∃ found, error = .reading (.mismatch found)) ∨ GeometryComplaint error.message) ∧
    ∀ error : TreeError, error.isInternal = true →
      walkPredicate namespaces declaredType text ≠ .error error ∧ walkGeometry text ≠ .error error ∧
      ¬ PredicateComplaint error.message ∧ ∀ found, error.message ≠ (ReadError.mismatch found).message := by
  have predicates := walkPredicate_eq namespaces declaredType text
  have geometries := walkGeometry_eq text
  refine ⟨predicates,geometries,fun error failed => ?_,fun error failed => ?_,fun error internal => ?_⟩
  · rw [predicates] at failed
    obtain ⟨cause,read,rfl⟩ := mapError_eq_error.mp failed
    exact (readPredicate_complaint read).imp (fun ⟨found,same⟩ => ⟨found,by rw [same]⟩) id
  · rw [geometries] at failed
    obtain ⟨cause,read,rfl⟩ := mapError_eq_error.mp failed
    exact (readGeometry_complaint read).imp (fun ⟨found,same⟩ => ⟨found,by rw [same]⟩) id
  · refine ⟨?_,?_,TreeError.not_complaint internal,TreeError.not_mismatch internal⟩
    · rw [predicates]
      intro failed
      obtain ⟨cause,-,rfl⟩ := mapError_eq_error.mp failed
      cases internal
    · rw [geometries]
      intro failed
      obtain ⟨cause,-,rfl⟩ := mapError_eq_error.mp failed
      cases internal

end Walk

/-- A word that is neither an operator nor the tag of a geometry. -/
theorem walk_complaints_near :
    (walkPredicate .empty .geometry "NEAR(geom)" = .error (.reading (.unknownOperator "NEAR")) ∧
      PredicateComplaint "Syntax error: Unknown spatial operator: NEAR") ∧
    (walkGeometry "NEAR(geom)" = .error (.reading (.unknownGeometry "NEAR")) ∧
      GeometryComplaint "Syntax error: Unknown geometry type: NEAR") ∧
    TreeError.emptyInput.isInternal = true ∧ walkGeometry "NEAR(geom)" ≠ .error .emptyInput := by
  have predicate : Phrase.readWhole Phrase.readPredicate "NEAR(geom)".toList =
      some ⟨"NEAR".toList,[.property "geom".toList],none⟩ := by cbv
  have geometry : Phrase.readWhole Phrase.readGeometry "NEAR(geom)".toList = some (.tagged "NEAR".toList) := by cbv
  obtain ⟨predicates,geometries,ofPredicate,ofGeometry,never⟩ := walk_complaints .empty .geometry "NEAR(geom)"
  rw [readPredicate,predicate] at predicates
  rw [readGeometry,geometry] at geometries
  exact ⟨⟨predicates,(ofPredicate _ predicates).resolve_left (by simp)⟩,
    ⟨geometries,(ofGeometry _ geometries).resolve_left (by simp)⟩,rfl,(never _ rfl).2.1⟩

end SpatialFilter
