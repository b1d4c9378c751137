import SpatialFilter.Proofs.Registry.Growth

/-! References that say more. A qualifier or a declared type only leaves out candidates, so a column that is found
without them stays the only one that can be found with them. -/
namespace SpatialFilter
namespace Registry
variable {general specific : PropertyReference} {wanted other : Option String} {localName : String}
  {bindings fewer : List Binding}

/-! ### References that say more -/

/-- The same name, or the same name in a namespace. -/
inductive Names (namespaces : Namespaces) : String → String → Prop where
  | same (name : String) : Names namespaces name name
  | qualified {name whole qualifier uri : String} (free : ':' ∉ name.toList) (split : whole = qualifier ++ ":" ++ name)
      (first : ':' ∉ qualifier.toList) (bound : namespaces.get? qualifier = some uri) : Names namespaces name whole

/-- The second reference has a namespace or a declared type in addition, or both. -/
structure Narrows (general specific : PropertyReference) : Prop where
  namespaces : specific.namespaces = general.namespaces
  name : Names general.namespaces general.name specific.name
  type : general.declaredType = .unknown ∨ specific.declaredType = general.declaredType

theorem Narrows.asks (narrows : Narrows general specific) (asks : Asks general wanted localName) :
    ∃ other, Asks specific other localName ∧ (wanted = none ∨ other = wanted) := by
  obtain ⟨name,namespaces,declared⟩ := general
  obtain ⟨more,same,narrower⟩ := specific
  obtain ⟨rfl,name,-⟩ := narrows
  cases name with
  | same =>
    cases asks with
    | unqualified free => exact ⟨none,.unqualified free,.inl rfl⟩
    | qualified split first bound => exact ⟨_,.qualified split first bound,.inr rfl⟩
  | qualified free split first bound =>
    cases asks with
    | unqualified => exact ⟨_,.qualified split first bound,.inl rfl⟩
    | qualified other => exact absurd (QualifiedName.colon_mem other) free

theorem Narrows.unbound {qualifier : String} (narrows : Narrows general specific) (unbound : Unbound general qualifier) :
    Unbound specific qualifier := by
  obtain ⟨name,namespaces,declared⟩ := general
  obtain ⟨more,same,narrower⟩ := specific
  obtain ⟨rfl,name,-⟩ := narrows
  obtain ⟨split,first,missing⟩ := unbound
  cases name with
  | same => exact ⟨split,first,missing⟩
  | qualified free =>
    obtain ⟨localName,split⟩ := split
    exact absurd (QualifiedName.colon_mem split) free

theorem accepts_of_narrower (b : Binding) {declared narrower : ValueType} (uri : wanted = none ∨ other = wanted)
    (type : declared = .unknown ∨ narrower = declared) (accepted : b.accepts other narrower = true) :
    b.accepts wanted declared = true := by
  rw [Binding.accepts,Bool.and_eq_true,acceptsUri_iff,acceptsType_iff] at accepted ⊢
  obtain ⟨fits,typed⟩ := accepted
  constructor
  · obtain rfl | rfl := uri
    · exact .inr (.inl rfl)
    · exact fits
  · obtain rfl | rfl := type
    · exact .inr (.inr rfl)
    · exact typed

theorem candidates_sublist (r : Registry) {declared narrower : ValueType} (uri : wanted = none ∨ other = wanted)
    (type : declared = .unknown ∨ narrower = declared) (localName : String) :
    (candidates r other localName narrower).Sublist (candidates r wanted localName declared) :=
  List.monotone_filter_right _ fun b => accepts_of_narrower b uri type

/-! ### Answers -/

/-- What an answer becomes when its reference says more. A column that is kept is read by the same binding, in the form
of the declared type. -/
inductive Narrowed (general specific : PropertyReference) :
    Except ResolveError Column → Except ResolveError Column → Prop where
  | unbound (qualifier : String) : Narrowed general specific
      (.error (.unboundQualifier qualifier general.name)) (.error (.unboundQualifier qualifier specific.name))
  | unknown : Narrowed general specific
      (.error (.unknownProperty general.name)) (.error (.unknownProperty specific.name))
  | kept (b : Binding) : Narrowed general specific (.ok ⟨b.columnExpression general.declaredType,b.table,b.column⟩)
      (.ok ⟨b.columnExpression specific.declaredType,b.table,b.column⟩)
  | lost (column : Column) : Narrowed general specific (.ok column) (.error (.unknownProperty specific.name))
  | noneLeft (columns : List String) : Narrowed general specific
      (.error (.ambiguous general.name columns)) (.error (.unknownProperty specific.name))
  | oneLeft {columns : List String} (column : Column) (among : column.table ++ "." ++ column.column ∈ columns) :
      Narrowed general specific (.error (.ambiguous general.name columns)) (.ok column)
  | someLeft {columns left : List String} (sublist : left.Sublist columns) : Narrowed general specific
      (.error (.ambiguous general.name columns)) (.error (.ambiguous specific.name left))

theorem choose_sublist (sublist : fewer.Sublist bindings) :
    Narrowed general specific (choose general bindings) (choose specific fewer) := by
  match bindings with
  | [] =>
    rw [List.sublist_nil.mp sublist]
    exact .unknown
  | [b] =>
    obtain rfl | rfl := List.sublist_singleton.mp sublist
    · exact .lost _
    · exact .kept ..
  | b :: c :: rest =>
    rw [choose_several general (by simp)]
    match fewer with
    | [] => exact .noneLeft _
    | [d] => exact .oneLeft _ (List.mem_map_of_mem (sublist.subset (by simp)))
    | d :: e :: more =>
      rw [choose_several specific (by simp)]
      exact .someLeft (sublist.map _)

/-- A reference that says more has no candidates that the other has not. What is found with it is what is found
without it, and nothing is found for the first time or becomes ambiguous. -/
theorem resolve_narrowed (r : Registry) {general specific : PropertyReference} (narrows : Narrows general specific) :
    (∀ wanted localName, Asks general wanted localName → ∃ other, Asks specific other localName ∧
      (candidates r other localName specific.declaredType).Sublist
        (candidates r wanted localName general.declaredType)) ∧
    Narrowed general specific (r.resolve general) (r.resolve specific) := by
  have candidate (wanted : Option String) (localName : String) (asks : Asks general wanted localName) :
      ∃ other, Asks specific other localName ∧ (candidates r other localName specific.declaredType).Sublist
        (candidates r wanted localName general.declaredType) := by
    obtain ⟨other,also,uri⟩ := narrows.asks asks
    exact ⟨other,also,candidates_sublist r uri narrows.type localName⟩
  refine ⟨candidate,?_⟩
  obtain ⟨wanted,localName,asks⟩ | ⟨qualifier,unbound⟩ := asks_or_unbound general
  · obtain ⟨other,also,sublist⟩ := candidate wanted localName asks
    rw [resolve_asks r asks,resolve_asks r also]
    exact choose_sublist sublist
  · rw [resolve_unbound r unbound,resolve_unbound r (narrows.unbound unbound)]
    exact .unbound qualifier

/-- Shapes of two namespaces, for geometries only in the first. -/
def waters : Registry :=
  ofList [⟨"geom",some "http://example.com/app","rivers","shape",none,[.geometry]⟩,
    ⟨"geom",some "http://example.com/other","lakes","shape",none,[]⟩]

/-- Both shapes fit a name alone, and one of them the reference that gives a namespace and a type too. -/
theorem resolve_narrowed_waters :
    Narrows ⟨"geom",riverShape.namespaces,.unknown⟩ riverShape ∧
    waters.resolve ⟨"geom",riverShape.namespaces,.unknown⟩ = .error (.ambiguous "geom" ["rivers.shape","lakes.shape"]) ∧
    Narrowed ⟨"geom",riverShape.namespaces,.unknown⟩ riverShape
      (.error (.ambiguous "geom" ["rivers.shape","lakes.shape"])) (waters.resolve riverShape) := by
  have split : riverShape.name = "app" ++ ":" ++ "geom" := by decide
  have bound : riverShape.namespaces.get? "app" = some "http://example.com/app" := by decide
  have name : Names riverShape.namespaces "geom" riverShape.name := .qualified (by decide) split (by decide) bound
  have narrows : Narrows ⟨"geom",riverShape.namespaces,.unknown⟩ riverShape := ⟨rfl,name,.inl rfl⟩
  have general : waters.resolve ⟨"geom",riverShape.namespaces,.unknown⟩ =
      .error (.ambiguous "geom" ["rivers.shape","lakes.shape"]) := by decide
  have narrowed := (resolve_narrowed waters narrows).2
  rw [general] at narrowed
  exact ⟨narrows,general,narrowed⟩

end Registry
end SpatialFilter
