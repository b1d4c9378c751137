import SpatialFilter.Proofs.Registry

/-! Registries that grow. Further bindings stand behind those that are there, so an answer is kept until a
second candidate makes it ambiguous, and no binding takes the place of an earlier one. -/
namespace SpatialFilter
namespace Registry
variable {reference : PropertyReference} {wanted other : Option String} {localName otherName : String}

/-! ### Candidates of a larger registry -/

theorem named_registerAll (r : Registry) (others : List Binding) (localName : String) :
    (others.foldl register r).named localName =
      r.named localName ++ others.filter fun b => decide (b.name = localName) := by
  induction others generalizing r with
  | nil => simp
  | cons b others ih =>
    rw [List.foldl_cons,ih,register,named_addTo,List.append_assoc,List.filter_cons]
    by_cases same : b.name = localName <;> simp [same]

/-- The candidates of a reference, in the order of their registration. -/
def candidates (r : Registry) (wanted : Option String) (localName : String) (declared : ValueType) : List Binding :=
  (r.named localName).filter (·.accepts wanted declared)

theorem candidates_registerAll (r : Registry) (others : List Binding) (wanted : Option String) (localName : String)
    (declared : ValueType) : candidates (others.foldl register r) wanted localName declared =
      candidates r wanted localName declared ++ kept others wanted localName declared := by
  rw [candidates,named_registerAll,List.filter_append,filter_named,candidates]

theorem kept_eq_nil {others : List Binding} {declared : ValueType} :
    kept others wanted localName declared = [] ↔ ∀ b ∈ others, ¬ Fits b wanted localName declared := by
  simp [kept,List.filter_eq_nil_iff]

/-! ### Answers of a larger registry -/

/-- What an answer to a reference may become while bindings are registered. -/
inductive Grown (reference : PropertyReference) : Except ResolveError Column → Except ResolveError Column → Prop where
  | unbound (qualifier name : String) :
      Grown reference (.error (.unboundQualifier qualifier name)) (.error (.unboundQualifier qualifier name))
  | unknown (name : String) {later : Except ResolveError Column}
      (bound : ∀ qualifier name, later ≠ .error (.unboundQualifier qualifier name)) :
      Grown reference (.error (.unknownProperty name)) later
  | same (column : Column) : Grown reference (.ok column) (.ok column)
  | clash (column : Column) {more : List String} (several : more ≠ []) :
      Grown reference (.ok column)
        (.error (.ambiguous reference.name ((column.table ++ "." ++ column.column) :: more)))
  | ambiguous (name : String) (columns more : List String) :
      Grown reference (.error (.ambiguous name columns)) (.error (.ambiguous name (columns ++ more)))

theorem choose_bound (reference : PropertyReference) (bindings : List Binding) (qualifier name : String) :
    choose reference bindings ≠ .error (.unboundQualifier qualifier name) := by
  match bindings with
  | [] => simp [choose]
  | [b] => simp [choose]
  | b :: c :: more => simp [choose]

theorem choose_append (reference : PropertyReference) (bindings more : List Binding) :
    Grown reference (choose reference bindings) (choose reference (bindings ++ more)) := by
  match bindings with
  | [] => exact .unknown _ (choose_bound reference _)
  | [b] =>
    cases more with
    | nil => exact .same _
    | cons c more =>
      have several : 2 ≤ ([b] ++ c :: more).length := by simp
      have others : (c :: more).map Binding.qualifiedColumn ≠ [] := by simp
      rw [choose_several reference several]
      exact .clash ⟨_,b.table,b.column⟩ others
  | b :: c :: rest =>
    rw [choose_several reference (by simp),choose_several reference (by simp),List.map_append]
    exact .ambiguous _ _ _

theorem Asks.unique (first : Asks reference wanted localName) (second : Asks reference other otherName) :
    wanted = other ∧ localName = otherName := by
  cases first with
  | unqualified free =>
    cases second with
    | unqualified => exact ⟨rfl,rfl⟩
    | qualified split first bound => exact absurd (QualifiedName.colon_mem split) free
  | qualified split first bound =>
    cases second with
    | unqualified free => exact absurd (QualifiedName.colon_mem split) free
    | qualified splitOther firstOther boundOther =>
      have names := congrArg QualifiedName.ofString (split.symm.trans splitOther)
      rw [QualifiedName.ofString_qualified first,QualifiedName.ofString_qualified firstOther] at names
      cases names
      exact ⟨bound.symm.trans boundOther,rfl⟩

/-- Further bindings never change silently what a reference means. Those that do not fit it change nothing. -/
theorem resolve_registerAll (r : Registry) (others : List Binding) (reference : PropertyReference) :
    Grown reference (r.resolve reference) ((others.foldl register r).resolve reference) ∧
      ((∀ b ∈ others, ∀ wanted localName, Asks reference wanted localName →
          ¬ Fits b wanted localName reference.declaredType) →
        (others.foldl register r).resolve reference = r.resolve reference) := by
  rcases asks_or_unbound reference with ⟨wanted,localName,asks⟩ | ⟨qualifier,unbound⟩
  · have later := candidates_registerAll r others wanted localName reference.declaredType
    rw [resolve_asks r asks,resolve_asks _ asks]
    rw [candidates,candidates] at later
    rw [later]
    refine ⟨choose_append reference _ _,fun foreign => ?_⟩
    rw [kept_eq_nil.mpr fun b member => foreign b member wanted localName asks,List.append_nil]
  · rw [resolve_unbound r unbound,resolve_unbound _ unbound]
    exact ⟨.unbound _ _,fun _ => rfl⟩

/-- A line of the same layer, and a shape of another namespace. -/
def unrelated : List Binding :=
  [⟨"line",none,"roads","line",none,[]⟩,⟨"geom",some "http://example.com/other","lakes","shape",none,[]⟩]

/-- The qualified reference finds a river among both shapes. -/
def riverShape : PropertyReference :=
  ⟨"app:geom",NameMap.empty.insert "app" "http://example.com/app",.geometry⟩

theorem resolve_registerAll_unrelated :
    (∀ b ∈ unrelated, ∀ wanted localName, Asks riverShape wanted localName →
      ¬ Fits b wanted localName riverShape.declaredType) ∧
    (unrelated.foldl register (ofList shapes)).resolve riverShape = (ofList shapes).resolve riverShape ∧
    Grown riverShape ((ofList [shapes[1]]).resolve riverShape)
      (([shapes[0]].foldl register (ofList [shapes[1]])).resolve riverShape) := by
  have split : riverShape.name = "app" ++ ":" ++ "geom" := by decide
  have asks : Asks riverShape (some "http://example.com/app") "geom" := .qualified split (by decide) (by decide)
  have foreign : ∀ b ∈ unrelated, ∀ wanted localName, Asks riverShape wanted localName →
      ¬ Fits b wanted localName riverShape.declaredType := by
    intro b member wanted localName other
    obtain ⟨rfl,rfl⟩ := asks.unique other
    revert b
    decide
  exact ⟨foreign,(resolve_registerAll _ unrelated riverShape).2 foreign,(resolve_registerAll _ _ riverShape).1⟩

end Registry
end SpatialFilter
