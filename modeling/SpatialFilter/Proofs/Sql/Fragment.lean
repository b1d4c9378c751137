import SpatialFilter.Proofs.NameSet
import SpatialFilter.Proofs.Sql.Requirement

/-! What the SQL of an accepted predicate looks like, operator by operator, and which tables and
columns go with it. -/
namespace SpatialFilter

/-- The operators that are functions of two geometries and nothing else. -/
def Operator.plain : List Operator :=
  [.intersects,.contains,.crosses,.disjoint,.equals,.overlaps,.touches,.within]

namespace Sql

/-- The arguments that stand for properties, by the expressions of their columns. -/
def arguments (expressions : List String) : String :=
  String.intercalate "," (expressions.map fun e => "GeomFromText(AsText(" ++ e ++ "))")

/-- The SQL of an operator over the expressions of some columns and one geometry. -/
inductive Fragment (expressions : List String) : Operator → Geometry → Option Number → String → Prop where
  | box (lower upper : Position) : Fragment expressions .bbox (.envelope lower upper) none
      (String.intercalate " AND " (expressions.map fun e => e ++ " && " ++ Sql.box lower upper))
  | plain {operator : Operator} (isPlain : operator ∈ Operator.plain) {g : Geometry} {literal : String}
      (encoded : Sql.literal g = .ok literal) : Fragment expressions operator g none
        (operator.name ++ "(" ++ arguments expressions ++ "," ++ literal ++ ")")
  | beyond {g : Geometry} {literal : String} (encoded : Sql.literal g = .ok literal) (d : Number) :
      Fragment expressions .beyond g (some d)
        ("DISTANCE(" ++ arguments expressions ++ "," ++ literal ++ ") <= " ++ toString d ++
          " AND DISJOINT(" ++ arguments expressions ++ "," ++ literal ++ ")")
  | dwithin {g : Geometry} {literal : String} (encoded : Sql.literal g = .ok literal) (d : Number) :
      Fragment expressions .dwithin g (some d)
        ("DISTANCE(" ++ arguments expressions ++ "," ++ literal ++ ") >= " ++ toString d ++
          " AND DWITHIN(" ++ arguments expressions ++ "," ++ literal ++ ")")

/-- The tables and columns of a condition are those of the columns that it reads, each once. -/
structure Reads (columns : List Column) (c : Condition) : Prop where
  tables : ∀ name, name ∈ c.tables.toList ↔ ∃ column ∈ columns, column.table = name
  columns : ∀ name, name ∈ c.columns.toList ↔ ∃ column ∈ columns, column.column = name
  tablesOnce : c.tables.toList.Nodup
  columnsOnce : c.columns.toList.Nodup

theorem withSources_reads (sql : String) (columns : List Column) : Reads columns (withSources sql columns) where
  tables name := by rw [withSources,NameSet.mem_ofNames,List.mem_map]
  columns name := by rw [withSources,NameSet.mem_ofNames,List.mem_map]
  tablesOnce := NameSet.nodup _
  columnsOnce := NameSet.nodup _

theorem boxComparisons_eq (columns : List Column) (literal : String) : boxComparisons columns literal =
    String.intercalate " AND " ((columns.map (·.expression)).map fun e => e ++ " && " ++ literal) := by
  rw [boxComparisons,List.map_map]
  congr 1
  apply List.map_congr_left
  intro column _
  simp [Operator.boxComparison,String.append_assoc]

theorem propertyArguments_eq (columns : List Column) :
    propertyArguments columns = arguments (columns.map (·.expression)) := by
  rw [propertyArguments,arguments,List.map_map]
  rfl

theorem resolveAll_eq_ok {resolver : Resolver} {references : List PropertyReference} {columns : List Column}
    (ok : resolveAll resolver references = .ok columns) : references.map resolver = columns.map .ok := by
  have answers := (mapM_eq_ok.mp ok).imp fun reference column read => mapError_eq_ok.mp read
  rwa [← List.forall₂_eq_eq_eq,List.forall₂_map_left_iff,List.forall₂_map_right_iff]

/-- A distance is compared exactly by the two operators that take one. -/
theorem call_fragment (expressions : List String) {p : Predicate} {g : Geometry} {literal : String}
    (presence : p.distance.isSome = true ↔ p.operator = .beyond ∨ p.operator = .dwithin)
    (isCall : p.operator ≠ .bbox) (encoded : Sql.literal g = .ok literal) :
    Fragment expressions p.operator g p.distance
      (call p.operator.template p.distance (arguments expressions ++ "," ++ literal)) := by
  obtain ⟨operator,operands,distance⟩ := p
  dsimp only at presence isCall ⊢
  have plain (isPlain : operator ∈ Operator.plain) (absent : distance = none)
      (template : operator.template = ⟨operator.name,.plain⟩) : Fragment expressions operator g distance
        (call operator.template distance (arguments expressions ++ "," ++ literal)) := by
    subst absent
    have fragment : Fragment expressions operator g none _ := .plain isPlain encoded
    simpa [call,template,Closing.comparison,String.append_assoc] using fragment
  cases operator with
  | bbox => exact absurd rfl isCall
  | beyond =>
    obtain ⟨d,rfl⟩ := Option.isSome_iff_exists.mp (presence.mpr (.inl rfl))
    have fragment : Fragment expressions .beyond g (some d) _ := .beyond encoded d
    convert fragment using 1
    simp [call,Operator.template,Closing.comparison,Operator.name,← String.toList_inj]
  | dwithin =>
    obtain ⟨d,rfl⟩ := Option.isSome_iff_exists.mp (presence.mpr (.inr rfl))
    have fragment : Fragment expressions .dwithin g (some d) _ := .dwithin encoded d
    convert fragment using 1
    simp [call,Operator.template,Closing.comparison,Operator.name,← String.toList_inj]
  | _ => exact plain (by decide) (by simpa using presence) rfl

/-! ### The whole condition -/

theorem checkedGeometry_eq_ok {p : Predicate} {g : Geometry} (ok : checkedGeometry p = .ok g) :
    p.geometries = [g] := by
  unfold checkedGeometry at ok
  by_cases none : p.properties.isEmpty = true
  · rw [if_pos none] at ok
    cases ok
  · rw [if_neg none] at ok
    split at ok
    · rename_i h only
      obtain ⟨-,-,ok⟩ := bind_eq_ok.mp ok
      obtain ⟨-,-,ok⟩ := bind_eq_ok.mp ok
      obtain ⟨-,-,ok⟩ := bind_eq_ok.mp ok
      cases ok
      exact only
    · cases ok

/-- An accepted predicate has one column for each property, in their order, and these columns and the
one geometry determine its SQL. -/
theorem condition_fragment {resolver : Resolver} {p : Predicate} {c : Condition}
    (accepted : condition resolver p = .ok c) :
    ∃ columns g, p.properties.map resolver = columns.map .ok ∧ p.geometries = [g] ∧
      Fragment (columns.map (·.expression)) p.operator g p.distance c.sql ∧ Reads columns c := by
  have presence := condition_eq_ok.mp ⟨c,accepted⟩ .distancePresence
  obtain ⟨g,checked,written⟩ := bind_eq_ok.mp accepted
  have only := checkedGeometry_eq_ok checked
  split at written
  · rename_i box
    cases g with
    | envelope lower upper =>
      obtain ⟨columns,resolved,same⟩ := bind_eq_ok.mp written
      cases same
      refine ⟨columns,_,resolveAll_eq_ok resolved,only,?_,withSources_reads _ _⟩
      have absent : p.distance = none := by simpa [Requirement.Holds,box] using presence
      rw [box,absent,withSources,boxComparisons_eq]
      exact .box lower upper
    | point x y z | lineString positions | unsupported kind => cases written
  · rename_i isCall
    obtain ⟨columns,resolved,written⟩ := bind_eq_ok.mp written
    obtain ⟨literal,encoded,same⟩ := bind_eq_ok.mp written
    cases same
    refine ⟨columns,g,resolveAll_eq_ok resolved,only,?_,withSources_reads _ _⟩
    rw [withSources,propertyArguments_eq]
    exact call_fragment _ presence isCall encoded

/-- Every property is a column of its own name in the table `roads`. -/
def roads : Resolver := fun reference => .ok ⟨"roads." ++ reference.name,"roads",reference.name⟩

/-- One property on both sides of the geometry. -/
def nearRoads : Predicate :=
  ⟨.dwithin,[.property ⟨"geom",.empty,.geometry⟩,.geometry (.point (.int 1) (.int 2) none),
    .property ⟨"geom",.empty,.geometry⟩],some (.int 5)⟩

theorem condition_fragment_roads :
    ∃ c, condition roads nearRoads = .ok c ∧ ∃ columns g, nearRoads.properties.map roads = columns.map .ok ∧
      nearRoads.geometries = [g] ∧ Fragment (columns.map (·.expression)) .dwithin g (some (.int 5)) c.sql ∧
      Reads columns c := by
  have accepted : ∃ c, condition roads nearRoads = .ok c := ⟨_,rfl⟩
  obtain ⟨c,accepted⟩ := accepted
  exact ⟨c,accepted,condition_fragment accepted⟩

end Sql
end SpatialFilter
