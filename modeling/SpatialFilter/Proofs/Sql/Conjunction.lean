import SpatialFilter.Proofs.Sql.Numbers
import SpatialFilter.Proofs.Text.Cut

/-! Conjunctions of conditions. Where the parentheses of all expressions match, those of a condition do
too, and a conjunction is cut into its conditions at each ` AND ` outside parentheses. -/
namespace SpatialFilter
namespace Sql
variable {expressions : List String} {o : Operator} {g : Geometry} {d : Option Number} {s : String}

/-! ### Parentheses of a condition -/

theorem balanced_behind (text : List Char) (plain : text.all isPlain = true) {rest : List Char} (behind : Balanced 0 rest) :
    Balanced 0 (text ++ rest) :=
  (Balanced.plain_append (List.all_eq_true.mp plain)).mpr behind

theorem balanced_call (name : List Char) (plain : name.all isPlain = true) {body rest : List Char}
    (inside : Balanced 0 body) (behind : Balanced 0 rest) : Balanced 0 (name ++ '(' :: (body ++ ')' :: rest)) :=
  balanced_behind name plain (inside.close behind)

theorem balanced_nil : Balanced 0 [] := Balanced.nil_iff.mpr rfl

theorem Frame.balanced {front behind body : String} (frame : Frame g front behind)
    (plain : ∀ c ∈ body.toList, isPlain c = true) : Balanced 0 (front ++ body ++ behind).toList := by
  have quoted (tag rest : String) (first : tag.toList.all isPlain = true) (last : rest.toList.all isPlain = true) :
      Balanced 0 (tag.toList ++ '(' :: (body.toList ++ ')' :: rest.toList)) :=
    balanced_call _ first (.of_plain plain) (.of_plain (List.all_eq_true.mp last))
  cases frame with
  | envelope lower upper =>
    have text := balanced_call "SetSRID".toList rfl (quoted "'BOX3D" "'::box3d, 4326" rfl rfl) balanced_nil
    simpa using text
  | point x y z =>
    have text := balanced_call "GeomFromText".toList rfl (quoted "'POINT" "'" rfl rfl) balanced_nil
    simpa using text
  | lineString positions =>
    have text := balanced_call "GeomFromText".toList rfl (quoted "'LINESTRING" "'" rfl rfl) balanced_nil
    simpa using text

theorem literal_balanced (finite : ∀ n ∈ g.ordinates, n.isFinite = true) {literal : String}
    (encoded : Sql.literal g = .ok literal) : Balanced 0 literal.toList := by
  have isSupported (kind : UnsupportedKind) : g ≠ .unsupported kind := by
    rintro rfl
    cases encoded
  obtain ⟨front,body,behind,frame,same,listed⟩ := literal_frame isSupported finite
  rw [encoded,Except.ok.injEq] at same
  rw [same]
  apply frame.balanced
  intro c member
  rw [isPlain_iff]
  constructor
  · rintro rfl
    exact listed.inside _ (by simp) member
  · rintro rfl
    exact listed.inside _ (by simp) member

theorem arguments_balanced (balanced : ∀ e ∈ expressions, Balanced 0 e.toList) :
    Balanced 0 (arguments expressions).toList := by
  rw [arguments,String.toList_intercalate]
  apply Balanced.intercalate (balanced_behind [','] rfl balanced_nil)
  intro part member
  obtain ⟨text,inside,rfl⟩ := List.mem_map.mp member
  obtain ⟨e,present,rfl⟩ := List.mem_map.mp inside
  have call := balanced_call "GeomFromText".toList rfl
    (balanced_call "AsText".toList rfl (balanced e present) balanced_nil) balanced_nil
  simpa using call

theorem comparisons_balanced (balanced : ∀ e ∈ expressions, Balanced 0 e.toList) {literal : String}
    (closed : Balanced 0 literal.toList) : Balanced 0 (comparisons expressions literal).toList := by
  rw [comparisons,String.toList_intercalate]
  apply Balanced.intercalate (balanced_behind " AND ".toList rfl balanced_nil)
  intro part member
  obtain ⟨text,inside,rfl⟩ := List.mem_map.mp member
  obtain ⟨e,present,rfl⟩ := List.mem_map.mp inside
  rw [String.toList_append,String.toList_append,List.append_assoc]
  exact (balanced e present).append (balanced_behind " && ".toList rfl closed)

theorem Fragment.balanced (fragment : Fragment expressions o g d s) (finite : ∀ n ∈ g.ordinates, n.isFinite = true)
    (balanced : ∀ e ∈ expressions, Balanced 0 e.toList) : Balanced 0 s.toList := by
  -- All arguments of a call stand in one pair of parentheses.
  have operands {literal : String} (encoded : Sql.literal g = .ok literal) :
      Balanced 0 ((arguments expressions).toList ++ ',' :: literal.toList) :=
    (arguments_balanced balanced).append (balanced_behind [','] rfl (literal_balanced finite encoded))
  have compared {literal : String} (encoded : Sql.literal g = .ok literal) (mark name : String) (d : Number)
      (first : mark.toList.all isPlain = true) (last : name.toList.all isPlain = true) :
      Balanced 0 ("DISTANCE(" ++ arguments expressions ++ "," ++ literal ++ ")" ++ mark ++ toString d ++
        name ++ "(" ++ arguments expressions ++ "," ++ literal ++ ")").toList := by
    have call := balanced_call _ last (operands encoded) balanced_nil
    have front := balanced_behind _ first ((Balanced.plain_append d.sqlText_plain).mpr call)
    have text := balanced_call "DISTANCE".toList rfl (operands encoded) front
    simpa [d.toString_toList] using text
  cases fragment with
  | box lower upper => exact comparisons_balanced balanced (literal_balanced finite rfl)
  | plain isPlain encoded =>
    have names : ∀ o ∈ Operator.plain, o.name.toList.all SpatialFilter.isPlain = true := by decide
    have call := balanced_call _ (names _ isPlain) (operands encoded) balanced_nil
    simpa using call
  | beyond encoded d =>
    have text := compared encoded " <= " " AND DISJOINT" d rfl rfl
    simpa [← String.toList_inj] using text
  | dwithin encoded d =>
    have text := compared encoded " >= " " AND DWITHIN" d rfl rfl
    simpa using text

/-! ### Conjunctions -/

/-- The parts of a text between the ` AND ` that stand outside parentheses. -/
def conjuncts (sql : String) : List String := (cutAt " AND ".toList 0 sql.toList).map String.ofList

def parenthesized (sql : String) : String := "(" ++ sql ++ ")"

theorem parenthesized_toList (sql : String) : (parenthesized sql).toList = enclosed sql.toList := by
  simp [parenthesized,enclosed]

theorem conjuncts_intercalate {parts : List String} (some : parts ≠ [])
    (balanced : ∀ part ∈ parts, Balanced 0 part.toList) :
    conjuncts (String.intercalate " AND " (parts.map parenthesized)) = parts.map parenthesized := by
  have texts : (parts.map parenthesized).map String.toList = (parts.map String.toList).map enclosed := by
    rw [List.map_map,List.map_map]
    exact List.map_congr_left fun part _ => parenthesized_toList part
  rw [conjuncts,String.toList_intercalate,texts,cutAt_intercalate (by decide) (by decide) (by simpa using some)
    (by simpa using balanced),← texts,List.map_map]
  exact map_eq_self fun part _ => String.ofList_toList

theorem parenthesized_unique {parts others : List String} (several : 2 ≤ parts.length)
    (balanced : ∀ part ∈ parts, Balanced 0 part.toList) (closed : ∀ part ∈ others, Balanced 0 part.toList)
    (same : String.intercalate " AND " (parts.map parenthesized) =
      String.intercalate " AND " (others.map parenthesized)) : parts = others := by
  have cut := conjuncts_intercalate (List.ne_nil_of_length_pos (by omega)) balanced
  have injective : Function.Injective parenthesized := fun first second same => by
    rw [← String.toList_inj,parenthesized_toList,parenthesized_toList] at same
    exact String.toList_inj.mp (enclosed_inj same)
  by_cases none : others = []
  · subst none
    rw [same] at cut
    have lengths := congrArg List.length cut
    rw [List.length_map] at lengths
    have single : (conjuncts (String.intercalate " AND " ([].map parenthesized))).length = 1 := by
      simp [conjuncts,cutAt]
    omega
  · rw [same,conjuncts_intercalate none closed] at cut
    exact (List.map_injective_iff.mpr injective cut).symm

theorem conjoin_sql {conditions : List Condition} (several : 2 ≤ conditions.length) :
    (Condition.conjoin conditions).sql = String.intercalate " AND " ((conditions.map (·.sql)).map parenthesized) := by
  rw [List.map_map]
  match conditions with
  | first :: second :: more => rfl

/-- A conjunction reads what its conditions read. -/
theorem mem_conjoin (conditions : List Condition) (name : String) :
    (name ∈ (Condition.conjoin conditions).tables.toList ↔ ∃ c ∈ conditions, name ∈ c.tables.toList) ∧
      (name ∈ (Condition.conjoin conditions).columns.toList ↔ ∃ c ∈ conditions, name ∈ c.columns.toList) := by
  have unions (names : Condition → NameSet) :
      name ∈ (conditions.foldl (fun found c => NameSet.union found (names c)) (.empty : NameSet)).toList ↔
        ∃ c ∈ conditions, name ∈ (names c).toList := by
    rw [NameSet.mem_foldl_union]
    simp [NameSet.toList,NameMap.empty]
  cases conditions with
  | nil => exact ⟨unions (·.tables),unions (·.columns)⟩
  | cons c more =>
    cases more with
    | nil => simp [Condition.conjoin]
    | cons d more => exact ⟨unions (·.tables),unions (·.columns)⟩

theorem conditionOfAll_eq_map {resolver : Resolver} {ps : List Predicate} (some : ps ≠ []) :
    conditionOfAll resolver ps = (ps.mapM (condition resolver)).map Condition.conjoin := by
  obtain ⟨p,more,rfl⟩ := List.exists_cons_of_ne_nil some
  rfl

theorem conditionOfAll_eq_ok {resolver : Resolver} {ps : List Predicate} {c : Condition}
    (accepted : conditionOfAll resolver ps = .ok c) :
    ∃ conditions, ps.map (condition resolver) = conditions.map .ok ∧ c = Condition.conjoin conditions := by
  cases ps with
  | nil => cases accepted
  | cons p ps =>
    obtain ⟨conditions,all,same⟩ := bind_eq_ok.mp accepted
    cases same
    exact ⟨conditions,mapM_eq_ok_map.mp all,rfl⟩

theorem condition_balanced {resolver : Resolver}
    (balanced : ∀ reference column, resolver reference = .ok column → Balanced 0 column.expression.toList)
    {p : Predicate} {c : Condition} (accepted : condition resolver p = .ok c) : Balanced 0 c.sql.toList := by
  obtain ⟨expressions,resolved⟩ := accepted_expressions accepted
  obtain ⟨-,g,-,bounded,fragment⟩ := accepted_fragment resolved accepted
  apply fragment.balanced bounded.ordinates
  intro e member
  obtain ⟨reference,-,answer⟩ := mem_of_map_ok resolved e member
  cases read : resolver reference with
  | error cause => simp [read,Except.map] at answer
  | ok column =>
    rw [read] at answer
    cases answer
    exact balanced reference column read

/-- Cut outside parentheses, a conjunction of several conditions falls into these conditions, each in one
pair of parentheses, and no other list of conditions has the same conjunction. -/
theorem conjuncts_conditionOfAll {resolver : Resolver}
    (balanced : ∀ reference column, resolver reference = .ok column → Balanced 0 column.expression.toList)
    {ps : List Predicate} (several : 2 ≤ ps.length) {c : Condition} (accepted : conditionOfAll resolver ps = .ok c) :
    ∃ conditions : List Condition, ps.map (condition resolver) = conditions.map .ok ∧
      (∀ k ∈ conditions, Balanced 0 k.sql.toList) ∧
      conjuncts c.sql = conditions.map (fun k => "(" ++ k.sql ++ ")") ∧
      ∀ others : List String, (∀ sql ∈ others, Balanced 0 sql.toList) →
        c.sql = String.intercalate " AND " (others.map fun sql => "(" ++ sql ++ ")") →
          others = conditions.map (·.sql) := by
  obtain ⟨conditions,all,rfl⟩ := conditionOfAll_eq_ok accepted
  have lengths := congrArg List.length all
  rw [List.length_map,List.length_map] at lengths
  have closed : ∀ k ∈ conditions, Balanced 0 k.sql.toList := by
    intro k member
    obtain ⟨p,-,accepted⟩ := mem_of_map_ok all k member
    exact condition_balanced balanced accepted
  have parts : ∀ sql ∈ conditions.map (·.sql), Balanced 0 sql.toList := by simpa using closed
  refine ⟨conditions,all,closed,?_,fun others inside same => ?_⟩
  · rw [conjoin_sql (lengths ▸ several),conjuncts_intercalate (List.ne_nil_of_length_pos (by simp; omega)) parts,List.map_map]
    rfl
  · rw [conjoin_sql (lengths ▸ several)] at same
    exact (parenthesized_unique (by simp; omega) parts inside same).symm

def reprojected : Resolver := fun _ => .ok ⟨"ST_Transform(roads.geom, 4326)","roads","geom"⟩

/-- Two comparisons, so that an ` AND ` stands inside the condition. -/
def boxedRoads : Predicate :=
  ⟨.bbox,[.property ⟨"geom",.empty,.geometry⟩,.property ⟨"line",.empty,.geometry⟩,
    .geometry (.envelope [.int 0,.int 0] [.int 1,.int 1])],none⟩

theorem conjuncts_conditionOfAll_roads : ∃ c, conditionOfAll reprojected [nearRoads,boxedRoads] = .ok c ∧
    ∃ conditions : List Condition, [nearRoads,boxedRoads].map (condition reprojected) = conditions.map .ok ∧
      (∀ k ∈ conditions, Balanced 0 k.sql.toList) ∧
      conjuncts c.sql = conditions.map fun k => "(" ++ k.sql ++ ")" := by
  have balanced (reference : PropertyReference) (column : Column) (read : reprojected reference = .ok column) :
      Balanced 0 column.expression.toList := by
    cases read
    have call := balanced_call "ST_Transform".toList rfl
      (balanced_behind "roads.geom, 4326".toList rfl balanced_nil) balanced_nil
    simpa using call
  have accepted : ∃ c, conditionOfAll reprojected [nearRoads,boxedRoads] = .ok c := ⟨_,rfl⟩
  obtain ⟨c,accepted⟩ := accepted
  obtain ⟨conditions,all,closed,cut,-⟩ := conjuncts_conditionOfAll balanced (by decide) accepted
  exact ⟨c,accepted,conditions,all,closed,cut⟩

end Sql
end SpatialFilter
