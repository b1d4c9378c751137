import SpatialFilter.Proofs.Sql.Fragment
import SpatialFilter.Proofs.Sql.Literal

/-! Predicates with the same SQL. Over the same expressions, whatever these are, the text of a condition
tells the operator, the distance and the geometry. -/
namespace SpatialFilter
namespace Sql
variable {expressions : List String} {o a : Operator} {g h : Geometry} {d e : Option Number} {s t : String}

/-- Neither the geometry nor the distance has a number that is not finite. -/
structure Bounded (g : Geometry) (d : Option Number) : Prop where
  distance : ∀ n ∈ d, n.isFinite = true
  ordinates : ∀ n ∈ g.ordinates, n.isFinite = true

/-! ### Calls -/

/-- How a call starts, and how it goes on behind the first literal. The name tells the plain operators
apart, and the comparison the two that have a distance. -/
inductive Surrounds : Operator → Option Number → String → List Char → Prop where
  | plain {operator : Operator} (isPlain : operator ∈ Operator.plain) :
      Surrounds operator none operator.name [')']
  | beyond (d : Number) (more : List Char) :
      Surrounds .beyond (some d) "DISTANCE" (") <= ".toList ++ (d.sqlText ++ ' ' :: more))
  | dwithin (d : Number) (more : List Char) :
      Surrounds .dwithin (some d) "DISTANCE" (") >= ".toList ++ (d.sqlText ++ ' ' :: more))

theorem distance_inj {n m : Number} {before after : List Char} (finite : n.isFinite = true)
    (bounded : m.isFinite = true) (same : n.sqlText ++ ' ' :: before = m.sqlText ++ ' ' :: after) : n = m := by
  obtain ⟨text,-⟩ := append_mark_inj (Number.not_mem_sqlText finite rfl) (Number.not_mem_sqlText bounded rfl) same
  exact Number.sqlText_inj finite bounded text

theorem plain_name_inj : ∀ o ∈ Operator.plain, ∀ a ∈ Operator.plain, o.name = a.name → o = a := by
  decide

theorem plain_name_ne : ∀ o ∈ Operator.plain, o.name ≠ "DISTANCE" := by
  decide

theorem Surrounds.unique {name other : String} {rest behind : List Char} (first : Surrounds o d name rest)
    (second : Surrounds a e other behind) (named : name = other) (same : rest = behind)
    (finite : ∀ n ∈ d, n.isFinite = true) (bounded : ∀ n ∈ e, n.isFinite = true) : o = a ∧ d = e := by
  cases first with
  | plain isPlain =>
    cases second with
    | plain alsoPlain => exact ⟨plain_name_inj _ isPlain _ alsoPlain named,rfl⟩
    | beyond | dwithin => exact absurd named (plain_name_ne _ isPlain)
  | beyond n more =>
    cases second with
    | plain alsoPlain => exact absurd named.symm (plain_name_ne _ alsoPlain)
    | beyond m others =>
      rw [distance_inj (finite n rfl) (bounded m rfl) (List.append_cancel_left same)]
      exact ⟨rfl,rfl⟩
    | dwithin => simp at same
  | dwithin n more =>
    cases second with
    | plain alsoPlain => exact absurd named.symm (plain_name_ne _ alsoPlain)
    | beyond => simp at same
    | dwithin m others =>
      rw [distance_inj (finite n rfl) (bounded m rfl) (List.append_cancel_left same)]
      exact ⟨rfl,rfl⟩

theorem Surrounds.name_open {name : String} {rest : List Char} (surrounds : Surrounds o d name rest) :
    '(' ∉ name.toList := by
  cases surrounds with
  | plain isPlain =>
    have names : ∀ o ∈ Operator.plain, '(' ∉ o.name.toList := by decide
    exact names _ isPlain
  | beyond | dwithin => decide

theorem Fragment.call (fragment : Fragment expressions o g d s) (isCall : o ≠ .bbox) :
    ∃ name literal rest, Surrounds o d name rest ∧ Sql.literal g = .ok literal ∧
      s.toList = name.toList ++ '(' :: ((arguments expressions).toList ++ ',' :: (literal.toList ++ rest)) := by
  cases fragment with
  | box lower upper => exact absurd rfl isCall
  | plain isPlain encoded =>
    refine ⟨_,_,_,.plain isPlain,encoded,?_⟩
    simp
  | @beyond _ literal encoded d =>
    refine ⟨_,_,_,.beyond d ("AND DISJOINT(" ++ arguments expressions ++ "," ++ literal ++ ")").toList,encoded,?_⟩
    simp [d.toString_toList]
  | @dwithin _ literal encoded d =>
    refine ⟨_,_,_,.dwithin d ("AND DWITHIN(" ++ arguments expressions ++ "," ++ literal ++ ")").toList,encoded,?_⟩
    simp [d.toString_toList]

theorem Fragment.calls_unique (first : Fragment expressions o g d s) (second : Fragment expressions a h e t)
    (isCall : o ≠ .bbox) (alsoCall : a ≠ .bbox) (finite : Bounded g d) (bounded : Bounded h e) (same : s = t) :
    o = a ∧ d = e ∧ g.SqlAlike h := by
  obtain ⟨name,literal,rest,surrounds,encoded,text⟩ := first.call isCall
  obtain ⟨otherName,otherLiteral,behind,otherSurrounds,otherEncoded,otherText⟩ := second.call alsoCall
  rw [← String.toList_inj,text,otherText] at same
  obtain ⟨names,same⟩ := append_mark_inj surrounds.name_open otherSurrounds.name_open same
  have tail := (List.cons.inj (List.append_cancel_left same)).2
  obtain ⟨-,quotes,continued⟩ := literal_append_inj encoded otherEncoded finite.ordinates bounded.ordinates tail
  obtain ⟨operators,distances⟩ :=
    surrounds.unique otherSurrounds (String.toList_inj.mp names) continued finite.distance bounded.distance
  exact ⟨operators,distances,sqlAlike_of_quoted encoded otherEncoded finite.ordinates bounded.ordinates quotes⟩

/-! ### Box comparisons -/

/-- The comparisons of all expressions with one literal. -/
def comparisons (expressions : List String) (literal : String) : String :=
  String.intercalate " AND " (expressions.map fun e => e ++ " && " ++ literal)

theorem Fragment.box_form (fragment : Fragment expressions .bbox g d s) :
    d = none ∧ ∃ lower upper, g = .envelope lower upper ∧ s = comparisons expressions (Sql.box lower upper) := by
  cases fragment with
  | box lower upper => exact ⟨rfl,_,_,rfl,rfl⟩
  | plain isPlain => exact absurd isPlain (by decide)

theorem comparisons_cons (expression : String) (more : List String) (literal : String) :
    ∃ rest, (comparisons (expression :: more) literal).toList =
      expression.toList ++ (" && ".toList ++ (literal.toList ++ rest)) := by
  unfold comparisons
  rw [String.toList_intercalate,List.map_cons,List.map_cons,intercalate_cons,String.toList_append,
    String.toList_append,List.append_assoc,List.append_assoc]
  exact ⟨_,rfl⟩

/-- The first comparison has the literal, behind an expression that is the same in both texts. -/
theorem Fragment.boxes_unique (some : expressions ≠ []) (first : Fragment expressions .bbox g d s)
    (second : Fragment expressions .bbox h e t) (finite : Bounded g d) (bounded : Bounded h e) (same : s = t) :
    d = e ∧ g.SqlAlike h := by
  obtain ⟨rfl,lower,upper,rfl,rfl⟩ := first.box_form
  obtain ⟨rfl,low,high,rfl,rfl⟩ := second.box_form
  obtain ⟨expression,more,rfl⟩ := List.exists_cons_of_ne_nil some
  obtain ⟨rest,text⟩ := comparisons_cons expression more (Sql.box lower upper)
  obtain ⟨behind,otherText⟩ := comparisons_cons expression more (Sql.box low high)
  rw [← String.toList_inj,text,otherText] at same
  have literals := List.append_cancel_left (List.append_cancel_left same)
  obtain ⟨-,quotes,-⟩ := literal_append_inj rfl rfl finite.ordinates bounded.ordinates literals
  exact ⟨rfl,sqlAlike_of_quoted rfl rfl finite.ordinates bounded.ordinates quotes⟩

/-! ### Ends -/

theorem closing_suffix {literal : String} (encoded : Sql.literal g = .ok literal) :
    (closing g).toList <:+ literal.toList := by
  rw [literal_toList encoded]
  exact (List.suffix_cons _ _).trans ((List.suffix_append _ _).trans ((List.suffix_cons _ _).trans (List.suffix_append _ _)))

theorem intercalate_suffix {sep tail : List Char} {parts : List (List Char)} (some : parts ≠ [])
    (ends : ∀ part ∈ parts, tail <:+ part) : tail <:+ sep.intercalate parts := by
  induction parts with
  | nil => exact absurd rfl some
  | cons part parts ih =>
    cases parts with
    | nil => simpa using ends
    | cons next parts =>
      rw [List.intercalate_cons_cons]
      exact (ih (List.cons_ne_nil _ _) fun part member => ends part (List.mem_cons_of_mem _ member)).trans
        (List.suffix_append _ _)

theorem comparisons_suffix (some : expressions ≠ []) (literal : String) :
    literal.toList <:+ (comparisons expressions literal).toList := by
  unfold comparisons
  rw [String.toList_intercalate]
  apply intercalate_suffix (by simpa using some)
  intro part member
  obtain ⟨text,inside,rfl⟩ := List.mem_map.mp member
  obtain ⟨expression,-,rfl⟩ := List.mem_map.mp inside
  rw [String.toList_append]
  exact List.suffix_append _ _

theorem Fragment.call_suffix (fragment : Fragment expressions o g d s) (isCall : o ≠ .bbox) :
    [')',')'] <:+ s.toList := by
  have closed (front : String) {literal : String} (encoded : Sql.literal g = .ok literal) :
      [')',')'] <:+ (front ++ literal ++ ")").toList := by
    have closes : [')'] <:+ (closing g).toList := by
      cases g <;> rw [closing] <;> decide
    obtain ⟨text,ends⟩ := closes.trans (closing_suffix encoded)
    rw [String.toList_append,String.toList_append,← ends]
    exact ⟨front.toList ++ text,by simp⟩
  cases fragment with
  | box lower upper => exact absurd rfl isCall
  | plain _ encoded | beyond encoded | dwithin encoded => exact closed _ encoded

theorem Fragment.box_ne_call (some : expressions ≠ []) (first : Fragment expressions .bbox g d s)
    (second : Fragment expressions a h e t) (isCall : a ≠ .bbox) : s ≠ t := by
  intro same
  obtain ⟨-,lower,upper,-,rfl⟩ := first.box_form
  have closes : ['6',')'] <:+ (closing (.envelope lower upper)).toList := by
    rw [closing]
    decide
  have boxEnds := closes.trans ((closing_suffix rfl).trans (comparisons_suffix some (Sql.box lower upper)))
  have callEnds := second.call_suffix isCall
  rw [← same] at callEnds
  have ends := List.suffix_of_suffix_length_le boxEnds callEnds (Nat.le_refl 2)
  revert ends
  decide

/-! ### Fragments -/

theorem Fragment.deterministic (first : Fragment expressions o g d s) (second : Fragment expressions o h d t)
    (alike : g.SqlAlike h) : s = t := by
  have literals {literal other : String} (encoded : Sql.literal g = .ok literal)
      (otherEncoded : Sql.literal h = .ok other) : literal = other := by
    rw [literal_eq_of_sqlAlike alike,otherEncoded] at encoded
    exact (Except.ok.inj encoded).symm
  cases first with
  | box lower upper =>
    obtain ⟨-,low,high,rfl,rfl⟩ := second.box_form
    rw [literals rfl rfl,comparisons]
  | plain isPlain encoded =>
    cases second with
    | box => exact absurd isPlain (by decide)
    | plain _ otherEncoded => rw [literals encoded otherEncoded]
  | beyond encoded n =>
    cases second with
    | beyond otherEncoded => rw [literals encoded otherEncoded]
  | dwithin encoded n =>
    cases second with
    | dwithin otherEncoded => rw [literals encoded otherEncoded]

/-- Two texts are the same if and only if the operators, the distances and the literals are. -/
theorem Fragment.eq_iff (some : expressions ≠ []) (first : Fragment expressions o g d s)
    (second : Fragment expressions a h e t) (finite : Bounded g d) (bounded : Bounded h e) :
    s = t ↔ o = a ∧ d = e ∧ g.SqlAlike h := by
  constructor
  · intro same
    by_cases box : o = .bbox
    · subst box
      by_cases alsoBox : a = .bbox
      · subst alsoBox
        exact ⟨rfl,first.boxes_unique some second finite bounded same⟩
      · exact absurd same (first.box_ne_call some second alsoBox)
    · by_cases alsoBox : a = .bbox
      · subst alsoBox
        exact absurd same.symm (second.box_ne_call some first box)
      · exact first.calls_unique second box alsoBox finite bounded same
  · intro ⟨operators,distances,alike⟩
    subst operators distances
    exact first.deterministic second alike

/-! ### Conditions -/

theorem expressions_eq {resolver : Resolver} {references : List PropertyReference} {columns : List Column}
    (resolved : (references.map fun r => (resolver r).map Column.expression) = expressions.map .ok)
    (all : references.map resolver = columns.map .ok) : columns.map Column.expression = expressions := by
  have mapped := congrArg (List.map (Except.map Column.expression)) all
  rw [List.map_map,List.map_map] at mapped
  have same : (columns.map Column.expression).map (Except.ok (ε := ResolveError)) = expressions.map .ok := by
    rw [← resolved,List.map_map]
    exact mapped.symm
  exact List.map_injective_iff.mpr (fun _ _ ok => Except.ok.inj ok) same

/-- An accepted predicate is written over the expressions of its properties, with finite numbers only. -/
theorem accepted_fragment {resolver : Resolver} {p : Predicate} {c : Condition}
    (resolved : (p.properties.map fun r => (resolver r).map Column.expression) = expressions.map .ok)
    (accepted : condition resolver p = .ok c) :
    expressions ≠ [] ∧ ∃ g, p.geometries = [g] ∧ Bounded g p.distance ∧
      Fragment expressions p.operator g p.distance c.sql := by
  have holds := condition_eq_ok.mp ⟨c,accepted⟩
  obtain ⟨g,checked,written⟩ := bind_eq_ok.mp accepted
  have only := checkedGeometry_eq_ok checked
  have some : expressions ≠ [] := by
    intro none
    have references : p.properties = [] := by simpa [none] using resolved
    exact holds .someProperty references
  refine ⟨some,g,only,⟨holds .finiteDistance,holds .finiteOrdinates g (by simp [only])⟩,?_⟩
  split at written
  · rename_i box
    have absent : p.distance = none := by simpa [Requirement.Holds,box] using holds .distancePresence
    cases g with
    | envelope lower upper =>
      obtain ⟨columns,all,same⟩ := bind_eq_ok.mp written
      cases same
      rw [box,absent,withSources,boxComparisons_eq,expressions_eq resolved (resolveAll_eq_ok all)]
      exact .box lower upper
    | point x y z | lineString positions | unsupported kind => cases written
  · rename_i isCall
    obtain ⟨columns,all,written⟩ := bind_eq_ok.mp written
    obtain ⟨literal,encoded,same⟩ := bind_eq_ok.mp written
    cases same
    rw [withSources,propertyArguments_eq,expressions_eq resolved (resolveAll_eq_ok all)]
    exact call_fragment _ (holds .distancePresence) isCall encoded

theorem accepted_expressions {resolver : Resolver} {p : Predicate} {c : Condition}
    (accepted : condition resolver p = .ok c) :
    ∃ expressions : List String, (p.properties.map fun r => (resolver r).map Column.expression) = expressions.map .ok := by
  have holds := condition_eq_ok.mp ⟨c,accepted⟩ .resolved
  refine ⟨p.properties.map fun r => ((resolver r).toOption.map Column.expression).getD "",?_⟩
  rw [List.map_map]
  apply List.map_congr_left
  intro reference member
  obtain ⟨column,read⟩ := holds reference member
  simp [read,Except.map,Except.toOption]

/-- Accepted predicates over the same expressions have the same SQL only if they have the same operator,
the same distance and the same geometry, two line strings without any ordinate apart. -/
theorem condition_separates {resolver other : Resolver} {p q : Predicate} {c d : Condition}
    (resolved : (p.properties.map fun r => (resolver r).map Column.expression) = expressions.map .ok)
    (resolves : (q.properties.map fun r => (other r).map Column.expression) = expressions.map .ok)
    (accepted : condition resolver p = .ok c) (admitted : condition other q = .ok d) :
    c.sql = d.sql ↔ p.operator = q.operator ∧ p.distance = q.distance ∧
      ∃ g h, p.geometries = [g] ∧ q.geometries = [h] ∧ g.SqlAlike h := by
  obtain ⟨some,g,first,finite,fragment⟩ := accepted_fragment resolved accepted
  obtain ⟨-,h,second,bounded,others⟩ := accepted_fragment resolves admitted
  rw [fragment.eq_iff some others finite bounded,first,second]
  simp

def touchingRoads (g : Geometry) : Predicate := ⟨.touches,[.property ⟨"geom",.empty,.geometry⟩,.geometry g],none⟩

/-- An integer is not the float of the same value, but an empty position does not show. -/
theorem condition_separates_roads :
    (∃ c d, condition roads (touchingRoads (.point (.int 1) (.int 2) none)) = .ok c ∧
      condition roads (touchingRoads (.point (.int 1) (.float ⟨4611686018427387904⟩) none)) = .ok d ∧
        c.sql ≠ d.sql) ∧
    ∃ c d, condition roads (touchingRoads (.lineString [])) = .ok c ∧
      condition roads (touchingRoads (.lineString [[]])) = .ok d ∧ c.sql = d.sql := by
  have resolved (g : Geometry) : ((touchingRoads g).properties.map fun r => (roads r).map Column.expression) =
      ["roads.geom"].map .ok := rfl
  have whole : ∃ c, condition roads (touchingRoads (.point (.int 1) (.int 2) none)) = .ok c := ⟨_,rfl⟩
  have float : ∃ c, condition roads (touchingRoads (.point (.int 1) (.float ⟨4611686018427387904⟩) none)) = .ok c :=
    ⟨_,rfl⟩
  have empty : ∃ c, condition roads (touchingRoads (.lineString [])) = .ok c := ⟨_,rfl⟩
  have position : ∃ c, condition roads (touchingRoads (.lineString [[]])) = .ok c := ⟨_,rfl⟩
  obtain ⟨c,accepted⟩ := whole
  obtain ⟨d,admitted⟩ := float
  obtain ⟨k,emptyAccepted⟩ := empty
  obtain ⟨l,positionAccepted⟩ := position
  refine ⟨⟨c,d,accepted,admitted,?_⟩,k,l,emptyAccepted,positionAccepted,?_⟩
  · intro same
    obtain ⟨-,-,g,h,first,second,alike⟩ := (condition_separates (resolved _) (resolved _) accepted admitted).mp same
    cases first
    cases second
    cases alike
  · exact (condition_separates (resolved _) (resolved _) emptyAccepted positionAccepted).mpr
      ⟨rfl,rfl,_,_,rfl,rfl,.noPosition⟩

end Sql
end SpatialFilter
