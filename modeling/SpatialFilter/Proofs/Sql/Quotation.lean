import SpatialFilter.Proofs.Sql.Separation

/-! Well-known text in SQL. Every literal of a point or a line string quotes its well-known text, and nothing else is
quoted unless an expression is. No condition asks how many positions a line string has, and how long these are, so
some of the texts that are quoted cannot be read back. -/
namespace SpatialFilter

/-! ### Quotations -/

/-- Every second one, from the second on. -/
def alternate {α : Type} : List α → List α
  | _ :: x :: xs => x :: alternate xs
  | _ => []

/-- What a text has between each quote and the next one, which closes it. -/
def quotations (cs : List Char) : List (List Char) := alternate (cs.splitOn '\'')

section Quotations
variable {cs front inside : List Char}

theorem quotations_unquoted (free : '\'' ∉ cs) : quotations cs = [] := by
  rw [quotations,List.splitOn_eq_singleton free]
  rfl

theorem quotations_quoted (unquoted : '\'' ∉ front) (free : '\'' ∉ inside) (rest : List Char) :
    quotations (front ++ '\'' :: (inside ++ '\'' :: rest)) = inside :: quotations rest := by
  rw [quotations,List.splitOn_append_cons_self_of_not_mem unquoted,List.splitOn_append_cons_self_of_not_mem free]
  rfl

theorem not_mem_intercalate {c : Char} {sep : List Char} {parts : List (List Char)} (between : c ∉ sep)
    (free : ∀ part ∈ parts, c ∉ part) : c ∉ sep.intercalate parts := by
  cases parts with
  | nil => simp
  | cons part parts =>
    rw [List.forall_mem_cons] at free
    simp only [intercalate_cons,List.mem_append,List.mem_flatMap,not_or,not_exists,not_and]
    exact ⟨free.1,fun other member => ⟨between,free.2 other member⟩⟩

end Quotations

/-! ### Texts that are read back -/

namespace Wkt

/-- Why the well-known text of a geometry without infinities and NaN cannot be read back. -/
def defect? : Geometry → Option ReadError
  | .lineString positions =>
    if positions = [] ∨ ∃ p ∈ positions, p.length < 2 then some (.unknownGeometry "LINESTRING")
    else if positions.length < 2 then some .fewPositions
    else none
  | _ => none

theorem defect?_eq_none {g : Geometry} : defect? g = none ↔
    ∀ positions, g = .lineString positions → 2 ≤ positions.length ∧ ∀ p ∈ positions, 2 ≤ p.length := by
  cases g with
  | lineString positions =>
    have some (many : 2 ≤ positions.length) : positions ≠ [] := List.length_pos_iff.mp (by omega)
    simp only [defect?,Geometry.lineString.injEq,forall_eq']
    split_ifs with short few
    · simp only [false_iff,not_and]
      rintro many places
      obtain none | ⟨p,member,low⟩ := short
      · exact some many none
      · exact absurd (places p member) (Nat.not_le_of_lt low)
    · simp only [false_iff,not_and]
      exact fun many => absurd many (Nat.not_le_of_lt few)
    · simp only [not_or,not_exists,not_and,Nat.not_lt] at short few
      simpa using ⟨few,short.2⟩
  | envelope lower upper | point x y z | unsupported kind => simp [defect?]

/-- Well-known text without infinities and NaN is read back, or its defect is the error. -/
theorem readGeometry_ofGeometry {g : Geometry} {wkt : String} (written : ofGeometry? g = some wkt)
    (finite : ∀ n ∈ g.ordinates, n.isFinite = true) : readGeometry wkt = (defect? g).elim (.ok g) .error := by
  cases g with
  | point x y z =>
    obtain rfl := Option.some.inj written
    exact readGeometry_point_eq_ok.mpr finite
  | lineString positions =>
    obtain rfl := Option.some.inj written
    have place {p : Position} (member : p ∈ positions) : IsPlace p ↔ 2 ≤ p.length :=
      ⟨fun place => place.enough,fun enough => ⟨enough,fun n inside => finite n (List.mem_flatten_of_mem member inside)⟩⟩
    rw [defect?]
    split_ifs with short few
    · apply readGeometry_lineString_other
      refine short.imp_right fun ⟨p,member,low⟩ => ⟨p,member,?_⟩
      rw [place member]
      exact Nat.not_le_of_lt low
    · simp only [not_or,not_exists,not_and,Nat.not_lt] at short
      rw [readGeometry_lineString_places short.1 fun p member => (place member).mpr (short.2 p member),if_pos few]
      rfl
    · simp only [not_or,not_exists,not_and,Nat.not_lt] at short few
      exact readGeometry_lineString_many few fun p member => (place member).mpr (short.2 p member)
  | envelope lower upper | unsupported kind => cases written

end Wkt

/-! ### Literals in SQL -/

namespace Sql
variable {expressions : List String} {o : Operator} {g : Geometry} {d : Option Number} {s wkt literal : String}

theorem quoted_eq_wkt (written : Wkt.ofGeometry? g = some wkt) :
    quoted g = wkt ∧ Sql.literal g = .ok ("GeomFromText('" ++ wkt ++ "')") := by
  cases g with
  | point x y z | lineString positions =>
    obtain rfl := Option.some.inj written
    exact ⟨rfl,rfl⟩
  | envelope lower upper | unsupported kind => cases written

theorem quotations_literal (encoded : Sql.literal g = .ok literal) (finite : ∀ n ∈ g.ordinates, n.isFinite = true)
    {front : List Char} (unquoted : '\'' ∉ front) (rest : List Char) :
    quotations (front ++ (literal.toList ++ rest)) = (quoted g).toList :: quotations ((closing g).toList ++ rest) := by
  have free : '\'' ∉ front ++ (opening g).toList := by
    rw [List.mem_append,not_or]
    exact ⟨unquoted,quote_not_mem_opening g⟩
  rw [← quotations_quoted free (quote_not_mem_quoted finite),literal_toList encoded]
  simp only [List.append_assoc,List.cons_append]

theorem closing_unquoted {rest : List Char} (free : '\'' ∉ rest) : '\'' ∉ (closing g).toList ++ rest := by
  rw [List.mem_append,not_or]
  exact ⟨quote_not_mem_closing g,free⟩

theorem quotations_once (encoded : Sql.literal g = .ok literal) (finite : ∀ n ∈ g.ordinates, n.isFinite = true)
    {front behind : String} (unquoted : '\'' ∉ front.toList) (free : '\'' ∉ behind.toList) :
    quotations (front ++ literal ++ behind).toList = [(quoted g).toList] := by
  rw [String.toList_append,String.toList_append,List.append_assoc,quotations_literal encoded finite unquoted,
    quotations_unquoted (closing_unquoted free)]

theorem quotations_twice (encoded : Sql.literal g = .ok literal) (finite : ∀ n ∈ g.ordinates, n.isFinite = true)
    {front middle behind : String} (unquoted : '\'' ∉ front.toList) (between : '\'' ∉ middle.toList)
    (free : '\'' ∉ behind.toList) :
    quotations (front ++ literal ++ middle ++ literal ++ behind).toList = [(quoted g).toList,(quoted g).toList] := by
  have text : (front ++ literal ++ middle ++ literal ++ behind).toList =
      front.toList ++ (literal.toList ++ (middle.toList ++ (literal.toList ++ behind.toList))) := by
    simp
  rw [text,quotations_literal encoded finite unquoted,← List.append_assoc,
    quotations_literal encoded finite (closing_unquoted between),quotations_unquoted (closing_unquoted free)]

theorem arguments_unquoted (free : ∀ e ∈ expressions, '\'' ∉ e.toList) : '\'' ∉ (arguments expressions).toList := by
  rw [arguments,String.toList_intercalate]
  apply not_mem_intercalate (by decide)
  simpa using free

theorem quotations_compared (encoded : Sql.literal g = .ok literal) {n : Number} (finite : Bounded g (some n))
    (free : ∀ e ∈ expressions, '\'' ∉ e.toList) {comparison call : String} (compared : '\'' ∉ comparison.toList)
    (called : '\'' ∉ call.toList) :
    quotations ("DISTANCE(" ++ arguments expressions ++ "," ++ literal ++ comparison ++ toString n ++ call ++
      arguments expressions ++ "," ++ literal ++ ")").toList = [(quoted g).toList,(quoted g).toList] := by
  have unquoted := arguments_unquoted free
  have distance : '\'' ∉ n.sqlText := Number.not_mem_sqlText (finite.distance n rfl) rfl
  have first : '\'' ∉ ("DISTANCE(" ++ arguments expressions ++ ",").toList := by
    simp [unquoted]
  have between : '\'' ∉ (comparison ++ toString n ++ call ++ arguments expressions ++ ",").toList := by
    simp [n.toString_toList,compared,called,distance,unquoted]
  have last : '\'' ∉ ")".toList := by
    decide
  simpa only [String.append_assoc] using quotations_twice encoded finite.ordinates first between last

theorem Fragment.quotations_eq (fragment : Fragment expressions o g d s) (isCall : o ≠ .bbox) (finite : Bounded g d)
    (free : ∀ e ∈ expressions, '\'' ∉ e.toList) :
    quotations s.toList = List.replicate (1 + d.toList.length) (quoted g).toList := by
  cases fragment with
  | box lower upper => exact absurd rfl isCall
  | plain isPlain encoded =>
    have names : ∀ o ∈ Operator.plain, '\'' ∉ o.name.toList := by decide
    have unquoted := arguments_unquoted free
    exact quotations_once encoded finite.ordinates (by simp [names _ isPlain,unquoted]) (by simp)
  | beyond encoded n | dwithin encoded n => exact quotations_compared encoded finite free (by simp) (by simp)

/-! ### Conditions -/

/-- An accepted predicate that is no box comparison quotes the well-known text of its point or line string once for
each literal. The text is read back if and only if a line string has two positions or more, with two ordinates or more
each. -/
theorem condition_quotes {resolver : Resolver} {p : Predicate} {c : Condition} (accepted : condition resolver p = .ok c)
    (isCall : p.operator ≠ .bbox) (operand : .geometry g ∈ p.operands) (written : Wkt.ofGeometry? g = some wkt) :
    Sql.literal g = .ok ("GeomFromText('" ++ wkt ++ "')") ∧ '\'' ∉ wkt.toList ∧
    (∃ expressions : List String, (p.properties.map fun r => (resolver r).map Column.expression) = expressions.map .ok ∧
      Fragment expressions p.operator g p.distance c.sql ∧
        ((∀ e ∈ expressions, '\'' ∉ e.toList) →
          quotations c.sql.toList = List.replicate (1 + p.distance.toList.length) wkt.toList)) ∧
    readGeometry wkt = (Wkt.defect? g).elim (.ok g) .error ∧
    (Wkt.defect? g = none ↔
      ∀ positions, g = .lineString positions → 2 ≤ positions.length ∧ ∀ p ∈ positions, 2 ≤ p.length) := by
  obtain ⟨expressions,resolved⟩ := accepted_expressions accepted
  obtain ⟨-,h,only,finite,fragment⟩ := accepted_fragment resolved accepted
  have member : g ∈ p.geometries := List.mem_filterMap.mpr ⟨_,operand,rfl⟩
  obtain rfl : g = h := by simpa [only] using member
  obtain ⟨same,encoded⟩ := quoted_eq_wkt written
  have unquoted := quote_not_mem_quoted finite.ordinates
  have inside := fragment.quotations_eq isCall finite
  rw [same] at unquoted inside
  exact ⟨encoded,unquoted,⟨expressions,resolved,fragment,inside⟩,
    Wkt.readGeometry_ofGeometry written finite.ordinates,Wkt.defect?_eq_none⟩

/-- With a distance the literal stands in the condition twice. -/
theorem condition_quotes_roads : ∃ c, condition roads nearRoads = .ok c ∧ nearRoads.operator ≠ .bbox ∧
    .geometry (.point (.int 1) (.int 2) none) ∈ nearRoads.operands ∧
    quotations c.sql.toList = ["POINT(1 2)".toList,"POINT(1 2)".toList] ∧
    readGeometry "POINT(1 2)" = .ok (.point (.int 1) (.int 2) none) := by
  have accepted : ∃ c, condition roads nearRoads = .ok c := ⟨_,rfl⟩
  obtain ⟨c,accepted⟩ := accepted
  have isCall : nearRoads.operator ≠ .bbox := by decide
  have operand : .geometry (.point (.int 1) (.int 2) none) ∈ nearRoads.operands := by simp [nearRoads]
  obtain ⟨-,-,⟨expressions,resolved,-,quoted⟩,read,-⟩ := condition_quotes accepted isCall operand rfl
  have columns : expressions = ["roads.geom","roads.geom"] :=
    (List.map_injective_iff.mpr (fun _ _ ok => Except.ok.inj ok) resolved).symm
  subst columns
  exact ⟨c,accepted,isCall,operand,quoted (by decide),read⟩

/-- A line string of one position has a condition, which quotes what cannot be read. -/
theorem condition_one_position : ∃ c, condition roads (touchingRoads (.lineString [[.int 0,.int 0]])) = .ok c ∧
    c.sql = "TOUCHES(GeomFromText(AsText(roads.geom)),GeomFromText('LINESTRING(0 0)'))" ∧
    quotations c.sql.toList = ["LINESTRING(0 0)".toList] ∧
    readGeometry "LINESTRING(0 0)" = .error .fewPositions := by
  have accepted : condition roads (touchingRoads (.lineString [[.int 0,.int 0]])) =
      .ok ⟨"TOUCHES(GeomFromText(AsText(roads.geom)),GeomFromText('LINESTRING(0 0)'))",
        NameSet.ofNames ["roads"],NameSet.ofNames ["geom"]⟩ := rfl
  exact ⟨_,accepted,rfl,by decide,Wkt.readGeometry_lineString_one (p := [.int 0,.int 0]) ⟨by decide,by decide⟩⟩

end Sql
end SpatialFilter
