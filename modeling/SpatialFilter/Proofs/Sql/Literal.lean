import SpatialFilter.Sql.Condition
import SpatialFilter.Proofs.Text.Separation
import SpatialFilter.Proofs.Wkt

/-! SQL literals of geometries. A literal is one quoted text in a frame, ends where it ends whatever
stands behind it, and has its geometry in it: all but one pair of geometries have literals of their own. -/
namespace SpatialFilter

namespace Number
variable {n m : Number}

theorem sqlText_inj (first : n.isFinite = true) (second : m.isFinite = true) (same : n.sqlText = m.sqlText) :
    n = m := by
  have boundary : Numeral.Boundary [] := by simp [Numeral.Boundary]
  have read := (sqlText_spells first).read boundary
  rw [same,(sqlText_spells second).read boundary] at read
  have token : m.sqlNumeral = n.sqlNumeral := by simpa using read
  rw [← ofNumeral_sqlNumeral first,← token,ofNumeral_sqlNumeral second]

theorem not_mem_sqlText (finite : n.isFinite = true) {c : Char} (foreign : Numeral.isNumeric c = false) :
    c ∉ n.sqlText := by
  intro member
  rw [(sqlText_spells finite).numeric c member] at foreign
  cases foreign

theorem toString_toList (n : Number) : (toString n).toList = n.sqlText := String.toList_ofList

theorem sqlText_ne_nil (finite : n.isFinite = true) : n.sqlText ≠ [] := by
  obtain ⟨c,tail,text,-⟩ := (sqlText_spells finite).head
  simp [text]

end Number

/-! ### Positions -/

namespace Wkt
open Number

variable {p q : Position} {ps qs : List Position}

theorem not_mem_positionText (finite : ∀ n ∈ p, n.isFinite = true) {c : Char}
    (foreign : Numeral.isNumeric c = false) (visible : c ≠ ' ') : c ∉ positionText p := by
  cases p with
  | nil => simp [positionText]
  | cons n ns =>
    rw [positionText,List.mem_append,not_or]
    refine ⟨not_mem_sqlText (finite n (by simp)) foreign,?_⟩
    simp only [spaced,List.mem_flatMap,List.mem_cons,not_exists,not_and,not_or]
    exact fun m member => ⟨visible,not_mem_sqlText (finite m (by simp [member])) foreign⟩

theorem positionText_eq_nil (finite : ∀ n ∈ p, n.isFinite = true) : positionText p = [] ↔ p = [] := by
  cases p with
  | nil => simp [positionText]
  | cons n ns => simp [positionText,sqlText_ne_nil (finite n (by simp))]

theorem positionText_inj (first : ∀ n ∈ p, n.isFinite = true) (second : ∀ n ∈ q, n.isFinite = true)
    (same : positionText p = positionText q) : p = q := by
  cases p with
  | nil => exact ((positionText_eq_nil second).mp same.symm).symm
  | cons n ns =>
    cases q with
    | nil => exact (positionText_eq_nil first).mp same
    | cons m ms =>
      exact flatMap_joined_inj (fun k member => not_mem_sqlText (first k member) rfl)
        (fun k member => not_mem_sqlText (second k member) rfl)
        (fun k member l inside => sqlText_inj (first k member) (second l inside)) same

/-- Positions are separated by a comma, which no position has in it. -/
theorem lineStringText_cons_inj (first : ∀ r ∈ p :: ps, ∀ n ∈ r, n.isFinite = true)
    (second : ∀ r ∈ q :: qs, ∀ n ∈ r, n.isFinite = true)
    (same : lineStringText (p :: ps) = lineStringText (q :: qs)) : p :: ps = q :: qs := by
  have free {r : Position} (finite : ∀ n ∈ r, n.isFinite = true) : ',' ∉ ' ' :: positionText r := by
    simpa using not_mem_positionText finite (c := ',') rfl (by decide)
  apply flatMap_joined_inj (f := fun r => ' ' :: positionText r) (fun r member => free (first r member))
    (fun r member => free (second r member))
  · intro r member t inside same
    exact positionText_inj (first r member) (second t inside) (List.cons.inj same).2
  · exact congrArg (' ' :: ·) same

theorem not_mem_lineStringText (finite : ∀ r ∈ ps, ∀ n ∈ r, n.isFinite = true) {c : Char}
    (foreign : Numeral.isNumeric c = false) (visible : c ≠ ' ') (noMark : c ≠ ',') : c ∉ lineStringText ps := by
  cases ps with
  | nil => simp [lineStringText]
  | cons p ps =>
    rw [lineStringText,List.mem_append,not_or]
    refine ⟨not_mem_positionText (finite p (by simp)) foreign visible,?_⟩
    simp only [following,List.mem_flatMap,List.mem_cons,not_exists,not_and,not_or]
    exact fun r member => ⟨noMark,visible,not_mem_positionText (finite r (by simp [member])) foreign visible⟩

theorem lineStringText_eq_nil (finite : ∀ r ∈ ps, ∀ n ∈ r, n.isFinite = true) :
    lineStringText ps = [] ↔ ps = [] ∨ ps = [[]] := by
  cases ps with
  | nil => simp [lineStringText]
  | cons p ps =>
    rw [lineStringText,List.append_eq_nil_iff,positionText_eq_nil (finite p (by simp)),following]
    cases ps <;> simp

end Wkt

/-! ### Literals -/

namespace Geometry

/-- Geometries with the same literal. -/
inductive SqlAlike : Geometry → Geometry → Prop where
  | same (g : Geometry) : SqlAlike g g
  | noPosition : SqlAlike (lineString []) (lineString [[]])
  | emptyPosition : SqlAlike (lineString [[]]) (lineString [])

end Geometry

namespace Sql
open Wkt
variable {g h : Geometry} {l m : String}

/-- What a literal has between its quotes. -/
def quoted : Geometry → String
  | .envelope lower upper => "BOX3D( " ++ boxOrdinates lower ++ "," ++ boxOrdinates upper ++ " )"
  | .point x y z => Wkt.point x y z
  | .lineString positions => Wkt.lineString positions
  | .unsupported _ => ""

/-- What a literal has in front of its quotes. -/
def opening : Geometry → String
  | .envelope .. => "SetSRID("
  | .point .. | .lineString _ | .unsupported _ => "GeomFromText("

/-- What a literal has behind its quotes. -/
def closing : Geometry → String
  | .envelope .. => "::box3d, 4326)"
  | .point .. | .lineString _ | .unsupported _ => ")"

theorem box_framed (lower upper : Position) : box lower upper =
    opening (.envelope lower upper) ++ "'" ++ quoted (.envelope lower upper) ++ "'" ++ closing (.envelope lower upper) := by
  unfold box
  rw [show toString srid = "4326" from rfl,quoted,opening,closing,← String.toList_inj]
  simp

theorem quote_not_mem_opening (g : Geometry) : '\'' ∉ (opening g).toList := by
  cases g <;> simp [opening]

theorem quote_not_mem_closing (g : Geometry) : '\'' ∉ (closing g).toList := by
  cases g <;> simp [closing]

theorem literal_framed (encoded : literal g = .ok l) : l = opening g ++ "'" ++ quoted g ++ "'" ++ closing g := by
  cases g with
  | envelope lower upper =>
    rw [literal,Except.ok.injEq] at encoded
    rw [← encoded,box_framed]
  | point x y z =>
    rw [literal,Except.ok.injEq] at encoded
    rw [← encoded,wktLiteral,quoted,opening,closing,← String.toList_inj]
    simp
  | lineString positions =>
    rw [literal,Except.ok.injEq] at encoded
    rw [← encoded,wktLiteral,quoted,opening,closing,← String.toList_inj]
    simp
  | unsupported kind => cases encoded

theorem literal_toList (encoded : literal g = .ok l) :
    l.toList = (opening g).toList ++ '\'' :: ((quoted g).toList ++ '\'' :: (closing g).toList) := by
  rw [literal_framed encoded]
  simp

/-! ### What is quoted -/

theorem boxOrdinates_toList (ns : List Number) :
    (boxOrdinates ns).toList = ns.flatMap fun n => n.sqlText ++ [' '] := by
  induction ns with
  | nil => rfl
  | cons n ns ih =>
    rw [boxOrdinates,List.map_cons,String.join_cons,String.toList_append,String.toList_append,n.toString_toList]
    exact congrArg (n.sqlText ++ [' '] ++ ·) ih

theorem not_mem_boxOrdinates {ns : List Number} (finite : ∀ n ∈ ns, n.isFinite = true) {c : Char}
    (foreign : Numeral.isNumeric c = false) (visible : c ≠ ' ') : c ∉ (boxOrdinates ns).toList := by
  simp only [boxOrdinates_toList,List.mem_flatMap,List.mem_append,List.mem_singleton,not_exists,not_and,not_or]
  exact fun n member => ⟨Number.not_mem_sqlText (finite n member) foreign,visible⟩

theorem boxOrdinates_inj {ns ms : List Number} (first : ∀ n ∈ ns, n.isFinite = true)
    (second : ∀ n ∈ ms, n.isFinite = true) (same : (boxOrdinates ns).toList = (boxOrdinates ms).toList) : ns = ms := by
  rw [boxOrdinates_toList,boxOrdinates_toList] at same
  exact flatMap_ended_inj (fun n member => Number.not_mem_sqlText (first n member) rfl)
    (fun n member => Number.not_mem_sqlText (second n member) rfl)
    (fun n member k inside => Number.sqlText_inj (first n member) (second k inside)) same

theorem box_toList (lower upper : Position) : (quoted (.envelope lower upper)).toList =
    "BOX3D( ".toList ++ ((boxOrdinates lower).toList ++ ',' :: ((boxOrdinates upper).toList ++ " )".toList)) := by
  simp [quoted]

theorem point_toList (x y : Number) (z : Option Number) : (quoted (.point x y z)).toList =
    "POINT(".toList ++ (positionText (x :: y :: z.toList) ++ [')']) := by
  rw [quoted,Wkt.point,← position_toList]
  simp

theorem lineString_toList (positions : List Position) : (quoted (.lineString positions)).toList =
    "LINESTRING(".toList ++ (lineStringText positions ++ [')']) := by
  rw [quoted,Wkt.lineString,← positions_toList]
  simp

theorem quote_not_mem_quoted (finite : ∀ n ∈ g.ordinates, n.isFinite = true) : '\'' ∉ (quoted g).toList := by
  have foreign : Numeral.isNumeric '\'' = false := rfl
  have visible : '\'' ≠ ' ' := by decide
  cases g with
  | envelope lower upper =>
    have low := not_mem_boxOrdinates (fun n member => finite n (List.mem_append_left upper member)) foreign visible
    have high := not_mem_boxOrdinates (fun n member => finite n (List.mem_append_right lower member)) foreign visible
    rw [box_toList]
    simp [low,high]
  | point x y z =>
    have text : '\'' ∉ positionText (x :: y :: z.toList) := not_mem_positionText finite foreign visible
    rw [point_toList]
    simp [text]
  | lineString positions =>
    have text := not_mem_lineStringText (fun p member n inside => finite n (List.mem_flatten_of_mem member inside))
      foreign visible (by decide)
    rw [lineString_toList]
    simp [text]
  | unsupported kind => simp [quoted]

/-- A literal ends where it ends, whatever stands behind it. -/
theorem literal_append_inj (encoded : literal g = .ok l) (other : literal h = .ok m)
    (first : ∀ n ∈ g.ordinates, n.isFinite = true) (second : ∀ n ∈ h.ordinates, n.isFinite = true)
    {before after : List Char} (same : l.toList ++ before = m.toList ++ after) :
    opening g = opening h ∧ quoted g = quoted h ∧ before = after := by
  have closed : opening g = opening h → closing g = closing h := by
    cases g <;> cases h <;> simp [opening,closing]
  rw [literal_toList encoded,literal_toList other,List.append_assoc,List.append_assoc,List.cons_append,
    List.cons_append,List.append_assoc,List.append_assoc,List.cons_append,List.cons_append] at same
  obtain ⟨front,same⟩ := append_mark_inj (quote_not_mem_opening g) (quote_not_mem_opening h) same
  obtain ⟨middle,same⟩ := append_mark_inj (quote_not_mem_quoted first) (quote_not_mem_quoted second) same
  have opened := String.toList_inj.mp front
  rw [closed opened,List.append_right_inj] at same
  exact ⟨opened,String.toList_inj.mp middle,same⟩

theorem envelope_inj {lower upper low high : Position}
    (first : ∀ n ∈ lower ++ upper, n.isFinite = true) (second : ∀ n ∈ low ++ high, n.isFinite = true)
    (same : quoted (.envelope lower upper) = quoted (.envelope low high)) : lower = low ∧ upper = high := by
  rw [List.forall_mem_append] at first second
  rw [← String.toList_inj,box_toList,box_toList,List.append_right_inj] at same
  obtain ⟨lows,highs⟩ := append_mark_inj (not_mem_boxOrdinates first.1 rfl (by decide))
    (not_mem_boxOrdinates second.1 rfl (by decide)) same
  rw [List.append_left_inj] at highs
  exact ⟨boxOrdinates_inj first.1 second.1 lows,boxOrdinates_inj first.2 second.2 highs⟩

theorem point_inj {x y a b : Number} {z c : Option Number} (first : ∀ n ∈ x :: y :: z.toList, n.isFinite = true)
    (second : ∀ n ∈ a :: b :: c.toList, n.isFinite = true)
    (same : quoted (.point x y z) = quoted (.point a b c)) : x = a ∧ y = b ∧ z = c := by
  rw [← String.toList_inj,point_toList,point_toList,List.append_right_inj,List.append_left_inj] at same
  obtain ⟨rfl,numbers⟩ := List.cons.inj (positionText_inj first second same)
  obtain ⟨rfl,heights⟩ := List.cons.inj numbers
  have height := congrArg List.head? heights
  rw [Option.head?_toList,Option.head?_toList] at height
  exact ⟨rfl,rfl,height⟩

theorem lineString_alike {ps qs : List Position} (first : ∀ n ∈ ps.flatten, n.isFinite = true)
    (second : ∀ n ∈ qs.flatten, n.isFinite = true)
    (same : quoted (.lineString ps) = quoted (.lineString qs)) : (Geometry.lineString ps).SqlAlike (.lineString qs) := by
  have left (p : Position) (member : p ∈ ps) (n : Number) (inside : n ∈ p) : n.isFinite = true :=
    first n (List.mem_flatten_of_mem member inside)
  have right (p : Position) (member : p ∈ qs) (n : Number) (inside : n ∈ p) : n.isFinite = true :=
    second n (List.mem_flatten_of_mem member inside)
  rw [← String.toList_inj,lineString_toList,lineString_toList,List.append_right_inj,List.append_left_inj] at same
  cases ps with
  | nil =>
    rcases (lineStringText_eq_nil right).mp same.symm with rfl | rfl
    · exact .same _
    · exact .noPosition
  | cons p ps =>
    cases qs with
    | nil =>
      rcases (lineStringText_eq_nil left).mp same with none | one
      · cases none
      · rw [one]
        exact .emptyPosition
    | cons q qs =>
      rw [lineStringText_cons_inj left right same]
      exact .same _

theorem sqlAlike_of_quoted (encoded : literal g = .ok l) (other : literal h = .ok m)
    (first : ∀ n ∈ g.ordinates, n.isFinite = true) (second : ∀ n ∈ h.ordinates, n.isFinite = true)
    (same : quoted g = quoted h) : g.SqlAlike h := by
  have heads : (quoted g).toList.head? = (quoted h).toList.head? := by rw [same]
  cases g with
  | envelope lower upper =>
    cases h with
    | envelope low high =>
      obtain ⟨rfl,rfl⟩ := envelope_inj first second same
      exact .same _
    | point a b c => simp [box_toList,point_toList] at heads
    | lineString qs => simp [box_toList,lineString_toList] at heads
    | unsupported kind => cases other
  | point x y z =>
    cases h with
    | envelope low high => simp [box_toList,point_toList] at heads
    | point a b c =>
      obtain ⟨rfl,rfl,rfl⟩ := point_inj first second same
      exact .same _
    | lineString qs => simp [point_toList,lineString_toList] at heads
    | unsupported kind => cases other
  | lineString ps =>
    cases h with
    | envelope low high => simp [box_toList,lineString_toList] at heads
    | point a b c => simp [point_toList,lineString_toList] at heads
    | lineString qs => exact lineString_alike first second same
    | unsupported kind => cases other
  | unsupported kind => cases encoded

theorem literal_eq_of_sqlAlike (alike : g.SqlAlike h) : literal g = literal h := by
  cases alike <;> rfl

end Sql
end SpatialFilter
