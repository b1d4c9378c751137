import SpatialFilter.Proofs.Number.Pattern
import SpatialFilter.Proofs.Sql.Separation
import SpatialFilter.Proofs.Text.Words

/-! Geometries and distances in SQL. They reach it as numbers only: each number is one token, and all
else in a literal is the frame of its kind, blanks and commas. -/
namespace SpatialFilter

theorem isSeparator_of_isNumeric {c : Char} (numeric : Numeral.isNumeric c = true) : isSeparator c = false := by
  rw [isSeparator,Numeral.isBlank_eq_false_of_isNumeric numeric,Bool.false_or,decide_eq_false_iff_not]
  rintro rfl
  exact absurd numeric (by decide)

namespace Wkt
variable {n : Number} {p : Position} {ps : List Position}

theorem words_sqlText (finite : n.isFinite = true) : words n.sqlText = [n.sqlText] :=
  words_single (Number.sqlText_ne_nil finite) fun c member =>
    isSeparator_of_isNumeric ((Number.sqlText_spells finite).numeric c member)

theorem words_positionText (finite : ∀ n ∈ p, n.isFinite = true) :
    words (positionText p) = p.map Number.sqlText := by
  induction p with
  | nil => rfl
  | cons n ns ih =>
    have first := words_sqlText (finite n (by simp))
    have more := ih fun m member => finite m (by simp [member])
    cases ns with
    | nil => simpa [positionText,spaced] using first
    | cons m ms =>
      have text : positionText (n :: m :: ms) = n.sqlText ++ ' ' :: positionText (m :: ms) := by
        simp [positionText,spaced]
      rw [text,words_separated _ _ rfl,first,more]
      rfl

theorem words_lineStringText (finite : ∀ n ∈ ps.flatten, n.isFinite = true) :
    words (lineStringText ps) = ps.flatten.map Number.sqlText := by
  induction ps with
  | nil => rfl
  | cons p ps ih =>
    rw [List.flatten_cons,List.forall_mem_append] at finite
    have first := words_positionText finite.1
    have more := ih finite.2
    cases ps with
    | nil => simpa [lineStringText,following] using first
    | cons q qs =>
      have text : lineStringText (p :: q :: qs) = positionText p ++ ',' :: ' ' :: lineStringText (q :: qs) := by
        simp [lineStringText,following]
      rw [text,words_separated _ _ rfl,words_behind rfl,first,more,← List.map_append]
      rfl

end Wkt

namespace Sql
open Wkt
variable {g : Geometry}

theorem words_boxOrdinates {ns : List Number} (finite : ∀ n ∈ ns, n.isFinite = true) :
    words (boxOrdinates ns).toList = ns.map Number.sqlText := by
  rw [boxOrdinates_toList]
  induction ns with
  | nil => rfl
  | cons n ns ih =>
    rw [List.flatMap_cons,List.append_assoc,List.singleton_append,words_separated _ _ rfl,
      words_sqlText (finite n (by simp)),ih fun m member => finite m (by simp [member])]
    rfl

/-! ### Frames -/

/-- What a literal has around its numbers. Nothing of the geometry but its kind shows in it. -/
inductive Frame : Geometry → String → String → Prop where
  | envelope (lower upper : Position) : Frame (.envelope lower upper) "SetSRID('BOX3D(" ")'::box3d, 4326)"
  | point (x y : Number) (z : Option Number) : Frame (.point x y z) "GeomFromText('POINT(" ")')"
  | lineString (positions : List Position) : Frame (.lineString positions) "GeomFromText('LINESTRING(" ")')"

theorem Frame.quotes {front behind : String} (frame : Frame g front behind) :
    front.toList.count '\'' = 1 ∧ behind.toList.count '\'' = 1 := by
  cases frame <;> decide

/-- The ordinates of a geometry, one token for each, and nothing else between blanks and commas. -/
structure Lists (g : Geometry) (body : String) : Prop where
  ordinates : words body.toList = g.ordinates.map fun n => (toString n).toList
  tokens : ∀ word ∈ words body.toList, word ∈ Numeral.pattern.matches'
  inside : ∀ mark ∈ ['(',')','\''], mark ∉ body.toList

theorem lists_of_words (finite : ∀ n ∈ g.ordinates, n.isFinite = true) {body : String}
    (listed : words body.toList = g.ordinates.map Number.sqlText) : Lists g body where
  ordinates := by
    rw [listed]
    exact List.map_congr_left fun n _ => n.toString_toList.symm
  tokens word member := by
    rw [listed] at member
    obtain ⟨n,present,rfl⟩ := List.mem_map.mp member
    exact Number.sqlText_mem_pattern (finite n present)
  inside mark isMark member := by
    have foreign : isSeparator mark = false ∧ Numeral.isNumeric mark = false := by
      fin_cases isMark <;> exact ⟨rfl,rfl⟩
    obtain ⟨visible,strange⟩ := foreign
    obtain ⟨word,present,has⟩ := mem_words member visible
    rw [listed] at present
    obtain ⟨n,ordinate,rfl⟩ := List.mem_map.mp present
    exact Number.not_mem_sqlText (finite n ordinate) strange has

theorem literal_frame (isSupported : ∀ kind, g ≠ .unsupported kind)
    (finite : ∀ n ∈ g.ordinates, n.isFinite = true) :
    ∃ front body behind, Frame g front behind ∧ literal g = .ok (front ++ body ++ behind) ∧ Lists g body := by
  cases g with
  | envelope lower upper =>
    refine ⟨_," " ++ boxOrdinates lower ++ "," ++ boxOrdinates upper ++ " ",_,.envelope lower upper,?_,?_⟩
    · rw [literal,box_framed,opening,quoted,closing,Except.ok.injEq,← String.toList_inj]
      simp
    · apply lists_of_words finite
      have text : (" " ++ boxOrdinates lower ++ "," ++ boxOrdinates upper ++ " ").toList =
          ' ' :: ((boxOrdinates lower).toList ++ ',' :: ((boxOrdinates upper).toList ++ ' ' :: [])) := by
        simp
      change ∀ n ∈ lower ++ upper, n.isFinite = true at finite
      rw [List.forall_mem_append] at finite
      rw [text,words_behind rfl,words_separated _ _ rfl,words_separated _ _ rfl,words_boxOrdinates finite.1,
        words_boxOrdinates finite.2]
      simp [words,Geometry.ordinates]
  | point x y z =>
    refine ⟨_,position (x :: y :: z.toList),_,.point x y z,?_,?_⟩
    · rw [literal,wktLiteral,Wkt.point,Except.ok.injEq,← String.toList_inj]
      simp
    · apply lists_of_words finite
      rw [position_toList]
      exact words_positionText finite
  | lineString positions =>
    refine ⟨_,String.intercalate ", " (positions.map position),_,.lineString positions,?_,?_⟩
    · rw [literal,wktLiteral,Wkt.lineString,Except.ok.injEq,← String.toList_inj]
      simp
    · apply lists_of_words finite
      rw [positions_toList]
      exact words_lineStringText finite
  | unsupported kind => exact absurd rfl (isSupported kind)

/-! ### Distances -/

theorem comparison_mark {closing : Closing} {d : Number} {text : String}
    (compared : closing.comparison (some d) = some text) : ∃ mark ∈ ["<= ",">= "], text = mark ++ toString d := by
  cases closing with
  | plain => cases compared
  | atMost =>
    cases compared
    exact ⟨_,by simp,rfl⟩
  | atLeast =>
    cases compared
    exact ⟨_,by simp,rfl⟩

theorem Fragment.distance_mark {expressions : List String} {o : Operator} {d : Number} {s : String}
    (fragment : Fragment expressions o g (some d) s) :
    ∃ mark ∈ ["<= ",">= "], ∃ front behind, s = front ++ ") " ++ mark ++ toString d ++ " AND " ++ behind := by
  cases fragment with
  | @beyond _ literal encoded =>
    refine ⟨"<= ",by simp,"DISTANCE(" ++ arguments expressions ++ "," ++ literal,
      "DISJOINT(" ++ arguments expressions ++ "," ++ literal ++ ")",?_⟩
    simp [← String.toList_inj]
  | @dwithin _ literal encoded =>
    refine ⟨">= ",by simp,"DISTANCE(" ++ arguments expressions ++ "," ++ literal,
      "DWITHIN(" ++ arguments expressions ++ "," ++ literal ++ ")",?_⟩
    simp [← String.toList_inj]

theorem distance_token {d : Number} (finite : d.isFinite = true) : (toString d).toList ∈ Numeral.pattern.matches' := by
  rw [d.toString_toList]
  exact Number.sqlText_mem_pattern finite

/-! ### Literals and conditions -/

/-- Geometries without infinities and NaN have literals with two quotes, in which their ordinates are
tokens, as a distance is behind its comparison. Conditions have no other geometries and distances. -/
theorem literal_numbers :
    (∀ g : Geometry, (∀ kind, g ≠ .unsupported kind) → (∀ n ∈ g.ordinates, n.isFinite = true) →
      ∃ front body behind, Frame g front behind ∧ literal g = .ok (front ++ body ++ behind) ∧
        (front ++ body ++ behind).toList.count '\'' = 2 ∧ Lists g body) ∧
    (∀ (d : Number) (closing : Closing) (text : String), d.isFinite = true → closing.comparison (some d) = some text →
      ∃ mark ∈ ["<= ",">= "], text = mark ++ toString d ∧ (toString d).toList ∈ Numeral.pattern.matches') ∧
    (∀ (resolver : Resolver) (p : Predicate) (c : Condition), condition resolver p = .ok c →
      ∃ expressions g, (p.properties.map fun r => (resolver r).map Column.expression) = expressions.map .ok ∧
        p.geometries = [g] ∧ Bounded g p.distance ∧ Fragment expressions p.operator g p.distance c.sql ∧
          ∀ d ∈ p.distance, (toString d).toList ∈ Numeral.pattern.matches' ∧ ∃ mark ∈ ["<= ",">= "],
            ∃ front behind, c.sql = front ++ ") " ++ mark ++ toString d ++ " AND " ++ behind) := by
  refine ⟨fun g isSupported finite => ?_,fun d closing text finite compared => ?_,fun resolver p c accepted => ?_⟩
  · obtain ⟨front,body,behind,frame,encoded,listed⟩ := literal_frame isSupported finite
    have noQuote : body.toList.count '\'' = 0 := List.count_eq_zero.mpr (listed.inside _ (by simp))
    refine ⟨front,body,behind,frame,encoded,?_,listed⟩
    rw [String.toList_append,String.toList_append,List.count_append,List.count_append,frame.quotes.1,noQuote,
      frame.quotes.2]
  · obtain ⟨mark,isMark,same⟩ := comparison_mark compared
    exact ⟨mark,isMark,same,distance_token finite⟩
  · obtain ⟨expressions,resolved⟩ := accepted_expressions accepted
    obtain ⟨-,g,only,bounded,fragment⟩ := accepted_fragment resolved accepted
    refine ⟨expressions,g,resolved,only,bounded,fragment,fun d present => ⟨distance_token (bounded.distance d present),?_⟩⟩
    rw [Option.mem_def.mp present] at fragment
    exact fragment.distance_mark

/-- A small float is written with an exponent, and positions need not have the same number of ordinates. -/
def bentRoad : Geometry := .lineString [[.int (-5),.float ⟨4490118700684568875⟩],[],[.int 0]]

theorem literal_numbers_bentRoad :
    (∃ front body behind, Frame bentRoad front behind ∧ literal bentRoad = .ok (front ++ body ++ behind) ∧
      (front ++ body ++ behind).toList.count '\'' = 2 ∧ Lists bentRoad body) ∧
    (∃ mark ∈ ["<= ",">= "], ">= 5" = mark ++ toString (Number.int 5) ∧
      (toString (Number.int 5)).toList ∈ Numeral.pattern.matches') ∧
    ∃ c, condition roads nearRoads = .ok c ∧ ∃ mark ∈ ["<= ",">= "],
      ∃ front behind, c.sql = front ++ ") " ++ mark ++ toString (Number.int 5) ++ " AND " ++ behind := by
  have accepted : ∃ c, condition roads nearRoads = .ok c := ⟨_,rfl⟩
  obtain ⟨c,accepted⟩ := accepted
  obtain ⟨expressions,g,-,-,-,-,distance⟩ := literal_numbers.2.2 roads nearRoads c accepted
  exact ⟨literal_numbers.1 bentRoad (by simp [bentRoad]) (by decide),
    literal_numbers.2.1 (.int 5) .atLeast ">= 5" rfl rfl,c,accepted,(distance _ rfl).2⟩

end Sql
end SpatialFilter
