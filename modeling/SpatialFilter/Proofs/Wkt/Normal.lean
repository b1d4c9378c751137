import SpatialFilter.Proofs.Phrase.Position
import SpatialFilter.Proofs.Wkt

/-! Well-known text as a normal form. What is read as a point or a line string is written as a text that is read as
the same geometry, so all texts of one geometry have one form in common, and this form is its own. -/
namespace SpatialFilter

theorem GroupForm.positions_of_phrase {g : GroupForm} {positions : List (List Numeral)}
    (phrase : g.phrase = .lineString positions) : ArePositions g.body positions := by
  rcases g.phrase_cases with ⟨_,-,same⟩ | ⟨others,divided,same⟩ | ⟨_,_,-,same⟩ | same
  · cases phrase.symm.trans same
  · cases phrase.symm.trans same
    exact divided
  · cases phrase.symm.trans same
  · cases phrase.symm.trans same

theorem GeometryPhrase.toGeometry_eq_lineString {phrase : GeometryPhrase} {ps : List Position}
    (ok : phrase.toGeometry = .ok (.lineString ps)) :
    ∃ positions, phrase = .lineString positions ∧ 2 ≤ positions.length ∧ ps = positions.map (List.map Number.ofNumeral) := by
  unfold toGeometry at ok
  split at ok
  · split at ok <;> cases ok
  · split at ok
    · cases ok
    · rename_i positions many
      cases ok
      exact ⟨positions,rfl,Nat.le_of_not_lt many,rfl⟩
  · cases ok
  · split at ok <;> cases ok

/-- Line strings that are read have two positions or more, of two ordinates or more. -/
theorem readGeometry_lineString_shape {text : String} {ps : List Position}
    (read : readGeometry text = .ok (.lineString ps)) : 2 ≤ ps.length ∧ ∀ p ∈ ps, 2 ≤ p.length := by
  have fits (found : Mismatch) : readGeometry text ≠ .error (.mismatch found) := by simp [read]
  obtain ⟨g,-,-,-,-,-,meaning⟩ := group_of_text fits
  rw [read] at meaning
  obtain ⟨positions,phrase,many,rfl⟩ := GeometryPhrase.toGeometry_eq_lineString meaning.symm
  have divided := GroupForm.positions_of_phrase phrase
  refine ⟨by simpa using many,?_⟩
  rw [List.forall_mem_map]
  simpa using divided.enough

namespace Wkt

/-- The well-known text of what a text is read as. -/
def normalForm? (text : String) : Option String :=
  match readGeometry text with
  | .ok geometry => ofGeometry? geometry
  | .error _ => none

theorem normalForm?_of_read {text : String} {g : Geometry} (read : readGeometry text = .ok g) :
    normalForm? text = ofGeometry? g := by
  rw [normalForm?,read]

/-- What was read is read again from its well-known text. -/
theorem readGeometry_written {text wkt : String} {g : Geometry} (read : readGeometry text = .ok g)
    (finite : ∀ n ∈ g.ordinates, n.isFinite = true) (written : ofGeometry? g = some wkt) :
    readGeometry wkt = .ok g := by
  cases g with
  | point x y z =>
    obtain rfl := Option.some.inj written
    exact readGeometry_point_eq_ok.mpr finite
  | lineString positions =>
    obtain rfl := Option.some.inj written
    obtain ⟨many,enough⟩ := readGeometry_lineString_shape read
    refine readGeometry_lineString_many many fun p member => ⟨enough p member,fun n inside => ?_⟩
    exact finite n (List.mem_flatten_of_mem member inside)
  | envelope lower upper => cases written
  | unsupported kind => cases written

end Wkt

/-- A text that is read as a point or a line string without infinities has a normal form. It is read as the same
geometry and is its own normal form, and only texts of this geometry have it. -/
theorem readGeometry_normalForm {text : String} {g : Geometry} (read : readGeometry text = .ok g)
    (kind : (∃ x y z, g = .point x y z) ∨ ∃ positions, g = .lineString positions)
    (finite : ∀ n ∈ g.ordinates, n.isFinite = true) :
    ∃ wkt, Wkt.ofGeometry? g = some wkt ∧ readGeometry wkt = .ok g ∧ Wkt.normalForm? text = some wkt ∧
      Wkt.normalForm? wkt = some wkt ∧
      ∀ other h, readGeometry other = .ok h → (∀ n ∈ h.ordinates, n.isFinite = true) →
        Wkt.normalForm? other = some wkt → h = g := by
  obtain ⟨wkt,written⟩ : ∃ wkt, Wkt.ofGeometry? g = some wkt := by
    rcases kind with ⟨x,y,z,rfl⟩ | ⟨positions,rfl⟩
    · exact ⟨_,rfl⟩
    · exact ⟨_,rfl⟩
  have again := Wkt.readGeometry_written read finite written
  refine ⟨wkt,written,again,by rw [Wkt.normalForm?_of_read read,written],
    by rw [Wkt.normalForm?_of_read again,written],fun other h otherRead otherFinite same => ?_⟩
  rw [Wkt.normalForm?_of_read otherRead] at same
  exact Except.ok.inj ((Wkt.readGeometry_written otherRead otherFinite same).symm.trans again)

/-- A point with a leading zero, a negative zero and an exponent. -/
def zerosPoint : Geometry :=
  .point (.int 7) (.int 0) (some (Number.ofNumeral ⟨false,['1'],none,some (.unmarked,['2'])⟩))

theorem readGeometry_normalForm_zeros :
    readGeometry "point( 007\t-0 1E2)" = .ok zerosPoint ∧ (∀ n ∈ zerosPoint.ordinates, n.isFinite = true) ∧
      ∃ wkt, readGeometry wkt = .ok zerosPoint ∧ Wkt.normalForm? wkt = some wkt := by
  have whole : Phrase.readWhole Phrase.readGeometry "point( 007\t-0 1E2)".toList = some (.point
      [⟨false,['0','0','7'],none,none⟩,⟨true,['0'],none,none⟩,⟨false,['1'],none,some (.unmarked,['2'])⟩]) := by
    cbv
  have read : readGeometry "point( 007\t-0 1E2)" = .ok zerosPoint := by
    rw [readGeometry,whole]
    rfl
  have finite : ∀ n ∈ zerosPoint.ordinates, n.isFinite = true := by decide +kernel
  obtain ⟨wkt,-,again,-,normal,-⟩ := readGeometry_normalForm read (.inl ⟨_,_,_,rfl⟩) finite
  exact ⟨read,finite,wkt,again,normal⟩

end SpatialFilter
