import SpatialFilter.Proofs.Phrase.Position
import SpatialFilter.Proofs.Reading.Tag

/-! Bodies of points, line strings and envelopes. What such a tag means depends on the numbers of its body and on
how commas divide them; a body with anything else in it leaves the tag without a meaning. -/
namespace SpatialFilter
variable {body : String}

/-- The meaning of a point with this body. -/
inductive PointMeans (body : List Char) : Except ReadError Geometry → Prop where
  | flat {x y : Numeral} (numbers : Numbers body [x,y]) :
      PointMeans body (.ok (.point (Number.ofNumeral x) (Number.ofNumeral y) none))
  | solid {x y z : Numeral} (numbers : Numbers body [x,y,z]) :
      PointMeans body (.ok (.point (Number.ofNumeral x) (Number.ofNumeral y) (some (Number.ofNumeral z))))
  | tooMany {ordinates : List Numeral} (numbers : Numbers body ordinates) (many : 4 ≤ ordinates.length) :
      PointMeans body (.error (.pointOrdinates ordinates.length))
  | unfit (few : ∀ ordinates, Numbers body ordinates → ordinates.length < 2) :
      PointMeans body (.error (.unknownGeometry "POINT"))

/-- The meaning of a line string with this body. -/
inductive LineStringMeans (body : List Char) : Except ReadError Geometry → Prop where
  | many {positions : List (List Numeral)} (divided : ArePositions body positions) (many : 2 ≤ positions.length) :
      LineStringMeans body (.ok (.lineString (positions.map (List.map Number.ofNumeral))))
  | one {position : List Numeral} (divided : ArePositions body [position]) : LineStringMeans body (.error .fewPositions)
  | unfit (divided : ∀ positions, ¬ ArePositions body positions) :
      LineStringMeans body (.error (.unknownGeometry "LINESTRING"))

/-- The meaning of an envelope with this body. -/
inductive EnvelopeMeans (body : List Char) : Except ReadError Geometry → Prop where
  | corners {lower upper : List Numeral} (divided : ArePositions body [lower,upper]) :
      EnvelopeMeans body (.ok (.envelope (lower.map Number.ofNumeral) (upper.map Number.ofNumeral)))
  | unfit (divided : ∀ lower upper, ¬ ArePositions body [lower,upper]) :
      EnvelopeMeans body (.error (.unknownGeometry "ENVELOPE"))

/-- Without a body that fits, the three tags have no meaning. -/
theorem GeometryPhrase.toGeometry_unfit : ∀ keyword ∈ ["POINT","LINESTRING","ENVELOPE"],
    (tagged keyword.toList).toGeometry = .error (.unknownGeometry keyword) := by
  decide

/-! ### Points -/

theorem GeometryPhrase.toGeometry_many {ordinates : List Numeral} (many : 4 ≤ ordinates.length) :
    (point ordinates).toGeometry = .error (.pointOrdinates ordinates.length) := by
  match ordinates,many with
  | x :: y :: z :: t :: more,_ => simp [toGeometry]

theorem pointMeans_iff {cs : List Char} {result : Except ReadError Geometry} : PointMeans cs result ↔
    ((Phrase.readBody Phrase.pointBody cs).getD (.tagged "POINT".toList)).toGeometry = result := by
  have reads {ordinates : List Numeral} (numbers : Numbers cs ordinates) (enough : 2 ≤ ordinates.length) :
      Phrase.readBody Phrase.pointBody cs = some (.point ordinates) :=
    Phrase.readBody_point.mpr ⟨ordinates,⟨numbers,enough⟩,rfl⟩
  constructor
  · intro means
    cases means with
    | flat numbers => rw [reads numbers (by simp)]; rfl
    | solid numbers => rw [reads numbers (by simp)]; rfl
    | tooMany numbers many =>
      rw [reads numbers (Nat.le_of_add_left_le many)]
      exact GeometryPhrase.toGeometry_many many
    | unfit few =>
      have none : Phrase.readBody Phrase.pointBody cs = none := by
        rw [Option.eq_none_iff_forall_ne_some]
        intro phrase read
        obtain ⟨ordinates,position,-⟩ := Phrase.readBody_point.mp read
        exact absurd position.enough (Nat.not_le_of_lt (few ordinates position.numbers))
      rw [none,Option.getD_none,GeometryPhrase.toGeometry_unfit "POINT" (by simp)]
  · rintro rfl
    cases read : Phrase.readBody Phrase.pointBody cs with
    | none =>
      rw [Option.getD_none,GeometryPhrase.toGeometry_unfit "POINT" (by simp)]
      refine .unfit fun ordinates numbers => ?_
      by_contra many
      simp [reads numbers (Nat.le_of_not_lt many)] at read
    | some phrase =>
      obtain ⟨ordinates,⟨numbers,enough⟩,rfl⟩ := Phrase.readBody_point.mp read
      match ordinates,enough with
      | [x,y],_ => exact .flat numbers
      | [x,y,z],_ => exact .solid numbers
      | x :: y :: z :: t :: more,_ =>
        have many : 4 ≤ (x :: y :: z :: t :: more).length := by simp
        rw [Option.getD_some,GeometryPhrase.toGeometry_many many]
        exact .tooMany numbers many

/-! ### Line strings -/

theorem lineStringMeans_iff {cs : List Char} {result : Except ReadError Geometry} : LineStringMeans cs result ↔
    ((Phrase.readBody Phrase.lineStringBody cs).getD (.tagged "LINESTRING".toList)).toGeometry = result := by
  have reads {positions : List (List Numeral)} (divided : ArePositions cs positions) :
      Phrase.readBody Phrase.lineStringBody cs = some (.lineString positions) :=
    Phrase.readBody_lineString.mpr ⟨positions,divided,rfl⟩
  constructor
  · intro means
    cases means with
    | many divided many =>
      rw [reads divided]
      exact if_neg (Nat.not_lt_of_le many)
    | one divided => rw [reads divided]; rfl
    | unfit divided =>
      have none : Phrase.readBody Phrase.lineStringBody cs = none := by
        rw [Option.eq_none_iff_forall_ne_some]
        intro phrase read
        obtain ⟨positions,found,-⟩ := Phrase.readBody_lineString.mp read
        exact divided positions found
      rw [none,Option.getD_none,GeometryPhrase.toGeometry_unfit "LINESTRING" (by simp)]
  · rintro rfl
    cases read : Phrase.readBody Phrase.lineStringBody cs with
    | none =>
      rw [Option.getD_none,GeometryPhrase.toGeometry_unfit "LINESTRING" (by simp)]
      exact .unfit fun positions divided => by simp [reads divided] at read
    | some phrase =>
      obtain ⟨positions,divided,rfl⟩ := Phrase.readBody_lineString.mp read
      match positions,divided.nonempty with
      | [position],_ => exact .one divided
      | first :: second :: more,_ => exact .many divided (by simp)

/-! ### Envelopes -/

theorem envelopeMeans_iff {cs : List Char} {result : Except ReadError Geometry} : EnvelopeMeans cs result ↔
    ((Phrase.readBody Phrase.envelopeBody cs).getD (.tagged "ENVELOPE".toList)).toGeometry = result := by
  have reads {lower upper : List Numeral} (divided : ArePositions cs [lower,upper]) :
      Phrase.readBody Phrase.envelopeBody cs = some (.envelope lower upper) :=
    Phrase.readBody_envelope.mpr ⟨lower,upper,divided,rfl⟩
  constructor
  · intro means
    cases means with
    | corners divided => rw [reads divided]; rfl
    | unfit divided =>
      have none : Phrase.readBody Phrase.envelopeBody cs = none := by
        rw [Option.eq_none_iff_forall_ne_some]
        intro phrase read
        obtain ⟨lower,upper,found,-⟩ := Phrase.readBody_envelope.mp read
        exact divided lower upper found
      rw [none,Option.getD_none,GeometryPhrase.toGeometry_unfit "ENVELOPE" (by simp)]
  · rintro rfl
    cases read : Phrase.readBody Phrase.envelopeBody cs with
    | none =>
      rw [Option.getD_none,GeometryPhrase.toGeometry_unfit "ENVELOPE" (by simp)]
      exact .unfit fun lower upper divided => by simp [reads divided] at read
    | some phrase =>
      obtain ⟨lower,upper,divided,rfl⟩ := Phrase.readBody_envelope.mp read
      exact .corners divided

/-! ### Texts -/

theorem Numeral.spells_digits (negative : Bool) {digits : List Char} (all : AllDigits digits) :
    Spells ⟨negative,digits,none,none⟩ ((if negative then ['-'] else []) ++ digits) :=
  ⟨⟨all,by simp,by simp⟩,'e',.inl rfl,by simp [spelling,fractionText,exponentSpelling]⟩

/-- A sign behind digits begins another number. -/
theorem numbers_minus {first second : List Char} (one : AllDigits first) (other : AllDigits second) :
    Numbers (first ++ '-' :: second) [⟨false,first,none,none⟩,⟨true,second,none,none⟩] := by
  have front : Numeral.Boundary ('-' :: second) := by simp [Numeral.Boundary]
  have ending : Numeral.Boundary [] := by simp [Numeral.Boundary]
  have left := (Numeral.spells_digits false one).longest front
  have right := (Numeral.spells_digits true other).longest ending
  rw [List.append_nil] at right
  have behind : Numbers ('-' :: second) [⟨true,second,none,none⟩] := Numbers.more allBlank_nil right (.none allBlank_nil)
  have whole := Numbers.more allBlank_nil left behind
  simpa using whole

/-- Points, line strings and envelopes are read off the numbers of their bodies and the commas between them. A run
of digits belongs to one number, and a sign begins another. -/
theorem readGeometry_bodies (plain : ∀ c ∈ body.toList, isPlain c = true) :
    (∀ result, PointMeans body.toList result ↔ readGeometry ("POINT(" ++ body ++ ")") = result) ∧
    (∀ result, LineStringMeans body.toList result ↔ readGeometry ("LINESTRING(" ++ body ++ ")") = result) ∧
    (∀ result, EnvelopeMeans body.toList result ↔ readGeometry ("ENVELOPE(" ++ body ++ ")") = result) ∧
    (∀ cs n rest, Numeral.read cs = some (n,rest) → ∀ c ∈ rest.head?, c.isDigit = false) ∧
    (∀ first second, AllDigits first → AllDigits second →
      readGeometry ("POINT(" ++ String.ofList (first ++ '-' :: second) ++ ")") =
        .ok (.point (Number.ofNumeral ⟨false,first,none,none⟩) (Number.ofNumeral ⟨true,second,none,none⟩) none)) ∧
    (∀ count, (ReadError.pointOrdinates count).message =
      "Syntax error: POINT takes 2 or 3 ordinates, got " ++ toString count) ∧
    ReadError.fewPositions.message = "Syntax error: LINESTRING needs at least two positions" ∧
    ∀ tag, (ReadError.unknownGeometry tag).message = "Syntax error: Unknown geometry type: " ++ tag := by
  have point {text : String} (free : ∀ c ∈ text.toList, isPlain c = true) (result : Except ReadError Geometry) :
      PointMeans text.toList result ↔ readGeometry ("POINT(" ++ text ++ ")") = result := by
    rw [pointMeans_iff]
    change _ ↔ readGeometry ("POINT" ++ "(" ++ text ++ ")") = result
    rw [readGeometry_taggedForm Phrase.isWord_point (.of_plain free),GroupForm.phrase_point rfl]
    rfl
  refine ⟨point plain,fun result => ?_,fun result => ?_,fun cs n rest => Numeral.read_undivided,
    fun first second one other => ?_,fun count => rfl,rfl,fun tag => rfl⟩
  · rw [lineStringMeans_iff]
    change _ ↔ readGeometry ("LINESTRING" ++ "(" ++ body ++ ")") = result
    rw [readGeometry_taggedForm Phrase.isWord_lineString (.of_plain plain),GroupForm.phrase_lineString rfl]
    rfl
  · rw [envelopeMeans_iff]
    change _ ↔ readGeometry ("ENVELOPE" ++ "(" ++ body ++ ")") = result
    rw [readGeometry_taggedForm Phrase.isWord_envelope (.of_plain plain),GroupForm.phrase_envelope rfl]
    rfl
  · apply (point ?_ _).mp
    · rw [String.toList_ofList]
      exact .flat (numbers_minus one other)
    · rw [String.toList_ofList]
      intro c member
      rcases List.mem_append.mp member with inside | inside
      · exact isPlain_of_isNumeric ((Numeral.spells_digits false one).numeric c inside)
      · exact isPlain_of_isNumeric ((Numeral.spells_digits true other).numeric c inside)

/-- Two positions, in one of which no blank divides the numbers. -/
theorem readGeometry_bodies_divided :
    (∀ c ∈ "1-2,\t3 4.5e-1".toList, isPlain c = true) ∧
      PointMeans "1-2,\t3 4.5e-1".toList (readGeometry ("POINT(" ++ "1-2,\t3 4.5e-1" ++ ")")) ∧
      LineStringMeans "1-2,\t3 4.5e-1".toList (readGeometry ("LINESTRING(" ++ "1-2,\t3 4.5e-1" ++ ")")) ∧
      EnvelopeMeans "1-2,\t3 4.5e-1".toList (readGeometry ("ENVELOPE(" ++ "1-2,\t3 4.5e-1" ++ ")")) := by
  have plain : ∀ c ∈ "1-2,\t3 4.5e-1".toList, isPlain c = true := by simp [isPlain]
  obtain ⟨point,lineString,envelope,-⟩ := readGeometry_bodies plain
  exact ⟨plain,(point _).mpr rfl,(lineString _).mpr rfl,(envelope _).mpr rfl⟩

end SpatialFilter
