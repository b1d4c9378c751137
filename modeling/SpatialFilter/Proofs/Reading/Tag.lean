import SpatialFilter.Proofs.Phrase.Geometry

/-! Tags in front of a body in parentheses. Such a text fits the grammar if the parentheses of its body match. Three
tags look at the body; any other one alone decides what the text means. -/
namespace SpatialFilter

/-- The meaning of a tag that does not look at its body. -/
inductive TagMeans (tag : String) : Except ReadError Geometry → Prop where
  | unsupported {kind : UnsupportedKind} {known : String} (member : known ∈ kind.tags)
      (same : sameLetters known.toList tag.toList = true) : TagMeans tag (.ok (.unsupported kind))
  | unknown (foreign : ∀ kind : UnsupportedKind, ∀ known ∈ kind.tags, sameLetters known.toList tag.toList = false) :
      TagMeans tag (.error (.unknownGeometry tag))

namespace UnsupportedKind

private theorem mem_all (kind : UnsupportedKind) : kind ∈ all := by
  cases kind <;> decide

/-- No tag belongs to two kinds, in whatever case it is written. -/
private theorem eq_of_tags {kind other : UnsupportedKind} {known also : String} {tag : List Char}
    (member : known ∈ kind.tags) (same : sameLetters known.toList tag = true) (alsoMember : also ∈ other.tags)
    (alsoSame : sameLetters also.toList tag = true) : kind = other := by
  have apart : ∀ k ∈ all, ∀ l ∈ all, ∀ s ∈ k.tags, ∀ t ∈ l.tags, upper s.toList = upper t.toList → k = l := by
    decide
  apply apart kind (mem_all kind) other (mem_all other) known member also alsoMember
  rw [sameLetters_iff.mp same,sameLetters_iff.mp alsoSame]

theorem ofTag?_eq_some {tag : List Char} {kind : UnsupportedKind} :
    ofTag? tag = some kind ↔ ∃ known ∈ kind.tags, sameLetters known.toList tag = true := by
  have found {k : UnsupportedKind} (read : ofTag? tag = some k) : ∃ known ∈ k.tags, sameLetters known.toList tag = true := by
    simpa using List.find?_some read
  refine ⟨found,fun ⟨known,member,same⟩ => ?_⟩
  have present : (ofTag? tag).isSome = true :=
    List.find?_isSome.mpr ⟨kind,mem_all kind,List.any_eq_true.mpr ⟨known,member,same⟩⟩
  obtain ⟨other,read⟩ := Option.isSome_iff_exists.mp present
  obtain ⟨also,alsoMember,alsoSame⟩ := found read
  rw [read,eq_of_tags alsoMember alsoSame member same]

theorem ofTag?_eq_none {tag : List Char} :
    ofTag? tag = none ↔ ∀ kind : UnsupportedKind, ∀ known ∈ kind.tags, sameLetters known.toList tag = false := by
  simp [ofTag?,mem_all]

end UnsupportedKind

theorem tagMeans_iff {tag : String} {result : Except ReadError Geometry} :
    TagMeans tag result ↔ (GeometryPhrase.tagged tag.toList).toGeometry = result := by
  rw [GeometryPhrase.toGeometry]
  constructor
  · intro means
    cases means with
    | unsupported member same => rw [UnsupportedKind.ofTag?_eq_some.mpr ⟨_,member,same⟩]
    | unknown foreign => rw [UnsupportedKind.ofTag?_eq_none.mpr foreign,String.ofList_toList]
  · rintro rfl
    cases kind : UnsupportedKind.ofTag? tag.toList with
    | some kind =>
      obtain ⟨known,member,same⟩ := UnsupportedKind.ofTag?_eq_some.mp kind
      exact .unsupported member same
    | none =>
      rw [String.ofList_toList]
      exact .unknown (UnsupportedKind.ofTag?_eq_none.mp kind)

/-! ### Texts of a tag and a body -/

theorem Phrase.body_of_group {tag body rest : List Char} (word : IsWord tag) (blank : AllBlank rest) {g : GroupForm}
    (same : tag ++ '(' :: (body ++ [')']) = g.text ++ rest) : g.body = body := by
  rw [text_append] at same
  have unspaced : ∀ c ∈ ('(' :: (body ++ [')'])).head?, c.isAlpha = false := by simp
  have tags := congrArg (List.takeWhile Char.isAlpha) same
  rw [takeWhile_run word.letters unspaced,takeWhile_run g.isTag.letters (not_isAlpha_behind_word g.isGap _)] at tags
  rw [← tags] at same
  have groups := List.append_cancel_left same
  cases gap : g.gap with
  | cons c gap =>
    rw [gap] at groups
    have opening : isBlank '(' = true := (List.cons.inj groups).1 ▸ g.isGap c (by simp [gap])
    exact absurd opening (by decide)
  | nil =>
    rw [gap] at groups
    have bodies : body ++ [')'] = g.body ++ ')' :: rest := (List.cons.inj groups).2
    -- The last parenthesis of the text closes the group, since only blanks may stand behind it.
    obtain rfl | ⟨front,c,rfl⟩ := List.eq_nil_or_concat rest
    · exact (List.append_cancel_right bodies).symm
    · have closing : isBlank ')' = true := by
        have shifted : body ++ [')'] = (g.body ++ ')' :: front) ++ [c] := by simpa using bodies
        obtain ⟨rfl⟩ := (List.append_inj' shifted rfl).2
        exact blank ')' (by simp)
      exact absurd closing (by decide)

section Tagged
variable {tag body : String}

def taggedForm (word : IsWord tag.toList) (balanced : Balanced 0 body.toList) : GroupForm :=
  ⟨tag.toList,[],body.toList,word,allBlank_nil,balanced⟩

theorem readGeometry_taggedForm (word : IsWord tag.toList) (balanced : Balanced 0 body.toList) :
    readGeometry (tag ++ "(" ++ body ++ ")") = (taggedForm word balanced).phrase.toGeometry := by
  have text : String.ofList (taggedForm word balanced).text = tag ++ "(" ++ body ++ ")" :=
    String.toList_inj.mp (by simp [GroupForm.text,taggedForm])
  rw [← text,readGeometry_groupText]

theorem balanced_of_readGeometry (word : IsWord tag.toList)
    (fits : ∀ found, readGeometry (tag ++ "(" ++ body ++ ")") ≠ .error (.mismatch found)) : Balanced 0 body.toList := by
  obtain ⟨g,blanks,rest,blank,ending,split,-⟩ := group_of_text fits
  have text : (tag ++ "(" ++ body ++ ")").toList = tag.toList ++ '(' :: (body.toList ++ [')']) := by simp
  have start := Phrase.skipBlanks_word word allBlank_nil ('(' :: (body.toList ++ [')']))
  rw [List.nil_append,← text,split,Phrase.skipBlanks_group blank,← split,text] at start
  rw [← Phrase.body_of_group word ending start.symm]
  exact g.isBalanced

theorem readGeometry_outcome {text : String} (fits : ∀ found, readGeometry text ≠ .error (.mismatch found)) :
    (∃ geometry, readGeometry text = .ok geometry) ∨
      ∃ error detail, readGeometry text = .error error ∧ error.message = "Syntax error: " ++ detail := by
  cases read : readGeometry text with
  | ok geometry => exact .inl ⟨geometry,rfl⟩
  | error error =>
    refine .inr ⟨error,?_⟩
    cases error with
    | mismatch found => exact absurd read (fits found)
    | unknownOperator word => exact ⟨_,rfl,rfl⟩
    | unknownGeometry tag => exact ⟨"Unknown geometry type: " ++ tag,rfl,by rw [← String.append_assoc]; rfl⟩
    | pointOrdinates count =>
      exact ⟨"POINT takes 2 or 3 ordinates, got " ++ toString count,rfl,by rw [← String.append_assoc]; rfl⟩
    | fewPositions => exact ⟨"LINESTRING needs at least two positions",rfl,rfl⟩

/-- Whether a tag in front of a body fits the grammar is a matter of parentheses alone, and unless the tag is one of
three, it alone is what the text means. -/
theorem readGeometry_tagged (word : IsWord tag.toList) :
    ((∃ found, readGeometry (tag ++ "(" ++ body ++ ")") = .error (.mismatch found)) ↔ ¬ Balanced 0 body.toList) ∧
    (Balanced 0 body.toList →
      ((∃ geometry, readGeometry (tag ++ "(" ++ body ++ ")") = .ok geometry) ∨
        ∃ error detail, readGeometry (tag ++ "(" ++ body ++ ")") = .error error ∧
          error.message = "Syntax error: " ++ detail) ∧
      ((∀ keyword ∈ ["POINT","LINESTRING","ENVELOPE"], sameLetters tag.toList keyword.toList = false) →
        ∀ result, TagMeans tag result ↔ readGeometry (tag ++ "(" ++ body ++ ")") = result)) ∧
    (ReadError.unknownGeometry tag).message = "Syntax error: Unknown geometry type: " ++ tag := by
  have fits (balanced : Balanced 0 body.toList) (found : Mismatch) :
      readGeometry (tag ++ "(" ++ body ++ ")") ≠ .error (.mismatch found) :=
    readGeometry_taggedForm word balanced ▸ GeometryPhrase.toGeometry_fits _ found
  refine ⟨⟨fun ⟨found,mismatch⟩ balanced => fits balanced found mismatch,fun unbalanced => ?_⟩,
    fun balanced => ⟨readGeometry_outcome (fits balanced),fun foreign result => ?_⟩,rfl⟩
  · by_contra none
    exact unbalanced (balanced_of_readGeometry word (not_exists.mp none))
  · rw [tagMeans_iff,readGeometry_taggedForm word balanced,GroupForm.phrase_foreign foreign]
    rfl

/-- A polygon whose body no reader of positions accepts, and one with a parenthesis too many. -/
theorem readGeometry_tagged_polygon :
    IsWord "Polygon".toList ∧ TagMeans "Polygon" (readGeometry ("Polygon" ++ "(" ++ "(0 0, 1 ~) é" ++ ")")) ∧
      ∃ found, readGeometry ("Polygon" ++ "(" ++ "0 0) (1 1" ++ ")") = .error (.mismatch found) := by
  have word : IsWord "Polygon".toList := ⟨by simp,by simp⟩
  have balanced : Balanced 0 "(0 0, 1 ~) é".toList := by
    have inner : Balanced 0 "0 0, 1 ~".toList := .of_plain (by simp [isPlain])
    have behind : Balanced 0 " é".toList := .of_plain (by simp [isPlain])
    simpa using inner.close behind
  have unbalanced : ¬ Balanced 0 "0 0) (1 1".toList := by
    have front : ∀ c ∈ "0 0".toList, isPlain c = true := by simp [isPlain]
    intro whole
    exact Balanced.not_close ((Balanced.plain_append front).mp (by simpa using whole))
  exact ⟨word,(((readGeometry_tagged word).2.1 balanced).2 (by decide) _).mpr rfl,
    (readGeometry_tagged word).1.mpr unbalanced⟩

end Tagged
end SpatialFilter
