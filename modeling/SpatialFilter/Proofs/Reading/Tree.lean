import SpatialFilter.Proofs.Phrase.Nesting
import SpatialFilter.Proofs.Phrase.Predicate
import SpatialFilter.Proofs.Reading.Walk

/-! Meanings of trees. Every rule follows the reader of its phrase and finds nodes that convey what is read, so a walk
through the tree of a text finds what is read without a tree. -/
namespace SpatialFilter

/-! ### Numbers and positions -/

namespace Phrase

theorem readPosition_eq (cs : List Char) : readPosition cs = (readNumber cs).bind fun one =>
    (readNumber one.2).bind fun two =>
      some (one.1 :: two.1 :: (readMany readNumber two.2).1,(readMany readNumber two.2).2) := by
  unfold readPosition
  cases one : readNumber cs with
  | none => simp [readMany_none one]
  | some found =>
    rw [readMany_some one (readNumber_shortens _ _ _ one),Option.bind_some]
    cases two : readNumber found.2 with
    | none => simp [readMany_none two]
    | some other => simp [readMany_some two (readNumber_shortens _ _ _ two)]

theorem readNumber_skipBlanks (cs : List Char) : readNumber (skipBlanks cs) = readNumber cs := by
  rw [readNumber,readNumber,skipBlanks_twice]

end Phrase

namespace Rule
open Phrase

theorem number_follows : Follows NumberNode number readNumber :=
  .token (fun _ _ _ read => Node.number_token read) fun cs n rest read => by
    obtain ⟨text,rfl,-⟩ := Numeral.spells_of_read read
    exact ⟨text,rfl⟩

theorem position_follows : Follows PositionNode position readPosition := by
  intro cs
  have inside : Agree (List.Forall₂ NumberNode) (sequence [number,number,many number] (skipBlanks cs))
      (readPosition cs) := by
    rw [readPosition_eq,← readNumber_skipBlanks]
    refine .cons (number_follows _) ?_
    rintro _ x _ ⟨one,rfl,first⟩
    refine .cons (number_follows _) ?_
    rintro _ y _ ⟨two,rfl,second⟩
    exact .many number_follows fun nodes all => .done (.cons first (.cons second (by simpa using all)))
  exact .named inside fun text nodes ordinates all => mapM_ok_map_iff.mpr all

/-! ### Geometries -/

theorem point_follows : Follows ShapeNode point (skipping readPoint) := by
  intro cs
  have inside : Agree (fun nodes phrase => ∃ node ordinates, nodes = [node] ∧ phrase = .point ordinates ∧
      PositionNode node ordinates) (sequence [keyword "POINT".toList,mark '(',position,mark ')'] (skipBlanks cs))
      (readPoint (skipBlanks cs)) := by
    refine .keyword fun _ => .mark fun rest => .cons (position_follows rest) ?_
    rintro _ ordinates _ ⟨node,rfl,meant⟩
    exact .mark fun _ => .done ⟨node,ordinates,rfl,rfl,meant⟩
  refine .named inside ?_
  rintro text _ _ ⟨node,ordinates,rfl,rfl,meant⟩
  exact Node.shape_point meant

theorem nextPosition_follows : Follows PositionNode (sequence [mark ',',position]) readNextPosition :=
  fun _ => .mark fun rest => .last (position_follows rest)

theorem lineString_follows : Follows ShapeNode lineString (skipping readLineString) := by
  intro cs
  have inside : Agree (fun nodes phrase => ∃ positions, phrase = .lineString positions ∧
      List.Forall₂ PositionNode nodes positions)
      (sequence [keyword "LINESTRING".toList,mark '(',position,many (sequence [mark ',',position]),mark ')'] (skipBlanks cs))
      (readLineString (skipBlanks cs)) := by
    refine .keyword fun _ => .mark fun rest => .cons (position_follows rest) ?_
    rintro _ ordinates _ ⟨node,rfl,meant⟩
    exact .many nextPosition_follows fun nodes all => .mark fun _ =>
      .done ⟨_,rfl,.cons meant (by simpa using all)⟩
  refine .named inside ?_
  rintro text nodes _ ⟨positions,rfl,all⟩
  exact Node.shape_lineString all

theorem envelope_follows : Follows ShapeNode envelope (skipping readEnvelope) := by
  intro cs
  have inside : Agree (fun nodes phrase => ∃ lower upper low high, nodes = [lower,upper] ∧
      phrase = .envelope low high ∧ PositionNode lower low ∧ PositionNode upper high)
      (sequence [keyword "ENVELOPE".toList,mark '(',position,mark ',',position,mark ')'] (skipBlanks cs))
      (readEnvelope (skipBlanks cs)) := by
    refine .keyword fun _ => .mark fun rest => .cons (position_follows rest) ?_
    rintro _ low rest ⟨lower,rfl,first⟩
    simp only [readNextPosition,Option.bind_eq_bind,Option.bind_assoc]
    refine .mark fun rest => .cons (position_follows rest) ?_
    rintro _ high _ ⟨upper,rfl,second⟩
    exact .mark fun _ => .done ⟨lower,upper,low,high,rfl,rfl,first,second⟩
  refine .named inside ?_
  rintro text _ _ ⟨lower,upper,low,high,rfl,rfl,first,second⟩
  exact Node.shape_envelope first second

theorem word_follows (part : Part) :
    Follows (fun node word => node.part = part ∧ node.text = word) (token part readWord) (skipping readWord) :=
  .text fun _ _ _ read => (readRun_eq_some.mp read).1

theorem otherGeometry_follows : Follows ShapeNode otherGeometry (skipping readTagged) := by
  intro cs
  have inside : Agree (fun nodes phrase => ∃ tag more, nodes = tag :: more ∧ phrase = .tagged tag.text)
      (sequence [token .geometryTag readWord,group] (skipBlanks cs)) (readTagged (skipBlanks cs)) := by
    refine .cons ((word_follows .geometryTag).skipped cs) ?_
    rintro _ _ rest ⟨tag,rfl,-,rfl⟩
    dsimp only
    rw [Option.bind_eq_bind,← Option.bind_assoc]
    exact .group fun nodes rest => .done ⟨tag,_,rfl,rfl⟩
  refine .named inside ?_
  rintro text _ _ ⟨tag,more,rfl,rfl⟩
  exact Node.shape_otherGeometry tag more

theorem geometry_follows : Follows GeometryNode geometry (skipping Phrase.readGeometry) := by
  intro cs
  have inside : Agree (Single ShapeNode) (readEither point (readEither lineString (readEither envelope otherGeometry))
      (skipBlanks cs)) (Phrase.readGeometry (skipBlanks cs)) :=
    .either (point_follows.skipped cs) (.either (lineString_follows.skipped cs)
      (.either (envelope_follows.skipped cs) (otherGeometry_follows.skipped cs)))
  refine .named inside ?_
  rintro text _ phrase ⟨node,rfl,meant⟩
  exact ⟨rfl,meant⟩

/-! ### Predicates -/

theorem property_follows : Follows (fun node name => node.part = .property ∧ node.text = name)
    (token .property readProperty) (skipping readProperty) :=
  .text fun _ _ _ read => (isPropertyName_of_readProperty read).1

variable (namespaces : Namespaces) (declaredType : ValueType)

theorem operand_follows : Follows (ItemNode namespaces declaredType) operand readItem := by
  intro cs
  have inside : Agree (Single fun node item => (∃ phrase, item = .geometry phrase ∧ GeometryNode node phrase) ∨
      ∃ name, item = .property name ∧ node.part = .property ∧ node.text = name)
      (readEither geometry (token .property readProperty) (skipBlanks cs)) (readItem cs) := by
    have either : readItem cs = readEither (fun cs => (Phrase.readGeometry cs).map fun found => (.geometry found.1,found.2))
        (fun cs => (readProperty cs).map fun found => (.property found.1,found.2)) (skipBlanks cs) := by
      unfold readItem readEither
      dsimp only
      cases Phrase.readGeometry (skipBlanks cs) <;> rfl
    rw [either]
    refine .either ((geometry_follows.skipped cs).map ?_) ((property_follows.skipped cs).map ?_)
    · rintro _ phrase ⟨node,rfl,meant⟩
      exact ⟨node,rfl,.inl ⟨phrase,rfl,meant⟩⟩
    · rintro _ name ⟨node,rfl,meant⟩
      exact ⟨node,rfl,.inr ⟨name,rfl,meant⟩⟩
  refine .named inside ?_
  rintro text _ item ⟨node,rfl,⟨phrase,rfl,meant⟩ | ⟨name,rfl,isProperty,rfl⟩⟩
  · exact Node.operand_geometry meant
  · exact Node.operand_property isProperty

theorem nextOperand_follows : Follows (ItemNode namespaces declaredType) (sequence [mark ',',operand]) readNextItem :=
  fun _ => .mark fun rest => .last (operand_follows namespaces declaredType rest)

theorem distance_follows : Follows DistanceNode distance readNumber := fun cs => by
  have inside := number_follows.skipped cs
  refine .named inside ?_
  rintro text _ n ⟨node,rfl,meant⟩
  exact ⟨rfl,node,rfl,meant⟩

def readNextDistance : Reader Numeral := fun cs => (readMark ',' cs).bind readNumber

theorem nextDistance_follows : Follows DistanceNode (sequence [mark ',',distance]) readNextDistance :=
  fun _ => .mark fun rest => .last (distance_follows rest)

/-- The distance is read together with the comma in front of it, or not at all. -/
theorem readDistance_eq (cs : List Char) :
    readDistance cs = ((readNextDistance cs).map fun found => (some found.1,found.2)).getD (none,cs) := by
  unfold readDistance readNextDistance
  cases readMark ',' cs with
  | none => rfl
  | some behind => cases found : readNumber behind <;> simp [found]

theorem predicate_follows : Follows (PredicateNode namespaces declaredType) predicate (skipping Phrase.readPredicate) := by
  intro cs
  have inside : Agree (fun nodes phrase => ∃ operator operands distances items distance,
      nodes = operator :: (operands ++ distances) ∧ phrase = ⟨operator.text,items,distance⟩ ∧
      operator.part = .operator ∧ List.Forall₂ (ItemNode namespaces declaredType) operands items ∧
      DistanceNodes distances distance)
      (sequence [token .operator readWord,mark '(',operand,many (sequence [mark ',',operand]),
        optional (sequence [mark ',',distance]),mark ')'] (skipBlanks cs)) (Phrase.readPredicate (skipBlanks cs)) := by
    refine .cons ((word_follows .operator).skipped cs) ?_
    rintro _ _ _ ⟨operator,rfl,isOperator,rfl⟩
    refine .mark fun rest => .cons (operand_follows namespaces declaredType rest) ?_
    rintro _ item _ ⟨first,rfl,meant⟩
    -- A number behind the last comma is no operand, so the operands end where the distance may begin.
    refine .many (nextOperand_follows namespaces declaredType) fun others all =>
      .optional (nextDistance_follows _) (fun absent => ?_) ?_
    · dsimp only
      rw [readDistance_eq,absent]
      exact .mark fun _ => .done ⟨operator,first :: others,[],_,none,by simp,rfl,isOperator,.cons meant all,rfl⟩
    · intro nodes n _ present last
      dsimp only
      rw [readDistance_eq,present]
      exact .mark fun _ => .done ⟨operator,first :: others,nodes,_,some n,by simp,rfl,isOperator,.cons meant all,last⟩
  refine .named inside ?_
  rintro text _ _ ⟨operator,operands,distances,items,distance,rfl,rfl,isOperator,all,last⟩
  exact Node.predicate_parts isOperator all last

end Rule

/-! ### Whole texts -/

theorem walkInput_named {α β : Type} {conveys : Node → β → Prop} {rule : Rule} {reader : Reader β}
    (follows : Follows conveys rule (skipping reader)) {walk : Node → Except TreeError α} {meaning : β → Except ReadError α}
    (means : ∀ node value, conveys node value → walk node = (meaning value).mapError .reading)
    (part : Part) (mismatch : Mismatch) (what : String) (text : List Char) :
    walkInput mismatch what walk (Rule.named part (Rule.sequence [rule,.ending]) text) =
      (match Phrase.readWhole reader text with
        | none => .error (.mismatch mismatch)
        | some value => meaning value : Except ReadError α).mapError .reading := by
  have input := follows.input part text
  cases whole : Phrase.readWhole reader text with
  | none =>
    rw [whole] at input
    rw [input.eq_none]
    rfl
  | some value =>
    rw [whole] at input
    obtain ⟨_,found,root,rfl,node,more,inner,meant⟩ := input.eq_some
    rw [found]
    change (root.first what >>= walk) = _
    rw [Node.first,inner]
    exact means node value meant

theorem walkPredicate_eq (namespaces : Namespaces) (declaredType : ValueType) (text : String) :
    walkPredicate namespaces declaredType text = (readPredicate namespaces declaredType text).mapError .reading := by
  have means (node : Node) (phrase : PredicatePhrase) (meant : PredicateNode namespaces declaredType node phrase) :
      node.predicate namespaces declaredType = (phrase.toPredicate namespaces declaredType).mapError .reading := meant
  rw [walkPredicate,Rule.predicateInput,walkInput_named (Rule.predicate_follows namespaces declaredType) means,
    readPredicate]
  cases Phrase.readWhole Phrase.readPredicate text.toList <;> rfl

theorem walkGeometry_eq (text : String) : walkGeometry text = (readGeometry text).mapError .reading := by
  have means (node : Node) (phrase : GeometryPhrase) (meant : GeometryNode node phrase) :
      node.geometry = phrase.toGeometry.mapError .reading := meant.2
  rw [walkGeometry,Rule.geometryInput,walkInput_named Rule.geometry_follows means,readGeometry]
  cases Phrase.readWhole Phrase.readGeometry text.toList <;> rfl

end SpatialFilter
