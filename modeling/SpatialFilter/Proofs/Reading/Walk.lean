import SpatialFilter.Proofs.Number.Text
import SpatialFilter.Proofs.Phrase.Tree
import SpatialFilter.Proofs.Sequence

/-! Walks through trees. A walk looks for the parts that it needs inside a node and fails where one is missing. At a
node with the parts that the grammar puts there, it finds the meaning of the phrase that they convey. -/
namespace SpatialFilter

/-- The failures of a walk: those of reading, and those of a tree that is not as it should be. -/
inductive TreeError where
  | reading (error : ReadError)
  | emptyInput
  | missing (what : String)
  | unexpected (part : Part)
  | invalidNumber (text : String)

def TreeError.message : TreeError → String
  | reading error => error.message
  | emptyInput => "Syntax error: Empty input"
  | missing what => "Syntax error: Missing " ++ what
  | unexpected part => "Syntax error: Unexpected element: " ++ part.name
  | invalidNumber text => "Syntax error: Invalid number: " ++ text

namespace Node

def next (what : String) : List Node → Except TreeError (Node × List Node)
  | [] => .error (.missing what)
  | node :: nodes => .ok (node,nodes)

def first (what : String) (node : Node) : Except TreeError Node := do
  let (inner,_) ← next what node.inner
  return inner

def number (node : Node) : Except TreeError Number :=
  match Number.ofToken? node.text with
  | some n => .ok n
  | none => .error (.invalidNumber (String.ofList node.text))

def position (node : Node) : Except TreeError Position := node.inner.mapM number

/-- The geometry of a point, a line string, an envelope or a mere tag. -/
def shape (node : Node) : Except TreeError Geometry :=
  match node.part with
  | .point => do
    match ← (← node.first "point coordinate").position with
    | [x,y] => .ok (.point x y none)
    | [x,y,z] => .ok (.point x y (some z))
    | ordinates => .error (.reading (.pointOrdinates ordinates.length))
  | .lineString => do
    let positions ← node.inner.mapM position
    if positions.length < 2 then .error (.reading .fewPositions) else .ok (.lineString positions)
  | .envelope => do
    let (lower,corners) ← next "envelope minimum" node.inner
    let lower ← lower.position
    let (upper,_) ← next "envelope maximum" corners
    return .envelope lower (← upper.position)
  | .otherGeometry => do
    let tag ← node.first "geometry tag"
    match UnsupportedKind.ofTag? tag.text with
    | some kind => .ok (.unsupported kind)
    | none => .error (.reading (.unknownGeometry (String.ofList tag.text)))
  | part => .error (.unexpected part)

def geometry (node : Node) : Except TreeError Geometry := do (← node.first "geometry").shape

section Predicate
variable (namespaces : Namespaces) (declaredType : ValueType)

def operand (node : Node) : Except TreeError Operand := do
  let inner ← node.first "operand"
  match inner.part with
  | .geometry => inner.geometry.map .geometry
  | .property => .ok (.property ⟨String.ofList inner.text,namespaces,declaredType⟩)
  | part => .error (.unexpected part)

/-- What has been found of a predicate so far. -/
structure Found where
  operator : Option Operator
  operands : List Operand
  distance : Option Number

def Found.add (found : Found) (node : Node) : Except TreeError Found :=
  match node.part with
  | .operator =>
    match Operator.ofWord? node.text with
    | some operator => .ok { found with operator := some operator }
    | none => .error (.reading (.unknownOperator (String.ofList node.text)))
  | .operand => do return { found with operands := found.operands ++ [← node.operand namespaces declaredType] }
  | .distance => do return { found with distance := some (← (← node.first "distance").number) }
  | _ => .ok found

def predicate (node : Node) : Except TreeError Predicate := do
  let found ← node.inner.foldlM (Found.add namespaces declaredType) ⟨none,[],none⟩
  match found.operator with
  | some operator => .ok ⟨operator,found.operands,found.distance⟩
  | none => .error (.missing "operator")

end Predicate
end Node

/-- The walk through a whole text, from what a rule for whole texts finds of it. -/
def walkInput {α : Type} (mismatch : Mismatch) (what : String) (walk : Node → Except TreeError α) :
    Option (List Node × List Char) → Except TreeError α
  | none => .error (.reading (.mismatch mismatch))
  | some ([],_) => .error .emptyInput
  | some (input :: _,_) => do walk (← input.first what)

def walkPredicate (namespaces : Namespaces) (declaredType : ValueType) (text : String) : Except TreeError Predicate :=
  walkInput (Mismatch.ofPredicate text.toList) "predicate" (Node.predicate namespaces declaredType)
    (Rule.predicateInput text.toList)

def walkGeometry (text : String) : Except TreeError Geometry :=
  walkInput (Mismatch.ofGeometry text.toList) "geometry" Node.geometry (Rule.geometryInput text.toList)

/-! ### Numbers and positions -/

def NumberNode (node : Node) (n : Numeral) : Prop := node.number = .ok (Number.ofNumeral n)

def PositionNode (node : Node) (ordinates : List Numeral) : Prop :=
  node.position = .ok (ordinates.map Number.ofNumeral)

/-- Every token of the grammar is a number. -/
theorem Node.number_token {text rest : List Char} {n : Numeral} (read : Numeral.read (text ++ rest) = some (n,rest)) :
    NumberNode ⟨.number,text,[]⟩ n := by
  obtain ⟨token,split,spells⟩ := Numeral.spells_of_read read
  obtain rfl := List.append_cancel_right split
  rw [NumberNode,number,Number.ofToken?_of_spells spells]

/-! ### Geometries -/

def ShapeNode (node : Node) (phrase : GeometryPhrase) : Prop := node.shape = phrase.toGeometry.mapError .reading

def GeometryNode (node : Node) (phrase : GeometryPhrase) : Prop :=
  node.part = .geometry ∧ node.geometry = phrase.toGeometry.mapError .reading

namespace Node
variable {text : List Char}

theorem shape_point {inner : Node} {ordinates : List Numeral} (meant : PositionNode inner ordinates) :
    ShapeNode ⟨.point,text,[inner]⟩ (.point ordinates) := by
  rw [ShapeNode,GeometryPhrase.toGeometry]
  simp only [shape,first,next]
  change (inner.position >>= _) = _
  rw [meant]
  generalize ordinates.map Number.ofNumeral = numbers
  match numbers with
  | [] | [x] | [x,y] | [x,y,z] | x :: y :: z :: t :: more => rfl

theorem shape_lineString {nodes : List Node} {positions : List (List Numeral)}
    (all : List.Forall₂ PositionNode nodes positions) : ShapeNode ⟨.lineString,text,nodes⟩ (.lineString positions) := by
  rw [ShapeNode,GeometryPhrase.toGeometry]
  simp only [shape]
  rw [mapM_ok_map_iff.mpr all]
  change (if (positions.map (List.map Number.ofNumeral)).length < 2 then _ else _) = _
  rw [List.length_map]
  split <;> rfl

theorem shape_envelope {lower upper : Node} {low high : List Numeral} (first : PositionNode lower low)
    (second : PositionNode upper high) : ShapeNode ⟨.envelope,text,[lower,upper]⟩ (.envelope low high) := by
  rw [PositionNode] at first second
  simp only [ShapeNode,GeometryPhrase.toGeometry,shape,next]
  change (lower.position >>= _) = _
  rw [first]
  change (upper.position >>= _) = _
  rw [second]
  rfl

theorem shape_otherGeometry (tag : Node) (nodes : List Node) :
    ShapeNode ⟨.otherGeometry,text,tag :: nodes⟩ (.tagged tag.text) := by
  simp only [ShapeNode,GeometryPhrase.toGeometry,shape,first,next]
  change (match UnsupportedKind.ofTag? tag.text with | some kind => _ | none => _) = _
  cases UnsupportedKind.ofTag? tag.text <;> rfl

end Node

/-! ### Predicates -/

section Predicate
variable (namespaces : Namespaces) (declaredType : ValueType)

def ItemNode (node : Node) (item : Item) : Prop :=
  node.part = .operand ∧ node.operand namespaces declaredType = (item.toOperand namespaces declaredType).mapError .reading

def DistanceNode (node : Node) (n : Numeral) : Prop :=
  node.part = .distance ∧ ∃ inner, node.inner = [inner] ∧ NumberNode inner n

def PredicateNode (node : Node) (phrase : PredicatePhrase) : Prop :=
  node.predicate namespaces declaredType = (phrase.toPredicate namespaces declaredType).mapError .reading

variable {namespaces declaredType}

theorem Node.operand_geometry {text : List Char} {node : Node} {phrase : GeometryPhrase} (meant : GeometryNode node phrase) :
    ItemNode namespaces declaredType ⟨.operand,text,[node]⟩ (.geometry phrase) := by
  obtain ⟨isGeometry,geometry⟩ := meant
  refine ⟨rfl,?_⟩
  rw [Item.toOperand]
  simp only [operand,first,next]
  change (match node.part with | .geometry => _ | .property => _ | part => _) = _
  rw [isGeometry]
  dsimp only
  rw [geometry]
  cases phrase.toGeometry <;> rfl

theorem Node.operand_property {text : List Char} {node : Node} (isProperty : node.part = .property) :
    ItemNode namespaces declaredType ⟨.operand,text,[node]⟩ (.property node.text) := by
  refine ⟨rfl,?_⟩
  simp only [operand,first,next]
  change (match node.part with | .geometry => _ | .property => _ | part => _) = _
  rw [isProperty]
  rfl

theorem Node.add_operand {node : Node} {item : Item} (meant : ItemNode namespaces declaredType node item)
    (found : Found) : Found.add namespaces declaredType found node =
      ((item.toOperand namespaces declaredType).mapError .reading).map fun operand =>
        { found with operands := found.operands ++ [operand] } := by
  obtain ⟨isOperand,operand⟩ := meant
  simp only [Found.add,isOperand,operand]
  cases item.toOperand namespaces declaredType <;> rfl

theorem Node.add_operands {nodes : List Node} {items : List Item}
    (all : List.Forall₂ (ItemNode namespaces declaredType) nodes items) (found : Found) :
    nodes.foldlM (Found.add namespaces declaredType) found =
      ((items.mapM (Item.toOperand namespaces declaredType)).mapError .reading).map fun operands =>
        { found with operands := found.operands ++ operands } := by
  induction all generalizing found with
  | nil => simp [Except.map,Except.mapError,pure,Except.pure]
  | @cons node item nodes items first others ih =>
    rw [List.foldlM_cons,Node.add_operand first,mapM_cons_eq]
    cases item.toOperand namespaces declaredType with
    | error e => rfl
    | ok operand =>
      change nodes.foldlM (Found.add namespaces declaredType) { found with operands := found.operands ++ [operand] } = _
      rw [ih]
      cases items.mapM (Item.toOperand namespaces declaredType) with
      | error e => rfl
      | ok operands => simp [Except.map,Except.mapError]

def DistanceNodes (nodes : List Node) : Option Numeral → Prop
  | none => nodes = []
  | some n => Single DistanceNode nodes n

theorem Node.add_distance {nodes : List Node} {distance : Option Numeral} (meant : DistanceNodes nodes distance)
    {found : Found} (unset : found.distance = none) : nodes.foldlM (Found.add namespaces declaredType) found =
      .ok { found with distance := distance.map Number.ofNumeral } := by
  cases distance with
  | none =>
    obtain rfl := meant
    rw [List.foldlM_nil,Option.map_none,← unset]
    rfl
  | some n =>
    obtain ⟨node,rfl,isDistance,inner,inside,number⟩ := meant
    rw [NumberNode] at number
    simp only [List.foldlM_cons,Found.add,isDistance,first,inside,next]
    change ((inner.number >>= _) >>= _) = _
    rw [number]
    rfl

theorem Node.predicate_parts {text : List Char} {operator : Node} {operands distances : List Node} {items : List Item}
    {distance : Option Numeral} (isOperator : operator.part = .operator)
    (all : List.Forall₂ (ItemNode namespaces declaredType) operands items) (last : DistanceNodes distances distance) :
    PredicateNode namespaces declaredType ⟨.predicate,text,operator :: (operands ++ distances)⟩
      ⟨operator.text,items,distance⟩ := by
  rw [PredicateNode,predicate,PredicatePhrase.toPredicate,List.foldlM_cons,Found.add,isOperator]
  cases Operator.ofWord? operator.text with
  | none => rfl
  | some known =>
    change ((operands ++ distances).foldlM (Found.add namespaces declaredType) ⟨some known,[],none⟩ >>= _) = _
    rw [List.foldlM_append,Node.add_operands all]
    cases items.mapM (Item.toOperand namespaces declaredType) with
    | error e => rfl
    | ok values =>
      change (distances.foldlM (Found.add namespaces declaredType) ⟨some known,[] ++ values,none⟩ >>= _) = _
      rw [Node.add_distance last rfl]
      rfl

end Predicate
end SpatialFilter
