import SpatialFilter.Reading
import SpatialFilter.Proofs.Number.Token
import SpatialFilter.Proofs.Text.Balance

/-! The language of predicates, given without a reader. A predicate is a word, items in parentheses
and perhaps a number; an item is a tagged group whose parentheses match, or the name of a property.
Blanks may stand in front of every part. -/
namespace SpatialFilter

structure IsWord (cs : List Char) : Prop where
  nonempty : cs ≠ []
  letters : ∀ c ∈ cs, c.isAlpha = true

def IsName (cs : List Char) : Prop :=
  ∃ first more, cs = first :: more ∧ Phrase.isNameStart first = true ∧
    ∀ c ∈ more, Phrase.isNamePart c = true

def IsPropertyName (cs : List Char) : Prop :=
  IsName cs ∨ ∃ qualifier localName, cs = qualifier ++ ':' :: localName ∧ IsName qualifier ∧ IsName localName

/-- A geometry as far as the grammar of predicates looks at it. -/
structure GroupForm where
  tag : List Char
  gap : List Char
  body : List Char
  isTag : IsWord tag
  isGap : AllBlank gap
  isBalanced : Balanced 0 body

structure NameForm where
  text : List Char
  isName : IsPropertyName text

structure NumberForm where
  numeral : Numeral
  text : List Char
  spells : numeral.Spells text

inductive ItemForm where
  | geometry (group : GroupForm)
  | property (name : NameForm)

structure PredicateForm where
  operator : List Char
  first : ItemForm
  more : List ItemForm
  distance : Option NumberForm
  isWord : IsWord operator

def GroupForm.text (g : GroupForm) : List Char := g.tag ++ g.gap ++ '(' :: g.body ++ [')']

namespace ItemForm

def text : ItemForm → List Char
  | geometry group => group.text
  | property name => name.text

/-- A geometry means what its own text means when it is read alone. -/
def evaluate (namespaces : Namespaces) (declaredType : ValueType) : ItemForm → Except ReadError Operand
  | geometry group => (readGeometry (String.ofList group.text)).map .geometry
  | property name => .ok (.property ⟨String.ofList name.text,namespaces,declaredType⟩)

end ItemForm

/-- The parts stand at the front of a text in this order, each behind any blanks. -/
inductive Begins : List (List Char) → List Char → List Char → Prop where
  | nil (rest : List Char) : Begins [] rest rest
  | cons {blanks : List Char} (blank : AllBlank blanks) (part : List Char) {parts : List (List Char)}
      {cs rest : List Char} (tail : Begins parts cs rest) : Begins (part :: parts) (blanks ++ part ++ cs) rest

namespace PredicateForm

def items (f : PredicateForm) : List ItemForm := f.first :: f.more

def distanceParts : Option NumberForm → List (List Char)
  | none => []
  | some number => [[','],number.text]

def parts (f : PredicateForm) : List (List Char) :=
  f.operator :: ['('] :: f.first.text ::
    (f.more.flatMap (fun item => [[','],item.text]) ++ (distanceParts f.distance ++ [[')']]))

/-- A text has this form: nothing but its parts and blanks. -/
def Spells (f : PredicateForm) (text : List Char) : Prop :=
  ∃ blanks, AllBlank blanks ∧ Begins f.parts text blanks

/-- The meaning of a form, from left to right: the operator first, then the items. The first of
them that has no meaning is the error. -/
inductive Yields (namespaces : Namespaces) (declaredType : ValueType) (f : PredicateForm) :
    Except ReadError Predicate → Prop where
  | unknownOperator (foreign : ∀ o ∈ Operator.all, sameLetters o.name.toList f.operator = false) :
      Yields namespaces declaredType f (.error (.unknownOperator (String.ofList f.operator)))
  | item {operator : Operator} (named : sameLetters operator.name.toList f.operator = true)
      {before after : List ItemForm} {item : ItemForm} (split : f.items = before ++ item :: after)
      (earlier : ∀ other ∈ before, ∃ operand, other.evaluate namespaces declaredType = .ok operand)
      {error : ReadError} (fails : item.evaluate namespaces declaredType = .error error) :
      Yields namespaces declaredType f (.error error)
  | predicate {operator : Operator} (named : sameLetters operator.name.toList f.operator = true)
      {operands : List Operand}
      (all : List.Forall₂ (fun item operand => item.evaluate namespaces declaredType = .ok operand) f.items operands) :
      Yields namespaces declaredType f
        (.ok ⟨operator,operands,f.distance.map fun number => Number.ofNumeral number.numeral⟩)

end PredicateForm

namespace Begins

theorem append {parts others : List (List Char)} {cs middle rest : List Char}
    (first : Begins parts cs middle) (second : Begins others middle rest) :
    Begins (parts ++ others) cs rest := by
  induction first with
  | nil => exact second
  | cons blank part _ ih => exact .cons blank part (ih second)

theorem cons_iff {part : List Char} {parts : List (List Char)} {cs rest : List Char} :
    Begins (part :: parts) cs rest ↔
      ∃ blanks middle, AllBlank blanks ∧ cs = blanks ++ part ++ middle ∧ Begins parts middle rest := by
  constructor
  · intro begins
    cases begins with
    | cons blank part tail => exact ⟨_,_,blank,rfl,tail⟩
  · rintro ⟨blanks,middle,blank,rfl,tail⟩
    exact .cons blank part tail

theorem mark_iff {mark : Char} (visible : isBlank mark = false) {parts : List (List Char)} {cs rest : List Char} :
    Begins ([mark] :: parts) cs rest ↔ ∃ middle, readMark mark cs = some middle ∧ Begins parts middle rest := by
  rw [cons_iff]
  constructor
  · rintro ⟨blanks,middle,blank,rfl,tail⟩
    exact ⟨middle,by simpa using readMark_behind visible blank middle,tail⟩
  · intro ⟨middle,marked,tail⟩
    obtain ⟨blanks,blank,rfl⟩ := readMark_eq_some marked
    exact ⟨blanks,middle,blank,by simp,tail⟩

end Begins
end SpatialFilter
