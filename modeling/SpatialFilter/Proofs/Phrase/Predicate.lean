import SpatialFilter.Proofs.Phrase.Item
import SpatialFilter.Proofs.Sequence

/-! Reading a predicate accepts exactly the language of its forms. The sequence of items is read as
far as commas and items go, and a number behind a comma is never mistaken for an item. -/
namespace SpatialFilter

theorem Begins.itemBoundary {mark : Char} (isMark : mark = ',' ∨ mark = ')') {parts : List (List Char)}
    {cs rest : List Char} (begins : Begins ([mark] :: parts) cs rest) : Phrase.ItemBoundary cs := by
  obtain ⟨blanks,middle,blank,rfl,-⟩ := Begins.cons_iff.mp begins
  exact ⟨blanks,mark,middle,blank,isMark,by simp⟩

theorem Begins.readMark_none {mark other : Char} (differ : mark ≠ other) (visible : isBlank mark = false)
    {parts : List (List Char)} {cs rest : List Char} (begins : Begins ([mark] :: parts) cs rest) :
    readMark other cs = none := by
  obtain ⟨blanks,middle,blank,rfl,-⟩ := Begins.cons_iff.mp begins
  rw [List.append_assoc,List.singleton_append,readMark_other differ visible blank]

namespace PredicateForm

def closing (distance : Option NumberForm) : List (List Char) := distanceParts distance ++ [[')']]

def itemParts (items : List ItemForm) : List (List Char) := items.flatMap fun item => [[','],item.text]

theorem closing_itemBoundary {distance : Option NumberForm} {cs rest : List Char}
    (begins : Begins (closing distance) cs rest) : Phrase.ItemBoundary cs := by
  cases distance with
  | none => exact begins.itemBoundary (.inr rfl)
  | some number => exact begins.itemBoundary (.inl rfl)

theorem itemParts_itemBoundary {items : List ItemForm} {distance : Option NumberForm} {cs rest : List Char}
    (begins : Begins (itemParts items ++ closing distance) cs rest) : Phrase.ItemBoundary cs := by
  cases items with
  | nil => exact closing_itemBoundary begins
  | cons item items => exact begins.itemBoundary (.inl rfl)

end PredicateForm

namespace Phrase
open PredicateForm

/-! ### The items -/

theorem readNextItem_closing {distance : Option NumberForm} {cs rest : List Char}
    (begins : Begins (closing distance) cs rest) : readNextItem cs = none := by
  unfold readNextItem
  cases distance with
  | none => rw [begins.readMark_none (by decide) rfl]; rfl
  | some number =>
    obtain ⟨behind,marked,others⟩ := (Begins.mark_iff rfl).mp begins
    obtain ⟨blanks,left,blank,rfl,-⟩ := Begins.cons_iff.mp others
    rw [marked]
    exact readItem_number blank number.spells left

theorem readMany_forms {items : List ItemForm} {distance : Option NumberForm} {cs rest : List Char}
    (begins : Begins (itemParts items ++ closing distance) cs rest) :
    ∃ middle, readMany readNextItem cs = (items.map ItemForm.item,middle) ∧
      Begins (closing distance) middle rest := by
  -- The parts behind an item begin where its reader stops.
  induction items generalizing cs with
  | nil => exact ⟨cs,readMany_none (readNextItem_closing begins),begins⟩
  | cons item items ih =>
    obtain ⟨behind,marked,others⟩ := (Begins.mark_iff rfl).mp begins
    obtain ⟨blanks,left,blank,rfl,tail⟩ := Begins.cons_iff.mp others
    obtain ⟨middle,many,closed⟩ := ih tail
    have read : readNextItem cs = some (item.item,left) := by
      unfold readNextItem
      rw [marked]
      exact readItem_form blank item (itemParts_itemBoundary tail)
    have shorter : left.length < cs.length := by
      obtain ⟨others,-,rfl⟩ := readMark_eq_some marked
      simp
      omega
    refine ⟨middle,?_,closed⟩
    rw [readMany_some read shorter,many]
    rfl

theorem forms_of_readMany {cs rest : List Char} {items : List Item}
    (ok : readMany readNextItem cs = (items,rest)) :
    ∃ forms, items = forms.map ItemForm.item ∧ Begins (itemParts forms) cs rest := by
  fun_induction readMany readNextItem cs generalizing items with
  | case1 cs refused =>
    cases ok
    exact ⟨[],rfl,.nil _⟩
  | case2 cs item left read shorter values last more ih =>
    cases ok
    obtain ⟨behind,marked,itemRead⟩ := Option.bind_eq_some_iff.mp read
    obtain ⟨blanks,form,blank,split,rfl⟩ := form_of_readItem itemRead
    obtain ⟨forms,rfl,begins⟩ := ih more
    refine ⟨form :: forms,rfl,(Begins.mark_iff rfl).mpr ⟨behind,marked,?_⟩⟩
    exact Begins.cons_iff.mpr ⟨blanks,left,blank,split,begins⟩
  | case3 cs item left read longer =>
    cases ok
    exact ⟨[],rfl,.nil _⟩

/-! ### The distance -/

theorem ItemBoundary.tokenBoundary {rest : List Char} (boundary : ItemBoundary rest) :
    Numeral.Boundary rest := by
  intro c first
  rcases boundary.head c first with blank | rfl | rfl
  · have outside : ∀ d ∈ [' ','\t','\r','\n'], d.isDigit = false ∧ d ≠ '.' ∧ d ≠ 'e' ∧ d ≠ 'E' := by simp
    exact outside c (isBlank_iff.mp blank)
  · decide
  · decide

theorem readDistance_form {distance : Option NumberForm} {cs rest : List Char}
    (begins : Begins (closing distance) cs rest) :
    ∃ middle, readDistance cs = (distance.map NumberForm.numeral,middle) ∧ Begins [[')']] middle rest := by
  unfold readDistance
  cases distance with
  | none =>
    rw [begins.readMark_none (by decide) rfl]
    exact ⟨cs,rfl,begins⟩
  | some number =>
    obtain ⟨behind,marked,others⟩ := (Begins.mark_iff rfl).mp begins
    obtain ⟨blanks,left,blank,rfl,tail⟩ := Begins.cons_iff.mp others
    have read := readNumber_spelled blank number.spells (tail.itemBoundary (.inr rfl)).tokenBoundary
    simp only [marked,read]
    exact ⟨left,rfl,tail⟩

theorem form_of_readDistance {cs rest : List Char} {distance : Option Numeral}
    (ok : readDistance cs = (distance,rest)) :
    ∃ form : Option NumberForm, distance = form.map NumberForm.numeral ∧ Begins (distanceParts form) cs rest := by
  unfold readDistance at ok
  split at ok
  · cases ok
    exact ⟨none,rfl,.nil _⟩
  · rename_i behind marked
    split at ok
    · rename_i n left read
      cases ok
      obtain ⟨blanks,text,blank,split,spells⟩ := number_of_readNumber read
      refine ⟨some ⟨n,text,spells⟩,rfl,(Begins.mark_iff rfl).mpr ⟨behind,marked,?_⟩⟩
      exact Begins.cons_iff.mpr ⟨blanks,_,blank,split,.nil _⟩
    · cases ok
      exact ⟨none,rfl,.nil _⟩

/-! ### The whole predicate -/

theorem parts_eq (f : PredicateForm) :
    f.parts = f.operator :: ['('] :: f.first.text :: (itemParts f.more ++ closing f.distance) := rfl

end Phrase

namespace PredicateForm

def phrase (f : PredicateForm) : PredicatePhrase :=
  ⟨f.operator,f.items.map ItemForm.item,f.distance.map NumberForm.numeral⟩

end PredicateForm

namespace Phrase
open PredicateForm

theorem readPredicate_form {f : PredicateForm} {text rest : List Char} (begins : Begins f.parts text rest) :
    readPredicate (skipBlanks text) = some (f.phrase,rest) := by
  rw [parts_eq] at begins
  obtain ⟨blanks,afterWord,blank,rfl,behindWord⟩ := Begins.cons_iff.mp begins
  obtain ⟨inner,opened,behindMark⟩ := (Begins.mark_iff rfl).mp behindWord
  obtain ⟨others,afterFirst,otherBlank,rfl,behindFirst⟩ := Begins.cons_iff.mp behindMark
  obtain ⟨afterItems,many,closed⟩ := readMany_forms behindFirst
  obtain ⟨afterDistance,distanceRead,last⟩ := readDistance_form closed
  obtain ⟨left,shut,done⟩ := (Begins.mark_iff rfl).mp last
  cases done
  have word : readWord (skipBlanks (blanks ++ f.operator ++ afterWord)) = some (f.operator,afterWord) := by
    obtain ⟨gap,gapBlank,rfl⟩ := readMark_eq_some opened
    rw [skipBlanks_word f.isWord blank]
    exact readWord_append f.isWord (not_isAlpha_behind_word gapBlank _)
  have first := readItem_form otherBlank f.first (itemParts_itemBoundary behindFirst)
  simp only [List.append_assoc] at first word ⊢
  simp [readPredicate,word,opened,first,many,distanceRead,shut,phrase,items]

theorem form_of_readPredicate {cs rest : List Char} {phrase : PredicatePhrase}
    (ok : readPredicate cs = some (phrase,rest)) :
    ∃ f : PredicateForm, phrase = f.phrase ∧ Begins f.parts cs rest := by
  obtain ⟨⟨operator,afterWord⟩,wordRead,read⟩ := Option.bind_eq_some_iff.mp ok
  obtain ⟨inner,opened,read⟩ := Option.bind_eq_some_iff.mp read
  obtain ⟨⟨first,afterFirst⟩,firstRead,read⟩ := Option.bind_eq_some_iff.mp read
  cases many : readMany readNextItem afterFirst with
  | mk more afterItems =>
    cases distanceRead : readDistance afterItems with
    | mk distance afterDistance =>
      simp only [many,distanceRead] at read
      obtain ⟨left,shut,same⟩ := Option.bind_eq_some_iff.mp read
      cases same
      obtain ⟨rfl,nonempty,letters,-⟩ := readRun_eq_some.mp wordRead
      obtain ⟨blanks,form,blank,split,rfl⟩ := form_of_readItem firstRead
      obtain ⟨forms,rfl,items⟩ := forms_of_readMany many
      obtain ⟨number,rfl,numbers⟩ := form_of_readDistance distanceRead
      refine ⟨⟨operator,form,forms,number,⟨nonempty,letters⟩⟩,rfl,?_⟩
      have last : Begins [[')']] afterDistance rest := (Begins.mark_iff rfl).mpr ⟨_,shut,.nil _⟩
      have behindFirst := items.append (numbers.append last)
      have behindMark := Begins.cons_iff.mpr ⟨blanks,_,blank,split,behindFirst⟩
      have behindWord := (Begins.mark_iff rfl).mpr ⟨_,opened,behindMark⟩
      exact Begins.cons_iff.mpr ⟨[],_,by simp [AllBlank],rfl,behindWord⟩

/-- A text is read as a predicate if and only if it has a form, and then as the phrase of this form. -/
theorem readWhole_predicate {text : List Char} {phrase : PredicatePhrase} :
    readWhole readPredicate text = some phrase ↔ ∃ f : PredicateForm, phrase = f.phrase ∧ f.Spells text := by
  constructor
  · intro ok
    unfold readWhole at ok
    split at ok
    · rename_i found rest read
      split at ok
      · rename_i blank
        cases ok
        obtain ⟨f,rfl,begins⟩ := form_of_readPredicate read
        refine ⟨f,rfl,rest,skipBlanks_eq_nil.mp (by simpa using blank),?_⟩
        -- The blanks in front of the text belong to the first part, with those that its form has.
        obtain ⟨blanks,isBlank,split⟩ := skipBlanks_split text
        obtain ⟨others,middle,otherBlank,same,tail⟩ := Begins.cons_iff.mp begins
        refine Begins.cons_iff.mpr ⟨blanks ++ others,middle,allBlank_append.mpr ⟨isBlank,otherBlank⟩,?_,tail⟩
        rw [split,same]
        simp
      · cases ok
    · cases ok
  · rintro ⟨f,rfl,blanks,blank,begins⟩
    unfold readWhole
    rw [readPredicate_form begins]
    simp [skipBlanks_eq_nil.mpr blank]

end Phrase

/-! ### The meaning of a form -/

namespace Operator

/-- No two operators have names that differ only in case. -/
private theorem eq_of_sameLetters {first second : Operator} {word : List Char}
    (one : sameLetters first.name.toList word = true) (other : sameLetters second.name.toList word = true) :
    first = second := by
  have same : upper first.name.toList = upper second.name.toList := by
    rw [sameLetters_iff.mp one,sameLetters_iff.mp other]
  revert same
  cases first <;> cases second <;> decide

private theorem mem_all (o : Operator) : o ∈ all := by
  cases o <;> decide

theorem ofWord?_eq_some {word : List Char} {operator : Operator} :
    ofWord? word = some operator ↔ sameLetters operator.name.toList word = true := by
  have found {o : Operator} (read : ofWord? word = some o) : sameLetters o.name.toList word = true := by
    simpa using List.find?_some read
  refine ⟨found,fun named => ?_⟩
  have present : (ofWord? word).isSome = true := List.find?_isSome.mpr ⟨operator,mem_all operator,named⟩
  obtain ⟨other,read⟩ := Option.isSome_iff_exists.mp present
  rw [read,eq_of_sameLetters (found read) named]

theorem ofWord?_eq_none {word : List Char} :
    ofWord? word = none ↔ ∀ o ∈ all, sameLetters o.name.toList word = false := by
  simp [ofWord?]

end Operator

theorem ItemForm.evaluate_fits (namespaces : Namespaces) (declaredType : ValueType) (i : ItemForm)
    (found : Mismatch) : i.evaluate namespaces declaredType ≠ .error (.mismatch found) := by
  cases i with
  | property name => simp [evaluate]
  | geometry group =>
    rw [evaluate,readGeometry_groupText]
    intro mismatch
    cases meant : group.phrase.toGeometry with
    | ok geometry => simp [meant,Except.map] at mismatch
    | error error =>
      simp only [meant,Except.map,Except.error.injEq] at mismatch
      subst mismatch
      exact group.phrase.toGeometry_fits found meant

namespace PredicateForm

theorem Yields.fits {namespaces : Namespaces} {declaredType : ValueType} {f : PredicateForm}
    {result : Except ReadError Predicate} (yields : f.Yields namespaces declaredType result)
    (found : Mismatch) : result ≠ .error (.mismatch found) := by
  cases yields with
  | unknownOperator foreign => simp
  | predicate named all => simp
  | item named split earlier fails =>
    rintro ⟨⟩
    exact ItemForm.evaluate_fits namespaces declaredType _ found fails

private theorem operands_phrase (namespaces : Namespaces) (declaredType : ValueType) (f : PredicateForm) :
    f.phrase.items.mapM (Item.toOperand namespaces declaredType) =
      f.items.mapM (ItemForm.evaluate namespaces declaredType) := by
  rw [phrase,List.mapM_map]
  congr 1
  funext i
  exact i.toOperand_item namespaces declaredType

/-- The words of a form are looked up as the form says. -/
theorem yields_iff {namespaces : Namespaces} {declaredType : ValueType} {f : PredicateForm}
    {result : Except ReadError Predicate} :
    f.Yields namespaces declaredType result ↔ f.phrase.toPredicate namespaces declaredType = result := by
  have operands := operands_phrase namespaces declaredType f
  unfold PredicatePhrase.toPredicate
  constructor
  · intro yields
    cases yields with
    | unknownOperator foreign =>
      rw [show Operator.ofWord? f.phrase.operator = none from
        Operator.ofWord?_eq_none.mpr foreign]
      rfl
    | item named split earlier fails =>
      rw [show Operator.ofWord? f.phrase.operator = some _ from Operator.ofWord?_eq_some.mpr named]
      dsimp only
      rw [operands,mapM_eq_error.mpr ⟨_,_,_,split,earlier,fails⟩]
      rfl
    | predicate named all =>
      rw [show Operator.ofWord? f.phrase.operator = some _ from Operator.ofWord?_eq_some.mpr named]
      dsimp only
      rw [operands,mapM_eq_ok.mpr all]
      simp [phrase,Function.comp_def]
  · rintro rfl
    cases word : Operator.ofWord? f.phrase.operator with
    | none => exact .unknownOperator (Operator.ofWord?_eq_none.mp word)
    | some operator =>
      have named := Operator.ofWord?_eq_some.mp word
      dsimp only
      rw [operands]
      cases all : f.items.mapM (ItemForm.evaluate namespaces declaredType) with
      | error error =>
        obtain ⟨before,item,after,split,earlier,fails⟩ := mapM_eq_error.mp all
        exact .item named split earlier fails
      | ok values =>
        have whole := Yields.predicate named (mapM_eq_ok.mp all)
        simpa [phrase,Function.comp_def] using whole

end PredicateForm

/-- The grammar of predicates, and the meaning of every text that fits it. -/
theorem readPredicate_language (namespaces : Namespaces) (declaredType : ValueType) (text : String) :
    ((∃ found, readPredicate namespaces declaredType text = .error (.mismatch found)) ↔
      ∀ f : PredicateForm, ¬ f.Spells text.toList) ∧
    ∀ f : PredicateForm, f.Spells text.toList → ∀ result,
      f.Yields namespaces declaredType result ↔ readPredicate namespaces declaredType text = result := by
  have meaning (f : PredicateForm) (spells : f.Spells text.toList) :
      readPredicate namespaces declaredType text = f.phrase.toPredicate namespaces declaredType := by
    unfold readPredicate
    rw [Phrase.readWhole_predicate.mpr ⟨f,rfl,spells⟩]
  refine ⟨⟨?_,?_⟩,fun f spells result => by rw [meaning f spells,PredicateForm.yields_iff]⟩
  · intro ⟨found,mismatch⟩ f spells
    rw [meaning f spells] at mismatch
    exact (PredicateForm.yields_iff.mpr mismatch).fits found rfl
  · intro formless
    have refused : Phrase.readWhole Phrase.readPredicate text.toList = none := by
      rw [Option.eq_none_iff_forall_ne_some]
      intro phrase read
      obtain ⟨f,-,spells⟩ := Phrase.readWhole_predicate.mp read
      exact formless f spells
    exact ⟨_,by rw [readPredicate,refused]⟩

/-- `dwithin` applied to the property `geom` and the group `POINT(1 2)`, at the distance 5. -/
def dwithinForm : PredicateForm where
  operator := ['d','w','i','t','h','i','n']
  first := .property ⟨['g','e','o','m'],.inl ⟨'g',['e','o','m'],rfl,rfl,by simp [Phrase.isNamePart]⟩⟩
  more := [.geometry ⟨['P','O','I','N','T'],[],['1',' ','2'],⟨by simp,by simp⟩,by simp [AllBlank],
    Balanced.of_plain (by simp [isPlain])⟩]
  distance := some ⟨⟨false,['5'],none,none⟩,['5'],
    ⟨⟨⟨by simp,by simp⟩,by simp,by simp⟩,'e',.inl rfl,rfl⟩⟩
  isWord := ⟨by simp,by simp⟩

theorem readPredicate_language_dwithin :
    dwithinForm.Spells "dwithin ( geom,POINT(1 2), 5 ) ".toList ∧
      dwithinForm.Yields .empty .geometry
        (readPredicate .empty .geometry "dwithin ( geom,POINT(1 2), 5 ) ") := by
  have blank : AllBlank [' '] := by simp [AllBlank,isBlank]
  have none : AllBlank [] := by simp [AllBlank]
  have spells : dwithinForm.Spells "dwithin ( geom,POINT(1 2), 5 ) ".toList :=
    ⟨[' '],blank,.cons none _ (.cons blank _ (.cons blank _ (.cons none _ (.cons none _
      (.cons none _ (.cons blank _ (.cons blank _ (.nil _))))))))⟩
  exact ⟨spells,((readPredicate_language .empty .geometry _).2 dwithinForm spells _).mpr rfl⟩

end SpatialFilter
