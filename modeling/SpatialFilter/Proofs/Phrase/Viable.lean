import SpatialFilter.Proofs.Phrase.Predicate
import SpatialFilter.Proofs.Phrase.Refusal

/-! How far a text fits. The place that is reported for a text that leaves the grammar is a place up to which the text
can be continued to one that stays in it: an open group can be closed, and where an item or a distance was expected,
one can be put. -/
namespace SpatialFilter
open Phrase

def Phrase.Accepts {α : Type} (phrase : Reader α) (text : List Char) : Prop := (readWhole phrase text).isSome = true

theorem accepts_blanks {α : Type} {phrase : Reader α} {blanks text : List Char} (blank : AllBlank blanks) :
    Accepts phrase (blanks ++ text) ↔ Accepts phrase text := by
  rw [Accepts,Accepts,readWhole,readWhole,skipBlanks_append blank]

/-! ### Reports -/

theorem Part.mem_all (part : Part) : part ∈ Part.all := by
  cases part <;> decide

/-- The place of a report is in the text and not in front of anything that opens a phrase. Something is expected there,
nothing of what is expected stands there, and the text up to there can be continued. -/
structure Mismatch.Fair (accepts opens : List Char → Prop) (text : List Char) (found : Mismatch) : Prop where
  source : found.source = text
  within : found.position ≤ text.length
  behind : ∀ front, front <+: text → opens front → front.length ≤ found.position
  expected : found.expected ≠ []
  refused : ∀ part ∈ found.expected, part.Refused (text.drop found.position)
  continued : ∃ more, accepts (text.take found.position ++ more)

theorem Mismatch.Fair.imp {accepts fits opens : List Char → Prop} {text : List Char} {found : Mismatch}
    (fair : found.Fair accepts opens text) (implies : ∀ cs, accepts cs → fits cs) : found.Fair fits opens text := by
  obtain ⟨more,accepted⟩ := fair.continued
  exact {fair with continued := ⟨more,implies _ accepted⟩}

theorem Mismatch.fair_ofRefusals {accepts opens : List Char → Prop} {text : List Char} {bound : Nat} {r : Refusals}
    (reach : r.Reach accepts text bound) (some : r.parts ≠ [])
    (behind : ∀ front place, text = front ++ place → opens front → r.remaining ≤ place.length) :
    (ofRefusals text r).Fair accepts opens text := by
  obtain ⟨place,⟨before,more,rfl,accepted⟩,remaining,all⟩ := reach.place
  have position : (ofRefusals (before ++ place) r).position = before.length := by
    simp [ofRefusals,remaining]
  constructor
  · rfl
  · simp [position]
  · rintro front ⟨other,split⟩ opening
    have further := behind front other split.symm opening
    have lengths := congrArg List.length split
    simp only [List.length_append] at lengths
    omega
  · obtain ⟨part,member⟩ := List.exists_mem_of_ne_nil _ some
    exact List.ne_nil_of_mem (List.mem_filter.mpr ⟨Part.mem_all part,by simpa using member⟩)
  · intro part expected
    rw [position,List.drop_left]
    exact all part (by simpa using (List.mem_filter.mp expected).2)
  · exact ⟨more,by rwa [position,List.take_left]⟩

section Whole
variable {α : Type} {phrase : Reader α} {text : List Char} {part : Part} {inside : List Char → Refusals → Refusals}

theorem Refusals.tryWhole_reach {bound : Nat} (refused : readWhole phrase text = none) (named : part.Refused text)
    (start : Viable (Accepts phrase) text text)
    (behind : ∀ value rest, phrase (skipBlanks text) = some (value,rest) →
      Viable (Accepts phrase) text (skipBlanks rest))
    (tried : Reach (Accepts phrase) text bound (inside (skipBlanks text) ⟨text.length,[]⟩)) :
    Reach (Accepts phrase) text bound (tryWhole part phrase inside text) ∧
      (tryWhole part phrase inside text).parts ≠ [] := by
  have last {r : Refusals} (reach : Reach (Accepts phrase) text bound r) :
      Reach (Accepts phrase) text bound (Refusals.note part text 0 r) ∧ (Refusals.note part text 0 r).parts ≠ [] :=
    ⟨(reach.note start named 0).weaken (Nat.min_le_left ..),reach.named_by_note part⟩
  have none : (⟨text.length,[]⟩ : Refusals).countAt text = 0 := by simp [Refusals.countAt]
  rw [tryWhole,Refusals.attempt,refused,none]
  refine last ?_
  dsimp only
  split
  · exact tried
  · rename_i value rest read
    exact tried.attempt (behind value rest read) (by simp [Part.Refused])

/-- The report on a whole text, from what the parts of its phrase keep and pass and from what may stand behind the
phrase. -/
theorem Mismatch.fair_tryWhole {opens : List Char → Prop} (refused : readWhole phrase text = none)
    (named : part.Refused text) (start : Viable (Accepts phrase) text text)
    (behind : ∀ value rest, phrase (skipBlanks text) = some (value,rest) →
      Viable (Accepts phrase) text (skipBlanks rest))
    (keeps : Refusals.Keeps (Accepts phrase) text (inside (skipBlanks text)))
    (passes : ∀ front place, text = front ++ place → opens front →
      Refusals.Passes (Accepts phrase) text place.length (inside (skipBlanks text))) :
    (ofRefusals text (Refusals.tryWhole part phrase inside text)).Fair (Accepts phrase) opens text := by
  have begun : Refusals.Reach (Accepts phrase) text text.length ⟨text.length,[]⟩ :=
    ⟨⟨text,start,rfl,by simp⟩,fun beyond => absurd rfl beyond,Nat.le_refl _⟩
  obtain ⟨reach,some⟩ := Refusals.tryWhole_reach refused named start behind (keeps _ _ begun)
  refine fair_ofRefusals reach some fun front place split opening => ?_
  have passed := (Refusals.tryWhole_reach refused named start behind (passes front place split opening _ _ begun)).1
  exact passed.within.trans (Nat.min_le_right ..)

end Whole

/-! ### Geometries -/

theorem accepts_geometry {blanks rest : List Char} (blank : AllBlank blanks) (clear : AllBlank rest) (g : GroupForm) :
    Accepts Phrase.readGeometry (blanks ++ g.text ++ rest) := by
  unfold Accepts readWhole
  rw [skipBlanks_group blank,readGeometry_group]
  simp [skipBlanks_eq_nil.mpr clear]

theorem admits_geometry (text : List Char) : Admits (Accepts Phrase.readGeometry) text (skipBlanks text) := by
  intro g used more rest split skipped
  obtain ⟨blanks,blank,same⟩ := skipBlanks_split text
  refine ⟨blanks ++ used,more,by rw [same,skipped,List.append_assoc],?_⟩
  have accepted := accepts_geometry blank allBlank_nil g
  rwa [split,List.append_nil,← List.append_assoc] at accepted

/-- A tag and an opening parenthesis. -/
def OpensGroup (front : List Char) : Prop := ∃ tag, IsWord tag ∧ Begins [tag,['(']] front []

theorem OpensGroup.opened {front place : List Char} (opens : OpensGroup front) :
    ∃ tag gap, Refusals.Opened (skipBlanks (front ++ place)) tag gap place := by
  obtain ⟨tag,isTag,begins⟩ := opens
  obtain ⟨blanks,middle,blank,rfl,more⟩ := Begins.cons_iff.mp begins
  obtain ⟨gap,last,clear,rfl,done⟩ := Begins.cons_iff.mp more
  cases done
  refine ⟨tag,gap,isTag,clear,?_⟩
  have word := skipBlanks_word isTag blank (gap ++ '(' :: place)
  simpa using word

theorem Mismatch.fair_ofGeometry {text : List Char} (refused : readWhole Phrase.readGeometry text = none) :
    (ofGeometry text).Fair (Accepts Phrase.readGeometry) OpensGroup text := by
  have admits := admits_geometry text
  have start : Viable (Accepts Phrase.readGeometry) text text :=
    ⟨[],_,rfl,accepts_geometry allBlank_nil allBlank_nil anyGroup⟩
  refine fair_tryWhole refused refused start ?_ (Refusals.tryGeometry_passes admits).keeps ?_
  · intro phrase rest read
    obtain ⟨g,same,-⟩ := group_of_readGeometry read
    obtain ⟨blanks,blank,split⟩ := skipBlanks_split text
    obtain ⟨gap,clear,behind⟩ := skipBlanks_split rest
    refine ⟨blanks ++ g.text ++ gap,[],?_,by simpa using accepts_geometry blank clear g⟩
    rw [List.append_assoc _ gap,← behind,List.append_assoc,← same,← split]
  · rintro front place rfl opens
    obtain ⟨tag,gap,opened⟩ := opens.opened
    exact Refusals.tryGeometry_behind admits opened

/-! ### Items -/

/-- The parts stand in front of whatever follows them. -/
theorem Begins.front {parts : List (List Char)} {cs rest : List Char} (begins : Begins parts cs rest) :
    ∃ front, cs = front ++ rest ∧ ∀ other, Begins parts (front ++ other) other := by
  induction begins with
  | nil rest => exact ⟨[],rfl,.nil⟩
  | @cons blanks blank part parts cs rest tail ih =>
    obtain ⟨front,rfl,again⟩ := ih
    refine ⟨blanks ++ part ++ front,by simp,fun other => ?_⟩
    rw [List.append_assoc _ front]
    exact .cons blank part (again other)

theorem Begins.behind {parts : List (List Char)} {front : List Char} (begins : Begins parts front [])
    (other : List Char) : Begins parts (front ++ other) other := by
  obtain ⟨same,split,again⟩ := begins.front
  rw [split,List.append_nil]
  exact again other

namespace PredicateForm

/-- Items with a comma behind each of them. -/
def listed (items : List ItemForm) : List (List Char) := items.flatMap fun item => [item.text,[',']]

theorem itemParts_last (first : ItemForm) (items : List ItemForm) (last : ItemForm) :
    first.text :: itemParts (items ++ [last]) = listed (first :: items) ++ [last.text] := by
  induction items generalizing first with
  | nil => rfl
  | cons item items ih =>
    have more := ih item
    rw [listed,List.flatMap_cons,List.append_assoc,← listed,← more]
    rfl

theorem exists_parts {operator : List Char} (isWord : IsWord operator) (items : List ItemForm) (last : ItemForm) :
    ∃ f : PredicateForm, f.parts = operator :: ['('] :: listed items ++ [last.text,[')']] := by
  cases items with
  | nil => exact ⟨⟨operator,last,[],none,isWord⟩,rfl⟩
  | cons first items =>
    refine ⟨⟨operator,first,items ++ [last],none,isWord⟩,?_⟩
    have behind := itemParts_last first items last
    rw [parts_eq,← List.cons_append,behind]
    simp [closing,distanceParts]

end PredicateForm

open PredicateForm (listed)

/-- An operator, an opening parenthesis, and items with a comma behind each of them. -/
def OpensItem (front : List Char) : Prop :=
  ∃ operator items, IsWord operator ∧ Begins (operator :: ['('] :: listed items) front []

theorem OpensItem.accepts {front blanks : List Char} (opens : OpensItem front) (item : ItemForm)
    (blank : AllBlank blanks) : Accepts Phrase.readPredicate (front ++ blanks ++ item.text ++ [')']) := by
  obtain ⟨operator,items,isWord,begins⟩ := opens
  obtain ⟨f,parts⟩ := PredicateForm.exists_parts isWord items item
  have closed : Begins [item.text,[')']] (blanks ++ item.text ++ [')']) [] :=
    .cons blank item.text (.cons allBlank_nil [')'] (.nil []))
  have spells : f.Spells (front ++ (blanks ++ item.text ++ [')'])) :=
    ⟨[],allBlank_nil,parts ▸ (begins.behind _).append closed⟩
  have whole := readWhole_predicate.mpr ⟨f,rfl,spells⟩
  rw [Accepts,List.append_assoc,List.append_assoc,← List.append_assoc blanks,whole]
  rfl

/-- A place where an item may stand. -/
def ItemPlace (text place : List Char) : Prop := ∃ front, text = front ++ place ∧ OpensItem front

namespace ItemPlace
variable {text place : List Char}

theorem admits (begun : ItemPlace text place) : Admits (Accepts Phrase.readPredicate) text (skipBlanks place) := by
  intro g used more rest split skipped
  obtain ⟨front,same,opens⟩ := begun
  obtain ⟨blanks,blank,behind⟩ := skipBlanks_split place
  refine ⟨front ++ blanks ++ used,more ++ [')'],?_,?_⟩
  · rw [same,behind,skipped]
    simp
  · have closed := opens.accepts (.geometry g) blank
    rw [ItemForm.text,split] at closed
    simpa using closed

theorem next {rest more : List Char} {item : Item} (begun : ItemPlace text place)
    (read : readItem place = some (item,rest)) (marked : readMark ',' rest = some more) : ItemPlace text more := by
  obtain ⟨front,rfl,operator,items,isWord,begins⟩ := begun
  obtain ⟨blanks,form,blank,rfl,-⟩ := form_of_readItem read
  obtain ⟨gap,clear,rfl⟩ := readMark_eq_some marked
  have comma : Begins [[',']] (gap ++ [',']) [] := by simpa using Begins.cons clear [','] (.nil [])
  have behind : Begins [form.text,[',']] (blanks ++ form.text ++ (gap ++ [','])) [] := .cons blank form.text comma
  refine ⟨front ++ (blanks ++ form.text ++ (gap ++ [','])),by simp,operator,items ++ [form],isWord,?_⟩
  have parts := (begins.behind _).append behind
  simpa [listed] using parts

end ItemPlace

/-! ### Predicates -/

namespace Refusals
variable {text cs place : List Char}

theorem tryMoreItems_keeps (places : ∀ next, readMark ',' cs = some next → ItemPlace text next) :
    Keeps (Accepts Phrase.readPredicate) text (tryMoreItems cs) := by
  intro bound r reach
  fun_induction tryMoreItems cs r with
  | case1 cs r other => exact reach
  | case2 cs r place marked refused => exact (tryItem_passes (places place marked).admits).keeps bound r reach
  | case3 cs r place marked item rest read shorter ih =>
    exact ih (fun next behind => (places place marked).next read behind)
      ((tryItem_passes (places place marked).admits).keeps bound r reach)
  | case4 cs r place marked item rest read longer => exact reach

theorem tryMoreItems_passes {items : List ItemForm} (places : ∀ next, readMark ',' cs = some next → ItemPlace text next)
    (begins : Begins ([','] :: listed items) cs place) :
    Passes (Accepts Phrase.readPredicate) text (skipBlanks place).length (tryMoreItems cs) := by
  intro bound r reach
  -- The items of a form are the items that are read.
  induction items generalizing cs bound r with
  | nil =>
    obtain ⟨next,marked,done⟩ := (Begins.mark_iff rfl).mp begins
    cases done
    have first := tryItem_passes (places _ marked).admits bound r reach
    rw [tryMoreItems,marked]
    dsimp only
    split
    · exact first
    · rename_i item rest read
      have shorter : rest.length < cs.length :=
        readNextItem_shortens cs item rest (by rw [readNextItem,marked]; exact read)
      rw [if_pos shorter]
      exact tryMoreItems_keeps (fun next behind => (places _ marked).next read behind) _ _ first
  | cons item items ih =>
    obtain ⟨next,marked,others⟩ := (Begins.mark_iff rfl).mp begins
    obtain ⟨blanks,rest,blank,split,tail⟩ := Begins.cons_iff.mp others
    have read : readItem next = some (item.item,rest) := by
      rw [split]
      exact readItem_form blank item (tail.itemBoundary (.inl rfl))
    have shorter : rest.length < cs.length :=
      readNextItem_shortens cs item.item rest (by rw [readNextItem,marked]; exact read)
    have first := (tryItem_passes (places next marked).admits).keeps bound r reach
    rw [tryMoreItems,marked]
    dsimp only
    rw [read]
    dsimp only
    rw [if_pos shorter]
    exact ih (fun more behind => (places next marked).next read behind) tail _ _ first

theorem places_readMany (places : ∀ next, readMark ',' cs = some next → ItemPlace text next) :
    ∀ next, readMark ',' (readMany readNextItem cs).2 = some next → ItemPlace text next := by
  fun_induction readMany readNextItem cs with
  | case1 cs refused => exact places
  | case2 cs item rest read shorter values last more ih =>
    rw [more] at ih
    obtain ⟨place,marked,itemRead⟩ := Option.bind_eq_some_iff.mp read
    exact ih fun next behind => (places place marked).next itemRead behind
  | case3 cs item rest read longer => exact places

/-- Where a distance is tried, one more item could stand as well. -/
theorem tryDistance_keeps (places : ∀ next, readMark ',' cs = some next → ItemPlace text next) :
    Keeps (Accepts Phrase.readPredicate) text (tryDistance cs) := by
  intro bound r reach
  unfold tryDistance
  split
  · exact reach
  · rename_i more marked
    have viable := (places more marked).admits.here
    exact Keeps.attempt viable eq_none_of_isSome (.single viable eq_none_of_isSome) bound r reach

theorem tryBehindItem_keeps (places : ∀ next, readMark ',' cs = some next → ItemPlace text next) :
    Keeps (Accepts Phrase.readPredicate) text fun r => tryDistance (readMany readNextItem cs).2 (tryMoreItems cs r) :=
  fun bound r reach => tryDistance_keeps (places_readMany places) bound _ (tryMoreItems_keeps places bound r reach)

theorem tryArguments_keeps (begun : ∀ first, readMark '(' cs = some first → ItemPlace text first) :
    Keeps (Accepts Phrase.readPredicate) text (tryArguments cs) := by
  intro bound r reach
  unfold tryArguments
  split
  · exact reach
  · rename_i first opened
    have place := begun first opened
    have tried := (tryItem_passes place.admits).keeps bound r reach
    split
    · exact tried
    · rename_i item rest read
      exact tryBehindItem_keeps (fun next behind => place.next read behind) _ _ tried

theorem tryArguments_passes {items : List ItemForm}
    (begun : ∀ first, readMark '(' cs = some first → ItemPlace text first)
    (begins : Begins (['('] :: listed items) cs place) :
    Passes (Accepts Phrase.readPredicate) text (skipBlanks place).length (tryArguments cs) := by
  intro bound r reach
  obtain ⟨first,opened,inner⟩ := (Begins.mark_iff rfl).mp begins
  have start := begun first opened
  have tried := tryItem_passes start.admits bound r reach
  rw [tryArguments,opened]
  dsimp only
  cases items with
  | nil =>
    cases inner
    split
    · exact tried
    · rename_i item rest read
      exact tryBehindItem_keeps (fun next behind => start.next read behind) _ _ tried
  | cons item items =>
    obtain ⟨blanks,rest,blank,split,tail⟩ := Begins.cons_iff.mp inner
    have read : readItem first = some (item.item,rest) := by
      rw [split]
      exact readItem_form blank item (Begins.itemBoundary (.inl rfl) tail)
    rw [read]
    have places (next : List Char) (behind : readMark ',' rest = some next) := start.next read behind
    have passed := tryMoreItems_passes places tail _ _ ((tryItem_passes start.admits).keeps bound r reach)
    exact tryDistance_keeps (places_readMany places) _ _ passed

theorem itemPlace_first {operator rest : List Char} (read : readWord (skipBlanks text) = some (operator,rest))
    (first : List Char) (opened : readMark '(' rest = some first) : ItemPlace text first := by
  obtain ⟨split,nonempty,letters,-⟩ := readRun_eq_some.mp read
  obtain ⟨blanks,blank,whole⟩ := skipBlanks_split text
  obtain ⟨gap,clear,rfl⟩ := readMark_eq_some opened
  have mark : Begins [['(']] (gap ++ ['(']) [] := by simpa using Begins.cons clear ['('] (.nil [])
  exact ⟨blanks ++ operator ++ (gap ++ ['(']),by rw [whole,split]; simp,operator,[],⟨nonempty,letters⟩,
    .cons blank operator mark⟩

theorem tryPredicate_keeps (start : Viable (Accepts Phrase.readPredicate) text (skipBlanks text)) :
    Keeps (Accepts Phrase.readPredicate) text (tryPredicate (skipBlanks text)) := by
  refine .attempt start eq_none_of_isSome fun bound r reach => ?_
  have tried : Reach (Accepts Phrase.readPredicate) text bound (tryWord .operator (skipBlanks text) r) :=
    Keeps.single start eq_none_of_isSome bound r reach
  dsimp only
  split
  · exact tried
  · rename_i operator rest read
    exact tryArguments_keeps (itemPlace_first read) _ _ tried

theorem tryPredicate_passes {front : List Char} (start : Viable (Accepts Phrase.readPredicate) text (skipBlanks text))
    (split : text = front ++ place) (opens : OpensItem front) :
    Passes (Accepts Phrase.readPredicate) text place.length (tryPredicate (skipBlanks text)) := by
  obtain ⟨operator,items,isWord,begins⟩ := opens
  have whole := begins.behind place
  rw [← split] at whole
  obtain ⟨blanks,rest,blank,same,more⟩ := Begins.cons_iff.mp whole
  have read : readWord (skipBlanks text) = some (operator,rest) := by
    obtain ⟨first,opened,-⟩ := (Begins.mark_iff rfl).mp more
    obtain ⟨gap,clear,rfl⟩ := readMark_eq_some opened
    rw [same,skipBlanks_word isWord blank]
    exact readWord_append isWord (not_isAlpha_behind_word clear first)
  intro bound r reach
  have tried : Reach (Accepts Phrase.readPredicate) text bound (tryWord .operator (skipBlanks text) r) :=
    Keeps.single start eq_none_of_isSome bound r reach
  have passed := (tryArguments_passes (itemPlace_first read) more).weaken (length_skipBlanks place) bound _ tried
  refine Reach.attempt start eq_none_of_isSome ?_
  dsimp only
  rw [read]
  exact passed

end Refusals

theorem exists_predicate : ∃ text, Accepts Phrase.readPredicate text := by
  have begins : Begins (anyGroup.tag :: ['('] :: listed []) ['A','('] [] :=
    .cons allBlank_nil ['A'] (.cons allBlank_nil ['('] (.nil []))
  have opens : OpensItem ['A','('] := ⟨anyGroup.tag,[],anyGroup.isTag,begins⟩
  exact ⟨_,opens.accepts (.geometry anyGroup) allBlank_nil⟩

theorem Mismatch.fair_ofPredicate {text : List Char} (refused : readWhole Phrase.readPredicate text = none) :
    (ofPredicate text).Fair (Accepts Phrase.readPredicate) OpensItem text := by
  obtain ⟨blanks,blank,split⟩ := skipBlanks_split text
  obtain ⟨other,accepted⟩ := exists_predicate
  have start : Viable (Accepts Phrase.readPredicate) text (skipBlanks text) :=
    ⟨blanks,other,split,(accepts_blanks blank).mpr accepted⟩
  refine fair_tryWhole refused refused ⟨[],other,rfl,accepted⟩ ?_ (Refusals.tryPredicate_keeps start)
    fun front place => Refusals.tryPredicate_passes start
  intro phrase rest read
  obtain ⟨f,rfl,begins⟩ := form_of_readPredicate read
  obtain ⟨front,same,again⟩ := begins.front
  obtain ⟨gap,clear,behind⟩ := skipBlanks_split rest
  refine ⟨blanks ++ front ++ gap,[],?_,?_⟩
  · rw [List.append_assoc _ gap,← behind,List.append_assoc,← same,← split]
  · have whole := readWhole_predicate.mpr ⟨f,rfl,gap,clear,again gap⟩
    rw [List.append_nil,List.append_assoc,accepts_blanks blank,Accepts,whole]
    rfl

/-! ### Texts -/

theorem Phrase.Accepts.some {α : Type} {phrase : Reader α} {cs : List Char} (accepted : Accepts phrase cs) :
    readWhole phrase (String.ofList cs).toList ≠ none := by
  rw [String.toList_ofList]
  exact Option.isSome_iff_ne_none.mp accepted

theorem readPredicate_mismatch {namespaces : Namespaces} {declaredType : ValueType} {text : String}
    {found : Mismatch} : readPredicate namespaces declaredType text = .error (.mismatch found) ↔
      readWhole Phrase.readPredicate text.toList = none ∧ Mismatch.ofPredicate text.toList = found := by
  unfold readPredicate
  cases whole : readWhole Phrase.readPredicate text.toList with
  | none => simp
  | some phrase =>
    obtain ⟨f,rfl,-⟩ := readWhole_predicate.mp whole
    simpa using fun mismatch => (PredicateForm.yields_iff.mpr mismatch).fits found rfl

theorem readGeometry_mismatch {text : String} {found : Mismatch} :
    readGeometry text = .error (.mismatch found) ↔
      readWhole Phrase.readGeometry text.toList = none ∧ Mismatch.ofGeometry text.toList = found := by
  unfold readGeometry
  cases whole : readWhole Phrase.readGeometry text.toList with
  | none => simp
  | some phrase => simpa using phrase.toGeometry_fits found

/-- A text that leaves the grammar, of predicates or of geometries, is reported at a place that it has. The place is
not in front of the last item that has a comma behind it, or of the parenthesis that opens a geometry. Something is
expected there and nothing of it is found; and up to there the text can be continued to one that fits the same grammar. -/
theorem mismatch_fair (namespaces : Namespaces) (declaredType : ValueType) (text : String) :
    (∀ found, readPredicate namespaces declaredType text = .error (.mismatch found) →
      found.Fair (fun cs => ∀ other, readPredicate namespaces declaredType (String.ofList cs) ≠ .error (.mismatch other))
        OpensItem text.toList) ∧
    ∀ found, readGeometry text = .error (.mismatch found) →
      found.Fair (fun cs => ∀ other, readGeometry (String.ofList cs) ≠ .error (.mismatch other))
        OpensGroup text.toList := by
  constructor
  · intro found mismatch
    obtain ⟨refused,rfl⟩ := readPredicate_mismatch.mp mismatch
    exact (Mismatch.fair_ofPredicate refused).imp fun cs accepted other mismatch =>
      accepted.some (readPredicate_mismatch.mp mismatch).1
  · intro found mismatch
    obtain ⟨refused,rfl⟩ := readGeometry_mismatch.mp mismatch
    exact (Mismatch.fair_ofGeometry refused).imp fun cs accepted other mismatch =>
      accepted.some (readGeometry_mismatch.mp mismatch).1

/-- A group that is still open, and a tag without a group. -/
theorem mismatch_fair_unclosed :
    (⟨"WITHIN(geom, POINT(1 2".toList,22,[.group,.number]⟩ : Mismatch).Fair
        (fun cs => ∀ other, readPredicate .empty .geometry (String.ofList cs) ≠ .error (.mismatch other))
        OpensItem "WITHIN(geom, POINT(1 2".toList ∧
      (⟨"POINT 1".toList,6,[.group]⟩ : Mismatch).Fair
        (fun cs => ∀ other, readGeometry (String.ofList cs) ≠ .error (.mismatch other))
        OpensGroup "POINT 1".toList := by
  have predicate : readPredicate .empty .geometry "WITHIN(geom, POINT(1 2" =
      .error (.mismatch ⟨"WITHIN(geom, POINT(1 2".toList,22,[.group,.number]⟩) :=
    readPredicate_mismatch.mpr ⟨by decide +kernel,by decide +kernel⟩
  have geometry : readGeometry "POINT 1" = .error (.mismatch ⟨"POINT 1".toList,6,[.group]⟩) :=
    readGeometry_mismatch.mpr ⟨by decide +kernel,by decide +kernel⟩
  exact ⟨(mismatch_fair .empty .geometry _).1 _ predicate,(mismatch_fair .empty .geometry _).2 _ geometry⟩

end SpatialFilter
