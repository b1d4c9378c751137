import SpatialFilter.Proofs.Phrase.Geometry

/-! Where parts are refused. Whatever is tried inside a phrase leaves the furthest refusals at a place up to which the
text can be continued, if all places where a part is tried are such places, and the parts that are named there are
refused there. A place is never given up for one that lies before it. -/
namespace SpatialFilter

/-- A place up to which a text can be continued to one that is accepted. -/
def Viable (accepts : List Char → Prop) (text place : List Char) : Prop :=
  ∃ front more, text = front ++ place ∧ accepts (front ++ more)

theorem Viable.unique {accepts : List Char → Prop} {text place other : List Char} (viable : Viable accepts text place)
    (also : Viable accepts text other) (same : place.length = other.length) : place = other := by
  obtain ⟨front,-,split,-⟩ := viable
  obtain ⟨others,-,rfl,-⟩ := also
  exact (List.append_inj' split.symm same).2

/-- The part does not stand at the place. -/
def Part.Refused (place : List Char) : Part → Prop
  | .ending => place ≠ []
  | .predicateInput => Phrase.readWhole Phrase.readPredicate place = none
  | .geometryInput => Phrase.readWhole Phrase.readGeometry place = none
  | .predicate => Phrase.readPredicate place = none
  | .operator | .geometryTag => Phrase.readWord place = none
  | .operand => Phrase.readItem place = none
  | .distance | .number => Numeral.read place = none
  | .geometry => Phrase.readGeometry place = none
  | .point => Phrase.readPoint place = none
  | .lineString => Phrase.readLineString place = none
  | .envelope => Phrase.readEnvelope place = none
  | .otherGeometry => Phrase.readTagged place = none
  | .group => ∀ rest, place = '(' :: rest → Phrase.closeGroup 0 rest = none
  | .position => Phrase.readPosition place = none
  | .property => Phrase.readProperty place = none

namespace Refusals

/-- The furthest refusals lie at a viable place with no more than `bound` characters behind it, and there are some if
any part beyond the beginning was refused. -/
structure Reach (accepts : List Char → Prop) (text : List Char) (bound : Nat) (r : Refusals) : Prop where
  place : ∃ place, Viable accepts text place ∧ r.remaining = place.length ∧ ∀ part ∈ r.parts, part.Refused place
  named : r.remaining ≠ text.length → r.parts ≠ []
  within : r.remaining ≤ bound

def Keeps (accepts : List Char → Prop) (text : List Char) (f : Refusals → Refusals) : Prop :=
  ∀ bound r, Reach accepts text bound r → Reach accepts text bound (f r)

variable {accepts : List Char → Prop} {text place : List Char} {bound : Nat} {part : Part} {r : Refusals}

theorem Reach.weaken {most : Nat} (reach : Reach accepts text bound r) (less : bound ≤ most) :
    Reach accepts text most r := ⟨reach.place,reach.named,reach.within.trans less⟩

/-- Whatever stood before, the furthest refusals now lie at the place or behind it. -/
theorem Reach.note (reach : Reach accepts text bound r) (viable : Viable accepts text place)
    (refused : part.Refused place) (before : Nat) :
    Reach accepts text (min bound place.length) (note part place before r) := by
  obtain ⟨⟨other,also,length,all⟩,named,within⟩ := reach
  unfold Refusals.note
  split
  · rename_i single
    have here : r.remaining = place.length := by
      by_contra elsewhere
      simp [countAt,elsewhere] at single
    exact ⟨⟨other,also,length,all⟩,named,by omega⟩
  · split
    · refine ⟨⟨place,viable,rfl,by simpa using refused⟩,by simp,?_⟩
      dsimp only
      omega
    · split
      · rename_i same
        obtain rfl := Viable.unique viable also (same.trans length)
        refine ⟨⟨place,viable,length,?_⟩,by simp,by dsimp only; omega⟩
        intro named member
        rcases List.mem_append.mp member with earlier | last
        · exact all named (List.mem_of_mem_take earlier)
        · exact List.mem_singleton.mp last ▸ refused
      · exact ⟨⟨other,also,length,all⟩,named,by omega⟩

/-- The furthest refusals lie behind all but the last `limit` characters in the end. -/
def Passes (accepts : List Char → Prop) (text : List Char) (limit : Nat) (f : Refusals → Refusals) : Prop :=
  ∀ bound r, Reach accepts text bound r → Reach accepts text (min bound limit) (f r)

variable {limit : Nat} {accepted : Bool} {inside : Refusals → Refusals}

theorem Passes.keeps {f : Refusals → Refusals} (passes : Passes accepts text limit f) : Keeps accepts text f :=
  fun bound r reach => (passes bound r reach).weaken (Nat.min_le_left bound limit)

theorem Passes.weaken {most : Nat} {f : Refusals → Refusals} (passes : Passes accepts text limit f)
    (less : limit ≤ most) : Passes accepts text most f :=
  fun bound r reach => (passes bound r reach).weaken (by omega)

theorem Reach.attempt (viable : Viable accepts text place) (refused : accepted = false → part.Refused place)
    (reach : Reach accepts text bound (inside r)) :
    Reach accepts text bound (attempt part place accepted inside r) := by
  unfold Refusals.attempt
  cases accepted with
  | true => exact reach
  | false => exact (reach.note viable (refused rfl) _).weaken (Nat.min_le_left ..)

theorem Reach.named_by_note (reach : Reach accepts text bound r) (part : Part) :
    (Refusals.note part text 0 r).parts ≠ [] := by
  unfold Refusals.note
  split
  · rename_i single
    intro none
    simp [countAt,none] at single
  · split
    · simp
    · split
      · simp
      · rename_i beyond elsewhere
        exact reach.named fun same => elsewhere same.symm

theorem Keeps.attempt (viable : Viable accepts text place) (refused : accepted = false → part.Refused place)
    (keeps : Keeps accepts text inside) : Keeps accepts text (attempt part place accepted inside) :=
  fun bound r reach => (keeps bound r reach).attempt viable refused

theorem Passes.attempt (viable : Viable accepts text place) (refused : accepted = false → part.Refused place)
    (keeps : Keeps accepts text inside) (passes : accepted = true → Passes accepts text place.length inside) :
    Passes accepts text place.length (attempt part place accepted inside) := by
  intro bound r reach
  unfold Refusals.attempt
  cases accepted with
  | true => exact passes rfl bound r reach
  | false => exact (keeps bound r reach).note viable (refused rfl) _

/-- A part without parts of its own. -/
theorem Keeps.single (viable : Viable accepts text place) (refused : accepted = false → part.Refused place) :
    Keeps accepts text (Refusals.attempt part place accepted id) := .attempt viable refused fun _ _ reach => reach

theorem Passes.single (viable : Viable accepts text place) (refused : part.Refused place) :
    Passes accepts text place.length (Refusals.attempt part place false id) :=
  .attempt viable (fun _ => refused) (fun _ _ reach => reach) (by simp)

end Refusals

/-! ### Places inside groups -/

/-- All places behind the beginning of a text that closes `depth` groups are viable. -/
def Inside (accepts : List Char → Prop) (text : List Char) (depth : Nat) (cs : List Char) : Prop :=
  ∀ used more rest, Balanced depth (used ++ more) → cs = used ++ rest → Viable accepts text rest

theorem Balanced.closings (depth : Nat) : Balanced depth (List.replicate depth ')') := by
  induction depth with
  | zero => exact Balanced.nil_iff.mpr rfl
  | succ depth ih => exact Balanced.close_iff.mpr ih

namespace Inside
variable {accepts : List Char → Prop} {text : List Char} {depth : Nat} {cs rest : List Char}

theorem here (inside : Inside accepts text depth cs) : Viable accepts text cs :=
  inside [] _ cs (Balanced.closings depth) rfl

theorem opened (inside : Inside accepts text depth ('(' :: cs)) : Inside accepts text (depth + 1) cs := by
  rintro used more rest balanced rfl
  exact inside ('(' :: used) more rest (Balanced.open_iff.mpr balanced) rfl

theorem closed (inside : Inside accepts text (depth + 1) (')' :: cs)) : Inside accepts text depth cs := by
  rintro used more rest balanced rfl
  exact inside (')' :: used) more rest (Balanced.close_iff.mpr balanced) rfl

theorem behind (front : List Char) (plain : ∀ c ∈ front, isPlain c = true)
    (inside : Inside accepts text depth (front ++ cs)) : Inside accepts text depth cs := by
  rintro used more rest balanced rfl
  refine inside (front ++ used) more rest ?_ (List.append_assoc ..).symm
  rw [List.append_assoc]
  exact (Balanced.plain_append plain).mpr balanced

theorem next {c : Char} (plain : isPlain c = true) (inside : Inside accepts text depth (c :: cs)) :
    Inside accepts text depth cs := inside.behind [c] (by simpa using plain)

theorem skipBlanks (inside : Inside accepts text depth cs) : Inside accepts text depth (skipBlanks cs) := by
  obtain ⟨blanks,blank,split⟩ := skipBlanks_split cs
  rw [split] at inside
  exact inside.behind blanks fun c member => isPlain_of_isBlank (blank c member)

theorem marked {mark : Char} (plain : isPlain mark = true) (inside : Inside accepts text depth cs)
    (marked : readMark mark cs = some rest) : Inside accepts text depth rest := by
  obtain ⟨blanks,blank,rfl⟩ := readMark_eq_some marked
  exact next plain (inside.behind blanks fun c member => isPlain_of_isBlank (blank c member))

theorem consumed {α : Type} {reader : Reader α} (consumes : Consumes isPlain reader) {value : α}
    (inside : Inside accepts text depth cs) (read : reader cs = some (value,rest)) :
    Inside accepts text depth rest := by
  obtain ⟨used,rfl,plain⟩ := consumes _ _ _ read
  exact inside.behind used plain

end Inside

theorem length_skipBlanks (cs : List Char) : (skipBlanks cs).length ≤ cs.length :=
  (List.dropWhile_sublist isBlank).length_le

theorem eq_none_of_isSome {α : Type} {x : Option α} (none : x.isSome = false) : x = .none := by
  simpa using none

namespace Refusals
open Phrase
variable {accepts : List Char → Prop} {text place cs : List Char} {limit : Nat}

theorem tryNumbers_passes (inside : Inside accepts text 0 cs) : Passes accepts text cs.length (tryNumbers cs) := by
  intro bound r reach
  fun_induction tryNumbers cs r with
  | case1 cs place none =>
    have refused : Part.number.Refused (skipBlanks cs) := none
    exact (Passes.single inside.skipBlanks.here refused).weaken (length_skipBlanks cs) bound r reach
  | case2 cs place n rest read shorter ih =>
    exact (ih (inside.consumed readNumber_consumes read)).weaken (by omega)
  | case3 cs place n rest read longer => exact absurd (readNumber_shortens _ _ _ read) longer

theorem tryPosition_passes (inside : Inside accepts text 0 cs) : Passes accepts text cs.length (tryPosition cs) := by
  have numbers : Passes accepts text (skipBlanks cs).length (tryNumbers (skipBlanks cs)) :=
    tryNumbers_passes inside.skipBlanks
  exact (Passes.attempt inside.skipBlanks.here eq_none_of_isSome numbers.keeps fun _ => numbers).weaken
    (length_skipBlanks cs)

theorem tryMorePositions_keeps (inside : Inside accepts text 0 cs) : Keeps accepts text (tryMorePositions cs) := by
  intro bound r reach
  fun_induction tryMorePositions cs r with
  | case1 cs r other => exact reach
  | case2 cs r place marked refused => exact (tryPosition_passes (inside.marked rfl marked)).keeps bound r reach
  | case3 cs r place marked ordinates rest read shorter ih =>
    have next := inside.marked rfl marked
    exact ih (next.consumed readPosition_consumes read) ((tryPosition_passes next).keeps bound r reach)
  | case4 cs r place marked ordinates rest read longer => exact reach

theorem tryOnePosition_keeps (inside : Inside accepts text 0 cs) : Keeps accepts text (tryOnePosition cs) := by
  intro bound r reach
  unfold tryOnePosition
  split
  · exact reach
  · rename_i place marked
    exact (tryPosition_passes (inside.marked rfl marked)).keeps bound r reach

/-! ### Groups -/

theorem tryGroupBody_passes {depth : Nat} (inside : Inside accepts text depth cs) :
    Passes accepts text cs.length (tryGroupBody depth cs) := by
  intro bound r reach
  fun_induction tryGroupBody depth cs r with
  | case1 depth r => exact Passes.single inside.here (by simp [Part.Refused]) bound r reach
  | case2 depth rest r ih => exact (ih inside.opened reach).weaken (by simp)
  | case3 depth c rest r other blank ih =>
    exact (ih (inside.next (isPlain_of_isBlank blank)) reach).weaken (by simp)
  | case4 rest r => exact Passes.single inside.here (by simp [Part.Refused]) bound r reach
  | case5 rest r depth other visible next ih =>
    have refused : Part.group.Refused (')' :: rest) := by simp [Part.Refused]
    exact (ih inside.closed (Keeps.single inside.here (fun _ => refused) bound r reach)).weaken (by simp)
  | case6 depth c rest r opening visible next closing ih =>
    have refused : Part.group.Refused (c :: rest) := fun _ same => absurd (List.cons.inj same).1 opening
    exact (ih (inside.next (isPlain_iff.mpr ⟨opening,closing⟩))
      (Keeps.single inside.here (fun _ => refused) bound r reach)).weaken (by simp)

/-- A group that is opened is looked through to its end. -/
theorem tryGroup_keeps (viable : Viable accepts text place)
    (inside : ∀ rest, place = '(' :: rest → Inside accepts text 0 rest) : Keeps accepts text (tryGroup place) := by
  intro bound r reach
  unfold tryGroup
  split
  · rename_i rest
    exact (tryGroupBody_passes (inside rest rfl)).keeps bound r reach
  · rename_i unopened
    have refused : Part.group.Refused place := fun rest same => absurd same (unopened rest)
    exact Keeps.single viable (fun _ => refused) bound r reach

end Refusals

/-! ### Geometries -/

def anyGroup : GroupForm := ⟨['A'],[],[],⟨by simp,by simp⟩,allBlank_nil,Balanced.nil_iff.mpr rfl⟩

/-- What any group that begins at a place leaves of it at any of its characters is viable. -/
def Admits (accepts : List Char → Prop) (text place : List Char) : Prop :=
  ∀ (g : GroupForm) used more rest, g.text = used ++ more → place = used ++ rest → Viable accepts text rest

namespace Admits
variable {accepts : List Char → Prop} {text place tag gap rest : List Char}

theorem here (admits : Admits accepts text place) : Viable accepts text place := admits anyGroup [] _ place rfl rfl

theorem behindTag (admits : Admits accepts text place) (isTag : IsWord tag) (isGap : AllBlank gap)
    (split : place = tag ++ gap ++ rest) : Viable accepts text rest :=
  admits ⟨tag,gap,[],isTag,isGap,Balanced.nil_iff.mpr rfl⟩ (tag ++ gap) ['(',')'] rest (by simp [GroupForm.text])
    split

theorem inside (admits : Admits accepts text place) (isTag : IsWord tag) (isGap : AllBlank gap)
    (split : place = tag ++ gap ++ '(' :: rest) : Inside accepts text 0 rest := by
  rintro used more left balanced rfl
  refine admits ⟨tag,gap,used ++ more,isTag,isGap,balanced⟩ (tag ++ gap ++ '(' :: used) (more ++ [')']) left ?_ ?_
  · simp [GroupForm.text]
  · simp [split]

end Admits

namespace Refusals
open Phrase
variable {accepts : List Char → Prop} {text cs place tag gap rest : List Char} {limit : Nat}

theorem tryTagged_keeps (admits : Admits accepts text place) : Keeps accepts text (tryTagged place) := by
  intro bound r reach
  have tagged : Reach accepts text bound (tryWord .geometryTag place r) :=
    Keeps.single admits.here eq_none_of_isSome bound r reach
  unfold tryTagged
  split
  · exact tagged
  · rename_i tag behind read
    obtain ⟨rfl,nonempty,letters,-⟩ := readRun_eq_some.mp read
    obtain ⟨gap,blank,split⟩ := skipBlanks_split behind
    have placed : tag ++ behind = tag ++ gap ++ skipBlanks behind := by rw [List.append_assoc,← split]
    refine tryGroup_keeps (admits.behindTag ⟨nonempty,letters⟩ blank placed) (fun rest opened => ?_) bound _ tagged
    rw [opened] at placed
    exact admits.inside ⟨nonempty,letters⟩ blank placed

theorem tryBody_keeps {keyword : String} (isKeyword : IsWord keyword.toList)
    {after : List Char → Refusals → Refusals} (keeps : ∀ cs, Inside accepts text 0 cs → Keeps accepts text (after cs))
    (admits : Admits accepts text place) : Keeps accepts text (tryBody keyword after place) := by
  intro bound r reach
  unfold tryBody
  split
  · exact reach
  · rename_i body begun
    obtain ⟨behind,named,opened⟩ := Option.bind_eq_some_iff.mp begun
    obtain ⟨tag,same,rfl⟩ := readKeyword_eq_some named
    obtain ⟨gap,blank,rfl⟩ := readMark_eq_some opened
    have inside := admits.inside (isWord_of_sameLetters same isKeyword) blank (List.append_assoc ..).symm
    have first := (tryPosition_passes inside).keeps bound r reach
    split
    · exact first
    · rename_i ordinates rest read
      exact keeps rest (inside.consumed readPosition_consumes read) bound _ first

/-- A text that begins with a tag and an opening parenthesis. -/
structure Opened (place tag gap rest : List Char) : Prop where
  isTag : IsWord tag
  isGap : AllBlank gap
  split : place = tag ++ gap ++ '(' :: rest

theorem Opened.readWord (opened : Opened place tag gap rest) : readWord place = some (tag,gap ++ '(' :: rest) := by
  rw [opened.split,List.append_assoc]
  exact readWord_append opened.isTag (not_isAlpha_behind_word opened.isGap rest)

theorem tryTagged_passes (admits : Admits accepts text place) (opened : Opened place tag gap rest) :
    Passes accepts text rest.length (tryTagged place) := by
  intro bound r reach
  have tagged : Reach accepts text bound (tryWord .geometryTag place r) :=
    Keeps.single admits.here eq_none_of_isSome bound r reach
  have inside := admits.inside opened.isTag opened.isGap opened.split
  unfold tryTagged
  rw [opened.readWord]
  dsimp only
  rw [skipBlanks_behind opened.isGap rfl]
  exact tryGroupBody_passes inside bound _ tagged

theorem tryBody_passes {keyword : String} (isKeyword : IsWord keyword.toList) {body : Reader GeometryPhrase}
    {after : List Char → Refusals → Refusals} (keeps : ∀ cs, Inside accepts text 0 cs → Keeps accepts text (after cs))
    (admits : Admits accepts text place) (opened : Opened place tag gap rest)
    (read : (readEnclosed keyword.toList body place).isSome = true) :
    Passes accepts text rest.length (tryBody keyword after place) := by
  intro bound r reach
  obtain ⟨found,read⟩ := Option.isSome_iff_exists.mp read
  obtain ⟨behind,named,read⟩ := Option.bind_eq_some_iff.mp read
  obtain ⟨inner,marked,-⟩ := Option.bind_eq_some_iff.mp read
  have same : inner = rest := by
    obtain ⟨other,same,split⟩ := readKeyword_eq_some named
    obtain ⟨blanks,blank,rfl⟩ := readMark_eq_some marked
    have again : Opened place other blanks inner :=
      ⟨isWord_of_sameLetters same isKeyword,blank,by rw [split,List.append_assoc]⟩
    have word := again.readWord
    rw [opened.readWord,Option.some.injEq,Prod.mk.injEq] at word
    rw [← word.2,readMark_behind rfl opened.isGap] at marked
    exact (Option.some.inj marked).symm
  subst same
  have inside := admits.inside opened.isTag opened.isGap opened.split
  have first := tryPosition_passes inside bound r reach
  unfold tryBody
  rw [named,Option.bind_some,marked]
  dsimp only
  split
  · exact first
  · rename_i ordinates rest read
    exact keeps rest (inside.consumed readPosition_consumes read) _ _ first

section Kinds
variable {kinds : List (Part × Reader GeometryPhrase × (List Char → Refusals → Refusals))}

theorem tryKinds_keeps (viable : Viable accepts text place)
    (each : ∀ kind ∈ kinds, (kind.2.1 place = none → kind.1.Refused place) ∧ Keeps accepts text (kind.2.2 place)) :
    Keeps accepts text (tryKinds place kinds) := by
  intro bound r reach
  induction kinds generalizing r with
  | nil => exact reach
  | cons kind kinds ih =>
    obtain ⟨part,reader,inside⟩ := kind
    obtain ⟨refused,keeps⟩ := each (part,reader,inside) (by simp)
    have first := (keeps bound r reach).attempt viable fun none => refused (eq_none_of_isSome none)
    unfold tryKinds
    dsimp only
    split
    · exact first
    · exact ih (fun kind member => each kind (by simp [member])) _ first

/-- Kinds are tried up to one that passes, whether it accepts or not. -/
theorem tryKinds_passes (viable : Viable accepts text place)
    (each : ∀ kind ∈ kinds, (kind.2.1 place = none → kind.1.Refused place) ∧ Keeps accepts text (kind.2.2 place))
    (accepting : ∀ kind ∈ kinds, (kind.2.1 place).isSome = true → Passes accepts text limit (kind.2.2 place))
    (passing : ∃ kind ∈ kinds, Passes accepts text limit (kind.2.2 place)) :
    Passes accepts text limit (tryKinds place kinds) := by
  intro bound r reach
  induction kinds generalizing bound r with
  | nil => simp at passing
  | cons kind kinds ih =>
    obtain ⟨part,reader,inside⟩ := kind
    obtain ⟨refused,keeps⟩ := each (part,reader,inside) (by simp)
    have others := fun kind member => each kind (List.mem_cons_of_mem (part,reader,inside) member)
    unfold tryKinds
    dsimp only
    split
    · rename_i accepted
      rw [accepted]
      exact accepting (part,reader,inside) (by simp) accepted bound r reach
    · rename_i none
      have refuses (no : (reader place).isSome = false) := refused (eq_none_of_isSome no)
      obtain ⟨kind,member,passes⟩ := passing
      rcases List.mem_cons.mp member with rfl | later
      · exact tryKinds_keeps viable others _ _ ((passes bound r reach).attempt viable refuses)
      · exact ih others (fun kind member => accepting kind (by simp [member])) ⟨kind,later,passes⟩ _ _
          ((keeps bound r reach).attempt viable refuses)

end Kinds

theorem geometryKinds_keep (admits : Admits accepts text place) : ∀ kind ∈ geometryKinds,
    (kind.2.1 place = none → kind.1.Refused place) ∧ Keeps accepts text (kind.2.2 place) := by
  simp only [geometryKinds,List.forall_mem_cons,List.not_mem_nil,false_implies,implies_true,and_true]
  exact ⟨⟨id,tryBody_keeps isWord_point (fun _ _ _ _ reach => reach) admits⟩,
    ⟨id,tryBody_keeps isWord_lineString (fun _ => tryMorePositions_keeps) admits⟩,
    ⟨id,tryBody_keeps isWord_envelope (fun _ => tryOnePosition_keeps) admits⟩,⟨id,tryTagged_keeps admits⟩⟩

/-- Whatever its kind may be, a geometry is tried up to its body. -/
theorem geometryKinds_pass (admits : Admits accepts text place) (opened : Opened place tag gap rest) :
    Passes accepts text rest.length (tryKinds place geometryKinds) := by
  have tagged := tryTagged_passes admits opened
  refine tryKinds_passes admits.here (geometryKinds_keep admits) ?_
    ⟨(.otherGeometry,readTagged,tryTagged),by simp [geometryKinds],tagged⟩
  simp only [geometryKinds,List.forall_mem_cons,List.not_mem_nil,false_implies,implies_true,and_true]
  rw [readPoint_eq,readLineString_eq,readEnvelope_eq]
  exact ⟨tryBody_passes isWord_point (fun _ _ _ _ reach => reach) admits opened,
    tryBody_passes isWord_lineString (fun _ => tryMorePositions_keeps) admits opened,
    tryBody_passes isWord_envelope (fun _ => tryOnePosition_keeps) admits opened,fun _ => tagged⟩

theorem tryGeometry_behind (admits : Admits accepts text place) (opened : Opened place tag gap rest) :
    Passes accepts text rest.length (tryGeometry place) :=
  fun bound r reach => (geometryKinds_pass admits opened bound r reach).attempt admits.here eq_none_of_isSome

theorem tryGeometry_passes (admits : Admits accepts text place) :
    Passes accepts text place.length (tryGeometry place) := by
  refine .attempt admits.here eq_none_of_isSome (tryKinds_keeps admits.here (geometryKinds_keep admits)) fun read => ?_
  obtain ⟨⟨phrase,left⟩,read⟩ := Option.isSome_iff_exists.mp read
  obtain ⟨g,split,-⟩ := group_of_readGeometry read
  have opened : Opened place g.tag g.gap (g.body ++ ')' :: left) := ⟨g.isTag,g.isGap,by simp [split,GroupForm.text]⟩
  exact (geometryKinds_pass admits opened).weaken (by simp [opened.split]; omega)

theorem tryItem_passes (admits : Admits accepts text (skipBlanks cs)) :
    Passes accepts text (skipBlanks cs).length (tryItem cs) := by
  have inside : Passes accepts text (skipBlanks cs).length fun r =>
      if (Phrase.readGeometry (skipBlanks cs)).isSome then tryGeometry (skipBlanks cs) r
      else tryProperty (skipBlanks cs) (tryGeometry (skipBlanks cs) r) := by
    intro bound r reach
    have grouped := tryGeometry_passes admits bound r reach
    dsimp only
    split
    · exact grouped
    · exact Keeps.single admits.here eq_none_of_isSome _ _ grouped
  exact .attempt admits.here eq_none_of_isSome inside.keeps fun _ => inside

end Refusals
end SpatialFilter
