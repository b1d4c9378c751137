import SpatialFilter.Proofs.Phrase.Geometry

/-! Trees of texts. A rule of the grammar that has a name puts what it reads into a node, with the nodes of the rules
inside it; blanks may stand in front of every part of a rule, but not inside a token. A rule follows a reader if it
accepts the same texts and leaves the same rest. -/
namespace SpatialFilter
variable {α β : Type}

/-- A part of a text, its characters, and the parts inside it. -/
structure Node where
  part : Part
  text : List Char
  inner : List Node

abbrev Rule := Reader (List Node)

namespace Rule

/-! ### Rules without a name -/

def mark (c : Char) : Rule := fun cs => (readMark c cs).map fun rest => ([],rest)

def keyword (word : List Char) : Rule := fun cs => (readKeyword word (skipBlanks cs)).map fun rest => ([],rest)

/-- Any character but a parenthesis. -/
def plain : Rule := fun cs =>
  match skipBlanks cs with
  | [] => none
  | c :: rest => if isPlain c then some ([],rest) else none

def sequence : List Rule → Rule
  | [] => fun cs => some ([],cs)
  | first :: more => fun cs => do
    let (nodes,cs) ← first cs
    let (others,cs) ← sequence more cs
    return (nodes ++ others,cs)

def many (part : Rule) : Rule := fun cs =>
  let (nodes,rest) := readMany part cs
  some (nodes.flatten,rest)

def optional (part : Rule) : Rule := fun cs => some ((part cs).getD ([],cs))

/-! ### Rules with a name -/

/-- The characters of a part are those that its rule takes away; blanks in front of it do not belong to it. -/
def named (part : Part) (inside : Rule) : Rule := fun cs => do
  let cs := skipBlanks cs
  let (inner,rest) ← inside cs
  return ([⟨part,cs.take (cs.length - rest.length),inner⟩],rest)

/-- A part without blanks in it and without parts inside it. -/
def token (part : Part) (reader : Reader α) : Rule :=
  named part fun cs => (reader cs).map fun found => ([],found.2)

def number : Rule := token .number Numeral.read

def position : Rule := named .position (sequence [number,number,many number])

def point : Rule := named .point (sequence [keyword "POINT".toList,mark '(',position,mark ')'])

def lineString : Rule := named .lineString
  (sequence [keyword "LINESTRING".toList,mark '(',position,many (sequence [mark ',',position]),mark ')'])

def envelope : Rule := named .envelope
  (sequence [keyword "ENVELOPE".toList,mark '(',position,mark ',',position,mark ')'])

/-- Groups, and groups inside them, down to a depth. -/
def groupWithin : Nat → Rule
  | 0 => fun _ => none
  | depth + 1 => named .group (sequence [mark '(',many (readEither (groupWithin depth) plain),mark ')'])

/-- No text opens more groups than it has characters. -/
def group : Rule := fun cs => groupWithin cs.length cs

def otherGeometry : Rule := named .otherGeometry (sequence [token .geometryTag Phrase.readWord,group])

def geometry : Rule :=
  named .geometry (readEither point (readEither lineString (readEither envelope otherGeometry)))

def operand : Rule := named .operand (readEither geometry (token .property Phrase.readProperty))

def distance : Rule := named .distance number

def predicate : Rule := named .predicate (sequence [token .operator Phrase.readWord,mark '(',operand,
  many (sequence [mark ',',operand]),optional (sequence [mark ',',distance]),mark ')'])

def readEnd : Reader Unit := fun cs => if cs.isEmpty then some ((),[]) else none

/-- The end of a text is a part like others. -/
def ending : Rule := token .ending readEnd

def predicateInput : Rule := named .predicateInput (sequence [predicate,ending])

def geometryInput : Rule := named .geometryInput (sequence [geometry,ending])

end Rule

/-! ### Rules that follow readers -/

/-- A rule and a reader refuse the same text, or leave the same rest of it. Then the nodes that are found convey the
value that is read. -/
inductive Agree (conveys : List Node → α → Prop) : Option (List Node × List Char) → Option (α × List Char) → Prop where
  | refused : Agree conveys none none
  | accepted {nodes : List Node} {value : α} (rest : List Char) (meant : conveys nodes value) :
      Agree conveys (some (nodes,rest)) (some (value,rest))

def Single (conveys : Node → α → Prop) (nodes : List Node) (value : α) : Prop :=
  ∃ node, nodes = [node] ∧ conveys node value

def Follows (conveys : Node → α → Prop) (rule : Rule) (reader : Reader α) : Prop :=
  ∀ cs, Agree (Single conveys) (rule cs) (reader cs)

def skipping (reader : Reader α) : Reader α := fun cs => reader (skipBlanks cs)

theorem Follows.skipped {conveys : Node → α → Prop} {rule : Rule} {reader : Reader α}
    (follows : Follows conveys rule (skipping reader)) (cs : List Char) :
    Agree (Single conveys) (rule (skipBlanks cs)) (reader (skipBlanks cs)) := by
  have agree := follows (skipBlanks cs)
  rwa [skipping,skipBlanks_twice] at agree

theorem Rule.sequence_cons (rule : Rule) (rules : List Rule) (cs : List Char) :
    sequence (rule :: rules) cs =
      (rule cs).bind fun found => (sequence rules found.2).map fun more => (found.1 ++ more.1,more.2) := by
  rw [sequence]
  simp [Option.map_eq_bind]

theorem Rule.named_eq (part : Part) (inside : Rule) (cs : List Char) :
    named part inside cs = (inside (skipBlanks cs)).map fun found =>
      ([⟨part,(skipBlanks cs).take ((skipBlanks cs).length - found.2.length),found.1⟩],found.2) := by
  rw [named]
  simp [Option.map_eq_bind]

namespace Agree
variable {before : List Node → β → Prop} {conveys : List Node → α → Prop} {single : Node → α → Prop}
  {rule other : Rule} {rules : List Rule} {cs : List Char} {part : Part} {found : Option (List Node × List Char)}
  {read : Option (β × List Char)}

theorem eq_none (agree : Agree conveys found none) : found = none := by
  cases agree
  rfl

theorem eq_some {value : α} {rest : List Char} (agree : Agree conveys found (some (value,rest))) :
    ∃ nodes, found = some (nodes,rest) ∧ conveys nodes value := by
  cases agree with
  | accepted rest meant => exact ⟨_,rfl,meant⟩

theorem behind {nodes : List Node} {read : Option (α × List Char)}
    (agree : Agree (fun more => conveys (nodes ++ more)) found read) :
    Agree conveys (found.map fun more => (nodes ++ more.1,more.2)) read := by
  cases agree with
  | refused => exact .refused
  | accepted rest conveyed => exact .accepted rest conveyed

theorem map {f : β → α} (agree : Agree before found read)
    (meant : ∀ nodes value, before nodes value → conveys nodes (f value)) :
    Agree conveys found (read.map fun value => (f value.1,value.2)) := by
  cases agree with
  | refused => exact .refused
  | accepted rest conveyed => exact .accepted rest (meant _ _ conveyed)

/-! ### Steps of a sequence -/

theorem done {value : α} (meant : conveys [] value) :
    Agree conveys (Rule.sequence [] cs) (some (value,cs)) :=
  .accepted cs meant

theorem last {read : Option (α × List Char)} (agree : Agree conveys (rule cs) read) :
    Agree conveys (Rule.sequence [rule] cs) read := by
  rw [Rule.sequence_cons]
  generalize rule cs = found at agree
  cases agree with
  | refused => exact .refused
  | accepted rest meant => exact .accepted rest (by simpa using meant)

/-- What is found before stays in front of what is found behind it. -/
theorem cons {next : β × List Char → Option (α × List Char)} (first : Agree before (rule cs) read)
    (others : ∀ nodes value rest, before nodes value →
      Agree (fun more => conveys (nodes ++ more)) (Rule.sequence rules rest) (next (value,rest))) :
    Agree conveys (Rule.sequence (rule :: rules) cs) (read.bind next) := by
  rw [Rule.sequence_cons]
  generalize rule cs = found at first
  cases first with
  | refused => exact .refused
  | accepted rest meant => exact (others _ _ rest meant).behind

/-- A rule that leaves no node. -/
theorem silent {left : Option (List Char)} {next : List Char → Option (α × List Char)}
    (leaves : rule cs = left.map fun rest => ([],rest))
    (others : ∀ rest, Agree conveys (Rule.sequence rules rest) (next rest)) :
    Agree conveys (Rule.sequence (rule :: rules) cs) (left.bind next) := by
  rw [Rule.sequence_cons,leaves]
  cases left with
  | none => exact .refused
  | some rest => simpa using others rest

theorem mark {c : Char} {next : List Char → Option (α × List Char)}
    (others : ∀ rest, Agree conveys (Rule.sequence rules rest) (next rest)) :
    Agree conveys (Rule.sequence (.mark c :: rules) cs) ((readMark c cs).bind next) :=
  silent rfl others

theorem keyword {word : List Char} {next : List Char → Option (α × List Char)}
    (others : ∀ rest, Agree conveys (Rule.sequence rules rest) (next rest)) :
    Agree conveys (Rule.sequence (.keyword word :: rules) (skipBlanks cs))
      ((readKeyword word (skipBlanks cs)).bind next) :=
  silent (by rw [Rule.keyword,skipBlanks_twice]) others

/-! ### Rules with a name, and alternatives -/

theorem named {inside : Rule} {read : Option (α × List Char)} (agree : Agree conveys (inside (skipBlanks cs)) read)
    (meant : ∀ text nodes value, conveys nodes value → single ⟨part,text,nodes⟩ value) :
    Agree (Single single) (Rule.named part inside cs) read := by
  rw [Rule.named_eq]
  generalize inside (skipBlanks cs) = found at agree
  cases agree with
  | refused => exact .refused
  | accepted rest conveyed => exact .accepted rest ⟨_,rfl,meant _ _ _ conveyed⟩

theorem either {first second : Reader α} {ds : List Char} (one : Agree conveys (rule cs) (first ds))
    (two : Agree conveys (other cs) (second ds)) :
    Agree conveys (readEither rule other cs) (readEither first second ds) := by
  unfold readEither
  generalize rule cs = found at one
  generalize first ds = read at one
  cases one with
  | refused => exact two
  | accepted rest meant => exact .accepted rest meant

theorem optional {read : Option (β × List Char)} {whole : Option (α × List Char)} (agree : Agree before (rule cs) read)
    (absent : read = none → Agree conveys (Rule.sequence rules cs) whole)
    (present : ∀ nodes value rest, read = some (value,rest) → before nodes value →
      Agree (fun more => conveys (nodes ++ more)) (Rule.sequence rules rest) whole) :
    Agree conveys (Rule.sequence (.optional rule :: rules) cs) whole := by
  rw [Rule.sequence_cons,Rule.optional]
  generalize rule cs = found at agree
  cases agree with
  | refused => simpa using absent rfl
  | accepted rest meant => exact (present _ _ rest rfl meant).behind

end Agree

/-! ### Tokens -/

namespace Follows
variable {part : Part}

theorem token {reader : Reader α} {conveys : Node → α → Prop}
    (meant : ∀ text value rest, reader (text ++ rest) = some (value,rest) → conveys ⟨part,text,[]⟩ value)
    (suffix : ∀ cs value rest, reader cs = some (value,rest) → rest <:+ cs) :
    Follows conveys (Rule.token part reader) (skipping reader) := by
  intro cs
  rw [Rule.token,Rule.named_eq,skipping]
  cases read : reader (skipBlanks cs) with
  | none => exact .refused
  | some found =>
    obtain ⟨value,rest⟩ := found
    obtain ⟨text,split⟩ := suffix _ _ _ read
    refine .accepted rest ⟨_,rfl,?_⟩
    rw [← split] at read ⊢
    simpa using meant text value rest read

theorem text {reader : Reader (List Char)}
    (split : ∀ cs text rest, reader cs = some (text,rest) → cs = text ++ rest) :
    Follows (fun node text => node.part = part ∧ node.text = text) (Rule.token part reader) (skipping reader) :=
  .token (fun _ _ _ read => ⟨rfl,List.append_cancel_right (split _ _ _ read)⟩)
    fun _ text _ read => ⟨text,(split _ _ _ read).symm⟩

end Follows

/-! ### Repetitions -/

theorem Follows.many {conveys : Node → α → Prop} {rule : Rule} {reader : Reader α}
    (follows : Follows conveys rule reader) (cs : List Char) :
    ∃ nodes, Rule.many rule cs = some (nodes,(readMany reader cs).2) ∧
      List.Forall₂ conveys nodes (readMany reader cs).1 := by
  unfold Rule.many
  dsimp only
  -- The rule takes a step whenever the reader does, and both stop at the same place.
  fun_induction readMany reader cs with
  | case1 cs refused =>
    have found := (refused ▸ follows cs).eq_none
    exact ⟨[],by simp [readMany_none found],.nil⟩
  | case2 cs value rest read shorter values last more ih =>
    obtain ⟨single,found,node,rfl,conveyed⟩ := (read ▸ follows cs).eq_some
    obtain ⟨nodes,flat,all⟩ := ih
    rw [more] at flat all
    refine ⟨node :: nodes,?_,.cons conveyed all⟩
    rw [readMany_some found shorter]
    simpa using flat
  | case3 cs value rest read longer =>
    obtain ⟨single,found,-⟩ := (read ▸ follows cs).eq_some
    refine ⟨[],?_,.nil⟩
    rw [readMany,found]
    simp [longer]

theorem Agree.many {single : Node → β → Prop} {conveys : List Node → α → Prop} {rule : Rule} {reader : Reader β}
    {rules : List Rule} {cs : List Char} {read : Option (α × List Char)} (follows : Follows single rule reader)
    (others : ∀ nodes, List.Forall₂ single nodes (readMany reader cs).1 →
      Agree (fun more => conveys (nodes ++ more)) (Rule.sequence rules (readMany reader cs).2) read) :
    Agree conveys (Rule.sequence (.many rule :: rules) cs) read := by
  obtain ⟨nodes,found,all⟩ := follows.many cs
  rw [Rule.sequence_cons,found]
  exact (others nodes all).behind

/-! ### Whole texts -/

theorem Rule.ending_follows : Follows (fun _ _ => True) ending (skipping readEnd) :=
  .token (fun _ _ _ _ => trivial) fun cs _ rest read => by
    unfold readEnd at read
    split at read <;> cases read
    exact List.nil_suffix

theorem Phrase.readWhole_eq (reader : Reader α) (text : List Char) :
    (readWhole reader text).map (fun value => (value,([] : List Char))) =
      (reader (skipBlanks text)).bind fun found =>
        (skipping Rule.readEnd found.2).bind fun ending => some (found.1,ending.2) := by
  unfold readWhole
  cases reader (skipBlanks text) with
  | none => rfl
  | some found =>
    dsimp only [Option.bind_some,skipping,Rule.readEnd]
    split <;> rfl

/-- The first part of a whole text is the node that conveys what is read of it. -/
theorem Follows.input {conveys : Node → α → Prop} {rule : Rule} {reader : Reader α}
    (follows : Follows conveys rule (skipping reader)) (part : Part) (text : List Char) :
    Agree (Single fun input value => ∃ node more, input.inner = node :: more ∧ conveys node value)
      (Rule.named part (Rule.sequence [rule,.ending]) text) ((Phrase.readWhole reader text).map fun value => (value,[])) := by
  have inside : Agree (fun nodes value => ∃ node more, nodes = node :: more ∧ conveys node value)
      (Rule.sequence [rule,.ending] (skipBlanks text)) ((Phrase.readWhole reader text).map fun value => (value,[])) := by
    rw [Phrase.readWhole_eq]
    refine .cons (follows.skipped text) ?_
    rintro _ value rest ⟨node,rfl,meant⟩
    exact .cons (Rule.ending_follows rest) fun nodes _ _ _ => .done ⟨node,_,rfl,meant⟩
  exact .named inside fun _ _ _ meant => meant

end SpatialFilter
