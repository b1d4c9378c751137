import SpatialFilter.Proofs.Phrase.Tree

/-! Groups as nodes. A rule for groups finds their ends where counting parentheses finds them, however deep the groups
inside them are. -/
namespace SpatialFilter
open Phrase
variable {α : Type}

/-- What opens a group and what stands behind its end. -/
def behindGroup (cs : List Char) : Option (List Char) := (readMark '(' cs).bind (closeGroup 0)

theorem closeGroup_behindGroup {cs rest : List Char} (ok : behindGroup cs = some rest) (depth : Nat) :
    closeGroup depth cs = closeGroup depth rest := by
  obtain ⟨inner,opened,closed⟩ := Option.bind_eq_some_iff.mp ok
  obtain ⟨blanks,blank,rfl⟩ := readMark_eq_some opened
  rw [closeGroup_blanks blank]
  change closeGroup (depth + (0 + 1)) inner = _
  rw [closeGroup_inner,closed]
  rfl

theorem length_of_behindGroup {cs rest : List Char} (ok : behindGroup cs = some rest) : rest.length < cs.length := by
  obtain ⟨inner,opened,closed⟩ := Option.bind_eq_some_iff.mp ok
  obtain ⟨body,rfl,-⟩ := balanced_of_closeGroup closed
  have shorter := length_of_readMark opened
  simp at shorter
  omega

theorem closeGroup_readMany {part : Reader α} {depth : Nat}
    (step : ∀ cs value rest, part cs = some (value,rest) → closeGroup depth cs = closeGroup depth rest)
    (cs : List Char) : closeGroup depth (readMany part cs).2 = closeGroup depth cs := by
  fun_induction readMany part cs with
  | case1 cs refused => rfl
  | case2 cs value rest read shorter values last more ih =>
    rw [more] at ih
    rw [ih,step _ _ _ read]
  | case3 cs value rest read longer => rfl

namespace Rule

/-- What a group may have inside. -/
def element (depth : Nat) : Rule := readEither (groupWithin depth) plain

theorem groupWithin_rest (depth : Nat) (cs : List Char) : (groupWithin (depth + 1) cs).map Prod.snd =
    (readMark '(' cs).bind fun inner => readMark ')' (readMany (element depth) inner).2 := by
  have skipped : readMark '(' (skipBlanks cs) = readMark '(' cs := by rw [readMark,skipBlanks_twice,readMark]
  rw [groupWithin,named_eq,sequence_cons,mark,skipped]
  cases readMark '(' cs with
  | none => rfl
  | some inner =>
    simp only [Option.map_some,Option.bind_some,sequence_cons,many]
    unfold mark element
    cases readMark ')' (readMany (readEither (groupWithin depth) plain) inner).2 <;> rfl

theorem closeGroup_plainRule {cs rest : List Char} {nodes : List Node} (ok : plain cs = some (nodes,rest)) :
    (∀ depth, closeGroup depth cs = closeGroup depth rest) ∧ rest.length < cs.length := by
  unfold plain at ok
  split at ok
  · cases ok
  · rename_i c tail skipped
    obtain ⟨-,blanks,blank,rfl⟩ := skipBlanks_eq_cons skipped
    split at ok
    · rename_i free
      cases ok
      refine ⟨fun depth => ?_,by simp; omega⟩
      rw [closeGroup_blanks blank,closeGroup_plain free]
    · cases ok

/-- The parts inside a group open and close as many groups. -/
theorem element_step {depth : Nat}
    (sound : ∀ cs nodes rest, groupWithin depth cs = some (nodes,rest) → behindGroup cs = some rest)
    {cs rest : List Char} {nodes : List Node} (ok : element depth cs = some (nodes,rest)) :
    (∀ outer, closeGroup outer cs = closeGroup outer rest) ∧ rest.length < cs.length := by
  unfold element readEither at ok
  split at ok
  · rename_i found inner
    cases ok
    have behind := sound _ _ _ inner
    exact ⟨closeGroup_behindGroup behind,length_of_behindGroup behind⟩
  · exact closeGroup_plainRule ok

theorem groupWithin_sound (depth : Nat) {cs rest : List Char} {nodes : List Node}
    (ok : groupWithin depth cs = some (nodes,rest)) : behindGroup cs = some rest := by
  -- The groups inside are a level less deep; counting parentheses does not notice them.
  induction depth generalizing cs rest nodes with
  | zero => cases ok
  | succ depth ih =>
    have left := congrArg (Option.map Prod.snd) ok
    rw [groupWithin_rest,Option.map_some] at left
    obtain ⟨inner,opened,closed⟩ := Option.bind_eq_some_iff.mp left
    obtain ⟨blanks,blank,ending⟩ := readMark_eq_some closed
    have inside := closeGroup_readMany (fun cs nodes rest found =>
      (element_step (fun _ _ _ => ih) found).1 0) inner
    rw [ending,closeGroup_blanks blank] at inside
    rw [behindGroup,opened,Option.bind_some,← inside]
    rfl

theorem element_shortens (depth : Nat) : Shortens (element depth) := fun _ _ _ found =>
  (element_step (fun _ _ _ => groupWithin_sound depth) found).2

/-- Where no part of a group is found, the group ends, unless it does not end at all. -/
theorem readMark_of_stop {depth : Nat} {last rest : List Char}
    (complete : ∀ rest, behindGroup last = some rest → ∃ nodes, groupWithin depth last = some (nodes,rest))
    (stop : element depth last = none) (closed : closeGroup 0 last = some rest) : readMark ')' last = some rest := by
  unfold element readEither at stop
  split at stop
  · cases stop
  rename_i refused
  -- Only a parenthesis can stand there: one that opens would be found, so it is the one that closes.
  obtain blank | ⟨blanks,c,more,blank,visible,rfl⟩ := blanks_or_visible last
  · have nothing := closeGroup_blanks blank 0 []
    rw [List.append_nil,closed] at nothing
    cases nothing
  rw [closeGroup_blanks blank] at closed
  by_cases opening : c = '('
  · subst opening
    change closeGroup (0 + (0 + 1)) more = some rest at closed
    rw [closeGroup_inner] at closed
    obtain ⟨left,inner,-⟩ := Option.bind_eq_some_iff.mp closed
    have behind : behindGroup (blanks ++ '(' :: more) = some left := by
      rw [behindGroup,readMark_behind rfl blank,Option.bind_some,inner]
    obtain ⟨nodes,found⟩ := complete left behind
    rw [refused] at found
    cases found
  by_cases closing : c = ')'
  · subst closing
    cases closed
    exact readMark_behind rfl blank _
  · have free : isPlain c = true := isPlain_iff.mpr ⟨opening,closing⟩
    simp [plain,skipBlanks_behind blank visible,free] at stop

/-- A group is found if a text of this length has one, since nothing else stops the search for its end. -/
theorem groupWithin_complete (depth : Nat) {cs rest : List Char} (short : cs.length ≤ depth)
    (ok : behindGroup cs = some rest) : ∃ nodes, groupWithin depth cs = some (nodes,rest) := by
  induction depth generalizing cs rest with
  | zero =>
    have shorter := length_of_behindGroup ok
    omega
  | succ depth ih =>
    obtain ⟨inner,opened,closed⟩ := Option.bind_eq_some_iff.mp ok
    have stop := readMany_refused (element_shortens depth) inner
    have inside := closeGroup_readMany (fun cs nodes rest found =>
      (element_step (fun _ _ _ => groupWithin_sound depth) found).1 0) inner
    have left := length_of_readMany (element depth) inner
    have shorter := length_of_readMark opened
    -- An element that opens a group is shorter than the whole, so the group inside it is found.
    have ending : readMark ')' (readMany (element depth) inner).2 = some rest := by
      refine readMark_of_stop (fun rest behind => ih ?_ behind) stop (inside.trans closed)
      omega
    have found := groupWithin_rest depth cs
    rw [opened,Option.bind_some,ending] at found
    obtain ⟨⟨nodes,other⟩,read,rfl⟩ := Option.map_eq_some_iff.mp found
    exact ⟨nodes,read⟩

theorem group_rest (cs : List Char) : (group cs).map Prod.snd = behindGroup cs := by
  cases behind : behindGroup cs with
  | some rest =>
    obtain ⟨nodes,found⟩ := groupWithin_complete cs.length (Nat.le_refl _) behind
    rw [group,found]
    rfl
  | none =>
    cases found : group cs with
    | none => rfl
    | some result => exact absurd (groupWithin_sound cs.length found) (by simp [behind])

end Rule

theorem Agree.group {conveys : List Node → α → Prop} {rules : List Rule} {cs : List Char}
    {next : List Char → Option (α × List Char)}
    (others : ∀ nodes rest, Agree (fun more => conveys (nodes ++ more)) (Rule.sequence rules rest) (next rest)) :
    Agree conveys (Rule.sequence (.group :: rules) cs) ((behindGroup cs).bind next) := by
  rw [Rule.sequence_cons,← Rule.group_rest]
  cases Rule.group cs with
  | none => exact .refused
  | some found => exact (others found.1 found.2).behind

end SpatialFilter
