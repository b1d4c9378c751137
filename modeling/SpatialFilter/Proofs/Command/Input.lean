import SpatialFilter.Proofs.Command.Modes
import SpatialFilter.Proofs.Settings

/-! Sources on the lines of an input. White space around them, blank lines, comments and either way to end a line
leave no trace: the run is the one that has the same sources among its arguments. -/
namespace SpatialFilter.Command

/-! ### Trimming -/

section Trim
variable {before after cs : List Char}

theorem trim_white_append (white : ∀ c ∈ before, isSpace c = true) : trim (before ++ cs) = trim cs := by
  rw [trim,skipSpace,List.dropWhile_append_of_pos white,trim,skipSpace]

theorem skipSpace_eq_nil : skipSpace cs = [] ↔ ∀ c ∈ cs, isSpace c = true := List.dropWhile_eq_nil_iff

theorem trimEnd_append_white (white : ∀ c ∈ after, isSpace c = true) : trimEnd (cs ++ after) = trimEnd cs := by
  rw [trimEnd,List.reverse_append,skipSpace,List.dropWhile_append_of_pos (by simpa using white),trimEnd,skipSpace]

theorem trim_append_white (white : ∀ c ∈ after, isSpace c = true) : trim (cs ++ after) = trim cs := by
  rw [trim,skipSpace,List.dropWhile_append]
  split
  · rename_i none
    have empty : skipSpace cs = [] := List.isEmpty_iff.mp none
    have rest : after.dropWhile isSpace = [] := skipSpace_eq_nil.mpr white
    rw [rest,trim,empty]
  · exact trimEnd_append_white white

theorem trim_white (white : ∀ c ∈ cs, isSpace c = true) : trim cs = [] := by
  have none : trim (cs ++ []) = [] := trim_white_append white
  rwa [List.append_nil] at none

theorem head?_trim {c : Char} (white : ∀ d ∈ before, isSpace d = true) (visible : isSpace c = false) :
    (trim (before ++ c :: cs)).head? = some c := by
  have stays : skipSpace (c :: cs) = c :: cs := List.dropWhile_cons_of_neg (by simp [visible])
  rw [trim_white_append white,trim,stays,trimEnd,List.head?_reverse,List.reverse_cons,skipSpace,
    List.dropWhile_append]
  split
  · simp [visible]
  · simp

end Trim

/-! ### Lines -/

/-- A source that may stand on a line of an input. -/
structure Plain (source : String) : Prop where
  nonempty : source.toList ≠ []
  single : '\n' ∉ source.toList
  uncommented : source.toList.head? ≠ some '#'
  trimmed : trim source.toList = source.toList

instance (source : String) : Decidable (Plain source) :=
  decidable_of_iff (source.toList ≠ [] ∧ '\n' ∉ source.toList ∧ source.toList.head? ≠ some '#' ∧
    trim source.toList = source.toList)
    ⟨fun ⟨nonempty,single,uncommented,trimmed⟩ => ⟨nonempty,single,uncommented,trimmed⟩,
      fun plain => ⟨plain.nonempty,plain.single,plain.uncommented,plain.trimmed⟩⟩

/-- The characters of a line, and its source if it has one. -/
inductive Line : List String → List Char → Prop where
  | blank {spaces : List Char} (white : ∀ c ∈ spaces, isSpace c = true) : Line [] spaces
  | comment {spaces text : List Char} (white : ∀ c ∈ spaces, isSpace c = true) : Line [] (spaces ++ '#' :: text)
  | source {before after : List Char} {source : String} (white : ∀ c ∈ before, isSpace c = true)
      (behind : ∀ c ∈ after, isSpace c = true) : Line [source] (before ++ source.toList ++ after)

inductive Ending : List Char → Prop where
  | feed : Ending ['\n']
  | returnFeed : Ending ['\r','\n']

/-- The text of an input and the sources on its lines, in order. The last line may lack its end. -/
inductive Listing : List String → List Char → Prop where
  | last {sources : List String} {line : List Char} (holds : Line sources line) (single : '\n' ∉ line) :
      Listing sources line
  | line {first sources : List String} {line ending text : List Char} (holds : Line first line) (single : '\n' ∉ line)
      (ends : Ending ending) (rest : Listing sources text) : Listing (first ++ sources) (line ++ ending ++ text)

theorem sourceLines_append (front back : List Char) : sourceLines (.ofList (front ++ '\n' :: back)) =
    sourceLines (.ofList front) ++ sourceLines (.ofList back) := by
  simp [sourceLines,List.splitOn_append_cons_self]

theorem sourceLines_single {line : List Char} (single : '\n' ∉ line) : sourceLines (.ofList line) =
    if trim line = [] ∨ (trim line).head? = some '#' then [] else [.ofList (trim line)] := by
  rw [sourceLines,String.toList_ofList,List.splitOn_eq_singleton single]
  by_cases skipped : trim line = [] ∨ (trim line).head? = some '#'
  · rw [if_pos skipped]
    rcases skipped with none | mark
    · simp [none]
    · simp [mark]
  · rw [if_neg skipped]
    rw [not_or] at skipped
    simp [skipped]

section Line
variable {sources : List String} {line : List Char}

theorem Line.sourceLines (holds : Line sources line) (single : '\n' ∉ line) (plain : ∀ s ∈ sources, Plain s) :
    sourceLines (.ofList line) = sources := by
  rw [sourceLines_single single]
  cases holds with
  | blank white => rw [if_pos (.inl (trim_white white))]
  | comment white => rw [if_pos (.inr (head?_trim white (by decide)))]
  | source white behind =>
    have whole := plain _ (List.mem_singleton_self _)
    rw [trim_append_white behind,trim_white_append white,whole.trimmed,if_neg (by simp [whole.nonempty,whole.uncommented]),
      String.ofList_toList]

theorem Line.carriage (holds : Line sources line) : Line sources (line ++ ['\r']) := by
  -- The carriage return belongs to the white space at the end, or to the text of a comment.
  have white {spaces : List Char} (all : ∀ c ∈ spaces, isSpace c = true) : ∀ c ∈ spaces ++ ['\r'], isSpace c = true :=
    List.forall_mem_append.mpr ⟨all,List.forall_mem_singleton.mpr rfl⟩
  cases holds with
  | blank all => exact .blank (white all)
  | comment all =>
    rw [List.append_assoc]
    exact .comment all
  | source all behind =>
    rw [List.append_assoc]
    exact .source all (white behind)

theorem Listing.sourceLines (listing : Listing sources line) (plain : ∀ s ∈ sources, Plain s) :
    sourceLines (.ofList line) = sources := by
  induction listing with
  | last holds single => exact holds.sourceLines single plain
  | line holds single ends rest ih =>
    obtain ⟨first,behind⟩ := List.forall_mem_append.mp plain
    cases ends with
    | feed => rw [List.append_assoc,List.singleton_append,sourceLines_append,holds.sourceLines single first,ih behind]
    | returnFeed =>
      have whole := holds.carriage.sourceLines (by simpa using single) first
      rw [List.append_cons,List.append_assoc,List.singleton_append,sourceLines_append,whole,ih behind]

end Line

theorem Listing.inputSources {sources : List String} {text : List Char} (listing : Listing sources text)
    (plain : ∀ s ∈ sources, Plain s) : inputSources (String.ofList text).toUTF8 = .ok sources := by
  rw [Command.inputSources,textOfBytes_toUTF8]
  exact congrArg _ (listing.sourceLines plain)

/-! ### Arguments -/

def Request.addSources (sources : List String) : Request → Request
  | .run o => .run (o.addSources sources)
  | other => other

theorem classify_eq_rest {argument : String} (rest : classify argument = .rest) : argument = "--" := by
  unfold classify at rest
  split at rest
  · rename_i name long
    unfold classifyLong at rest
    split at rest
    · rename_i front back
      have whole := List.takeWhile_append_dropWhile (p := fun c => decide (c ≠ '=')) (l := name)
      rw [back,List.append_nil] at whole
      have none : name = [] := by
        rw [← whole,← String.toList_ofList (l := name.takeWhile _),front]
        rfl
      rw [← String.ofList_toList (s := argument),long,none]
    all_goals cases rest
  all_goals cases rest

/-- All that stands behind two dashes is a source. -/
theorem readArguments_behind {front : List String} (free : "--" ∉ front) (sources : List String) (o : Options) :
    readArguments (front ++ "--" :: sources) o = (readArguments front o).addSources sources := by
  fun_induction readArguments front o with
  | case1 o => rfl
  | case3 argument rest o ends => exact absurd (by simp [classify_eq_rest ends]) free
  | case11 argument o kind asks =>
    -- Two dashes are no value, so the option stays without one.
    rw [List.singleton_append,readArguments,asks]
    rfl
  | _ => simp_all [readArguments,Request.addSources]

/-! ### Runs -/

section
variable {files : Files} {e : Environment} {front sources : List String} {text : List Char}

/-- A run whose sources stand behind two dashes does not read its input. It ends as the run without these sources does
on an input that lists them. -/
theorem run_listing (free : "--" ∉ front) (unnamed : ∀ o, readArguments front .none = .run o → o.sources = [])
    (some : sources ≠ []) (plain : ∀ s ∈ sources, Plain s) (listing : Listing sources text)
    {m : Type → Type} [Monad m] [LawfulMonad m] (other : m ByteArray) :
    run (files.host other) e (front ++ "--" :: sources) =
      pure (files.outcome (String.ofList text).toUTF8 e front) := by
  have behind := readArguments_behind free sources .none
  cases asked : readArguments front .none with
  | run o =>
    rw [asked] at behind
    have none := unnamed o asked
    have same : SamePaths o (o.addSources sources) := ⟨rfl,rfl⟩
    obtain ⟨prepared,prepares⟩ := exists_prepares default files e o
    cases prepared with
    | error fault =>
      obtain ⟨outcome,-,broken⟩ := prepares.failed
      rw [broken _ _ behind same other]
      exact congrArg _ (broken _ _ asked ⟨rfl,rfl⟩ (m := Id) _).symm
    | ok prepared =>
      obtain ⟨settings,registry⟩ := prepared
      have given : sourcesOf (m := Id) (files.host (String.ofList text).toUTF8) o = .ok sources := by
        rw [sourcesOf_id,none,List.isEmpty_nil,if_pos rfl,listing.inputSources plain]
      have named : sourcesOf (files.host other) (o.addSources sources) = pure (.ok sources) := by
        simp [sourcesOf,Options.addSources,none,some]
      rw [prepares.all.outcome asked,given,(prepares.all.congr same).run behind,named,map_pure]
      rfl
  | _ =>
    rw [asked] at behind
    unfold Files.outcome
    simp only [run,Files.host,asked,behind,Request.addSources,pure_bind]
    cases Environment.File.extend e files.environment <;> rfl

end

def boxListing : String := "# streets\r\n\r\n\t" ++ boxSource ++ "  \n # again\n" ++ boxSource

theorem boxListing_lists : Listing [boxSource,boxSource] boxListing.toList := by
  have last : Listing [boxSource] ([] ++ boxSource.toList ++ []) := .last (.source nofun nofun) (by decide)
  have again : Listing ([] ++ [boxSource]) (([' '] ++ '#' :: " again".toList) ++ ['\n'] ++ _) :=
    .line (.comment (List.all_eq_true.mp rfl)) (by decide) .feed last
  have first : Listing ([boxSource] ++ _) ((['\t'] ++ boxSource.toList ++ [' ',' ']) ++ ['\n'] ++ _) :=
    .line (.source (List.all_eq_true.mp rfl) (List.all_eq_true.mp rfl)) (by decide) .feed again
  have empty : Listing ([] ++ _) ([] ++ ['\r','\n'] ++ _) := .line (.blank nofun) nofun .returnFeed first
  have comment : Line [] ([] ++ '#' :: " streets".toList) := .comment nofun
  exact .line comment (by decide) .returnFeed empty

/-- One box on two lines, among comments and a blank line. -/
theorem run_listing_streets :
    streetFiles.outcome .empty .empty (["--all","--properties","streets.yaml"] ++ "--" :: [boxSource,boxSource]) =
      streetFiles.outcome boxListing.toUTF8 .empty ["--all","--properties","streets.yaml"] ∧
    ∀ wording, Ends wording (streetFiles.outcome boxListing.toUTF8 .empty ["--all","--properties","streets.yaml"])
      [(Condition.conjoin [boxedStreets,boxedStreets]).jsonText] 0 none := by
  have asked : readArguments ["--all","--properties","streets.yaml"] .none =
      .run ⟨[],none,some "streets.yaml",true⟩ := by decide +kernel
  have unnamed : ∀ o, readArguments ["--all","--properties","streets.yaml"] .none = .run o → o.sources = [] := by
    rw [asked]
    rintro o ⟨⟩
    rfl
  have plain : ∀ s ∈ [boxSource,boxSource], Plain s := by decide
  have same : streetFiles.outcome .empty .empty
      (["--all","--properties","streets.yaml"] ++ "--" :: [boxSource,boxSource]) =
      streetFiles.outcome (String.ofList boxListing.toList).toUTF8 .empty ["--all","--properties","streets.yaml"] :=
    run_listing (by decide) unnamed (by simp) plain boxListing_lists (m := Id) .empty
  have named : readArguments (["--all","--properties","streets.yaml"] ++ "--" :: [boxSource,boxSource]) .none =
      .run ⟨[boxSource,boxSource],none,some "streets.yaml",true⟩ := by decide +kernel
  have judged : Judged .standard streets [boxSource,boxSource] (.translated [boxedStreets,boxedStreets]) :=
    .translated (.cons (streets_translated rfl rfl) (.cons (streets_translated rfl rfl) .nil))
  rw [String.ofList_toList] at same
  refine ⟨same,fun wording => ?_⟩
  rw [← same,(streets_ready [boxSource,boxSource] true).outcome named]
  exact judged.seen (by simp) wording true

end SpatialFilter.Command
