import Mathlib.Algebra.GroupWithZero.Nat
import PatchProof.Context.StageOutcomes
import PatchProof.Library.Running

/-!
# The budget of the combined diff

The diff of a pull request is joined from one section for each changed file.  What remains of
the budget is counted down by the sections alone, so the line breaks between them are not paid
for.  The flag is honest: a diff that is not marked as truncated is the whole of the texts.

The combined diff keeps within the budget when at most one section is begun, or when the
sections that are begun fit together with their line breaks.  Otherwise it is longer, by the
number of line breaks at most.
-/

set_option autoImplicit false

namespace PatchProof

/-! ## Lengths -/

theorem length_truncate (limit : Nat) (text : String) :
    (truncate limit text).length = min limit text.length := by
  rw [truncate, String.length_ofList, List.length_take, String.length_toList]

theorem length_truncationMarker : truncationMarker.length = 48 := by decide

/-- A truncated text is as long as the limit allows. -/
theorem length_truncateMarked (value : String) (maximum : Nat) :
    (truncateMarked value maximum).1.length = min value.length maximum := by
  unfold truncateMarked
  split
  · rename_i short
    exact (Nat.min_eq_left short).symm
  · rename_i long
    split
    · rw [length_truncate, length_truncationMarker]
      rename_i narrow
      rw [length_truncationMarker] at narrow
      omega
    · rename_i wide
      rw [length_truncationMarker] at wide
      rw [String.length_append, length_truncate, length_truncationMarker]
      omega

/-- A text that is not marked is whole. -/
theorem truncateMarked_whole {value : String} {maximum : Nat}
    (whole : (truncateMarked value maximum).2 = false) :
    (truncateMarked value maximum).1 = value := by
  unfold truncateMarked at whole ⊢
  split at whole
  · rename_i short
    rw [if_pos short]
  · split at whole <;> cases whole

/-- Joined lines have one line break between every two of them. -/
theorem length_intercalate_newline (lines : List String) :
    ("\n".intercalate lines).length = (lines.map String.length).sum + (lines.length - 1) := by
  induction lines with
  | nil => rfl
  | cons line rest ih =>
      cases rest with
      | nil => simp
      | cons next more =>
          have newline : "\n".length = 1 := rfl
          rw [String.intercalate_cons_cons, String.length_append, String.length_append, ih,
            newline]
          simp only [List.map_cons, List.sum_cons, List.length_cons]
          omega

/-! ## Sections -/

section Sections

variable (perFile : Nat)

/-- One pass of the loop, for the text of a file. -/
def addSection (state : DiffSections) (text : String) : DiffSections :=
  if state.remaining ≤ truncationMarker.length then { state with truncated := true }
  else if text = "" then state
  else
    { sections := state.sections ++ [(truncateMarked text (min perFile state.remaining)).1]
      remaining := state.remaining - (truncateMarked text (min perFile state.remaining)).1.length
      truncated := state.truncated || (truncateMarked text (min perFile state.remaining)).2 }

/-- The sections that are begun: each one while there is room for more than the marker. -/
def begun (room : Nat) : List Nat → List Nat
  | [] => []
  | length :: rest => if 48 < room then length :: begun (room - length) rest else []

theorem begun_of_full {room : Nat} (full : room ≤ 48) (lengths : List Nat) :
    begun room lengths = [] := by
  cases lengths with
  | nil => rfl
  | cons length rest => rw [begun, if_neg (by omega)]

theorem addSection_full {state : DiffSections} (full : state.remaining ≤ 48) (text : String) :
    addSection perFile state text = { state with truncated := true } := by
  rw [addSection, if_pos (by rwa [length_truncationMarker])]

theorem addSection_empty {state : DiffSections} (room : 48 < state.remaining) :
    addSection perFile state "" = state := by
  rw [addSection, if_neg (by rw [length_truncationMarker]; omega), if_pos rfl]

theorem addSection_text {state : DiffSections} {text : String} (room : 48 < state.remaining)
    (filled : text ≠ "") : addSection perFile state text =
      { sections := state.sections ++ [(truncateMarked text (min perFile state.remaining)).1]
        remaining := state.remaining - min text.length perFile
        truncated := state.truncated || (truncateMarked text (min perFile state.remaining)).2 } := by
  have left : state.remaining - (truncateMarked text (min perFile state.remaining)).1.length =
      state.remaining - min text.length perFile := by
    rw [length_truncateMarked]
    omega
  rw [addSection, if_neg (by rw [length_truncationMarker]; omega), if_neg filled, left]

theorem filter_text {text : String} (filled : text ≠ "") (rest : List String) :
    (text :: rest).filter (· ≠ "") = text :: rest.filter (· ≠ "") :=
  List.filter_cons_of_pos (by simpa using filled)

/-- The lengths at which the sections of some texts are capped. -/
def capped (texts : List String) : List Nat :=
  (texts.filter (· ≠ "")).map fun text => min text.length perFile

theorem capped_empty (rest : List String) : capped perFile ("" :: rest) = capped perFile rest :=
  rfl

theorem capped_text {text : String} (filled : text ≠ "") (rest : List String) :
    capped perFile (text :: rest) = min text.length perFile :: capped perFile rest := by
  rw [capped, filter_text filled]
  rfl

/-- The passes that have no room left add nothing. -/
theorem sections_of_full (texts : List String) {state : DiffSections}
    (full : state.remaining ≤ 48) :
    (texts.foldl (addSection perFile) state).sections = state.sections := by
  induction texts generalizing state with
  | nil => rfl
  | cons text rest ih =>
      rw [List.foldl_cons, addSection_full perFile full]
      exact ih full

/-- The passes add one section for each that is begun, and together they fill the room that
these have. -/
theorem sections_added (texts : List String) (state : DiffSections) :
    ∃ added, (texts.foldl (addSection perFile) state).sections = state.sections ++ added ∧
      added.length = (begun state.remaining (capped perFile texts)).length ∧
      (added.map String.length).sum =
        min (begun state.remaining (capped perFile texts)).sum state.remaining := by
  induction texts generalizing state with
  | nil => exact ⟨[], (List.append_nil _).symm, rfl, (Nat.zero_min _).symm⟩
  | cons text rest ih =>
      by_cases full : state.remaining ≤ 48
      · refine ⟨[], ?_, ?_, ?_⟩
        · rw [sections_of_full perFile (text :: rest) full, List.append_nil]
        · rw [begun_of_full full]
          rfl
        · rw [begun_of_full full]
          exact (Nat.zero_min _).symm
      · have room : 48 < state.remaining := Nat.lt_of_not_le full
        by_cases filled : text = ""
        · subst filled
          rw [List.foldl_cons, addSection_empty perFile room, capped_empty]
          exact ih state
        · rw [List.foldl_cons, addSection_text perFile room filled, capped_text perFile filled,
            begun, if_pos room]
          obtain ⟨added, same, count, total⟩ := ih
            { sections := state.sections ++ [(truncateMarked text (min perFile state.remaining)).1]
              remaining := state.remaining - min text.length perFile
              truncated :=
                state.truncated || (truncateMarked text (min perFile state.remaining)).2 }
          have taken := length_truncateMarked text (min perFile state.remaining)
          refine ⟨(truncateMarked text (min perFile state.remaining)).1 :: added, ?_, ?_, ?_⟩
          · exact same.trans (List.append_assoc _ _ _)
          · rw [List.length_cons, List.length_cons, count]
          · rw [List.map_cons, List.sum_cons, List.sum_cons, total, taken]
            dsimp only
            omega

theorem addSection_keeps_flag {state : DiffSections} (flagged : state.truncated = true)
    (text : String) : (addSection perFile state text).truncated = true := by
  unfold addSection
  split
  · rfl
  · split
    · exact flagged
    · exact Bool.or_eq_true_iff.mpr (.inl flagged)

theorem flag_kept (texts : List String) {state : DiffSections} (flagged : state.truncated = true) :
    (texts.foldl (addSection perFile) state).truncated = true := by
  induction texts generalizing state with
  | nil => exact flagged
  | cons text rest ih => exact ih (addSection_keeps_flag perFile flagged text)

/-- What is not marked as truncated has every text as a section. -/
theorem sections_whole (texts : List String) {state : DiffSections}
    (unmarked : (texts.foldl (addSection perFile) state).truncated = false) :
    (texts.foldl (addSection perFile) state).sections =
      state.sections ++ texts.filter (· ≠ "") := by
  induction texts generalizing state with
  | nil => exact (List.append_nil _).symm
  | cons text rest ih =>
      rw [List.foldl_cons] at unmarked ⊢
      have step : (addSection perFile state text).truncated = false := by
        cases flag : (addSection perFile state text).truncated with
        | false => rfl
        | true => rw [flag_kept perFile rest flag] at unmarked; cases unmarked
      rw [ih unmarked]
      by_cases full : state.remaining ≤ 48
      · rw [addSection_full perFile full] at step
        cases step
      · have room : 48 < state.remaining := Nat.lt_of_not_le full
        by_cases filled : text = ""
        · subst filled
          rw [addSection_empty perFile room]
          rfl
        · rw [addSection_text perFile room filled] at step ⊢
          have whole := truncateMarked_whole (Bool.or_eq_false_iff.mp step).2
          dsimp only
          rw [whole, filter_text filled, List.append_assoc]
          rfl

end Sections

/-! ## The run -/

/-- A pass over changed files each of which Git can show the diff of. -/
structure DiffRun where
  retriever : DeterministicContextRetriever
  base : GitSha
  head : GitSha
  files : List ChangedFile
  answer : (command : GitCommand) → Option CompletedProcess
  answered : ∀ file ∈ files, ∃ completed,
    answer (.diff 3 base head file.diffPaths) = some completed ∧ completed.returncode = 0

namespace DiffRun

variable (run : DiffRun)

/-- What `_bounded_diff` returns. -/
def outcome : Except RetrievalError (String × Bool) :=
  (run.retriever.boundedDiff run.base run.head run.files).under run.answer

/-- The diff text of a file. -/
def text (file : ChangedFile) : String :=
  match run.answer (.diff 3 run.base run.head file.diffPaths) with
  | some completed => run.retriever.runtime.decodeReplacing completed.stdout
  | none => ""

/-- The diff texts, in the order of the diff. -/
def texts : List String := (run.files.mergeSort ChangedFile.diffOrder).map run.text

/-- The lengths of the sections that are begun. -/
def begun : List Nat :=
  PatchProof.begun run.retriever.budget.maxDiffChars
    (capped run.retriever.budget.maxDiffCharsPerFile run.texts)

/-- The combined diff is within the budget, and is marked as truncated unless it is the whole of
the texts. -/
def WithinBudget : Prop :=
  ∃ diff truncated, run.outcome = .ok (diff, truncated) ∧
    diff.length ≤ run.retriever.budget.maxDiffChars ∧
    (truncated = false → diff = "\n".intercalate (run.texts.filter (· ≠ "")))

/-- At most one section is begun, or those that are begun fit with their line breaks. -/
def SectionsFit : Prop :=
  run.begun.length ≤ 1 ∨
    run.begun.sum + (run.begun.length - 1) ≤ run.retriever.budget.maxDiffChars

instance : Decidable run.SectionsFit := inferInstanceAs (Decidable (_ ∨ _))

/-- The state behind the loop. -/
def state : DiffSections :=
  run.texts.foldl (addSection run.retriever.budget.maxDiffCharsPerFile)
    { remaining := run.retriever.budget.maxDiffChars }

theorem diffSection_under {file : ChangedFile} (mem : file ∈ run.files) (state : DiffSections) :
    (run.retriever.diffSection run.base run.head state file).under run.answer =
      .ok (addSection run.retriever.budget.maxDiffCharsPerFile state (run.text file)) := by
  obtain ⟨completed, answered, succeeds⟩ := run.answered file mem
  have shown : run.text file = run.retriever.runtime.decodeReplacing completed.stdout := by
    rw [text, answered]
  have asked : (run.retriever.runGit (.diff 3 run.base run.head file.diffPaths)).under run.answer =
      .ok completed := by
    unfold DeterministicContextRetriever.runGit
    rw [Program.under_ask, answered]
    dsimp only
    rw [if_neg (by simp [succeeds])]
    rfl
  unfold DeterministicContextRetriever.diffSection addSection
  split
  · rfl
  · rw [Program.under_bind, asked, Guard.ok_bind, shown]
    dsimp only
    split
    · rfl
    · rfl

theorem outcome_eq :
    run.outcome = .ok ("\n".intercalate run.state.sections, run.state.truncated) := by
  have loops : ∀ (files : List ChangedFile) (start : DiffSections),
      (∀ file ∈ files, file ∈ run.files) →
      (files.foldlM (run.retriever.diffSection run.base run.head) start).under run.answer =
        .ok ((files.map run.text).foldl (addSection run.retriever.budget.maxDiffCharsPerFile)
          start) := by
    intro files
    induction files with
    | nil => exact fun start _ => rfl
    | cons file rest ih =>
        intro start all
        rw [List.foldlM_cons, Program.under_bind,
          run.diffSection_under (all file List.mem_cons_self), Guard.ok_bind]
        exact ih _ fun other mem => all other (List.mem_cons_of_mem file mem)
  rw [outcome, DeterministicContextRetriever.boundedDiff, Program.under_bind,
    loops _ _ fun file mem => List.mem_mergeSort.mp mem]
  rfl

/-- The length of the combined diff. -/
theorem length_diff : ("\n".intercalate run.state.sections).length =
    min run.begun.sum run.retriever.budget.maxDiffChars + (run.begun.length - 1) := by
  obtain ⟨added, same, count, total⟩ := sections_added
    run.retriever.budget.maxDiffCharsPerFile run.texts
    { remaining := run.retriever.budget.maxDiffChars }
  have sections : run.state.sections = added := same.trans (List.nil_append added)
  rw [length_intercalate_newline, sections, total, count]
  rfl

/-- A diff that is not marked is the whole of the texts. -/
theorem diff_whole (unmarked : run.state.truncated = false) :
    "\n".intercalate run.state.sections = "\n".intercalate (run.texts.filter (· ≠ "")) := by
  have whole := sections_whole run.retriever.budget.maxDiffCharsPerFile run.texts unmarked
  exact congrArg _ (whole.trans (List.nil_append _))

theorem withinBudget_of_fit (fit : run.SectionsFit) : run.WithinBudget := by
  refine ⟨_, _, run.outcome_eq, ?_, run.diff_whole⟩
  rw [length_diff]
  rcases fit with single | together
  · omega
  · omega

theorem fit_of_withinBudget (within : run.WithinBudget) : run.SectionsFit := by
  obtain ⟨diff, truncated, returned, short, _⟩ := within
  rw [run.outcome_eq] at returned
  injection returned with same
  injection same with sameDiff _
  rw [← sameDiff, length_diff] at short
  unfold SectionsFit
  omega

/-- **The combined diff keeps its budget exactly when the begun sections fit with their line
breaks.**  The flag is honest in every case. -/
theorem withinBudget_iff : run.WithinBudget ↔ run.SectionsFit :=
  ⟨run.fit_of_withinBudget, run.withinBudget_of_fit⟩

/-! ## Two sections that fill the budget -/

/-- A retriever with room for a hundred characters of diff. -/
def narrowRetriever : DeterministicContextRetriever where
  runtime := plainRuntime
  budget := { ContextBudget.standard with maxDiffChars := 100, maxDiffCharsPerFile := 100 }
  contextChars _ := 0

/-- Two modified files. -/
def halfFiles : List ChangedFile :=
  [.ofRecord .modified ⟨"a.py", by decide⟩ none
      ChangeStatus.modified_unrenamed,
    .ofRecord .modified ⟨"b.py", by decide⟩ none ChangeStatus.modified_unrenamed]

/-- The diff of each file has fifty characters. -/
def halvesRun : DiffRun where
  retriever := narrowRetriever
  base := sampleBase
  head := sampleHead
  files := halfFiles
  answer _ := some ⟨0, List.replicate 50 120, []⟩
  answered _ _ := ⟨_, rfl, rfl⟩

/-- Two sections of fifty characters are joined to one diff of a hundred and one. -/
theorem halves_exceed_budget : ¬ halvesRun.WithinBudget := by
  intro within
  have texts : halvesRun.texts = List.replicate 2 (String.ofList (List.replicate 50 'x')) := by
    have same : halvesRun.text = fun _ => String.ofList (List.replicate 50 'x') := rfl
    rw [DiffRun.texts, same, List.map_const', List.length_mergeSort]
    rfl
  have begun : halvesRun.begun = [50, 50] := by
    rw [DiffRun.begun, texts]
    decide
  have fit := halvesRun.fit_of_withinBudget within
  rw [SectionsFit, begun] at fit
  revert fit
  decide

end DiffRun

end PatchProof
