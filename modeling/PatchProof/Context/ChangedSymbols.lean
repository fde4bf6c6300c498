import PatchProof.Library.Folds
import PatchProof.Library.Running
import PatchProof.Context.Changes
import PatchProof.Investigation.Planner

/-!
# Which definitions count as changed

The changed symbols of a file are the definitions of its HEAD source that intersect the HEAD
side of a hunk of the zero-context diff.  A hunk that only deletes has no lines on that side:
its place is the line behind which it deletes.  So a definition that loses its first lines, such
as a decorator, is not among the changed symbols: the deletion is behind the line before it
(`lost_decorator_unseen`).
-/

set_option autoImplicit false

namespace PatchProof

/-! ## Symbols of spans -/

/-- The changed symbol of a span. -/
structure ChangedSymbol.Of (path : RepositoryPath) (span : SymbolSpan) (symbol : ChangedSymbol) :
    Prop where
  path : symbol.path = path
  qualifiedName : symbol.qualifiedName.text = span.qualifiedName
  kind : symbol.kind = span.kind
  startLine : symbol.startLine = span.startLine
  endLine : symbol.endLine = span.endLine

theorem ChangedSymbol.of_check {path : RepositoryPath} {span : SymbolSpan}
    {symbol : ChangedSymbol}
    (checked : check path span.qualifiedName span.kind span.startLine span.endLine = .ok symbol) :
    symbol.Of path span := by
  unfold check at checked
  split at checked
  · cases checked
    exact ⟨rfl, rfl, rfl, rfl, rfl⟩
  · cases checked

/-- What is added for some spans: a symbol for each of them, and no other. -/
structure ChangedPython.Adds (path : RepositoryPath) (before : ChangedPython)
    (spans : List SymbolSpan) (after : ChangedPython) : Prop where
  keeps : before.symbols ⊆ after.symbols
  each : ∀ span ∈ spans, ∃ symbol ∈ after.symbols, symbol.Of path span
  only : ∀ symbol ∈ after.symbols, symbol ∈ before.symbols ∨ ∃ span ∈ spans, symbol.Of path span

namespace DeterministicContextRetriever

variable {retriever : DeterministicContextRetriever} {file : ChangedFile} {source : String}
  {before found next : ChangedPython}

/-- One span more. -/
theorem addSymbol_adds {spans : List SymbolSpan} {span : SymbolSpan}
    (adds : before.Adds file.path spans found)
    (added : retriever.addSymbol file source found span = .ok next) :
    before.Adds file.path (spans ++ [span]) next := by
  obtain ⟨symbol, checked, rest⟩ := Guard.bind_eq_ok_iff.mp added
  have made := ChangedSymbol.of_check checked
  have kept : found.symbols ⊆ next.symbols ∧ symbol ∈ next.symbols ∧
      ∀ other ∈ next.symbols, other ∈ found.symbols ∨ other = symbol := by
    split at rest
    · rename_i known
      cases rest
      exact ⟨fun _ mem => mem, known, fun _ mem => .inl mem⟩
    · obtain ⟨snippet, _, returned⟩ := Guard.bind_eq_ok_iff.mp rest
      cases returned
      refine ⟨List.subset_append_left _ _, List.mem_append_right _ (List.mem_singleton_self _), ?_⟩
      intro other mem
      rcases List.mem_append.mp mem with old | new
      · exact .inl old
      · exact .inr (List.mem_singleton.mp new)
  obtain ⟨keeps, inNext, only⟩ := kept
  refine ⟨fun _ mem => keeps (adds.keeps mem), ?_, ?_⟩
  · intro other mem
    rcases List.mem_append.mp mem with seen | now
    · obtain ⟨known, inFound, same⟩ := adds.each other seen
      exact ⟨known, keeps inFound, same⟩
    · obtain rfl := List.mem_singleton.mp now
      exact ⟨symbol, inNext, made⟩
  · intro other mem
    rcases only other mem with inFound | rfl
    · rcases adds.only other inFound with old | ⟨earlier, seen, same⟩
      · exact .inl old
      · exact .inr ⟨earlier, List.mem_append_left _ seen, same⟩
    · exact .inr ⟨span, List.mem_append_right _ (List.mem_singleton_self _), made⟩

/-- What is found in the source of a file: a symbol for every span. -/
theorem addSource_adds {tree : SyntaxTree} {ranges : List (Nat × Nat)}
    (added : retriever.addSource file source tree ranges found = .ok next) :
    found.Adds file.path (intersectingSpans tree ranges) next := by
  obtain ⟨middle, symbolsAdded, importsAdded⟩ := Guard.bind_eq_ok_iff.mp added
  have adds := Folds.foldlM_seen (fun spans after => found.Adds file.path spans after)
    (fun spans value span after adds passed => addSymbol_adds adds passed)
    ⟨fun _ mem => mem, fun _ mem => absurd mem List.not_mem_nil, fun _ mem => .inl mem⟩
    symbolsAdded
  have same : next.symbols = middle.symbols :=
    Guard.foldlM_kept (fun value => value.symbols = middle.symbols)
      (fun value lines after kept passed => (addImport_symbols passed).trans kept) rfl importsAdded
  refine ⟨?_, ?_, ?_⟩
  · rw [same]
    exact adds.keeps
  · rw [same]
    exact adds.each
  · rw [same]
    exact adds.only

/-! ## Runs -/

section Runs

variable (retriever) (answer : GitCommand → Option CompletedProcess) (base head : GitSha)

/-- The spans that a changed file comes to. -/
def shownSpans (file : ChangedFile) : List SymbolSpan :=
  if !file.isPython then []
  else
    let place := readAt base head file
    match (retriever.readTree place.1 place.2).under answer with
    | .ok (some (_, tree)) =>
        match (retriever.changedLineRanges base head file (file.status = .deleted)).under answer with
        | .ok ranges => intersectingSpans tree ranges
        | .error _ => []
    | _ => []

variable {retriever answer base head}

theorem adds_nothing (found : ChangedPython) (path : RepositoryPath) :
    found.Adds path [] found :=
  ⟨fun _ mem => mem, fun _ mem => absurd mem List.not_mem_nil, fun _ mem => .inl mem⟩

theorem addFile_adds
    (passed : (retriever.addFile base head found file).under answer = .ok next) :
    found.Adds file.path (retriever.shownSpans answer base head file) next := by
  unfold addFile at passed
  unfold shownSpans
  split at passed
  · rename_i other
    cases passed
    rw [if_pos other]
    exact adds_nothing _ _
  · rename_i python
    rw [if_neg python]
    dsimp only at passed ⊢
    rw [Program.under_bind] at passed
    obtain ⟨read, reads, passed⟩ := Guard.bind_eq_ok_iff.mp passed
    rw [reads]
    cases read with
    | none =>
        cases passed
        exact adds_nothing _ _
    | some parsed =>
        obtain ⟨source, tree⟩ := parsed
        dsimp only at passed ⊢
        rw [Program.under_bind] at passed
        obtain ⟨ranges, ranged, passed⟩ := Guard.bind_eq_ok_iff.mp passed
        rw [ranged]
        exact addSource_adds passed

/-- What some files come to: a symbol for every span of theirs, and no other. -/
structure Collects (retriever : DeterministicContextRetriever)
    (answer : GitCommand → Option CompletedProcess) (base head : GitSha)
    (files : List ChangedFile) (found : ChangedPython) : Prop where
  each : ∀ file ∈ files, ∀ span ∈ retriever.shownSpans answer base head file,
    ∃ symbol ∈ found.symbols, symbol.Of file.path span
  only : ∀ symbol ∈ found.symbols, ∃ file ∈ files,
    ∃ span ∈ retriever.shownSpans answer base head file, symbol.Of file.path span

theorem Collects.snoc {files : List ChangedFile}
    (collects : retriever.Collects answer base head files found)
    (adds : found.Adds file.path (retriever.shownSpans answer base head file) next) :
    retriever.Collects answer base head (files ++ [file]) next := by
  constructor
  · intro other mem span shown
    rcases List.mem_append.mp mem with seen | now
    · obtain ⟨symbol, inFound, same⟩ := collects.each other seen span shown
      exact ⟨symbol, adds.keeps inFound, same⟩
    · obtain rfl := List.mem_singleton.mp now
      exact adds.each span shown
  · intro symbol mem
    rcases adds.only symbol mem with inFound | ⟨span, shown, same⟩
    · obtain ⟨other, seen, rest⟩ := collects.only symbol inFound
      exact ⟨other, List.mem_append_left _ seen, rest⟩
    · exact ⟨file, List.mem_append_right _ (List.mem_singleton_self _), span, shown, same⟩

/-- The changed symbols of a run are those of the spans of its files. -/
theorem changedPythonContext_collects {files : List ChangedFile}
    (runs : (retriever.changedPythonContext base head files).under answer = .ok found) :
    retriever.Collects answer base head files found := by
  unfold changedPythonContext at runs
  rw [Program.under_bind, Program.under_foldlM] at runs
  obtain ⟨gathered, loops, returned⟩ := Guard.bind_eq_ok_iff.mp runs
  have collects := Folds.foldlM_seen
    (fun files found => retriever.Collects answer base head files found)
    (fun files value file after collects passed => collects.snoc (addFile_adds passed))
    ⟨fun _ mem => absurd mem List.not_mem_nil, fun _ mem => absurd mem List.not_mem_nil⟩ loops
  cases returned
  constructor
  · intro file mem span shown
    obtain ⟨symbol, inGathered, same⟩ := collects.each file mem span shown
    exact ⟨symbol, List.mem_mergeSort.mpr inGathered, same⟩
  · intro symbol mem
    exact collects.only symbol (List.mem_mergeSort.mp mem)

end Runs

end DeterministicContextRetriever

/-! ## Zero-context scripts -/

/-- The place of one side of a hunk, before the lines it has. -/
def sidePlace (side : Nat × Option Nat) : Nat :=
  if side.2.getD 1 = 0 then side.1 else side.1 - 1

/-- The number of lines of one side of a hunk. -/
def sideCount (side : Nat × Option Nat) : Nat := side.2.getD 1

/-- The hunks lead from BASE lines to HEAD lines, of which so many were passed already: the
lines between two hunks are the same on both sides, and a hunk stands for the others. -/
def Transforms (base head : List String) :
    Nat → Nat → List ((Nat × Option Nat) × (Nat × Option Nat)) → Prop
  | atBase, atHead, [] => base.drop atBase = head.drop atHead
  | atBase, atHead, hunk :: rest =>
      atBase ≤ sidePlace hunk.1 ∧ atHead ≤ sidePlace hunk.2 ∧
      (base.take (sidePlace hunk.1)).drop atBase = (head.take (sidePlace hunk.2)).drop atHead ∧
      sidePlace hunk.1 + sideCount hunk.1 ≤ base.length ∧
      sidePlace hunk.2 + sideCount hunk.2 ≤ head.length ∧
      Transforms base head (sidePlace hunk.1 + sideCount hunk.1)
        (sidePlace hunk.2 + sideCount hunk.2) rest

/-- The lines of a source, as Git counts them. -/
def gitLines (source : String) : List String := (source.toList.splitOn '\n').map String.ofList

/-- The text of a definition, decorators included. -/
def Definition.text (definition : Definition) (source : String) : List String :=
  ((gitLines source).take definition.endLine).drop (definition.startLine - 1)

/-- One side of a hunk lies on some lines: it has one of them, or it has none and its place is
behind one of them; the place before the first line counts as that line. -/
def LiesOn (side : Nat × Option Nat) (first last : Nat) : Prop :=
  if sideCount side = 0 then first ≤ max 1 side.1 ∧ max 1 side.1 ≤ last
  else ∃ line, max 1 side.1 ≤ line ∧ line < max 1 side.1 + sideCount side ∧ first ≤ line ∧
    line ≤ last

theorem liesOn_iff {side : Nat × Option Nat} {first last : Nat} (ordered : first ≤ last) :
    LiesOn side first last ↔ first ≤ (hunkLines side).2 ∧ (hunkLines side).1 ≤ last := by
  unfold LiesOn hunkLines sideCount
  dsimp only
  split
  · exact Iff.rfl
  · rename_i some
    constructor
    · rintro ⟨line, after, before, inFirst, inLast⟩
      omega
    · intro meets
      exact ⟨max (max 1 side.1) first, by omega, by omega, by omega, by omega⟩

/-! ## A definition of both revisions -/

/-- A run over changed files, each of another path. -/
structure ChangedRun where
  retriever : DeterministicContextRetriever
  answer : GitCommand → Option CompletedProcess
  base : GitSha
  head : GitSha
  files : List ChangedFile
  distinct : (files.map ChangedFile.path).Nodup
  found : ChangedPython
  runs : (retriever.changedPythonContext base head files).under answer = .ok found

/-- A definition of a modified Python file that parses on both revisions. -/
structure EditedDefinition (run : ChangedRun) where
  file : ChangedFile
  changed : file ∈ run.files
  python : file.isPython = true
  modified : file.status = .modified
  baseSource : String
  baseTree : SyntaxTree
  readsBase : (run.retriever.readTree run.base file.path).under run.answer =
    .ok (some (baseSource, baseTree))
  headSource : String
  headTree : SyntaxTree
  readsHead : (run.retriever.readTree run.head file.path).under run.answer =
    .ok (some (headSource, headTree))
  completed : CompletedProcess
  diffed : (run.retriever.runGit (.diff 0 run.base run.head file.diffPaths)).under run.answer =
    .ok completed
  definition : Definition
  defined : definition ∈ headTree.definitions
  ordered : definition.line ≤ definition.endLine

namespace EditedDefinition

variable {run : ChangedRun} (edited : EditedDefinition run)

/-- The hunks that Git reports. -/
def hunks : List ((Nat × Option Nat) × (Nat × Option Nat)) :=
  ((run.retriever.runtime.decodeReplacing edited.completed.stdout).toList.splitOn '\n').filterMap
    (hunkHeader? run.retriever.runtime)

/-- The hunks lead from the BASE source to the HEAD source, BASE has a definition of the same
name, and none of that name has the same text. -/
structure Differs : Prop where
  script : Transforms (gitLines edited.baseSource) (gitLines edited.headSource) 0 0 edited.hunks
  shared : ∃ before ∈ edited.baseTree.definitions,
    before.qualifiedName = edited.definition.qualifiedName
  differs : ∀ before ∈ edited.baseTree.definitions,
    before.qualifiedName = edited.definition.qualifiedName →
      before.text edited.baseSource ≠ edited.definition.text edited.headSource

/-- The changed symbols have the definition. -/
def Collected : Prop :=
  ∃ symbol ∈ run.found.symbols, symbol.Of edited.file.path edited.definition.span

/-- The HEAD side of a hunk lies on the lines of the definition. -/
def Touched : Prop :=
  ∃ hunk ∈ edited.hunks,
    LiesOn hunk.2 edited.definition.startLine edited.definition.endLine

theorem startLine_le : edited.definition.startLine ≤ edited.definition.endLine := by
  have first : ∀ (lines : List Nat) (line : Nat), lines.foldl min line ≤ line := by
    intro lines
    induction lines with
    | nil => exact fun line => Nat.le_refl line
    | cons item rest ih => exact fun line => Nat.le_trans (ih (min line item)) (Nat.min_le_left _ _)
  exact Nat.le_trans (first _ _) edited.ordered

/-- The ranges of changed lines. -/
def ranges : List (Nat × Nat) :=
  changedRanges run.retriever.runtime false
    (run.retriever.runtime.decodeReplacing edited.completed.stdout)

/-- What the file comes to. -/
theorem shownSpans_eq :
    run.retriever.shownSpans run.answer run.base run.head edited.file =
      intersectingSpans edited.headTree edited.ranges := by
  have present : ¬ edited.file.status = .deleted := by
    rw [edited.modified]
    exact ChangeStatus.noConfusion
  have ranged : (run.retriever.changedLineRanges run.base run.head edited.file false).under
      run.answer = .ok edited.ranges := by
    rw [DeterministicContextRetriever.changedLineRanges, Program.under_bind, edited.diffed]
    rfl
  unfold DeterministicContextRetriever.shownSpans
  rw [edited.python, Bool.not_true, if_neg Bool.false_ne_true]
  dsimp only [DeterministicContextRetriever.readAt]
  rw [if_neg present, edited.readsHead, decide_eq_false present]
  dsimp only
  rw [ranged]

theorem kind_ne_module (definition : Definition) : definition.kind ≠ .module := by
  unfold Definition.kind
  intro same
  split at same
  · cases same
  · split at same <;> cases same
  · split at same <;> cases same

/-- A definition is collected exactly when it intersects a range. -/
theorem collected_iff : edited.Collected ↔
    ∃ range ∈ edited.ranges,
      edited.definition.startLine ≤ range.2 ∧ range.1 ≤ edited.definition.endLine := by
  have collects := DeterministicContextRetriever.changedPythonContext_collects run.runs
  constructor
  · rintro ⟨symbol, mem, same⟩
    obtain ⟨file, inFiles, span, shown, ofFile⟩ := collects.only symbol mem
    have sameFile : file = edited.file := by
      refine List.inj_on_of_nodup_map run.distinct inFiles edited.changed ?_
      exact ofFile.path.symm.trans same.path
    rw [sameFile, edited.shownSpans_eq] at shown
    unfold intersectingSpans at shown
    dsimp only at shown
    split at shown
    · obtain rfl := List.mem_singleton.mp shown
      exact absurd (same.kind.symm.trans ofFile.kind) (kind_ne_module _)
    · have passed := (List.mem_filter.mp shown).2
      obtain ⟨range, inRanges, meets⟩ := List.any_eq_true.mp passed
      rw [Bool.and_eq_true, decide_eq_true_eq, decide_eq_true_eq] at meets
      refine ⟨range, inRanges, ?_⟩
      rwa [← ofFile.startLine, ← ofFile.endLine, same.startLine, same.endLine] at meets
  · rintro ⟨range, inRanges, meets⟩
    apply collects.each edited.file edited.changed
    rw [edited.shownSpans_eq]
    have kept : edited.definition.span ∈ (edited.headTree.definitions.map Definition.span).filter
        fun span => edited.ranges.any fun range =>
          span.startLine ≤ range.2 && range.1 ≤ span.endLine := by
      refine List.mem_filter.mpr ⟨List.mem_map_of_mem edited.defined, ?_⟩
      refine List.any_eq_true.mpr ⟨range, inRanges, ?_⟩
      rw [Bool.and_eq_true, decide_eq_true_eq, decide_eq_true_eq]
      exact meets
    unfold intersectingSpans
    dsimp only
    rw [if_neg]
    · exact kept
    · intro none
      rw [List.isEmpty_iff.mp none] at kept
      cases kept

/-- With some hunk, a range that meets the definition is a hunk that lies on it. -/
theorem touched_iff (some : edited.hunks ≠ []) : edited.Touched ↔
    ∃ range ∈ edited.ranges,
      edited.definition.startLine ≤ range.2 ∧ range.1 ≤ edited.definition.endLine := by
  have same : edited.ranges = edited.hunks.map fun hunk => hunkLines hunk.2 := by
    unfold ranges changedRanges
    dsimp only [hunks] at some ⊢
    rw [if_neg]
    · rfl
    · intro none
      rw [List.isEmpty_iff, List.map_eq_nil_iff] at none
      exact some none
  rw [same]
  constructor
  · rintro ⟨hunk, mem, lies⟩
    exact ⟨_, List.mem_map_of_mem mem, (liesOn_iff edited.startLine_le).mp lies⟩
  · rintro ⟨range, mem, meets⟩
    obtain ⟨hunk, inHunks, rfl⟩ := List.mem_map.mp mem
    exact ⟨hunk, inHunks, (liesOn_iff edited.startLine_le).mpr meets⟩

/-- Sources with the same lines are the same. -/
theorem eq_of_gitLines_eq {first second : String} (same : gitLines first = gitLines second) :
    first = second := by
  have lines : first.toList.splitOn '\n' = second.toList.splitOn '\n' :=
    List.map_injective_iff.mpr (fun _ _ equal => String.ofList_injective equal) same
  have joined := congrArg (List.intercalate ['\n']) lines
  rw [List.intercalate_splitOn, List.intercalate_splitOn] at joined
  exact String.toList_injective joined

/-- The tree that is read is that of the source. -/
theorem parse_of_readTree {retriever : DeterministicContextRetriever}
    {answer : GitCommand → Option CompletedProcess} {revision : GitSha} {path : RepositoryPath}
    {source : String} {tree : SyntaxTree}
    (reads : (retriever.readTree revision path).under answer = .ok (some (source, tree))) :
    retriever.runtime.parse source = .tree tree := by
  unfold DeterministicContextRetriever.readTree at reads
  rw [Program.under_bind] at reads
  obtain ⟨read, _, reads⟩ := Guard.bind_eq_ok_iff.mp reads
  cases read with
  | none => cases reads
  | some text =>
      dsimp only at reads
      rw [Program.under_bind] at reads
      obtain ⟨parsed, parses, returned⟩ := Guard.bind_eq_ok_iff.mp reads
      cases parsed with
      | none => cases returned
      | some found =>
          cases returned
          have parsesTo : retriever.parsePython source = .ok (some tree) := parses
          unfold DeterministicContextRetriever.parsePython at parsesTo
          split at parsesTo
          · rename_i other parsed
            cases parsesTo
            exact parsed
          · cases parsesTo
          · cases parsesTo

/-- A definition that differs is never without a hunk. -/
theorem hunks_ne_nil (differs : edited.Differs) : edited.hunks ≠ [] := by
  intro none
  have script := differs.script
  rw [none] at script
  have sameSource : edited.baseSource = edited.headSource := eq_of_gitLines_eq script
  have sameTree : edited.baseTree = edited.headTree := by
    have parsesBase := parse_of_readTree edited.readsBase
    have parsesHead := parse_of_readTree edited.readsHead
    rw [sameSource, parsesHead] at parsesBase
    exact (ParseOutcome.tree.inj parsesBase).symm
  refine differs.differs edited.definition ?_ rfl ?_
  · rw [sameTree]
    exact edited.defined
  · rw [sameSource]

/-- **A definition that differs between the revisions is among the changed symbols exactly when
the HEAD side of a hunk lies on its lines.** -/
theorem collected_iff_touched :
    (edited.Differs → edited.Collected) ↔ (edited.Differs → edited.Touched) := by
  constructor
  · intro complete differs
    exact (edited.touched_iff (edited.hunks_ne_nil differs)).mpr
      (edited.collected_iff.mp (complete differs))
  · intro touches differs
    exact edited.collected_iff.mpr
      ((edited.touched_iff (edited.hunks_ne_nil differs)).mp (touches differs))

end EditedDefinition

/-! ## A lost decorator -/

/-- A decorated function behind an import. -/
def decoratedSource : String := "import a\n@a.b\ndef f(): pass\n"

/-- The same without the decorator. -/
def plainSource : String := "import a\ndef f(): pass\n"

/-- The function of both sources. -/
def plainFunction (line : Nat) (decoratorLines : List Nat) : Definition where
  scope := []
  name := "f"
  node := .functionDef false ⟨[], [], none, [], none⟩
  line := line
  endLine := line
  decoratorLines := decoratorLines

def decoratedTree : SyntaxTree where
  definitions := [plainFunction 3 [2]]
  calls := []
  imports := [(1, 1)]
  functions := [⟨"f", 3, 3, none⟩]

def plainTree : SyntaxTree where
  definitions := [plainFunction 2 []]
  calls := []
  imports := [(1, 1)]
  functions := [⟨"f", 2, 2, none⟩]

/-- The interpreter, of these two sources. -/
def decoratorRuntime : PythonRuntime :=
  { plainRuntime with
    parse source := .tree (if source = decoratedSource then decoratedTree else plainTree) }

/-- `app.py`, modified. -/
def decoratorFile : ChangedFile where
  path := ⟨"app.py", by decide +kernel⟩
  status := .modified
  previousPath := none
  isPython := true
  isTest := false
  renameSource := ChangeStatus.modified_unrenamed

/-- The zero-context diff of the two sources. -/
def decoratorDiff : String :=
  "diff --git a/app.py b/app.py\nindex 1f9a7cd..7d9b3a1 100644\n--- a/app.py\n+++ b/app.py\n" ++
    "@@ -2 +1,0 @@ import a\n-@a.b\n"

/-- The bytes of an ASCII text. -/
def asciiBytes (text : String) : List UInt8 := text.toList.map fun c => UInt8.ofNat c.toNat

/-- What Git answers: the sources of both revisions and their diff. -/
def decoratorAnswer : GitCommand → Option CompletedProcess
  | .showFile revision _ =>
      some ⟨0, asciiBytes (if revision = sampleBase then decoratedSource else plainSource), []⟩
  | .diff _ _ _ _ => some ⟨0, asciiBytes decoratorDiff, []⟩
  | _ => none

def decoratorRetriever : DeterministicContextRetriever where
  runtime := decoratorRuntime
  contextChars _ := 0

theorem decorator_runs : ∃ found, (decoratorRetriever.changedPythonContext sampleBase sampleHead
    [decoratorFile]).under decoratorAnswer = .ok found := by
  have returns : (match (decoratorRetriever.changedPythonContext sampleBase sampleHead
      [decoratorFile]).under decoratorAnswer with
      | .ok _ => true
      | .error _ => false) = true := by
    decide +kernel
  split at returns
  · rename_i found runs
    exact ⟨found, runs⟩
  · cases returns

theorem decorator_readsBase :
    (decoratorRetriever.readTree sampleBase decoratorFile.path).under decoratorAnswer =
      .ok (some (decoratedSource, decoratedTree)) := by
  rfl

theorem decorator_readsHead :
    (decoratorRetriever.readTree sampleHead decoratorFile.path).under decoratorAnswer =
      .ok (some (plainSource, plainTree)) := by
  have answered : decoratorAnswer (.showFile sampleHead decoratorFile.path) =
      some ⟨0, asciiBytes plainSource, []⟩ := by
    rw [decoratorAnswer, if_neg sampleRevisions_ne.symm]
  unfold DeterministicContextRetriever.readTree DeterministicContextRetriever.readSource
    DeterministicContextRetriever.runGit
  rw [Program.under_bind, Program.under_bind, Program.under_ask, answered]
  rfl

theorem decorator_hunks :
    ((decoratorRuntime.decodeReplacing (asciiBytes decoratorDiff)).toList.splitOn
      '\n').filterMap (hunkHeader? decoratorRuntime) = [((2, none), (1, some 0))] := by
  decide +kernel

theorem decorator_lines :
    gitLines decoratedSource = ["import a", "@a.b", "def f(): pass", ""] ∧
      gitLines plainSource = ["import a", "def f(): pass", ""] := by
  decide +kernel

section Decorator

variable (found : ChangedPython) (runs : (decoratorRetriever.changedPythonContext sampleBase
  sampleHead [decoratorFile]).under decoratorAnswer = .ok found)

/-- The run over that file. -/
def decoratorRun : ChangedRun where
  retriever := decoratorRetriever
  answer := decoratorAnswer
  base := sampleBase
  head := sampleHead
  files := [decoratorFile]
  distinct := List.nodup_singleton _
  found := found
  runs := runs

/-- The function that loses its decorator. -/
def decoratorEdited : EditedDefinition (decoratorRun found runs) where
  file := decoratorFile
  changed := List.mem_singleton_self _
  python := rfl
  modified := rfl
  baseSource := decoratedSource
  baseTree := decoratedTree
  readsBase := decorator_readsBase
  headSource := plainSource
  headTree := plainTree
  readsHead := decorator_readsHead
  completed := ⟨0, asciiBytes decoratorDiff, []⟩
  diffed := rfl
  definition := plainFunction 2 []
  defined := List.mem_singleton_self _
  ordered := Nat.le_refl 2

theorem decorator_edited_hunks :
    (decoratorEdited found runs).hunks = [((2, none), (1, some 0))] := by
  simp only [EditedDefinition.hunks, decoratorEdited, decoratorRun, decoratorRetriever]
  exact decorator_hunks

theorem decorator_differs : (decoratorEdited found runs).Differs := by
  obtain ⟨linesBase, linesHead⟩ := decorator_lines
  refine ⟨?_, ⟨plainFunction 3 [2], List.mem_singleton_self _, rfl⟩, ?_⟩
  · rw [decorator_edited_hunks]
    show Transforms (gitLines decoratedSource) (gitLines plainSource) 0 0 _
    rw [linesBase, linesHead]
    exact ⟨by decide, by decide, rfl, by decide, by decide, rfl⟩
  · intro before mem _
    obtain rfl := List.mem_singleton.mp mem
    show (plainFunction 3 [2]).text decoratedSource ≠ (plainFunction 2 []).text plainSource
    unfold Definition.text
    rw [linesBase, linesHead]
    decide

theorem decorator_uncollected : ¬ (decoratorEdited found runs).Collected := by
  intro collected
  have some : (decoratorEdited found runs).hunks ≠ [] := by
    rw [decorator_edited_hunks]
    exact List.cons_ne_nil _ _
  obtain ⟨hunk, mem, lies⟩ := ((decoratorEdited found runs).touched_iff some).mpr
    ((decoratorEdited found runs).collected_iff.mp collected)
  rw [decorator_edited_hunks] at mem
  obtain rfl := List.mem_singleton.mp mem
  have behind : 2 ≤ 1 := lies.1
  omega

end Decorator

/-- A function that loses its decorator is not among the changed symbols. -/
theorem lost_decorator_unseen :
    ∃ (run : ChangedRun) (edited : EditedDefinition run), edited.Differs ∧ ¬ edited.Collected := by
  obtain ⟨found, runs⟩ := decorator_runs
  exact ⟨_, decoratorEdited found runs, decorator_differs found runs,
    decorator_uncollected found runs⟩

end PatchProof
