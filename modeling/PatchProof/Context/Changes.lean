import PatchProof.Context.Retrieval

/-!
# The stages that follow the changed files

The changed files of the name-status diff, their bounded diff, and the symbols, excerpts
and imports of the changed Python files.  The commands of these stages name the current and
previous paths of the files they are given, so with visible files they are visible.
-/

set_option autoImplicit false

namespace PatchProof

/-- A changed Python file's symbols, with their excerpts and the imports. -/
structure ChangedPython where
  symbols : List ChangedSymbol := []
  snippets : List RankedSnippet := []
  imports : List RankedSnippet := []

/-- The state of the loop over the sections of the diff. -/
structure DiffSections where
  sections : List String := []
  remaining : Nat
  truncated : Bool := false

/-- What intersects the changed lines: the definitions, or the module when there are none. -/
structure SymbolSpan where
  qualifiedName : String
  kind : SymbolKind
  startLine : Nat
  endLine : Nat

def Definition.span (definition : Definition) : SymbolSpan where
  qualifiedName := definition.qualifiedName
  kind := definition.kind
  startLine := definition.startLine
  endLine := definition.endLine

/-- The spans of a tree that intersect the ranges. -/
def intersectingSpans (tree : SyntaxTree) (ranges : List (Nat × Nat)) : List SymbolSpan :=
  let intersecting := (tree.definitions.map Definition.span).filter fun span =>
    ranges.any fun range => span.startLine ≤ range.2 && range.1 ≤ span.endLine
  if intersecting.isEmpty then
    let start := (ranges.map Prod.fst).min?.getD 1
    [{ qualifiedName := "<module>", kind := .module, startLine := start,
       endLine := (ranges.map Prod.snd).max?.getD start }]
  else intersecting

namespace DeterministicContextRetriever

variable (retriever : DeterministicContextRetriever)

/-! ## Changed files -/

/-- `_changed_files`. -/
def changedFiles (base head : GitSha) : Retrieval (List ChangedFile) := do
  let completed ← retriever.runGit (.nameStatus base head)
  Retrieval.lift (readRecords (nulTokens completed.stdout))

/-- The changed files of which no path is excluded. -/
def visibleFiles (files : List ChangedFile) : List ChangedFile :=
  files.filter fun file => !file.isExcluded retriever.excludedPaths

/-! ## The diff -/

/-- One pass of the loop of `_bounded_diff`. -/
def diffSection (base head : GitSha) (state : DiffSections) (file : ChangedFile) :
    Retrieval DiffSections := do
  -- The source leaves the loop here; from then on every pass comes to this branch.
  if state.remaining ≤ truncationMarker.length then
    pure { state with truncated := true }
  else
    let completed ← retriever.runGit (.diff 3 base head file.diffPaths)
    let text := retriever.runtime.decodeReplacing completed.stdout
    if text = "" then pure state
    else
      let bounded := truncateMarked text (min retriever.budget.maxDiffCharsPerFile state.remaining)
      pure {
        sections := state.sections ++ [bounded.1]
        remaining := state.remaining - bounded.1.length
        truncated := state.truncated || bounded.2 }

/-- `_bounded_diff`. -/
def boundedDiff (base head : GitSha) (files : List ChangedFile) : Retrieval (String × Bool) := do
  let state ← (files.mergeSort ChangedFile.diffOrder).foldlM (retriever.diffSection base head)
    { remaining := retriever.budget.maxDiffChars }
  pure ("\n".intercalate state.sections, state.truncated)

/-! ## Changed symbols -/

/-- `_changed_line_ranges`. -/
def changedLineRanges (base head : GitSha) (file : ChangedFile) (useBase : Bool) :
    Retrieval (List (Nat × Nat)) := do
  let completed ← retriever.runGit (.diff 0 base head file.diffPaths)
  pure (changedRanges retriever.runtime useBase
    (retriever.runtime.decodeReplacing completed.stdout))

/-- The symbol of a span with its excerpt, unless it is there already. -/
def addSymbol (file : ChangedFile) (source : String) (found : ChangedPython) (span : SymbolSpan) :
    Except RetrievalError ChangedPython := do
  let symbol ← ChangedSymbol.check file.path span.qualifiedName span.kind span.startLine
    span.endLine
  if symbol ∈ found.symbols then .ok found
  else
    let snippet ← retriever.sourceSnippet .changedSymbol file.path source
      (max 1 (span.startLine - 2)) (span.endLine + 2)
      ("changed " ++ span.kind.lowered ++ " " ++ span.qualifiedName)
    .ok { found with
      symbols := found.symbols ++ [symbol]
      snippets := found.snippets ++ [⟨if file.isTest then 110 else 120, snippet⟩] }

/-- The excerpt of an import. -/
def addImport (file : ChangedFile) (source : String) (found : ChangedPython) (lines : Nat × Nat) :
    Except RetrievalError ChangedPython := do
  let snippet ← retriever.sourceSnippet .importStatement file.path source lines.1 lines.2
    "import used by a changed Python file"
  .ok { found with imports := found.imports ++ [⟨55, snippet⟩] }

/-- What is found in the source of a changed file. -/
def addSource (file : ChangedFile) (source : String) (tree : SyntaxTree)
    (ranges : List (Nat × Nat)) (found : ChangedPython) : Except RetrievalError ChangedPython := do
  let found ← (intersectingSpans tree ranges).foldlM (retriever.addSymbol file source) found
  tree.imports.foldlM (retriever.addImport file source) found

/-- The revision and the path at which a changed file is read. -/
def readAt (base head : GitSha) (file : ChangedFile) : GitSha × RepositoryPath :=
  if file.status = .deleted then (base, file.previousPath.getD file.path) else (head, file.path)

/-- One pass of the loop of `_changed_python_context`. -/
def addFile (base head : GitSha) (found : ChangedPython) (file : ChangedFile) :
    Retrieval ChangedPython := do
  if !file.isPython then pure found
  else
    let place := readAt base head file
    match ← retriever.readTree place.1 place.2 with
    | none => pure found
    | some (source, tree) =>
        let ranges ← retriever.changedLineRanges base head file (file.status = .deleted)
        Retrieval.lift (retriever.addSource file source tree ranges found)

/-- The order of the changed symbols. -/
def symbolOrder (first second : ChangedSymbol) : Bool :=
  (compareLex (compareOn fun symbol => symbol.path.text)
    (compareLex (compareOn ChangedSymbol.startLine)
      (compareOn fun symbol => symbol.qualifiedName.text)) first second).isLE

/-- `_changed_python_context`. -/
def changedPythonContext (base head : GitSha) (files : List ChangedFile) :
    Retrieval ChangedPython := do
  let found ← files.foldlM (retriever.addFile base head) {}
  pure { found with
    symbols := found.symbols.mergeSort symbolOrder
    imports := found.imports.take 4 }

/-! ## What the stages see -/

section Visible

variable {retriever} {excluded : List RepositoryPath} {revisions : List String}
  {base head : GitSha} {files : List ChangedFile}

/-- None of the paths of the files is excluded. -/
def AllVisible (excluded : List RepositoryPath) (files : List ChangedFile) : Prop :=
  ∀ file ∈ files, ∀ path ∈ file.diffPaths, path ∉ excluded

/-- The symbols are of paths that are not excluded. -/
def SymbolsVisible (excluded : List RepositoryPath) (symbols : List ChangedSymbol) : Prop :=
  ∀ symbol ∈ symbols, symbol.path ∉ excluded

theorem allVisible_visibleFiles (files : List ChangedFile) :
    AllVisible retriever.excludedPaths (retriever.visibleFiles files) := by
  intro file mem
  have visible := (List.mem_filter.mp mem).2
  exact ChangedFile.not_mem_of_not_isExcluded (by simpa using visible)

theorem AllVisible.take (visible : AllVisible excluded files) (count : Nat) :
    AllVisible excluded (files.take count) :=
  fun file mem => visible file (List.mem_of_mem_take mem)

theorem AllVisible.path {file : ChangedFile} (visible : AllVisible excluded files)
    (mem : file ∈ files) : file.path ∉ excluded :=
  visible file mem file.path (List.mem_append_right _ (List.mem_singleton_self _))

theorem AllVisible.previousPath {file : ChangedFile} (visible : AllVisible excluded files)
    (mem : file ∈ files) : file.previousPath.getD file.path ∉ excluded := by
  cases previous : file.previousPath with
  | none => exact visible.path mem
  | some path =>
      refine visible file mem path (List.mem_append_left _ ?_)
      rw [previous]
      exact List.mem_singleton_self path

theorem sees_changedFiles (baseKnown : base.text ∈ revisions) (headKnown : head.text ∈ revisions) :
    (retriever.changedFiles base head).Sees excluded revisions fun _ => True := by
  have visible : (GitCommand.nameStatus base head).Visible excluded revisions :=
    ⟨baseKnown, headKnown⟩
  unfold changedFiles
  exact (sees_runGit visible true).bind fun completed _ => .lift fun _ _ => True.intro

theorem sees_boundedDiff (baseKnown : base.text ∈ revisions) (headKnown : head.text ∈ revisions)
    (visible : AllVisible excluded files) :
    (retriever.boundedDiff base head files).Sees excluded revisions fun _ => True := by
  have sections : ((files.mergeSort ChangedFile.diffOrder).foldlM
      (retriever.diffSection base head) { remaining := retriever.budget.maxDiffChars }).Sees
        excluded revisions fun _ => True := by
    refine .foldlM True.intro fun file mem state _ => ?_
    have named : (GitCommand.diff 3 base head file.diffPaths).Visible excluded revisions :=
      ⟨baseKnown, headKnown, visible file (List.mem_mergeSort.mp mem)⟩
    unfold diffSection
    split
    · exact .pure True.intro
    · refine (sees_runGit named true).bind fun completed _ => ?_
      dsimp only
      split
      · exact .pure True.intro
      · exact .pure True.intro
  exact sections.bind fun state _ => .pure True.intro

theorem sees_changedLineRanges {file : ChangedFile} {useBase : Bool}
    (baseKnown : base.text ∈ revisions) (headKnown : head.text ∈ revisions)
    (visible : ∀ path ∈ file.diffPaths, path ∉ excluded) :
    (retriever.changedLineRanges base head file useBase).Sees excluded revisions
      fun _ => True := by
  have named : (GitCommand.diff 0 base head file.diffPaths).Visible excluded revisions :=
    ⟨baseKnown, headKnown, visible⟩
  unfold changedLineRanges
  exact (sees_runGit named true).bind fun completed _ => .pure True.intro

theorem sees_readAt {file : ChangedFile} (baseKnown : base.text ∈ revisions)
    (headKnown : head.text ∈ revisions) (visible : AllVisible excluded files)
    (mem : file ∈ files) :
    (retriever.readTree (readAt base head file).1 (readAt base head file).2).Sees excluded
      revisions fun _ => True := by
  unfold readAt
  split
  · exact sees_readTree baseKnown (visible.previousPath mem)
  · exact sees_readTree headKnown (visible.path mem)

end Visible

/-! ## Where changed symbols come from -/

section Symbols

variable {retriever} {excluded : List RepositoryPath} {file : ChangedFile} {source : String}
  {found result : ChangedPython}

theorem addSymbol_visible {span : SymbolSpan} (allowed : file.path ∉ excluded)
    (before : SymbolsVisible excluded found.symbols)
    (added : retriever.addSymbol file source found span = .ok result) :
    SymbolsVisible excluded result.symbols := by
  obtain ⟨symbol, checked, rest⟩ := Guard.bind_eq_ok_iff.mp added
  split at rest
  · cases rest
    exact before
  · obtain ⟨snippet, _, rest⟩ := Guard.bind_eq_ok_iff.mp rest
    cases rest
    intro other mem
    rcases List.mem_append.mp mem with old | new
    · exact before other old
    · rw [List.mem_singleton.mp new, ChangedSymbol.path_of_check checked]
      exact allowed

theorem addImport_symbols {lines : Nat × Nat}
    (added : retriever.addImport file source found lines = .ok result) :
    result.symbols = found.symbols := by
  obtain ⟨snippet, _, rest⟩ := Guard.bind_eq_ok_iff.mp added
  cases rest
  rfl

theorem addSource_visible {tree : SyntaxTree} {ranges : List (Nat × Nat)}
    (allowed : file.path ∉ excluded) (before : SymbolsVisible excluded found.symbols)
    (added : retriever.addSource file source tree ranges found = .ok result) :
    SymbolsVisible excluded result.symbols := by
  obtain ⟨middle, symbolsAdded, importsAdded⟩ := Guard.bind_eq_ok_iff.mp added
  have middleVisible : SymbolsVisible excluded middle.symbols :=
    Guard.foldlM_kept (fun found => SymbolsVisible excluded found.symbols)
      (fun found span next kept passed => addSymbol_visible allowed kept passed) before symbolsAdded
  refine Guard.foldlM_kept (fun found => SymbolsVisible excluded found.symbols)
    (fun found lines next kept passed => ?_) middleVisible importsAdded
  rw [addImport_symbols passed]
  exact kept

theorem sees_changedPythonContext {base head : GitSha} {revisions : List String}
    {files : List ChangedFile} (baseKnown : base.text ∈ revisions)
    (headKnown : head.text ∈ revisions) (visible : AllVisible excluded files) :
    (retriever.changedPythonContext base head files).Sees excluded revisions
      fun found => SymbolsVisible excluded found.symbols := by
  have scan : (files.foldlM (retriever.addFile base head) {}).Sees excluded revisions
      fun found => SymbolsVisible excluded found.symbols := by
    refine .foldlM (fun symbol mem => absurd mem List.not_mem_nil) fun file mem found kept => ?_
    unfold addFile
    split
    · exact .pure kept
    · refine (sees_readAt baseKnown headKnown visible mem).bind fun read _ => ?_
      cases read with
      | none => exact .pure kept
      | some parsed =>
          refine (sees_changedLineRanges baseKnown headKnown (visible file mem)).bind
            fun ranges _ => ?_
          exact .lift fun result added => addSource_visible (visible.path mem) kept added
  refine scan.bind fun found kept => .pure fun symbol mem => ?_
  exact kept symbol (List.mem_mergeSort.mp mem)

end Symbols

end DeterministicContextRetriever

end PatchProof
