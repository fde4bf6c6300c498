import PatchProof.Context.Changes

/-!
# The stages that scan the tree

The Python paths of HEAD without the excluded ones, and what is looked for at these paths:
tests that name a changed symbol, other sources that refer to one, and the bodies of the
helpers that changed code calls.  The interfaces of both revisions come from the changed
files.
-/

set_option autoImplicit false

namespace PatchProof

/-! ## Terms -/

/-- `_symbol_terms`. -/
def symbolTerms (symbols : List ChangedSymbol) : List String :=
  sortedSet (((symbols.filter fun symbol => symbol.kind ≠ .module).map fun symbol =>
    leafName symbol.qualifiedName.text).filter fun term => 2 ≤ term.length)

/-- How many of the terms occur in the path. -/
def occurringIn (path : RepositoryPath) (terms : List String) : Nat :=
  terms.countP fun term => isWithin term path.text

/-- A path that a key holds for comes first, otherwise the order is that of the texts. -/
def pathsFirst (first? : RepositoryPath → Bool) (paths : List RepositoryPath) :
    List RepositoryPath :=
  paths.mergeSort fun first second =>
    (compareLex (compareOn fun path => !first? path) (compareOn RepositoryPath.text) first
      second).isLE

theorem mem_pathsFirst {first? : RepositoryPath → Bool} {paths : List RepositoryPath}
    {path : RepositoryPath} : path ∈ pathsFirst first? paths ↔ path ∈ paths :=
  List.mem_mergeSort

/-- What a scan has found, and how many files it has read. -/
structure ScanState where
  ranked : List RankedSnippet := []
  scanned : Nat := 0

/-- What the search for helpers has found, and the names it found. -/
structure HelperState where
  ranked : List RankedSnippet := []
  seen : List String := []

namespace DeterministicContextRetriever

variable (retriever : DeterministicContextRetriever)

/-! ## Python paths -/

/-- `_python_paths`: the paths, whether there are more, and how many are excluded. -/
def pythonPaths (head : GitSha) : Retrieval (List RepositoryPath × Bool × Nat) := do
  let completed ← retriever.runGit (.listTree head)
  let all ← Retrieval.lift ((nulTokens completed.stdout).mapM decodePath)
  let python := all.filter RepositoryPath.isPython
  let paths := pathsFirst (fun _ => true)
    (python.filter fun path => !retriever.excludedPaths.contains path)
  pure (paths.take retriever.budget.maxPythonPaths,
    retriever.budget.maxPythonPaths < paths.length,
    python.countP retriever.excludedPaths.contains)

/-! ## Scanning files -/

/-- Reading and ranking one file of a scan. -/
def scanFile (head : GitSha)
    (rank : RepositoryPath → String → ScanState → Except RetrievalError ScanState)
    (state : ScanState) (path : RepositoryPath) : Retrieval ScanState := do
  let source ← retriever.readSource head path
  let counted : ScanState := { state with scanned := state.scanned + 1 }
  match source with
  | none => pure counted
  | some source => Retrieval.lift (rank path source counted)

/-- Reading and ranking the files of a scan. -/
def scanFiles (head : GitSha)
    (rank : RepositoryPath → String → ScanState → Except RetrievalError ScanState)
    (paths : List RepositoryPath) : Retrieval ScanState :=
  paths.foldlM (retriever.scanFile head rank) {}

/-! ## Likely tests -/

/-- `_best_test_span`. -/
def bestTestSpan (source : String) (terms : List String) : Except RetrievalError (Nat × Nat) := do
  let whole := (1, min 40 (max 1 (splitLines source).length))
  match ← retriever.parsePython source with
  | none => .ok whole
  | some tree =>
      let candidates := (tree.functions.filter fun function => startsWith "test_" function.name)
        |>.mergeSort fun first second => first.line ≤ second.line
      let best := candidates.find? fun function =>
        terms.isEmpty || terms.any (containsWord (function.segment.getD ""))
      .ok ((best.map fun function => (max 1 (function.line - 1), function.endLine + 1)).getD whole)

/-- What a likely test is shown for. -/
def testReason (isChanged : Bool) (matched : List String) : String :=
  let names := ", ".intercalate (matched.take 3)
  if isChanged && !matched.isEmpty then "changed test file referencing " ++ names
  else if isChanged then "changed test file"
  else "test references changed symbol(s): " ++ names

/-- The excerpt of a test file, where it is likely to test what has changed. -/
def rankTest (symbolNames moduleTerms : List String) (isChanged : Bool) (path : RepositoryPath)
    (source : String) (state : ScanState) : Except RetrievalError ScanState := do
  let matched := symbolNames.filter (containsWord source)
  let score := (if isChanged then 80 else 0) + 12 * matched.length +
    3 * occurringIn path moduleTerms
  if score = 0 then .ok state
  else
    let span ← retriever.bestTestSpan source matched
    let snippet ← retriever.sourceSnippet .likelyTest path source span.1 span.2
      (testReason isChanged matched)
    .ok { state with ranked := state.ranked ++ [⟨score, snippet⟩] }

/-- `_likely_test_snippets`. -/
def likelyTestSnippets (head : GitSha) (paths : List RepositoryPath) (files : List ChangedFile)
    (symbols : List ChangedSymbol) : Retrieval ScanState :=
  let isChanged := (files.map ChangedFile.path).contains
  let moduleTerms := ((symbols.filter fun symbol => symbol.path.isPython).map fun symbol =>
    symbol.path.stem).dedup
  retriever.scanFiles head
    (fun path => retriever.rankTest (symbolTerms symbols) moduleTerms (isChanged path) path)
    ((pathsFirst isChanged (paths.filter RepositoryPath.isTest)).take
      retriever.budget.maxTestFilesScanned)

/-! ## References -/

/-- The excerpt around the first line that names one of the terms. -/
def rankReference (terms : List String) (path : RepositoryPath) (source : String)
    (state : ScanState) : Except RetrievalError ScanState := do
  let matches_ := (splitLines source).zipIdx.map fun line =>
    (line.2 + 1, terms.filter (containsWord line.1))
  match matches_.find? fun line => !line.2.isEmpty with
  | none => .ok state
  | some (number, matched) =>
      let snippet ← retriever.sourceSnippet .symbolReference path source (max 1 (number - 2))
        (number + 2)
        ("source references changed symbol(s): " ++ ", ".intercalate (matched.take 3))
      .ok { state with ranked := state.ranked ++ [⟨35 + 5 * matched.length, snippet⟩] }

/-- The order in which references are looked for. -/
def referenceOrder (stems : List String) (first second : RepositoryPath) : Bool :=
  (compareLex (compareOn fun path => -(occurringIn path stems : Int))
    (compareOn RepositoryPath.text) first second).isLE

/-- `_reference_snippets`. -/
def referenceSnippets (head : GitSha) (paths : List RepositoryPath) (files : List ChangedFile)
    (symbols : List ChangedSymbol) : Retrieval ScanState :=
  let terms := symbolTerms symbols
  let isChanged := (files.map ChangedFile.path).contains
  let stems := (symbols.map fun symbol => symbol.path.stem).dedup
  if terms.isEmpty then pure {}
  else
    retriever.scanFiles head (retriever.rankReference terms)
      (((paths.filter fun path => !isChanged path && !path.isTest).mergeSort
        (referenceOrder stems)).take retriever.budget.maxReferenceFilesScanned)

/-! ## Called helpers -/

/-- The names called in the spans of the changed symbols of a path. -/
def calledNames (symbols : List ChangedSymbol) (path : RepositoryPath) (tree : SyntaxTree) :
    List String :=
  (tree.calls.filter fun call => symbols.any fun symbol => symbol.path = path &&
    symbol.startLine ≤ call.line && call.line ≤ symbol.endLine).filterMap CallSite.called

/-- The names called in one more file. -/
def addCalledNames (head : GitSha) (symbols : List ChangedSymbol) (called : List String)
    (path : RepositoryPath) : Retrieval (List String) := do
  match ← retriever.readTree head path with
  | none => pure called
  | some (_, tree) => pure (called ++ calledNames symbols path tree)

/-- `_directly_called_names`. -/
def directlyCalledNames (head : GitSha) (symbols : List ChangedSymbol) :
    Retrieval (List String) := do
  let changedLeaves := symbols.map fun symbol => leafName symbol.qualifiedName.text
  let called ← ((symbols.map ChangedSymbol.path).dedup).foldlM
    (retriever.addCalledNames head symbols) []
  pure (called.dedup.filter fun name => 3 ≤ name.length && !retriever.runtime.isKeyword name &&
    !retriever.runtime.isBuiltin name && !changedLeaves.contains name)

/-- One definition of a file, where it is a helper that is wanted. -/
def addHelper (wanted : List String) (path : RepositoryPath) (source : String)
    (state : HelperState) (definition : Definition) : Except RetrievalError HelperState := do
  let leaf := leafName definition.qualifiedName
  -- The source leaves the loop at the limit, after which nothing is added any more.
  if retriever.budget.maxCalledHelpers ≤ state.ranked.length ||
      !wanted.contains leaf || state.seen.contains leaf then
    .ok state
  else
    let snippet ← retriever.sourceSnippet .calledHelper path source definition.line
      definition.endLine ("unchanged helper called by changed code: " ++ definition.qualifiedName)
    if retriever.budget.maxCalledHelperChars < snippet.content.length then .ok state
    else .ok { ranked := state.ranked ++ [⟨95, snippet⟩], seen := state.seen ++ [leaf] }

/-- One pass over a file of the search for helpers. -/
def addHelpers (head : GitSha) (wanted : List String) (state : HelperState)
    (path : RepositoryPath) : Retrieval HelperState := do
  if retriever.budget.maxCalledHelpers ≤ state.ranked.length || path.isTest then pure state
  else
    match ← retriever.readTree head path with
    | none => pure state
    | some (source, tree) =>
        Retrieval.lift (tree.definitions.foldlM (retriever.addHelper wanted path source) state)

/-- `_called_helper_snippets`. -/
def calledHelperSnippets (head : GitSha) (symbols : List ChangedSymbol)
    (paths : List RepositoryPath) : Retrieval (List RankedSnippet) := do
  let wanted ← retriever.directlyCalledNames head symbols
  if wanted.isEmpty then pure []
  else
    let state ← ((pathsFirst (symbols.map ChangedSymbol.path).contains paths).take
      retriever.budget.maxReferenceFilesScanned).foldlM (retriever.addHelpers head wanted) {}
    pure state.ranked

/-! ## Interfaces -/

/-- `_defined_symbols`. -/
def definedSymbols (revision : GitSha) (path : RepositoryPath) : Retrieval (List String) := do
  match ← retriever.readTree revision path with
  | none => pure []
  | some (_, tree) => pure (tree.definitions.map Definition.qualifiedName)

/-- The symbols of both revisions of a changed file. -/
def addInterfaces (base head : GitSha) (found : List String × List String) (file : ChangedFile) :
    Retrieval (List String × List String) := do
  if !file.isPython || file.isTest then pure found
  else
    let baseSymbols ← retriever.definedSymbols base (file.previousPath.getD file.path)
    let headSymbols ← retriever.definedSymbols head file.path
    pure (found.1 ++ baseSymbols, found.2 ++ headSymbols)

/-- The interfaces of two sets of symbols. -/
def partitionInterfaces (baseSymbols headSymbols : List String) : CrossRevisionInterfaces :=
  let limit := retriever.budget.maxInterfaceSymbols
  let both := sortedSet (baseSymbols.filter headSymbols.contains)
  let added := sortedSet (headSymbols.filter fun name => !baseSymbols.contains name)
  let removed := sortedSet (baseSymbols.filter fun name => !headSymbols.contains name)
  have bounded (names : List String) : (names.take limit).length ≤ 40 := by
    rw [List.length_take]
    exact Nat.le_trans (Nat.min_le_left _ _) retriever.budget.interfacesBounded
  { presentOnBoth := both.take limit
    newOnHead := added.take limit
    removedOnBase := removed.take limit
    truncated := limit < max both.length (max added.length removed.length)
    bounded := ⟨bounded both, bounded added, bounded removed⟩ }

/-- `_cross_revision_interfaces`. -/
def crossRevisionInterfaces (base head : GitSha) (files : List ChangedFile) :
    Retrieval CrossRevisionInterfaces := do
  let found ← files.foldlM (retriever.addInterfaces base head) ([], [])
  pure (retriever.partitionInterfaces found.1 found.2)

/-! ## What the stages see -/

section Visible

variable {retriever} {excluded : List RepositoryPath} {revisions : List String}
  {base head : GitSha} {files : List ChangedFile} {symbols : List ChangedSymbol}
  {paths : List RepositoryPath}

theorem sees_pythonPaths (headKnown : head.text ∈ revisions) :
    (retriever.pythonPaths head).Sees excluded revisions
      fun found => ∀ path ∈ found.1, path ∉ retriever.excludedPaths := by
  have visible : (GitCommand.listTree head).Visible excluded revisions := headKnown
  unfold pythonPaths
  refine (sees_runGit visible true).bind fun completed _ => ?_
  refine .liftBind fun all _ => .pure fun path mem => ?_
  have kept := (List.mem_filter.mp (mem_pathsFirst.mp (List.mem_of_mem_take mem))).2
  simpa using kept

theorem sees_scanFiles (headKnown : head.text ∈ revisions)
    (rank : RepositoryPath → String → ScanState → Except RetrievalError ScanState)
    (visible : ∀ path ∈ paths, path ∉ excluded) :
    (retriever.scanFiles head rank paths).Sees excluded revisions fun _ => True := by
  refine .foldlM True.intro fun path mem state _ => ?_
  unfold scanFile
  refine (sees_readSource headKnown (visible path mem)).bind fun source _ => ?_
  cases source with
  | none => exact .pure True.intro
  | some source => exact .lift fun _ _ => True.intro

theorem sees_likelyTestSnippets (headKnown : head.text ∈ revisions)
    (visible : ∀ path ∈ paths, path ∉ excluded) :
    (retriever.likelyTestSnippets head paths files symbols).Sees excluded revisions
      fun _ => True := by
  refine sees_scanFiles headKnown _ fun path mem => visible path ?_
  exact (List.mem_filter.mp (mem_pathsFirst.mp (List.mem_of_mem_take mem))).1

theorem sees_referenceSnippets (headKnown : head.text ∈ revisions)
    (visible : ∀ path ∈ paths, path ∉ excluded) :
    (retriever.referenceSnippets head paths files symbols).Sees excluded revisions
      fun _ => True := by
  unfold referenceSnippets
  dsimp only
  split
  · exact .pure True.intro
  · refine sees_scanFiles headKnown _ fun path mem => visible path ?_
    exact (List.mem_filter.mp (List.mem_mergeSort.mp (List.mem_of_mem_take mem))).1

theorem sees_directlyCalledNames (headKnown : head.text ∈ revisions)
    (visible : SymbolsVisible excluded symbols) :
    (retriever.directlyCalledNames head symbols).Sees excluded revisions fun _ => True := by
  have scan : (((symbols.map ChangedSymbol.path).dedup).foldlM
      (retriever.addCalledNames head symbols) []).Sees excluded revisions fun _ => True := by
    refine .foldlM True.intro fun path mem called _ => ?_
    unfold addCalledNames
    obtain ⟨symbol, inSymbols, same⟩ := List.mem_map.mp (List.mem_dedup.mp mem)
    have allowed : path ∉ excluded := same ▸ visible symbol inSymbols
    refine (sees_readTree headKnown allowed).bind fun read _ => ?_
    cases read with
    | none => exact .pure True.intro
    | some parsed => exact .pure True.intro
  exact scan.bind fun called _ => .pure True.intro

theorem sees_calledHelperSnippets (headKnown : head.text ∈ revisions)
    (symbolsVisible : SymbolsVisible excluded symbols)
    (visible : ∀ path ∈ paths, path ∉ excluded) :
    (retriever.calledHelperSnippets head symbols paths).Sees excluded revisions
      fun _ => True := by
  unfold calledHelperSnippets
  refine (sees_directlyCalledNames headKnown symbolsVisible).bind fun wanted _ => ?_
  split
  · exact .pure True.intro
  · have search : (((pathsFirst (symbols.map ChangedSymbol.path).contains paths).take
        retriever.budget.maxReferenceFilesScanned).foldlM (retriever.addHelpers head wanted)
          {}).Sees excluded revisions fun _ => True := by
      refine .foldlM True.intro fun path mem state _ => ?_
      have allowed := visible path (mem_pathsFirst.mp (List.mem_of_mem_take mem))
      unfold addHelpers
      split
      · exact .pure True.intro
      · refine (sees_readTree headKnown allowed).bind fun read _ => ?_
        cases read with
        | none => exact .pure True.intro
        | some parsed => exact .lift fun _ _ => True.intro
    exact search.bind fun state _ => .pure True.intro

theorem sees_definedSymbols {revision : GitSha} {path : RepositoryPath}
    (known : revision.text ∈ revisions) (allowed : path ∉ excluded) :
    (retriever.definedSymbols revision path).Sees excluded revisions fun _ => True := by
  unfold definedSymbols
  refine (sees_readTree known allowed).bind fun read _ => ?_
  cases read with
  | none => exact .pure True.intro
  | some parsed => exact .pure True.intro

theorem sees_crossRevisionInterfaces (baseKnown : base.text ∈ revisions)
    (headKnown : head.text ∈ revisions) (visible : AllVisible excluded files) :
    (retriever.crossRevisionInterfaces base head files).Sees excluded revisions
      fun _ => True := by
  have scan : (files.foldlM (retriever.addInterfaces base head) ([], [])).Sees excluded revisions
      fun _ => True := by
    refine .foldlM True.intro fun file mem found _ => ?_
    unfold addInterfaces
    split
    · exact .pure True.intro
    · refine (sees_definedSymbols baseKnown (visible.previousPath mem)).bind
        fun baseSymbols _ => ?_
      refine (sees_definedSymbols headKnown (visible.path mem)).bind fun headSymbols _ => ?_
      exact .pure True.intro
  exact scan.bind fun found _ => .pure True.intro

end Visible

end DeterministicContextRetriever

end PatchProof
