import PatchProof.Context.Scans

/-!
# Excluded paths do not reach the context

The context of a pull request and the callable signatures, put together from the stages.
Whatever an excluded file contains, no stage reads it: two repositories that differ at
excluded paths only have the same context and the same signatures, or the retrieval fails
alike in both (`excluded_contents_unseen`).
-/

set_option autoImplicit false

namespace PatchProof

/-! ## The JSON budget -/

/-- The next smaller context: a shorter diff, then fewer snippets, then fewer files. -/
def PullRequestContext.shrunk? (context : PullRequestContext) : Option PullRequestContext :=
  let marked := { context with stats := { context.stats with truncated := true } }
  if 2000 < context.diff.length then
    some { marked with
      diff := (truncateMarked context.diff (max 2000 (context.diff.length - 2000))).1 }
  else if context.snippets ≠ [] then some { marked with snippets := context.snippets.dropLast }
  else if 1 < context.changedFiles.length then
    some { marked with changedFiles := context.changedFiles.dropLast }
  else none

/-- What is left to drop. -/
def PullRequestContext.size (context : PullRequestContext) : Nat :=
  context.diff.length + context.snippets.length + context.changedFiles.length

theorem PullRequestContext.size_lt_of_shrunk {context smaller : PullRequestContext}
    (shrunk : context.shrunk? = some smaller) : smaller.size < context.size := by
  unfold shrunk? at shrunk
  dsimp only at shrunk
  split at shrunk
  · cases shrunk
    have shorter := length_truncateMarked_le context.diff (max 2000 (context.diff.length - 2000))
    simp only [size]
    omega
  · split at shrunk
    · cases shrunk
      rename_i some_
      have positive := List.length_pos_of_ne_nil some_
      simp only [size, List.length_dropLast]
      omega
    · split at shrunk
      · cases shrunk
        simp only [size, List.length_dropLast]
        omega
      · cases shrunk

/-! ## Callable signatures -/

/-- One statically extracted callable signature. -/
structure RepositoryCallableSignature where
  path : RepositoryPath
  qualifiedName : BoundedText 1 256
  signature : BoundedText 1 300
  deriving DecidableEq

/-- A signature, unless a validator refuses it. -/
def RepositoryCallableSignature.check (path : RepositoryPath) (qualifiedName signature : String) :
    Except RetrievalError RepositoryCallableSignature :=
  if valid : (1 ≤ qualifiedName.length ∧ qualifiedName.length ≤ 256) ∧
      1 ≤ signature.length ∧ signature.length ≤ 300 then
    .ok ⟨path, ⟨qualifiedName, valid.1⟩, ⟨signature, valid.2⟩⟩
  else .error (.invalid "RepositoryCallableSignature")

/-- The signatures with their digest, `RepositorySignatureContext`. -/
structure CallableSignatures where
  signatures : List RepositoryCallableSignature
  truncated : Bool
  sha256 : Sha256
  bounded : signatures.length ≤ 8

/-- How signatures are encoded: the length of one and the digest of all. -/
structure SignatureEncoding where
  chars : RepositoryCallableSignature → Nat
  digest : List RepositoryCallableSignature → Bool → Sha256

/-- `RepositorySignatureContext.build`. -/
def CallableSignatures.build (encoding : SignatureEncoding)
    (signatures : List RepositoryCallableSignature) (truncated : Bool) :
    Except RetrievalError CallableSignatures :=
  if bounded : signatures.length ≤ 8 then
    .ok ⟨signatures, truncated, encoding.digest signatures truncated, bounded⟩
  else .error (.invalid "RepositorySignatureContext")

/-- What decides which callables are relevant. -/
structure SignatureQuery where
  affected : List (RepositoryPath × String)
  changedSymbols : List (RepositoryPath × String)
  changedPaths : List RepositoryPath
  terms : List String
  moduleHints : List String

/-- The callables found by a scan, and whether any was left out. -/
structure SignatureScan where
  ranked : List (Nat × RepositoryCallableSignature) := []
  truncated : Bool

/-- The selection of callables under the budget. -/
structure SignatureSelection where
  selected : List RepositoryCallableSignature := []
  totalChars : Nat := 0
  truncated : Bool

namespace DeterministicContextRetriever

variable (retriever : DeterministicContextRetriever)

/-! ## The context -/

/-- `_fit_json_budget`. -/
def fitJsonBudget (context : PullRequestContext) : Except RetrievalError PullRequestContext :=
  if retriever.contextChars context ≤ retriever.budget.maxContextJsonChars then .ok context
  else
    match _shrunk : context.shrunk? with
    | none => .error (.contextRetrieval "minimum context exceeds configured JSON budget")
    | some smaller => fitJsonBudget smaller
termination_by context.size
decreasing_by exact PullRequestContext.size_lt_of_shrunk _shrunk

/-- The order of the snippets: by falling score, then by place. -/
def rankedOrder (first second : RankedSnippet) : Bool :=
  (compareLex (compareOn fun ranked => -(ranked.score : Int))
    (compareLex (compareOn fun ranked => ranked.snippet.path.text)
      (compareOn fun ranked => ranked.snippet.startLine)) first second).isLE

/-- `retrieve`. -/
def retrieve (baseSha headSha : String) : Retrieval PullRequestContext := do
  let base ← retriever.resolveSha baseSha
  let head ← retriever.resolveSha headSha
  let allChangedFiles ← retriever.changedFiles base head
  let visibleChangedFiles := retriever.visibleFiles allChangedFiles
  let changedFiles := visibleChangedFiles.take retriever.budget.maxChangedFiles
  let diff ← retriever.boundedDiff base head changedFiles
  let changed ← retriever.changedPythonContext base head changedFiles
  let python ← retriever.pythonPaths head
  let tests ← retriever.likelyTestSnippets head python.1 changedFiles changed.symbols
  let references ← retriever.referenceSnippets head python.1 changedFiles changed.symbols
  let calledHelpers ← retriever.calledHelperSnippets head changed.symbols python.1
  let ranked := (changed.snippets ++ changed.imports ++ calledHelpers ++ tests.ranked ++
    references.ranked).mergeSort rankedOrder
  let interfaces ← retriever.crossRevisionInterfaces base head changedFiles
  let omitted := visibleChangedFiles.length - retriever.budget.maxChangedFiles
  Retrieval.lift (retriever.fitJsonBudget {
    baseSha := base
    headSha := head
    diff := diff.1
    changedFiles := changedFiles
    changedSymbols := changed.symbols.take retriever.budget.maxSymbols
    snippets := (ranked.take retriever.budget.maxSnippets).map RankedSnippet.snippet
    stats := {
      changedFileCount := allChangedFiles.length
      changedPythonFileCount := allChangedFiles.countP ChangedFile.isPython
      pythonPathCount := python.1.length
      testFilesScanned := tests.scanned
      referenceFilesScanned := references.scanned
      omittedChangedFiles := omitted
      excludedChangedFiles := allChangedFiles.length - visibleChangedFiles.length
      excludedPythonPaths := python.2.2
      truncated := 0 < omitted || diff.2 || python.2.1 ||
        retriever.budget.maxSnippets < ranked.length ||
        retriever.budget.maxSymbols < changed.symbols.length }
    interfaces := interfaces })

/-! ## The signatures -/

variable (encoding : SignatureEncoding)

/-- The affected symbols, unless one of them is invalid. -/
def normalizedAffected (affectedSymbols : List (String × String)) :
    Except RetrievalError (List (RepositoryPath × String)) :=
  affectedSymbols.mapM fun symbol => do
    let path ← (validateRepositoryPath symbol.1).mapError .invalid
    if symbol.2 = "" ∨ 256 < symbol.2.length then
      .error (.contextRetrieval "affected callable symbol is invalid")
    else .ok (path, symbol.2)

/-- What to look for, from the context and the affected symbols. -/
def signatureQuery (context : PullRequestContext) (affected : List (RepositoryPath × String)) :
    SignatureQuery :=
  let relevantText := "\n".intercalate (context.diff ::
    context.snippets.map ContextSnippet.content ++ affected.map Prod.snd)
  let symbols := context.changedSymbols.filter fun symbol => symbol.kind ≠ .module
  let terms := (affected.map fun symbol => leafName symbol.2) ++
    (symbols.map fun symbol => leafName symbol.qualifiedName.text) ++
    findAllIn (callableReference? retriever.runtime) relevantText ++
    findAllIn (qualifiedClass? retriever.runtime) relevantText
  { affected := affected
    changedSymbols := context.changedSymbols.map fun symbol =>
      (symbol.path, symbol.qualifiedName.text)
    changedPaths := (context.changedFiles.filter ChangedFile.isPython).map ChangedFile.path
    terms := terms.dedup.filter fun term => 2 ≤ term.length &&
      !retriever.runtime.isKeyword term && !retriever.runtime.isBuiltin term
    moduleHints := findAllIn (fun _ => moduleHint? retriever.runtime) relevantText }

/-- `path_priority`. -/
def pathPriority (query : SignatureQuery) (path : RepositoryPath) : Nat :=
  let lowercase := retriever.runtime.lowercase
  let hinted := query.moduleHints.any fun hint =>
    (path.parts.map lowercase).contains (lowercase hint) ||
      isWithin (lowercase hint) (lowercase path.text)
  if (query.affected.map Prod.fst).contains path then 0
  else if query.changedPaths.contains path then 1
  else if hinted then 2
  else 3

/-- The order in which the production paths are scanned. -/
def priorityOrder (query : SignatureQuery) (first second : RepositoryPath) : Bool :=
  (compareLex (compareOn (retriever.pathPriority query)) (compareOn RepositoryPath.text) first
    second).isLE

/-- One definition of a scanned file. -/
def addSignature (query : SignatureQuery) (path : RepositoryPath) (scan : SignatureScan)
    (definition : Definition) : Except RetrievalError SignatureScan :=
  let name := definition.qualifiedName
  let exact_ := query.affected.contains (path, name)
  let changed := query.changedSymbols.contains (path, name)
  if !exact_ && !changed && !query.terms.contains (leafName name) then .ok scan
  else if definition.isMethod && leafName name == "__init__" then .ok scan
  else
    match (definitionSignatureText definition).filter fun text =>
        text.length ≤ retriever.budget.maxSignatureChars with
    | none => .ok { scan with truncated := true }
    | some text => do
        let signature ← RepositoryCallableSignature.check path name text
        let score := (if exact_ then 400 else if changed then 300 else 100) +
          (if (query.affected.map Prod.fst).contains path then 40
            else if query.changedPaths.contains path then 20 else 0)
        .ok { scan with ranked := scan.ranked ++ [(score, signature)] }

/-- One pass over a file of the signature scan. -/
def addSignatures (head : GitSha) (query : SignatureQuery) (scan : SignatureScan)
    (path : RepositoryPath) : Retrieval SignatureScan := do
  match ← retriever.readTree head path with
  | none => pure scan
  | some (_, tree) =>
      Retrieval.lift (tree.definitions.foldlM (retriever.addSignature query path) scan)

/-- The order of the signatures: by falling score, then by path and name. -/
def signatureOrder (first second : Nat × RepositoryCallableSignature) : Bool :=
  (compareLex (compareOn fun ranked => -(ranked.1 : Int))
    (compareLex (compareOn fun ranked => ranked.2.path.text)
      (compareOn fun ranked => ranked.2.qualifiedName.text)) first second).isLE

/-- One signature of the selection. -/
def selectSignature (selection : SignatureSelection) (signature : RepositoryCallableSignature) :
    SignatureSelection :=
  let seen := selection.selected.any fun other =>
    other.path = signature.path && other.signature = signature.signature
  if seen then selection
  else if retriever.budget.maxSignatureCount ≤ selection.selected.length ||
      retriever.budget.maxSignatureContextChars <
        selection.totalChars + encoding.chars signature then
    { selection with truncated := true }
  else { selection with
    selected := selection.selected ++ [signature]
    totalChars := selection.totalChars + encoding.chars signature }

/-- The production paths, in the order of their priority. -/
def productionPaths (query : SignatureQuery) (paths : List RepositoryPath) :
    List RepositoryPath :=
  (paths.filter fun path => !path.isTest).mergeSort (retriever.priorityOrder query)

/-- `retrieve_callable_signatures`. -/
def retrieveCallableSignatures (headSha : String) (context : PullRequestContext)
    (affectedSymbols : List (String × String)) : Retrieval CallableSignatures := do
  let head ← retriever.resolveSha headSha
  if head ≠ context.headSha then
    .raise (.contextRetrieval "signature revision differs from retrieved context")
  else
    let affected ← Retrieval.lift (normalizedAffected affectedSymbols)
    let query := retriever.signatureQuery context affected
    if query.terms.isEmpty then Retrieval.lift (CallableSignatures.build encoding [] false)
    else
      let python ← retriever.pythonPaths head
      let production := retriever.productionPaths query python.1
      let scanPaths := production.take retriever.budget.maxSignatureFilesScanned
      let scan ← scanPaths.foldlM (retriever.addSignatures head query)
        { truncated := python.2.1 || scanPaths.length < production.length }
      let selection := ((scan.ranked.mergeSort signatureOrder).map Prod.snd).foldl
        (retriever.selectSignature encoding) { truncated := scan.truncated }
      Retrieval.lift (CallableSignatures.build encoding selection.selected selection.truncated)

/-! ## What both routines see -/

section Visible

variable {retriever encoding} {revisions : List String}

theorem sees_retrieve {baseSha headSha : String} (baseNamed : lower baseSha ∈ revisions)
    (headNamed : lower headSha ∈ revisions) :
    (retriever.retrieve baseSha headSha).Sees retriever.excludedPaths revisions
      fun _ => True := by
  unfold retrieve
  refine (sees_resolveSha baseNamed).bind fun base baseKnown => ?_
  refine (sees_resolveSha headNamed).bind fun head headKnown => ?_
  refine (sees_changedFiles baseKnown headKnown).bind fun allChangedFiles _ => ?_
  have visible : AllVisible retriever.excludedPaths _ :=
    (allVisible_visibleFiles allChangedFiles).take retriever.budget.maxChangedFiles
  refine (sees_boundedDiff baseKnown headKnown visible).bind fun diff _ => ?_
  refine (sees_changedPythonContext baseKnown headKnown visible).bind
    fun changed symbolsVisible => ?_
  refine (sees_pythonPaths headKnown).bind fun python pathsVisible => ?_
  refine (sees_likelyTestSnippets headKnown pathsVisible).bind fun tests _ => ?_
  refine (sees_referenceSnippets headKnown pathsVisible).bind fun references _ => ?_
  refine (sees_calledHelperSnippets headKnown symbolsVisible pathsVisible).bind
    fun calledHelpers _ => ?_
  refine (sees_crossRevisionInterfaces baseKnown headKnown visible).bind fun interfaces _ => ?_
  exact .lift fun _ _ => True.intro

theorem sees_addSignatures {head : GitSha} {query : SignatureQuery} {scan : SignatureScan}
    {path : RepositoryPath} (headKnown : head.text ∈ revisions)
    (allowed : path ∉ retriever.excludedPaths) :
    (retriever.addSignatures head query scan path).Sees retriever.excludedPaths revisions
      fun _ => True := by
  unfold addSignatures
  refine (sees_readTree headKnown allowed).bind fun read _ => ?_
  cases read with
  | none => exact .pure True.intro
  | some parsed => exact .lift fun _ _ => True.intro

theorem sees_signatureScan {head : GitSha} {query : SignatureQuery} {start : SignatureScan}
    {paths : List RepositoryPath} {count : Nat} (headKnown : head.text ∈ revisions)
    (visible : ∀ path ∈ paths, path ∉ retriever.excludedPaths) :
    (((retriever.productionPaths query paths).take count).foldlM
      (retriever.addSignatures head query) start).Sees retriever.excludedPaths revisions
        fun _ => True := by
  refine .foldlM True.intro fun path mem scan _ => ?_
  have inPaths := (List.mem_filter.mp (List.mem_mergeSort.mp (List.mem_of_mem_take mem))).1
  exact sees_addSignatures headKnown (visible path inPaths)

theorem sees_retrieveCallableSignatures {headSha : String} {context : PullRequestContext}
    {affectedSymbols : List (String × String)} (headNamed : lower headSha ∈ revisions) :
    (retriever.retrieveCallableSignatures encoding headSha context affectedSymbols).Sees
      retriever.excludedPaths revisions fun _ => True := by
  unfold retrieveCallableSignatures
  refine (sees_resolveSha headNamed).bind fun head headKnown => ?_
  split
  · exact .raise
  · refine .liftBind fun affected _ => ?_
    dsimp only
    split
    · exact .lift fun _ _ => True.intro
    · refine (sees_pythonPaths headKnown).bind fun python pathsVisible => ?_
      refine (sees_signatureScan headKnown pathsVisible).bind fun scan _ => ?_
      exact .lift fun _ _ => True.intro

end Visible

/-- **What excluded files contain is not seen.**  Two repositories with the same revisions,
name-status diff and tree listings, and with the same entries at all paths that are not
excluded, give the same context and the same callable signatures, or fail alike. -/
theorem excluded_contents_unseen (git : GitBehavior) {first second : GitRepository}
    {baseSha headSha : String}
    (agree : AgreeOutside retriever.excludedPaths [lower baseSha, lower headSha] first second) :
    (retriever.retrieve baseSha headSha).under (git.answer first) =
        (retriever.retrieve baseSha headSha).under (git.answer second) ∧
      ∀ context affectedSymbols,
        (retriever.retrieveCallableSignatures encoding headSha context affectedSymbols).under
            (git.answer first) =
          (retriever.retrieveCallableSignatures encoding headSha context affectedSymbols).under
            (git.answer second) := by
  have headNamed : lower headSha ∈ [lower baseSha, lower headSha] :=
    List.mem_cons_of_mem _ (List.mem_singleton_self _)
  constructor
  · exact (sees_retrieve List.mem_cons_self headNamed).under_eq agree git
  · intro context affectedSymbols
    exact (sees_retrieveCallableSignatures headNamed).under_eq agree git

/-! ## Two repositories that differ at an excluded path -/

/-- The path of the one file that changes. -/
def excludedPath : RepositoryPath := ⟨"secret.py", by decide +kernel⟩

/-- A repository in which one file has changed to the given content. -/
def oneFileRepository (content : List UInt8) : GitRepository where
  resolve sha := some ⟨0, sha.text.toUTF8.data.toList, []⟩
  nameStatus _ _ := some ⟨0, "M\x00secret.py\x00".toUTF8.data.toList, []⟩
  tree _ := some ⟨0, "secret.py\x00".toUTF8.data.toList, []⟩
  entry _ path := if path = excludedPath then some ⟨33188, content⟩ else none

/-- A Git that shows the content of an entry, and of a diff the new contents. -/
def plainGit : GitBehavior where
  showEntry _ _ entry := match entry with
    | some entry => some ⟨0, entry.content, []⟩
    | none => some ⟨128, [], []⟩
  diffEntries _ _ _ entries := some ⟨0, entries.flatMap fun entry =>
    (entry.2.2.map TreeEntry.content).getD [], []⟩

/-- A retriever for which one path is excluded. -/
def excludingRetriever : DeterministicContextRetriever where
  runtime := plainRuntime
  excludedPaths := [excludedPath]
  contextChars context := context.diff.length

/-- An encoding in which every signature has length one. -/
def plainEncoding : SignatureEncoding where
  chars _ := 1
  digest _ _ := ⟨String.ofList (List.replicate 64 '0'), isSha256_zeros⟩

/-- The names of two revisions. -/
def sampleBaseSha : String := "0000000000000000000000000000000000000000"

def sampleHeadSha : String := "1111111111111111111111111111111111111111"

/-- The contents of the excluded file differ, and what is retrieved does not. -/
theorem excluded_contents_unseen_differing :
    (∀ sha, (oneFileRepository [1]).entry sha excludedPath ≠
      (oneFileRepository [2]).entry sha excludedPath) ∧
    (excludingRetriever.retrieve sampleBaseSha sampleHeadSha).under
        (plainGit.answer (oneFileRepository [1])) =
      (excludingRetriever.retrieve sampleBaseSha sampleHeadSha).under
        (plainGit.answer (oneFileRepository [2])) ∧
    ∀ context affectedSymbols,
      (excludingRetriever.retrieveCallableSignatures plainEncoding sampleHeadSha context
          affectedSymbols).under (plainGit.answer (oneFileRepository [1])) =
        (excludingRetriever.retrieveCallableSignatures plainEncoding sampleHeadSha context
          affectedSymbols).under (plainGit.answer (oneFileRepository [2])) := by
  have agree : AgreeOutside excludingRetriever.excludedPaths [lower sampleBaseSha, lower sampleHeadSha]
      (oneFileRepository [1]) (oneFileRepository [2]) := by
    refine ⟨fun _ _ => rfl, fun _ _ _ _ => rfl, fun _ _ => rfl, fun sha path _ visible => ?_⟩
    have other : path ≠ excludedPath := fun same => visible (same ▸ List.mem_cons_self)
    simp only [oneFileRepository, if_neg other]
  refine ⟨fun sha same => ?_, excluded_contents_unseen excludingRetriever plainEncoding plainGit
    agree⟩
  simp [oneFileRepository] at same

end DeterministicContextRetriever

end PatchProof
