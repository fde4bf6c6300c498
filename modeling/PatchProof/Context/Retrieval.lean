import PatchProof.Context.Git
import PatchProof.Library.Guard

/-!
# Retrieving the context of a pull request

The retriever as a routine that runs Git commands: the changed files, the bounded diff, the
changed symbols with their excerpts, the likely tests, the references, the bodies of called
helpers and the interfaces of both revisions.  Each stage comes with the lemma that every
command it runs is visible for the excluded paths.  Sources that were read are not kept, as
a second reading of the same revision and path gives the same source.
-/

set_option autoImplicit false

namespace PatchProof

/-- `DeterministicContextRetriever`, with the lengths and the digest of the encodings. -/
structure DeterministicContextRetriever where
  runtime : PythonRuntime
  budget : ContextBudget := .standard
  excludedPaths : List RepositoryPath := []
  contextChars : PullRequestContext → Nat

/-- A selected snippet with the score it is ordered by. -/
structure RankedSnippet where
  score : Nat
  snippet : ContextSnippet

/-! ## Decoding -/

/-- `_validate_repository_path`. -/
def validateRepositoryPath (value : String) : Except String RepositoryPath :=
  if wellFormed : isContextPath value = true then .ok ⟨value, wellFormed⟩
  else if value.toList.any fun c => c == '\\' || c == '\x00' || c == '\n' || c == '\r' then
    .error "repository path contains an unsupported character"
  else .error "repository path must be a normalized relative POSIX path"

/-- `_decode_path`. -/
def decodePath (value : List UInt8) : Except RetrievalError RepositoryPath :=
  match String.fromUTF8? ⟨value.toArray⟩ with
  | none => .error (.contextRetrieval "Git path is not valid UTF-8")
  | some text => (validateRepositoryPath text).mapError .contextRetrieval

/-- `value.decode("ascii")`. -/
def decodeAscii (value : List UInt8) : Except RetrievalError String :=
  if value.all fun byte => byte.toNat < 128 then
    .ok (String.ofList (value.map fun byte => Char.ofNat byte.toNat))
  else .error .undecodable

/-- `output.rstrip(b"\0").split(b"\0") if output else []`. -/
def nulTokens (output : List UInt8) : List (List UInt8) :=
  if output.isEmpty then []
  else (output.reverse.dropWhile (· == 0)).reverse.splitOn 0

/-- `Revision(role=role, sha=value)`. -/
def revisionSha (value : String) : Except RetrievalError GitSha :=
  if wellFormed : isGitSha (lower value) = true then .ok ⟨lower value, wellFormed⟩
  else .error (.invalid "revision SHA must be a full 40- or 64-character hexadecimal hash")

theorem revisionSha_text {value : String} {sha : GitSha} (named : revisionSha value = .ok sha) :
    sha.text = lower value := by
  unfold revisionSha at named
  split at named
  · cases named
    rfl
  · cases named

/-! ## Name-status records -/

/-- `_normalize_status`. -/
def normalizeStatus (value : String) : ChangeStatus :=
  match value.toList.head? with
  | some 'A' => .added
  | some 'M' => .modified
  | some 'D' => .deleted
  | some 'R' => .renamed
  | some 'C' => .copied
  | some 'T' => .typeChanged
  | some 'U' => .unmerged
  | _ => .unknown

/-- A record with a previous path where its status comes with one. -/
def ChangedFile.ofRecord (status : ChangeStatus) (path : RepositoryPath)
    (previousPath : Option RepositoryPath) (renameSource : status.hasPrevious = previousPath.isSome) :
    ChangedFile where
  path := path
  status := status
  previousPath := previousPath
  isPython := path.isPython
  isTest := path.isTest
  renameSource := renameSource

/-- The records of the tokens of a name-status diff. -/
def readRecords : List (List UInt8) → Except RetrievalError (List ChangedFile)
  | [] => .ok []
  | [token] => do
      let status := normalizeStatus (← decodeAscii token)
      if status.hasPrevious then
        .error (.contextRetrieval "Git returned an incomplete rename/copy record")
      else .error (.contextRetrieval "Git returned an incomplete name-status record")
  | token :: first :: rest => do
      let status := normalizeStatus (← decodeAscii token)
      if hasPrevious : status.hasPrevious = true then
        match rest with
        | [] => .error (.contextRetrieval "Git returned an incomplete rename/copy record")
        | second :: rest =>
            let previousPath ← decodePath first
            let path ← decodePath second
            let files ← readRecords rest
            .ok (.ofRecord status path (some previousPath) hasPrevious :: files)
      else
        let path ← decodePath first
        let files ← readRecords rest
        .ok (.ofRecord status path none (Bool.eq_false_iff.mpr hasPrevious) :: files)

namespace ChangedFile

/-- The paths that a diff of the file names. -/
def diffPaths (file : ChangedFile) : List RepositoryPath := file.previousPath.toList ++ [file.path]

/-- The order in which the diff takes the files. -/
def diffOrder (first second : ChangedFile) : Bool :=
  (compareLex (compareOn fun file => !file.isPython) (compareLex (compareOn ChangedFile.isTest)
    (compareOn fun file => file.path.text)) first second).isLE

/-- `_is_excluded_change`. -/
def isExcluded (excludedPaths : List RepositoryPath) (file : ChangedFile) : Bool :=
  excludedPaths.contains file.path || file.previousPath.any excludedPaths.contains

theorem not_mem_of_not_isExcluded {excludedPaths : List RepositoryPath} {file : ChangedFile}
    (visible : file.isExcluded excludedPaths = false) :
    ∀ path ∈ file.diffPaths, path ∉ excludedPaths := by
  intro path mem excluded
  simp only [isExcluded, Bool.or_eq_false_iff, List.contains_eq_mem,
    decide_eq_false_iff_not] at visible
  rcases List.mem_append.mp mem with previous | same
  · rw [Option.mem_toList] at previous
    rw [previous] at visible
    simp only [Option.any_some, List.contains_eq_mem, decide_eq_false_iff_not] at visible
    exact visible.2 excluded
  · rw [List.mem_singleton.mp same] at excluded
    exact visible.1 excluded

end ChangedFile

/-! ## Excerpts -/

/-- The lines that an excerpt is bounded to. -/
def boundedLines (count startLine endLine : Nat) : Nat × Nat :=
  let start := min (max 1 startLine) (max 1 count)
  (start, min (max start endLine) (max 1 count))

theorem boundedLines_ordered (count startLine endLine : Nat) :
    0 < (boundedLines count startLine endLine).1 ∧
      (boundedLines count startLine endLine).1 ≤ (boundedLines count startLine endLine).2 := by
  unfold boundedLines
  dsimp only
  omega

/-- A snippet, unless a validator refuses it. -/
def ContextSnippet.check (kind : SnippetKind) (path : RepositoryPath) (startLine endLine : Nat)
    (content reason : String) (lineRange : 0 < startLine ∧ startLine ≤ endLine) :
    Except RetrievalError ContextSnippet :=
  if valid : content ≠ "" ∧ 1 ≤ reason.length ∧ reason.length ≤ 300 then
    .ok {
      kind := kind
      path := path
      startLine := startLine
      endLine := endLine
      content := content
      reason := ⟨reason, valid.2⟩
      notEmpty := valid.1
      lineRange := lineRange }
  else .error (.invalid "ContextSnippet")

/-- A symbol, unless a validator refuses it. -/
def ChangedSymbol.check (path : RepositoryPath) (qualifiedName : String) (kind : SymbolKind)
    (startLine endLine : Nat) : Except RetrievalError ChangedSymbol :=
  if valid : (1 ≤ qualifiedName.length ∧ qualifiedName.length ≤ 256) ∧
      0 < startLine ∧ startLine ≤ endLine then
    .ok {
      path := path
      qualifiedName := ⟨qualifiedName, valid.1⟩
      kind := kind
      startLine := startLine
      endLine := endLine
      lineRange := valid.2 }
  else .error (.invalid "ChangedSymbol")

theorem ChangedSymbol.path_of_check {path : RepositoryPath} {qualifiedName : String}
    {kind : SymbolKind} {startLine endLine : Nat} {symbol : ChangedSymbol}
    (checked : check path qualifiedName kind startLine endLine = .ok symbol) :
    symbol.path = path := by
  unfold check at checked
  split at checked
  · cases checked
    rfl
  · cases checked

namespace DeterministicContextRetriever

variable (retriever : DeterministicContextRetriever)

/-- `_source_snippet`. -/
def sourceSnippet (kind : SnippetKind) (path : RepositoryPath) (source : String)
    (startLine endLine : Nat) (reason : String) : Except RetrievalError ContextSnippet :=
  let lines := splitLines source
  let bounds := boundedLines lines.length startLine endLine
  let content := orElseText (joinLines lines bounds.1 bounds.2) "# empty source line"
  ContextSnippet.check kind path bounds.1 bounds.2
    (truncateMarked content retriever.budget.maxSnippetChars).1 reason
    (boundedLines_ordered lines.length startLine endLine)

/-! ## Running Git -/

/-- `_run_git`. -/
def runGit (command : GitCommand) (check : Bool := true) : Retrieval CompletedProcess :=
  .ask command fun
    | none => .raise (.couldNotComplete command)
    | some completed =>
        if check && completed.returncode ≠ 0 then
          .raise (.contextRetrieval ("Git command failed with exit code " ++
            toString completed.returncode ++ ": " ++
            strip (retriever.runtime.decodeReplacing completed.stderr)))
        else pure completed

/-- `_resolve_sha`. -/
def resolveSha (value : String) : Retrieval GitSha := do
  let requested ← Retrieval.lift (revisionSha value)
  let completed ← retriever.runGit (.revParse requested)
  let actual ← Retrieval.lift ((decodeAscii completed.stdout).bind fun text =>
    revisionSha (strip text))
  if actual = requested then pure requested
  else .raise (.contextRetrieval "revision did not resolve to the requested immutable SHA")

/-- `_read_source`. -/
def readSource (revision : GitSha) (path : RepositoryPath) : Retrieval (Option String) := do
  let completed ← retriever.runGit (.showFile revision path) false
  if completed.returncode ≠ 0 ∨ retriever.budget.maxSourceFileBytes < completed.stdout.length then
    pure none
  else pure (retriever.runtime.decode completed.stdout)

/-- `_parse_python`. -/
def parsePython (source : String) : Except RetrievalError (Option SyntaxTree) :=
  match retriever.runtime.parse source with
  | .tree tree => .ok (some tree)
  | .refused => .ok none
  | .escaped => .error .parserFailure

/-- A source with its tree, unless it cannot be read or parsed. -/
def readTree (revision : GitSha) (path : RepositoryPath) :
    Retrieval (Option (String × SyntaxTree)) := do
  match ← retriever.readSource revision path with
  | none => pure none
  | some source =>
      let tree ← Retrieval.lift (retriever.parsePython source)
      pure (tree.map fun tree => (source, tree))

section Visible

variable {retriever} {excluded : List RepositoryPath} {revisions : List String}
  {base head : GitSha}

theorem sees_runGit {command : GitCommand} (visible : command.Visible excluded revisions)
    (check : Bool) : (retriever.runGit command check).Sees excluded revisions fun _ => True := by
  refine .ask visible fun reply => ?_
  cases reply with
  | none => exact .raise
  | some completed =>
      dsimp only
      split
      · exact .raise
      · exact .pure True.intro

theorem sees_resolveSha {value : String} (named : lower value ∈ revisions) :
    (retriever.resolveSha value).Sees excluded revisions fun sha => sha.text ∈ revisions := by
  unfold resolveSha
  refine .liftBind fun requested asked => ?_
  have known : requested.text ∈ revisions := (revisionSha_text asked).symm ▸ named
  have visible : (GitCommand.revParse requested).Visible excluded revisions := known
  refine (sees_runGit visible true).bind fun completed _ => ?_
  refine .liftBind fun actual _ => ?_
  split
  · exact .pure known
  · exact .raise

theorem sees_readSource {revision : GitSha} {path : RepositoryPath}
    (known : revision.text ∈ revisions) (allowed : path ∉ excluded) :
    (retriever.readSource revision path).Sees excluded revisions fun _ => True := by
  unfold readSource
  have visible : (GitCommand.showFile revision path).Visible excluded revisions := ⟨known, allowed⟩
  refine (sees_runGit visible false).bind fun completed _ => ?_
  split
  · exact .pure True.intro
  · exact .pure True.intro

theorem sees_readTree {revision : GitSha} {path : RepositoryPath}
    (known : revision.text ∈ revisions) (allowed : path ∉ excluded) :
    (retriever.readTree revision path).Sees excluded revisions fun _ => True := by
  unfold readTree
  refine (sees_readSource known allowed).bind fun source _ => ?_
  cases source with
  | none => exact .pure True.intro
  | some source => exact .liftBind fun tree _ => .pure True.intro

end Visible

end DeterministicContextRetriever

end PatchProof
