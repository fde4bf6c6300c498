import PatchProof.Library.Outcomes
import PatchProof.Context.ChangedSymbols

/-!
# When the stages of a retrieval return

With Git commands that succeed, a stage of the retrieval raises for two reasons: a record that it
makes does not validate, or the parser raises what the retriever does not expect.  Neither is an
error of the retrieval.  Each stage comes with the condition under which it returns; the names
and texts in these conditions are read off the sources that Git shows.
-/

set_option autoImplicit false

namespace PatchProof

/-- An exception that is not an error of the retrieval. -/
inductive RetrievalError.Escapes : RetrievalError → Prop
  | invalid (message : String) : Escapes (.invalid message)
  | undecodable : Escapes .undecodable
  | parserFailure : Escapes .parserFailure

/-- A computation that returns exactly under the condition, and otherwise lets an exception
escape. -/
abbrev StageEnds {α : Type} (condition : Prop) (facts : α → Prop)
    (outcome : Except RetrievalError α) : Prop :=
  Folds.EndsWhen RetrievalError.Escapes condition facts outcome

/-- Two commits in a repository in which Git commands succeed; a path may be missing in a
commit. -/
structure CommitPair (retriever : DeterministicContextRetriever) where
  reply : GitCommand → CompletedProcess
  succeeds : ∀ command, (∀ revision path, command ≠ .showFile revision path) →
    (reply command).returncode = 0
  baseSha : String
  headSha : String
  base : GitSha
  head : GitSha
  namesBase : revisionSha baseSha = .ok base
  namesHead : revisionSha headSha = .ok head
  resolves : ∀ sha ∈ [base, head],
    ((decodeAscii (reply (.revParse sha)).stdout).bind fun text => revisionSha (strip text)) =
      .ok sha
  files : List ChangedFile
  listsFiles : readRecords (nulTokens (reply (.nameStatus base head)).stdout) = .ok files
  tree : List RepositoryPath
  listsTree : (nulTokens (reply (.listTree head)).stdout).mapM decodePath = .ok tree

/-! ## Snippets -/

/-- A reason that a snippet can be shown for. -/
def ReasonFits (reason : String) : Prop := 1 ≤ reason.length ∧ reason.length ≤ 300

theorem truncateMarked_ne_empty {value : String} {maximum : Nat} (some : value ≠ "")
    (room : 0 < maximum) : (truncateMarked value maximum).1 ≠ "" := by
  unfold truncateMarked
  split
  · exact some
  · have marker : truncationMarker.length = 48 := by decide
    split
    · intro empty
      have lengths := congrArg String.length empty
      rw [truncate, String.length_ofList, List.length_take, String.length_toList, marker] at lengths
      have none : "".length = 0 := rfl
      omega
    · intro empty
      have lengths := congrArg String.length empty
      rw [String.length_append, marker] at lengths
      have none : "".length = 0 := rfl
      omega

theorem orElseText_ne_empty (text : String) {fallback : String} (some : fallback ≠ "") :
    orElseText text fallback ≠ "" := by
  unfold orElseText
  split
  · exact some
  · assumption

namespace DeterministicContextRetriever

variable (retriever : DeterministicContextRetriever)

/-- The content of the excerpt of these lines. -/
def excerpt (source : String) (startLine endLine : Nat) : String :=
  let lines := splitLines source
  let bounds := boundedLines lines.length startLine endLine
  (truncateMarked (orElseText (joinLines lines bounds.1 bounds.2) "# empty source line")
    retriever.budget.maxSnippetChars).1

theorem sourceSnippet_ends (kind : SnippetKind) (path : RepositoryPath) (source : String)
    (startLine endLine : Nat) (reason : String) :
    StageEnds (ReasonFits reason)
      (fun snippet => snippet.content = retriever.excerpt source startLine endLine)
      (retriever.sourceSnippet kind path source startLine endLine reason) := by
  unfold sourceSnippet ContextSnippet.check
  dsimp only
  have filled := truncateMarked_ne_empty (orElseText_ne_empty (joinLines (splitLines source)
    (boundedLines (splitLines source).length startLine endLine).1
    (boundedLines (splitLines source).length startLine endLine).2)
    (by decide : "# empty source line" ≠ "")) retriever.budget.snippetCharsPositive
  split
  · rename_i valid
    exact .returned valid.2 rfl
  · rename_i invalid
    apply Folds.EndsWhen.raised
    · intro fits
      exact invalid ⟨filled, fits⟩
    · exact .invalid _

end DeterministicContextRetriever

/-! ## Reading -/

namespace CommitPair

open DeterministicContextRetriever

variable {retriever : DeterministicContextRetriever} (pair : CommitPair retriever)

/-- What Git answers. -/
def answer (command : GitCommand) : Option CompletedProcess := some (pair.reply command)

/-- The text that is read at a path. -/
def textAt (revision : GitSha) (path : RepositoryPath) : Option String :=
  let completed := pair.reply (.showFile revision path)
  if completed.returncode ≠ 0 ∨ retriever.budget.maxSourceFileBytes < completed.stdout.length then
    none
  else retriever.runtime.decode completed.stdout

/-- The tree that is read at a path, with its text. -/
def treeAt (revision : GitSha) (path : RepositoryPath) : Option (String × SyntaxTree) :=
  (pair.textAt revision path).bind fun source =>
    match retriever.runtime.parse source with
    | .tree tree => some (source, tree)
    | _ => none

/-- The parser raises nothing unexpected for the text at a path. -/
def Parses (revision : GitSha) (path : RepositoryPath) : Prop :=
  ∀ source ∈ pair.textAt revision path, retriever.runtime.parse source ≠ .escaped

theorem runGit_under {command : GitCommand}
    (other : ∀ revision path, command ≠ .showFile revision path) :
    (retriever.runGit command).under pair.answer = .ok (pair.reply command) := by
  unfold runGit
  rw [Program.under_ask, answer]
  dsimp only
  rw [if_neg]
  · rfl
  · simp [pair.succeeds command other]

theorem readSource_under (revision : GitSha) (path : RepositoryPath) :
    (retriever.readSource revision path).under pair.answer = .ok (pair.textAt revision path) := by
  unfold readSource runGit
  rw [Program.under_bind, Program.under_ask, answer]
  dsimp only
  rw [Bool.false_and, if_neg Bool.false_ne_true]
  unfold textAt
  dsimp only
  by_cases unread : (pair.reply (.showFile revision path)).returncode ≠ 0 ∨
      retriever.budget.maxSourceFileBytes <
        (pair.reply (.showFile revision path)).stdout.length
  · rw [if_pos unread]
    show Program.under _ (if _ then _ else _) = _
    rw [if_pos unread]
    rfl
  · rw [if_neg unread]
    show Program.under _ (if _ then _ else _) = _
    rw [if_neg unread]
    rfl

theorem parsePython_ends (source : String) :
    StageEnds (retriever.runtime.parse source ≠ .escaped)
      (fun tree => tree = match retriever.runtime.parse source with
        | .tree tree => some tree
        | _ => none) (retriever.parsePython source) := by
  unfold parsePython
  cases parsed : retriever.runtime.parse source with
  | tree tree => exact .returned ParseOutcome.noConfusion rfl
  | refused => exact .returned ParseOutcome.noConfusion rfl
  | escaped => exact .raised (fun fits => fits rfl) .parserFailure

theorem readTree_ends (revision : GitSha) (path : RepositoryPath) :
    StageEnds (pair.Parses revision path) (fun read => read = pair.treeAt revision path)
      ((retriever.readTree revision path).under pair.answer) := by
  unfold readTree
  rw [Program.under_bind, pair.readSource_under, Guard.ok_bind]
  cases shown : pair.textAt revision path with
  | none =>
      refine .returned ?_ ?_
      · intro source mem
        rw [shown] at mem
        cases mem
      · rw [treeAt, shown]
        rfl
  | some source =>
      dsimp only
      rw [Program.under_bind]
      have same : pair.Parses revision path ↔ retriever.runtime.parse source ≠ .escaped := by
        simp [Parses, shown]
      refine Folds.EndsWhen.map ((parsePython_ends source).congr same.symm) ?_
      rintro tree rfl
      refine ⟨_, rfl, ?_⟩
      rw [treeAt, shown]
      cases parsed : retriever.runtime.parse source <;> simp [parsed]

/-! ## Changed symbols -/

/-- A span that a symbol can be made of. -/
def SpanFits (span : SymbolSpan) : Prop :=
  (1 ≤ span.qualifiedName.length ∧ span.qualifiedName.length ≤ 256) ∧
    0 < span.startLine ∧ span.startLine ≤ span.endLine

/-- The symbol of a span, unless there is none. -/
def symbolOf? (path : RepositoryPath) (span : SymbolSpan) : Option ChangedSymbol :=
  (ChangedSymbol.check path span.qualifiedName span.kind span.startLine span.endLine).toOption

/-- The symbols with that of one span more, each once. -/
def addSpan (path : RepositoryPath) (symbols : List ChangedSymbol) (span : SymbolSpan) :
    List ChangedSymbol :=
  match symbolOf? path span with
  | none => symbols
  | some symbol => if symbol ∈ symbols then symbols else symbols ++ [symbol]

/-- The spans that a changed file comes to. -/
def spans (file : ChangedFile) : List SymbolSpan :=
  retriever.shownSpans pair.answer pair.base pair.head file

/-- The changed symbols of some files. -/
def symbols (files : List ChangedFile) : List ChangedSymbol :=
  (files.foldl (fun symbols file => (pair.spans file).foldl (addSpan file.path) symbols)
    []).mergeSort symbolOrder

/-- The source of a changed Python file parses or is refused, and every span of it makes a
symbol. -/
def FileFits (file : ChangedFile) : Prop :=
  file.isPython = true →
    pair.Parses (readAt pair.base pair.head file).1 (readAt pair.base pair.head file).2 ∧
      ∀ span ∈ pair.spans file, SpanFits span

theorem check_ends (path : RepositoryPath) (span : SymbolSpan) :
    StageEnds (SpanFits span)
      (fun symbol => symbolOf? path span = some symbol ∧
        symbol.qualifiedName.text = span.qualifiedName)
      (ChangedSymbol.check path span.qualifiedName span.kind span.startLine span.endLine) := by
  unfold symbolOf? ChangedSymbol.check
  split
  · rename_i valid
    exact .returned valid ⟨rfl, rfl⟩
  · rename_i invalid
    exact .raised invalid (.invalid _)

theorem length_lowered_le (kind : SymbolKind) : kind.lowered.length ≤ 14 := by
  cases kind <;> decide

/-- The reason for a changed symbol always fits. -/
theorem changedReason_fits (kind : SymbolKind) {name : String} (short : name.length ≤ 256) :
    ReasonFits ("changed " ++ kind.lowered ++ " " ++ name) := by
  have word : "changed ".length = 8 := by decide
  have space : " ".length = 1 := by decide
  have lowered := length_lowered_le kind
  unfold ReasonFits
  rw [String.length_append, String.length_append, String.length_append, word, space]
  omega

section Sources

variable (retriever)

theorem addSymbol_ends (file : ChangedFile) (source : String) (found : ChangedPython)
    (span : SymbolSpan) :
    StageEnds (SpanFits span) (fun next => next.symbols = addSpan file.path found.symbols span)
      (retriever.addSymbol file source found span) := by
  unfold addSymbol
  refine Folds.EndsWhen.map (check_ends file.path span) ?_
  rintro symbol ⟨made, named⟩
  rw [addSpan, made]
  dsimp only
  by_cases known : symbol ∈ found.symbols
  · rw [if_pos known, if_pos known]
    exact ⟨found, rfl, rfl⟩
  · rw [if_neg known, if_neg known]
    have fits := changedReason_fits span.kind (named ▸ symbol.qualifiedName.bounded.2)
    have ends := retriever.sourceSnippet_ends .changedSymbol file.path source
      (max 1 (span.startLine - 2)) (span.endLine + 2)
      ("changed " ++ span.kind.lowered ++ " " ++ span.qualifiedName)
    obtain ⟨snippet, returned, _⟩ := ends.returns fits
    rw [returned, Guard.ok_bind]
    exact ⟨_, rfl, rfl⟩

theorem addImport_ends (file : ChangedFile) (source : String) (found : ChangedPython)
    (lines : Nat × Nat) :
    ∃ next, retriever.addImport file source found lines = .ok next ∧
      next.symbols = found.symbols := by
  unfold addImport
  have fits : ReasonFits "import used by a changed Python file" := by
    unfold ReasonFits
    decide
  obtain ⟨snippet, returned, _⟩ := (retriever.sourceSnippet_ends .importStatement file.path source
    lines.1 lines.2 _).returns fits
  rw [returned, Guard.ok_bind]
  exact ⟨_, rfl, rfl⟩

theorem addImports_ends (file : ChangedFile) (source : String) (imports : List (Nat × Nat))
    (found : ChangedPython) :
    ∃ next, imports.foldlM (retriever.addImport file source) found = .ok next ∧
      next.symbols = found.symbols := by
  induction imports generalizing found with
  | nil => exact ⟨found, rfl, rfl⟩
  | cons lines rest ih =>
      obtain ⟨middle, passed, kept⟩ := addImport_ends retriever file source found
        lines
      obtain ⟨next, more, keptToo⟩ := ih middle
      refine ⟨next, ?_, keptToo.trans kept⟩
      rw [List.foldlM_cons, passed, Guard.ok_bind]
      exact more

theorem addSource_ends (file : ChangedFile) (source : String) (tree : SyntaxTree)
    (ranges : List (Nat × Nat)) (found : ChangedPython) :
    StageEnds (∀ span ∈ intersectingSpans tree ranges, SpanFits span)
      (fun next => next.symbols =
        (intersectingSpans tree ranges).foldl (addSpan file.path) found.symbols)
      (retriever.addSource file source tree ranges found) := by
  unfold addSource
  have spans := (Folds.EndsWhen.loop ChangedPython.symbols (fun _ span => SpanFits span)
    (addSpan file.path) (addSymbol_ends retriever file source) (intersectingSpans tree ranges)
    found).congr (Folds.checked_each SpanFits _ _ _)
  refine spans.map ?_
  intro middle collected
  obtain ⟨next, returned, kept⟩ := addImports_ends retriever file source
    tree.imports middle
  exact ⟨next, returned, kept.trans collected⟩

end Sources

theorem changedLineRanges_under (file : ChangedFile) (useBase : Bool) :
    (retriever.changedLineRanges pair.base pair.head file useBase).under pair.answer =
      .ok (changedRanges retriever.runtime useBase (retriever.runtime.decodeReplacing
        (pair.reply (.diff 0 pair.base pair.head file.diffPaths)).stdout)) := by
  unfold changedLineRanges
  rw [Program.under_bind, pair.runGit_under (fun _ _ => GitCommand.noConfusion)]
  rfl

/-- What a changed Python file comes to whose source parses. -/
theorem spans_of_tree {file : ChangedFile} {source : String} {tree : SyntaxTree}
    (python : file.isPython = true)
    (reads : pair.textAt (readAt pair.base pair.head file).1 (readAt pair.base pair.head file).2 =
      some source)
    (parses : retriever.runtime.parse source = .tree tree) :
    pair.spans file = intersectingSpans tree (changedRanges retriever.runtime
      (file.status = .deleted) (retriever.runtime.decodeReplacing
        (pair.reply (.diff 0 pair.base pair.head file.diffPaths)).stdout)) := by
  have parsesIt : pair.Parses (readAt pair.base pair.head file).1
      (readAt pair.base pair.head file).2 := by
    intro other mem
    rw [reads] at mem
    obtain rfl := Option.some.inj mem
    rw [parses]
    exact ParseOutcome.noConfusion
  obtain ⟨read, returned, known⟩ := (pair.readTree_ends _ _).returns parsesIt
  have found : pair.treeAt (readAt pair.base pair.head file).1
      (readAt pair.base pair.head file).2 = some (source, tree) := by
    rw [treeAt, reads, Option.bind_some, parses]
  unfold spans shownSpans
  rw [python, Bool.not_true, if_neg Bool.false_ne_true]
  dsimp only
  rw [returned, known, found]
  dsimp only
  rw [pair.changedLineRanges_under]

theorem addFile_ends (found : ChangedPython) (file : ChangedFile) :
    StageEnds (pair.FileFits file)
      (fun next => next.symbols = (pair.spans file).foldl (addSpan file.path) found.symbols)
      ((retriever.addFile pair.base pair.head found file).under pair.answer) := by
  unfold addFile FileFits spans shownSpans
  by_cases python : file.isPython = true
  · rw [python, Bool.not_true, if_neg Bool.false_ne_true, if_neg Bool.false_ne_true]
    dsimp only
    rw [Program.under_bind]
    have reads := pair.readTree_ends (readAt pair.base pair.head file).1
      (readAt pair.base pair.head file).2
    cases read : (retriever.readTree (readAt pair.base pair.head file).1
        (readAt pair.base pair.head file).2).under pair.answer with
    | error exception =>
        rw [read] at reads
        cases reads with
        | raised fails expected => exact .raised (fun fits => fails (fits rfl).1) expected
    | ok shown =>
        rw [read] at reads
        have parses : pair.Parses (readAt pair.base pair.head file).1
            (readAt pair.base pair.head file).2 := by
          cases reads with
          | returned holds known => exact holds
        rw [Guard.ok_bind]
        cases shown with
        | none => exact .returned (fun _ => ⟨parses, fun _ mem => absurd mem List.not_mem_nil⟩) rfl
        | some parsed =>
            obtain ⟨source, tree⟩ := parsed
            dsimp only
            rw [Program.under_bind, pair.changedLineRanges_under, Guard.ok_bind]
            apply (addSource_ends retriever file source tree _ found).congr
            constructor
            · intro fits _
              exact ⟨parses, fits⟩
            · intro fits
              exact (fits rfl).2
  · rw [Bool.eq_false_iff.mpr python, Bool.not_false, if_pos rfl, if_pos rfl]
    exact .returned (fun absurdity => absurd absurdity Bool.false_ne_true) rfl

/-- The changed symbols are found exactly when every file fits. -/
theorem changedPythonContext_ends (files : List ChangedFile) :
    StageEnds (∀ file ∈ files, pair.FileFits file) (fun found => found.symbols = pair.symbols files)
      ((retriever.changedPythonContext pair.base pair.head files).under pair.answer) := by
  unfold changedPythonContext
  rw [Program.under_bind, Program.under_foldlM]
  have loops := (Folds.EndsWhen.loop ChangedPython.symbols (fun _ file => pair.FileFits file)
    (fun symbols file => (pair.spans file).foldl (addSpan file.path) symbols)
    pair.addFile_ends files {}).congr (Folds.checked_each pair.FileFits _ _ _)
  refine loops.map ?_
  intro found collected
  exact ⟨_, rfl, congrArg (List.mergeSort · symbolOrder) collected⟩

end CommitPair

end PatchProof
