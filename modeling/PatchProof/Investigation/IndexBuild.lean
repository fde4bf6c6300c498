import Mathlib.Algebra.GroupWithZero.Nat
import Mathlib.Data.Prod.Lex
import Mathlib.Data.String.Basic
import PatchProof.Investigation.SyntaxTree

/-!
# Building the index of a revision

How the index comes from a map of files or from a Git tree: files are skipped for several
reasons, each counted, the others are decoded and parsed, and what their visitors record is
kept as long as the budget admits it.  Every record is validated when it is made, and a record
that does not validate fails the build.

The decoder and the parser are those of Python and stand as parameters: each gives a result,
refuses with an exception that the build counts and skips, or raises another one.  So does the
interpreter's stack, which a tree may be too deep for.  The rows of the index are kept in the
order of the build; the index sorts them afterwards.
-/

set_option autoImplicit false

namespace PatchProof

/-! ## Budgets and failures -/

/-- Operator-controlled hard limits for deterministic static indexing. -/
structure RepositoryIndexBudget where
  maxFiles : Nat := 2000
  maxFileBytes : Nat := 256 * 1024
  maxTotalSourceBytes : Nat := 32 * 1024 * 1024
  maxSymbols : Nat := 30000
  maxImports : Nat := 30000
  maxReferences : Nat := 150000
  positive : 0 < maxFiles ∧ 0 < maxFileBytes ∧ 0 < maxTotalSourceBytes ∧ 0 < maxSymbols ∧
    0 < maxImports ∧ 0 < maxReferences := by decide
  ceilings : maxFiles ≤ 10000 ∧ maxFileBytes ≤ 1024 * 1024 ∧
    maxTotalSourceBytes ≤ 128 * 1024 * 1024 ∧ maxSymbols ≤ 100000 ∧ maxImports ≤ 100000 ∧
    maxReferences ≤ 500000 := by decide
  perFileBounded : maxFileBytes ≤ maxTotalSourceBytes := by decide

/-- Why no index is built. -/
inductive IndexFailure where
  | contract (message : String)
  | validation (message : String)
  | frontend (message : String)
  deriving DecidableEq

/-- How the decoder or the parser fails: with an exception that the build counts, or with
another one. -/
inductive FrontendFailure where
  | refused
  | raised (message : String)
  deriving DecidableEq

/-- The decoder and the parser of Python, the trees that the interpreter's stack lets the
visitors walk, and its word characters. -/
structure PythonFrontend where
  decode : List UInt8 → Except FrontendFailure String
  parse : String → Except FrontendFailure (List SyntaxNode)
  stackHolds : List SyntaxNode → Bool
  words : WordClass

/-! ## Rows -/

/-- `".".join(...) or "<module>"`. -/
def scopeText (names : List String) : String := orElseText (joinDots names) "<module>"

/-- A text whose length has both bounds. -/
def LengthIn (lower upper : Nat) (text : String) : Prop :=
  lower ≤ text.length ∧ text.length ≤ upper

instance (lower upper : Nat) (text : String) : Decidable (LengthIn lower upper text) :=
  inferInstanceAs (Decidable (_ ∧ _))

/-- What validation asks of the name of a module. -/
def ModuleFits (path : SourcePath) : Prop := LengthIn 1 512 (moduleName path.text)

instance (path : SourcePath) : Decidable (ModuleFits path) :=
  inferInstanceAs (Decidable (LengthIn _ _ _))

/-- What validation asks of an import. -/
def ImportCall.Fits (call : ImportCall) : Prop :=
  LengthIn 1 512 (scopeText call.scope) ∧ LengthIn 1 512 call.row.module ∧
    LengthIn 0 256 (call.row.importedName.getD "") ∧ LengthIn 1 256 call.row.aliasName ∧
    LengthIn 1 768 call.row.importedTarget ∧ LengthIn 0 768 (call.row.aliasTarget.getD "") ∧
    call.row.relativeLevel ≤ 100

instance (call : ImportCall) : Decidable call.Fits :=
  inferInstanceAs (Decidable (_ ∧ _ ∧ _ ∧ _ ∧ _ ∧ _ ∧ _))

/-- One observable identity of a file. -/
structure SymbolRow where
  path : SourcePath
  qualifiedName : String
  kind : ObservableSymbolKind
  startLine : Nat
  endLine : Nat
  definitionCount : Nat := 1
  definitionKinds : List ObservableSymbolKind

/-- The qualified name of the parent, if there is one. -/
def parentSymbol (qualifiedName : String) : Option String :=
  if isDotted qualifiedName then some (joinDots (dotParts qualifiedName).dropLast) else none

/-- What validation asks of a new symbol. -/
def SymbolFits (path : SourcePath) (qualifiedName : String) : Prop :=
  ModuleFits path ∧ LengthIn 1 512 qualifiedName ∧
    LengthIn 0 512 ((parentSymbol qualifiedName).getD "")

instance (path : SourcePath) (qualifiedName : String) : Decidable (SymbolFits path qualifiedName) :=
  inferInstanceAs (Decidable (_ ∧ _ ∧ _))

/-- One syntactic reference. -/
structure ReferenceRow where
  path : SourcePath
  scope : String
  kind : ReferenceKind
  name : String
  expression : String
  moduleImportAliasExpansion : Option String
  place : Place
  deriving DecidableEq

/-- What validation asks of a reference. -/
def ReferenceRow.Fits (row : ReferenceRow) : Prop :=
  LengthIn 1 512 row.scope ∧ LengthIn 1 256 row.name ∧ LengthIn 1 768 row.expression ∧
    LengthIn 0 768 (row.moduleImportAliasExpansion.getD "")

instance (row : ReferenceRow) : Decidable row.Fits :=
  inferInstanceAs (Decidable (_ ∧ _ ∧ _ ∧ _))

/-- Metadata of one file. -/
structure FileRow where
  path : SourcePath
  sizeBytes : Nat
  parsed : Bool

/-! ## The collector of imports -/

/-- What the collector of imports has gathered. -/
structure ImportCollection where
  imports : List ImportCall := []
  truncated : Bool := false
  omitted : Nat := 0

/-- `_ImportCollector._append`. -/
def ImportCollection.append (maximum : Nat) (collected : ImportCollection) (call : ImportCall) :
    Except IndexFailure ImportCollection :=
  if maximum ≤ collected.imports.length then
    .ok { collected with truncated := true, omitted := collected.omitted + 1 }
  else if call.Fits then .ok { collected with imports := collected.imports ++ [call] }
  else .error (.validation "IndexedImport")

/-- The alias targets that module-level imports give a name; of two the later. -/
def moduleAliases (imports : List ImportCall) (name : String) : Option String :=
  (imports.reverse.find? fun call => scopeText call.scope = "<module>" &&
    call.row.aliasTarget.isSome && call.row.importedName != some "*" &&
      call.row.aliasName == name).bind fun call => call.row.aliasTarget

/-! ## The visitor of definitions -/

/-- What the visitor of definitions has recorded. -/
structure Recording where
  symbols : List SymbolRow := []
  references : List ReferenceRow := []
  symbolsTruncated : Bool := false
  referencesTruncated : Bool := false
  symbolsOmitted : Nat := 0
  referencesOmitted : Nat := 0

/-- `expression.partition(".")[2]`. -/
def afterFirstDot (text : String) : String :=
  String.ofList ((text.toList.dropWhile (· != '.')).drop 1)

/-- The expansion of an expression whose first name an import of the module binds. -/
def aliasExpansion (aliases : String → Option String) (scopes : List VisitScope)
    (expression : String) : Option String :=
  let first := beforeFirstDot expression
  if scopes.any fun scope => scope.localBindings.contains first then none
  else ((aliases first).filter (· ≠ "")).map fun target =>
    if isDotted expression then target ++ "." ++ afterFirstDot expression else target

/-- The row of a reference. -/
def referenceRow (path : SourcePath) (aliases : String → Option String)
    (scopes : List VisitScope) (kind : ReferenceKind) (expression : String) (place : Place) :
    ReferenceRow where
  path := path
  scope := scopeText (scopeNames scopes)
  kind := kind
  name := leafName expression
  expression := expression
  moduleImportAliasExpansion := aliasExpansion aliases scopes expression
  place := place

/-- What limits the visitor of one file. -/
structure VisitLimits where
  maxSymbols : Nat
  maxReferences : Nat

/-- The symbol with one more definition. -/
def SymbolRow.withDefinition (existing : SymbolRow) (kind : ObservableSymbolKind)
    (startLine endLine : Nat) : SymbolRow :=
  { existing with
    startLine := min existing.startLine startLine
    endLine := max existing.endLine endLine
    definitionCount := existing.definitionCount + 1
    definitionKinds := if kind ∈ existing.definitionKinds then existing.definitionKinds
      else existing.definitionKinds ++ [kind] }

/-- `_append_symbol` and `_record_reference`. -/
def Recording.record (words : WordClass) (path : SourcePath) (aliases : String → Option String)
    (limits : VisitLimits) (recorded : Recording) :
    VisitorCall → Except IndexFailure Recording
  | .symbol qualifiedName kind startLine endLine =>
      if recorded.symbols.any fun symbol => symbol.qualifiedName == qualifiedName then
        .ok { recorded with symbols := recorded.symbols.map fun symbol =>
          if symbol.qualifiedName = qualifiedName then symbol.withDefinition kind startLine endLine
          else symbol }
      else if limits.maxSymbols ≤ recorded.symbols.length then
        .ok { recorded with
          symbolsTruncated := true, symbolsOmitted := recorded.symbolsOmitted + 1 }
      else if SymbolFits path qualifiedName then
        .ok { recorded with symbols := recorded.symbols ++
          [⟨path, qualifiedName, kind, startLine, endLine, 1, [kind]⟩] }
      else .error (.validation "IndexedSymbol")
  | .reference scopes kind expression place =>
      if limits.maxReferences ≤ recorded.references.length then
        .ok { recorded with
          referencesTruncated := true, referencesOmitted := recorded.referencesOmitted + 1 }
      else if isPlainIdentifier words (leafName expression) then
        let row := referenceRow path aliases scopes kind expression place
        if row.Fits then .ok { recorded with references := recorded.references ++ [row] }
        else .error (.validation "IndexedReference")
      else .ok recorded

/-! ## Which files are read -/

/-- A file with its bytes. -/
structure SourceFile where
  path : SourcePath
  content : List UInt8

/-- The order in which files are taken: those of priority first, then by path. -/
def takenOrder (priority : List String) (path : String) : Nat ×ₗ String :=
  toLex (if priority.contains path then 0 else 1, path)

/-- What the budget leaves of some items, and what it leaves out for which reason. -/
structure Selection (α : Type) where
  selected : List α := []
  total : Nat := 0
  oversized : Nat := 0
  fileLimitOmitted : Nat := 0
  byteBudgetOmitted : Nat := 0
  truncated : Bool := false

/-- One file of the build: the limit on files is looked at first. -/
def buildStep (budget : RepositoryIndexBudget) (selection : Selection SourceFile)
    (file : SourceFile) : Selection SourceFile :=
  if budget.maxFiles ≤ selection.selected.length then
    { selection with fileLimitOmitted := selection.fileLimitOmitted + 1, truncated := true }
  else if budget.maxFileBytes < file.content.length then
    { selection with oversized := selection.oversized + 1, truncated := true }
  else if budget.maxTotalSourceBytes < selection.total + file.content.length then
    { selection with byteBudgetOmitted := selection.byteBudgetOmitted + 1, truncated := true }
  else { selection with
    selected := selection.selected ++ [file]
    total := selection.total + file.content.length }

/-! ## The build -/

/-- What the build has gathered of the files so far. -/
structure BuildProgress where
  files : List FileRow := []
  symbols : List SymbolRow := []
  imports : List (SourcePath × ImportCall) := []
  references : List ReferenceRow := []
  undecodable : Nat := 0
  syntaxErrors : Nat := 0
  symbolsOmitted : Nat := 0
  importsOmitted : Nat := 0
  referencesOmitted : Nat := 0
  truncated : Bool

/-- The metadata of a file, when it validates. -/
def fileRow (file : SourceFile) (parsed : Bool) : Except IndexFailure FileRow :=
  if ModuleFits file.path then
    .ok ⟨file.path, file.content.length, parsed⟩
  else .error (.validation "IndexedPythonFile")

/-- Run both visitors over a tree, if the stack holds them. -/
def visitTree (frontend : PythonFrontend) (budget : RepositoryIndexBudget)
    (progress : BuildProgress) (path : SourcePath) (tree : List SyntaxNode) :
    Except IndexFailure BuildProgress := do
  Guard.require (frontend.stackHolds tree = true) (.frontend "maximum recursion depth exceeded")
  let collected ← (SyntaxNode.importCallsAll path.text [] tree).foldlM
    (ImportCollection.append (budget.maxImports - progress.imports.length)) {}
  let limits : VisitLimits := ⟨budget.maxSymbols - progress.symbols.length,
    budget.maxReferences - progress.references.length⟩
  let recorded ← (SyntaxNode.visitorCallsAll frontend.words [] tree).foldlM
    (Recording.record frontend.words path (moduleAliases collected.imports) limits) {}
  return { progress with
    imports := progress.imports ++ collected.imports.map fun call => (path, call)
    importsOmitted := progress.importsOmitted + collected.omitted
    symbols := progress.symbols ++ recorded.symbols
    references := progress.references ++ recorded.references
    symbolsOmitted := progress.symbolsOmitted + recorded.symbolsOmitted
    referencesOmitted := progress.referencesOmitted + recorded.referencesOmitted
    truncated := progress.truncated || (collected.truncated || recorded.symbolsTruncated ||
      recorded.referencesTruncated) }

/-- One selected file. -/
def indexFile (frontend : PythonFrontend) (budget : RepositoryIndexBudget)
    (progress : BuildProgress) (file : SourceFile) : Except IndexFailure BuildProgress :=
  match frontend.decode file.content with
  | .error .refused =>
      .ok { progress with undecodable := progress.undecodable + 1, truncated := true }
  | .error (.raised message) => .error (.frontend message)
  | .ok source =>
      match frontend.parse source with
      | .error (.raised message) => .error (.frontend message)
      | .error .refused => do
          let row ← fileRow file false
          return { progress with
            files := progress.files ++ [row]
            syntaxErrors := progress.syntaxErrors + 1
            truncated := true }
      | .ok tree => do
          let row ← fileRow file true
          visitTree frontend budget { progress with files := progress.files ++ [row] } file.path
            tree

/-- Auditable budget and omission facts of one build. -/
structure IndexBuildStats where
  discovered : Nat
  filesIndexed : Nat
  oversized : Nat
  undecodable : Nat
  symlinks : Nat
  excluded : Nat
  fileLimitOmitted : Nat
  byteBudgetOmitted : Nat
  symbolsOmitted : Nat
  importsOmitted : Nat
  referencesOmitted : Nat
  syntaxErrors : Nat
  totalSourceBytes : Nat
  truncated : Bool

/-- The rows of an index and the facts about its build. -/
structure BuiltIndex where
  files : List FileRow
  symbols : List SymbolRow
  imports : List (SourcePath × ImportCall)
  references : List ReferenceRow
  stats : IndexBuildStats

/-- What was counted before the build. -/
structure Discovery where
  discovered : Nat
  symlinks : Nat := 0
  excluded : Nat := 0
  fileLimitOmitted : Nat := 0
  byteBudgetOmitted : Nat := 0
  oversized : Nat := 0

/-- The files in the order in which the build takes them. -/
def takenFiles (priority : List String) (files : List SourceFile) : List SourceFile :=
  files.insertionSort fun first second =>
    takenOrder priority first.path.text ≤ takenOrder priority second.path.text

/-- What the build selects of some files. -/
def selectFiles (budget : RepositoryIndexBudget) (found : Discovery) (priority : List String)
    (files : List SourceFile) : Selection SourceFile :=
  (takenFiles priority files).foldl (buildStep budget)
    { oversized := found.oversized
      fileLimitOmitted := found.fileLimitOmitted
      byteBudgetOmitted := found.byteBudgetOmitted
      truncated := found.fileLimitOmitted != 0 || found.byteBudgetOmitted != 0 ||
        found.symlinks != 0 || found.excluded != 0 || found.oversized != 0 }

/-- `_build`. -/
def buildIndex (frontend : PythonFrontend) (budget : RepositoryIndexBudget)
    (found : Discovery) (priority : List String) (files : List SourceFile) :
    Except IndexFailure BuiltIndex := do
  let selection := selectFiles budget found priority files
  let progress ← selection.selected.foldlM (indexFile frontend budget)
    { truncated := selection.truncated }
  return {
    files := progress.files
    symbols := progress.symbols
    imports := progress.imports
    references := progress.references
    stats := {
      discovered := found.discovered
      filesIndexed := progress.files.length
      oversized := selection.oversized
      undecodable := progress.undecodable
      symlinks := found.symlinks
      excluded := found.excluded
      fileLimitOmitted := selection.fileLimitOmitted
      byteBudgetOmitted := selection.byteBudgetOmitted
      symbolsOmitted := progress.symbolsOmitted
      importsOmitted := progress.importsOmitted
      referencesOmitted := progress.referencesOmitted
      syntaxErrors := progress.syntaxErrors
      totalSourceBytes := (progress.files.map FileRow.sizeBytes).sum
      truncated := progress.truncated } }

/-! ## From a map of files -/

/-- The content of a file of a map. -/
inductive FileContent where
  | bytes (content : List UInt8)
  | text (content : String)

def FileContent.encoded : FileContent → List UInt8
  | .bytes content => content
  | .text content => content.toUTF8.toList

/-- A map from valid paths to contents. -/
structure FileMap where
  entries : List (SourcePath × FileContent)
  distinct : (entries.map Prod.fst).Nodup

/-- The files of a map that are not excluded. -/
def FileMap.normalized (files : FileMap) (excluded : List String) : List SourceFile :=
  (files.entries.filter fun entry => !excluded.contains entry.1.text).map fun entry =>
    ⟨entry.1, entry.2.encoded⟩

/-- `RepositoryIndex.from_files`. -/
def indexFromFiles (frontend : PythonFrontend) (files : FileMap)
    (budget : RepositoryIndexBudget) (excluded priority : List String) :
    Except IndexFailure BuiltIndex :=
  let excludedCount := files.entries.countP fun entry => excluded.contains entry.1.text
  let normalized := files.normalized excluded
  buildIndex frontend budget
    { discovered := normalized.length + excludedCount, excluded := excludedCount }
    priority normalized

/-! ## From a Git tree -/

/-- One entry of a tree listing; the size is absent where it is no number. -/
structure GitTreeEntry where
  path : String
  mode : String
  objectType : String
  objectId : String
  size : Option Nat

/-- A tree: its entries under distinct paths, and the content of its blobs. -/
structure GitTree where
  entries : List GitTreeEntry
  distinct : (entries.map GitTreeEntry.path).Nodup
  blobs : String → Option (List UInt8)

/-- A regular Python file of a tree. -/
structure SizedEntry where
  path : SourcePath
  objectId : String
  size : Nat

/-- What the listing of a tree comes to. -/
structure TreeScan where
  entries : List SizedEntry := []
  discovered : Nat := 0
  symlinks : Nat := 0
  excluded : Nat := 0

/-- One entry of the listing. -/
def scanEntry (excluded : List String) (scan : TreeScan) (entry : GitTreeEntry) :
    Except IndexFailure TreeScan :=
  if !endsWith ".py" entry.path then .ok scan
  else if valid : isRepositorySourcePath entry.path = true then
    let scan := { scan with discovered := scan.discovered + 1 }
    if excluded.contains entry.path then .ok { scan with excluded := scan.excluded + 1 }
    else if entry.mode = "120000" then .ok { scan with symlinks := scan.symlinks + 1 }
    else if entry.objectType ≠ "blob" || !isGitSha entry.objectId then
      .error (.contract "Python tree entry is not a regular Git blob")
    else match entry.size with
      | none => .error (.contract "Git blob size is invalid")
      | some size =>
          .ok { scan with entries := scan.entries ++ [⟨⟨entry.path, valid⟩, entry.objectId, size⟩] }
  else .error (.validation ((repositorySourcePathProblem entry.path).getD ""))

/-- One file of the tree: its size is looked at first. -/
def gitStep (budget : RepositoryIndexBudget) (selection : Selection SizedEntry)
    (entry : SizedEntry) : Selection SizedEntry :=
  if budget.maxFileBytes < entry.size then
    { selection with oversized := selection.oversized + 1 }
  else if budget.maxFiles ≤ selection.selected.length then
    { selection with fileLimitOmitted := selection.fileLimitOmitted + 1 }
  else if budget.maxTotalSourceBytes < selection.total + entry.size then
    { selection with byteBudgetOmitted := selection.byteBudgetOmitted + 1 }
  else { selection with
    selected := selection.selected ++ [entry]
    total := selection.total + entry.size }

/-- The entries in the order in which they are taken. -/
def takenEntries (priority : List String) (entries : List SizedEntry) : List SizedEntry :=
  entries.insertionSort fun first second =>
    takenOrder priority first.path.text ≤ takenOrder priority second.path.text

/-- Read the blob of an entry; it has the size that was listed. -/
def readBlob (tree : GitTree) (entry : SizedEntry) : Except IndexFailure SourceFile :=
  match tree.blobs entry.objectId with
  | some content =>
      if content.length = entry.size then .ok ⟨entry.path, content⟩
      else .error (.contract "Git blob identity changed during index build")
  | none => .error (.contract "Git batch object content is malformed")

/-- `RepositoryIndex.from_git`, of a tree that was listed. -/
def indexFromGit (frontend : PythonFrontend) (tree : GitTree) (budget : RepositoryIndexBudget)
    (excluded priority : List String) : Except IndexFailure BuiltIndex := do
  let scan ← tree.entries.foldlM (scanEntry excluded) {}
  let selection := (takenEntries priority scan.entries).foldl (gitStep budget) {}
  let files ← selection.selected.mapM (readBlob tree)
  buildIndex frontend budget
    { discovered := scan.discovered
      symlinks := scan.symlinks
      excluded := scan.excluded
      fileLimitOmitted := selection.fileLimitOmitted
      byteBudgetOmitted := selection.byteBudgetOmitted
      oversized := selection.oversized }
    priority files

end PatchProof
