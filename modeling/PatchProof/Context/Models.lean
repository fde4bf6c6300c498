import PatchProof.ClaimAgent
import PatchProof.Investigation.Index

/-!
# The context of a pull request

The bounded facts about one immutable pair of revisions that the prompts are built from:
the changed files and symbols, the snippets, the interfaces of the two revisions, and the
limits of their retrieval.
-/

set_option autoImplicit false

namespace PatchProof

/-! ## Files and symbols -/

/-- A path that passed `_validate_repository_path`. -/
@[ext] structure RepositoryPath where
  text : String
  wellFormed : isContextPath text = true

instance : DecidableEq RepositoryPath := fun _ _ => decidable_of_iff _ RepositoryPath.ext_iff.symm

/-- Normalized Git name-status value. -/
inductive ChangeStatus where
  | added
  | modified
  | deleted
  | renamed
  | copied
  | typeChanged
  | unmerged
  | unknown
  deriving DecidableEq

/-- Whether a status comes with a previous path. -/
def ChangeStatus.hasPrevious : ChangeStatus → Bool
  | .renamed | .copied => true
  | _ => false

/-- Python syntax construct intersecting a changed line range. -/
inductive SymbolKind where
  | function
  | asyncFunction
  | method
  | asyncMethod
  | classDefinition
  | module
  deriving DecidableEq

/-- `kind.value.lower()`. -/
def SymbolKind.lowered : SymbolKind → String
  | .function => "function"
  | .asyncFunction => "async_function"
  | .method => "method"
  | .asyncMethod => "async_method"
  | .classDefinition => "class"
  | .module => "module"

/-- Why a bounded source excerpt was selected. -/
inductive SnippetKind where
  | changedSymbol
  | likelyTest
  | symbolReference
  | importStatement
  | calledHelper
  deriving DecidableEq

/-- One deterministic name-status entry from the immutable Git diff. -/
structure ChangedFile where
  path : RepositoryPath
  status : ChangeStatus
  previousPath : Option RepositoryPath
  isPython : Bool
  isTest : Bool
  renameSource : status.hasPrevious = previousPath.isSome
  deriving DecidableEq

/-- A Python symbol whose source span intersects the Git hunk. -/
structure ChangedSymbol where
  path : RepositoryPath
  qualifiedName : BoundedText 1 256
  kind : SymbolKind
  startLine : Nat
  endLine : Nat
  lineRange : 0 < startLine ∧ startLine ≤ endLine
  deriving DecidableEq

/-- A bounded source excerpt selected by deterministic relevance rules. -/
structure ContextSnippet where
  kind : SnippetKind
  path : RepositoryPath
  startLine : Nat
  endLine : Nat
  content : String
  reason : BoundedText 1 300
  notEmpty : content ≠ ""
  lineRange : 0 < startLine ∧ startLine ≤ endLine
  deriving DecidableEq

theorem ChangeStatus.unrenamed (status : ChangeStatus) (absent : ¬ status.hasPrevious = true) :
    status.hasPrevious = false := Bool.eq_false_iff.mpr absent

theorem ChangeStatus.modified_unrenamed :
    ChangeStatus.modified.hasPrevious = (none : Option RepositoryPath).isSome := rfl

/-! ## The bundle -/

/-- Audit facts about bounded local scanning and truncation. -/
structure RetrievalStats where
  changedFileCount : Nat
  changedPythonFileCount : Nat
  pythonPathCount : Nat
  testFilesScanned : Nat
  referenceFilesScanned : Nat
  omittedChangedFiles : Nat
  excludedChangedFiles : Nat := 0
  excludedPythonPaths : Nat := 0
  truncated : Bool
  deriving DecidableEq

/-- Which symbols a candidate may rely on, by the revisions that define them. -/
structure CrossRevisionInterfaces where
  presentOnBoth : List String := []
  newOnHead : List String := []
  removedOnBase : List String := []
  truncated : Bool := false
  bounded : presentOnBoth.length ≤ 40 ∧ newOnHead.length ≤ 40 ∧ removedOnBase.length ≤ 40 := by
    decide
  deriving DecidableEq

/-- `head_only_leaf_names`. -/
def CrossRevisionInterfaces.headOnlyLeafNames (interfaces : CrossRevisionInterfaces) :
    List String :=
  (interfaces.newOnHead.map leafName).filter fun leaf => !startsWith "__" leaf

/-- Prompt-safe bounded facts derived from immutable BASE and HEAD commits. -/
structure PullRequestContext where
  baseSha : GitSha
  headSha : GitSha
  diff : String
  changedFiles : List ChangedFile
  changedSymbols : List ChangedSymbol
  snippets : List ContextSnippet
  stats : RetrievalStats
  interfaces : CrossRevisionInterfaces := {}
  deriving DecidableEq

/-! ## Limits -/

/-- Hard deterministic limits for local scanning and prompt-bound context. -/
structure ContextBudget where
  maxChangedFiles : Nat := 80
  maxDiffChars : Nat := 14000
  maxDiffCharsPerFile : Nat := 3000
  maxSymbols : Nat := 24
  maxSnippets : Nat := 16
  maxSnippetChars : Nat := 1800
  maxSourceFileBytes : Nat := 262144
  maxPythonPaths : Nat := 5000
  maxTestFilesScanned : Nat := 200
  maxReferenceFilesScanned : Nat := 200
  maxContextJsonChars : Nat := 48000
  maxSignatureCount : Nat := 8
  maxSignatureChars : Nat := 300
  maxSignatureContextChars : Nat := 2000
  maxSignatureFilesScanned : Nat := 200
  maxInterfaceSymbols : Nat := 40
  maxCalledHelpers : Nat := 3
  maxCalledHelperChars : Nat := 700
  snippetCharsPositive : 0 < maxSnippetChars := by decide
  interfacesBounded : maxInterfaceSymbols ≤ 40 := by decide
  signaturesBounded : maxSignatureCount ≤ 8 ∧ maxSignatureChars ≤ 300 := by decide

/-- The budget with every default. -/
def ContextBudget.standard : ContextBudget := {}

end PatchProof
