import PatchProof.Evidence.Candidate
import PatchProof.Investigation.Queries

/-!
# The deterministic starting context

The planner converts two indexes into a ranked context before any model call: the shared
observables that a pull request plausibly affects, the symbols it introduces, and the ones
it removes.

Every observable of the context is defined by both indexes under its own identity.
-/

set_option autoImplicit false

namespace PatchProof

/-! ## Identities -/

/-- The only symbol identity that is accepted: a path and a qualified name. -/
structure ObservableIdentity where
  path : SourcePath
  qualifiedName : BoundedText 1 512
  deriving DecidableEq

namespace ObservableIdentity

variable (identity : ObservableIdentity)

def key : String × String := (identity.path.text, identity.qualifiedName.text)

def text : String := identity.path.text ++ "::" ++ identity.qualifiedName.text

def fromSymbol (symbol : IndexedSymbol) : ObservableIdentity :=
  ⟨symbol.path, symbol.qualifiedName.text, symbol.qualifiedName.bounded⟩

/-- The identity of a path and a name that validate. -/
def check (path qualifiedName : String) : Option ObservableIdentity :=
  if wellFormed : isRepositorySourcePath path = true then
    if bounded : 1 ≤ qualifiedName.length ∧ qualifiedName.length ≤ 512 then
      some ⟨⟨path, wellFormed⟩, ⟨qualifiedName, bounded⟩⟩
    else none
  else none

end ObservableIdentity

/-! ## Ranking -/

/-- Preference ordering for which shared observable should anchor a claim. -/
inductive ObservableRank where
  | exportedShared
  | publicShared
  | internalShared
  | privateShared
  deriving DecidableEq

def ObservableRank.value : ObservableRank → String
  | .exportedShared => "EXPORTED_SHARED"
  | .publicShared => "PUBLIC_SHARED"
  | .internalShared => "INTERNAL_SHARED"
  | .privateShared => "PRIVATE_SHARED"

def ObservableRank.priority : ObservableRank → Nat
  | .exportedShared => 0
  | .publicShared => 1
  | .internalShared => 2
  | .privateShared => 3

/-- Why a shared observable entered the starting context. -/
inductive ObservableSelectionReason where
  | implementationChanged
  | reachesNewHeadSymbol
  | reachesRemovedBaseSymbol
  | discoveredDuringInvestigation
  | reachesChangedSymbol
  deriving DecidableEq

/-- One shared observable offered to claim selection, with its evidence. -/
@[ext] structure RankedObservable where
  identity : ObservableIdentity
  kind : ObservableSymbolKind
  rank : ObservableRank
  isPublic : Bool
  exported : Option Bool
  implementationChanged : Bool
  reasons : List ObservableSelectionReason
  reachesNewHeadSymbols : List String
  baseStartLine : Nat
  baseEndLine : Nat
  headStartLine : Nat
  headEndLine : Nat
  reasonsBounded : reasons ≠ [] ∧ reasons.length ≤ 4
  reachesBounded : reachesNewHeadSymbols.length ≤ 8
  baseRange : 0 < baseStartLine ∧ baseStartLine ≤ baseEndLine
  headRange : 0 < headStartLine ∧ headStartLine ≤ headEndLine

instance : DecidableEq RankedObservable := fun _ _ => decidable_of_iff _ RankedObservable.ext_iff.symm

/-- Rank, then changed first, then stable identity. -/
def RankedObservable.sortLe (first second : RankedObservable) : Bool :=
  let order (item : RankedObservable) : Nat × Nat :=
    (item.rank.priority, if item.implementationChanged then 0 else 1)
  (order first).1 < (order second).1 || ((order first).1 == (order second).1 &&
    ((order first).2 < (order second).2 || ((order first).2 == (order second).2 &&
      RepositoryInvestigator.keyLe first.identity.key second.identity.key)))

/-- `rank_observable`. -/
def rankObservable (symbol : IndexedSymbol) (parent : Option IndexedSymbol) : ObservableRank :=
  if !symbol.isPublic then .privateShared
  else match symbol.exported with
    | some true => .exportedShared
    | some false =>
        if parent.any fun parent => parent.isPublic && parent.exported != some false then
          .publicShared
        else .internalShared
    | none => .publicShared

/-! ## The starting context -/

/-- A symbol introduced by the pull request, offered as signal and never as interface. -/
structure NewHeadSymbol where
  identity : ObservableIdentity
  kind : ObservableSymbolKind
  isPublic : Bool
  reachedBy : List String
  deriving DecidableEq

/-- Explicit partial-index semantics. -/
structure IndexCoverage where
  baseIndexSha256 : Sha256
  headIndexSha256 : Sha256
  base : RepositoryIndexStats
  head : RepositoryIndexStats
  observablesTruncated : Bool
  deriving DecidableEq

def IndexCoverage.complete (coverage : IndexCoverage) : Bool :=
  !(coverage.base.truncated || coverage.head.truncated || coverage.observablesTruncated)

/-- Deterministic, high-signal context computed before any model call. -/
structure InvestigationStartingContext where
  baseSha : GitSha
  headSha : GitSha
  coverage : IndexCoverage
  sharedObservables : List RankedObservable
  newHeadSymbols : List NewHeadSymbol
  removedBaseSymbols : List String
  relatedTests : List String
  changedSymbolNames : List String
  notes : List String
  deriving DecidableEq

/-- `observable`. -/
def InvestigationStartingContext.observable (context : InvestigationStartingContext)
    (identity : ObservableIdentity) : Option RankedObservable :=
  context.sharedObservables.find? fun item => item.identity = identity

/-- Hard limits on the deterministic pre-fetch. -/
structure StartingContextBudget where
  maxSharedObservables : Nat := 12
  maxNewHeadSymbols : Nat := 8
  maxRemovedSymbols : Nat := 8
  maxRelatedTests : Nat := 8
  maxCallerTraces : Nat := 6
  maxCallersPerSymbol : Nat := 10
  positive : 0 < maxSharedObservables ∧ 0 < maxNewHeadSymbols ∧ 0 < maxRemovedSymbols ∧
    0 < maxRelatedTests ∧ 0 < maxCallerTraces ∧ 0 < maxCallersPerSymbol := by decide
  schemaBounded : maxSharedObservables ≤ 40 ∧ maxNewHeadSymbols ≤ 20 := by decide

/-- Build the starting context from two immutable indexes without a model. -/
structure DeterministicInvestigationPlanner where
  investigator : RepositoryInvestigator
  budget : StartingContextBudget

namespace DeterministicInvestigationPlanner

variable (planner : DeterministicInvestigationPlanner)

/-- The smallest texts of a set, in order. -/
def firstSorted (most : Nat) (texts : List String) : List String :=
  (texts.dedup.insertionSort (· ≤ ·)).take most

theorem length_firstSorted_le (most : Nat) (texts : List String) :
    (firstSorted most texts).length ≤ most := List.length_take_le _ _

/-- `_callers_of`. -/
def callersOf (symbol : IndexedSymbol) : Except QueryFailure (List ObservableIdentity) :=
  match planner.investigator.findCallers .head symbol.qualifiedName.text
      (some planner.budget.maxCallersPerSymbol) with
  | .error (.contract _) => .ok []
  | .error (.value message) => .error (.value message)
  | .ok result => .ok ((result.found.filterMap InvestigationMatch.reference).filterMap
      fun reference =>
        if reference.scope.text = "<module>" ∨ (reference.path = symbol.path ∧
            reference.scope.text = symbol.qualifiedName.text) then none
        else some ⟨reference.path, reference.scope⟩)

/-- The callers of each traced symbol, by their identity texts. -/
def traceCallers : List IndexedSymbol → Except QueryFailure (List (String × String))
  | [] => .ok []
  | symbol :: rest => do
      let callers ← planner.callersOf symbol
      let traced ← traceCallers rest
      return callers.map (fun caller => (caller.text, symbol.qualifiedName.text)) ++ traced

/-- Why a shared symbol enters the context. -/
def selectionReasons (changed reached relevant : Bool) : List ObservableSelectionReason :=
  (if changed then [.implementationChanged] else []) ++
    (if reached then [.reachesNewHeadSymbol] else []) ++
    (if relevant && !changed then [.reachesChangedSymbol] else [])

theorem length_selectionReasons_le (changed reached relevant : Bool) :
    (selectionReasons changed reached relevant).length ≤ 4 := by
  cases changed <;> cases reached <;> cases relevant <;> decide

/-- The observable of a comparison, when it is shared and affected. -/
def rankComparison (reaches : List (String × String)) (relevant : List String)
    (comparison : SymbolComparison) : Option RankedObservable :=
  match comparison.views with
  | .presentOnBoth base head changed =>
      let identity := ObservableIdentity.fromSymbol head
      let reached := firstSorted 8 ((reaches.filter fun edge => edge.1 = identity.text).map
        Prod.snd)
      let reasons := selectionReasons changed (!reached.isEmpty) (relevant.contains identity.text)
      if affected : reasons ≠ [] then
        some {
          identity := identity
          kind := head.kind
          rank := rankObservable head ((head.parentSymbol.filter (· ≠ "")).bind fun parent =>
            RepositoryInvestigator.underKey planner.investigator.head.symbols
              (head.path.text, parent))
          isPublic := head.isPublic
          exported := head.exported
          implementationChanged := changed
          reasons := reasons
          reachesNewHeadSymbols := reached
          baseStartLine := base.startLine
          baseEndLine := base.endLine
          headStartLine := head.startLine
          headEndLine := head.endLine
          reasonsBounded := ⟨affected, length_selectionReasons_le _ _ _⟩
          reachesBounded := length_firstSorted_le 8 _
          baseRange := base.lineRange
          headRange := head.lineRange }
      else none
  | _ => none

/-- `_rank_shared`. -/
def rankShared (shared : List SymbolComparison) (reaches : List (String × String))
    (relevant : List String) : List RankedObservable :=
  (shared.filterMap (planner.rankComparison reaches relevant)).insertionSort
    fun first second => RankedObservable.sortLe first second = true

/-- Add the tests of one answer until there are enough. -/
def addTests (most : Nat) (found : List String) : List InvestigationMatch → List String
  | [] => found
  | item :: rest =>
      match item.symbol with
      | none => addTests most found rest
      | some symbol =>
          let text := (ObservableIdentity.fromSymbol symbol).text
          let found := if found.contains text then found else found ++ [text]
          if most ≤ found.length then found else addTests most found rest

/-- `_related_tests`, over the observables that are traced. -/
def relatedTests (found : List String) :
    List RankedObservable → Except QueryFailure (List String)
  | [] => .ok found
  | observable :: rest =>
      if planner.budget.maxRelatedTests ≤ found.length then .ok found
      else
        match planner.investigator.findRelatedTests .head
            (some observable.identity.qualifiedName.text) none
            (some planner.budget.maxRelatedTests) with
        | .error (.contract _) => relatedTests found rest
        | .error (.value message) => .error (.value message)
        | .ok result =>
            relatedTests (addTests planner.budget.maxRelatedTests found result.found) rest

/-- The remarks on a context. -/
def contextNotes (coverage : IndexCoverage) (selected : List RankedObservable)
    (newHead : List IndexedSymbol) : List String :=
  (if coverage.complete then [] else
    ["One or both repository indexes are partial. Absence of a symbol from this " ++
      "context is NOT evidence that the symbol is absent from the revision."]) ++
  (if selected.isEmpty then
    ["No shared observable was found whose implementation changed or which " ++
      "reaches a symbol introduced by this pull request."] else []) ++
  (if !newHead.isEmpty && !selected.any (fun item => !item.reachesNewHeadSymbols.isEmpty) then
    ["This pull request introduces HEAD-only symbols with no statically " ++
      "identified shared caller. A HEAD-only symbol cannot be the differential " ++
      "interface; investigate for a shared observable that changed behavior."] else [])

/-- `build`. -/
def build : Except QueryFailure InvestigationStartingContext := do
  let investigator := planner.investigator
  let observables ← investigator.compareObservables none
  let coverage : IndexCoverage := {
    baseIndexSha256 := investigator.base.sha256
    headIndexSha256 := investigator.head.sha256
    base := investigator.base.stats
    head := investigator.head.stats
    observablesTruncated := observables.truncated }
  let newHead := observables.newOnHead.take planner.budget.maxNewHeadSymbols
  let reaches ← planner.traceCallers (newHead.take planner.budget.maxCallerTraces)
  let removed := (observables.removedFromHead.map fun symbol =>
    (ObservableIdentity.fromSymbol symbol).text).take planner.budget.maxRemovedSymbols
  let newNames := newHead.map fun symbol => leafName symbol.qualifiedName.text
  let ranked := planner.rankShared observables.presentOnBoth reaches
    investigator.relevanceIdentities
  let selected := ranked.take planner.budget.maxSharedObservables
  let tests ← planner.relatedTests [] (selected.take planner.budget.maxCallerTraces)
  if 20 < removed.length ∨ 20 < tests.length then
    .error (.value "starting context exceeds its schema limits")
  else return {
    baseSha := investigator.base.revision.sha
    headSha := investigator.head.revision.sha
    coverage := coverage
    sharedObservables := selected
    newHeadSymbols := newHead.map fun symbol => {
      identity := .fromSymbol symbol
      kind := symbol.kind
      isPublic := symbol.isPublic
      reachedBy := firstSorted 8 ((reaches.filter fun edge =>
        edge.2 = symbol.qualifiedName.text).map Prod.fst) }
    removedBaseSymbols := removed
    relatedTests := tests
    changedSymbolNames := firstSorted 80 (investigator.changedSymbolNames ++ newNames)
    notes := contextNotes coverage selected newHead }

/-! ## Where the observables are defined -/

variable {planner : DeterministicInvestigationPlanner}

theorem rankComparison_eq_some {reaches : List (String × String)} {relevant : List String}
    {comparison : SymbolComparison} {observable : RankedObservable}
    (ranked : planner.rankComparison reaches relevant comparison = some observable) :
    ∃ base head changed, comparison.views = .presentOnBoth base head changed ∧
      observable.identity.key = head.key := by
  unfold rankComparison at ranked
  split at ranked
  · rename_i base head changed views
    dsimp only at ranked
    split at ranked
    · cases ranked
      exact ⟨base, head, changed, views, rfl⟩
    · cases ranked
  · cases ranked

/-- **Every observable of the starting context is defined by both revisions.** -/
theorem build_shares {context : InvestigationStartingContext}
    (built : planner.build = .ok context) {observable : RankedObservable}
    (mem : observable ∈ context.sharedObservables) :
    planner.investigator.Shares observable.identity.key := by
  obtain ⟨observables, compared, built⟩ := Guard.bind_eq_ok_iff.mp built
  obtain ⟨reaches, _, built⟩ := Guard.bind_eq_ok_iff.mp built
  obtain ⟨tests, _, built⟩ := Guard.bind_eq_ok_iff.mp built
  split at built
  · cases built
  · cases built
    have inRanked := List.mem_of_mem_take mem
    rw [rankShared, List.mem_insertionSort] at inRanked
    obtain ⟨comparison, shared, ranked⟩ := List.mem_filterMap.mp inRanked
    obtain ⟨base, head, changed, views, key⟩ := rankComparison_eq_some ranked
    have inComparisons := RepositoryInvestigator.mem_of_compareObservables compared shared
    obtain ⟨shares, headKey⟩ := RepositoryInvestigator.shares_of_presentOnBoth inComparisons views
    rw [key, headKey]
    exact shares

end DeterministicInvestigationPlanner

/-! ## A sample -/

/-- A digest of 64 equal digits. -/
def repeatedDigest (digit : Char) (isHex : isLowerHex digit = true := by decide) : Sha256 where
  text := String.ofList (List.replicate 64 digit)
  wellFormed := by simp [isSha256, isHex]

/-- A function defined on one line. -/
def sampleSymbol (path : String) (name : String) (line : Nat) (digest : Sha256)
    (wellFormed : isRepositorySourcePath path = true := by decide +kernel)
    (bounded : 1 ≤ name.length ∧ name.length ≤ 512 := by decide +kernel)
    (colonFree : ':' ∉ name.toList := by decide +kernel)
    (positive : 0 < line := by decide) : IndexedSymbol where
  path := ⟨path, wellFormed⟩
  module := "sample"
  qualifiedName := ⟨name, bounded, colonFree⟩
  kind := .function
  startLine := line
  endLine := line
  parentSymbol := none
  isPublic := true
  exported := none
  sourceSha256 := digest
  definitionKinds := [.function]
  lineRange := ⟨positive, Nat.le_refl line⟩
  counted := Nat.one_pos
  kindsWellFormed := ⟨List.mem_singleton_self _, List.nodup_singleton _⟩

theorem isRepositorySourcePath_app : isRepositorySourcePath "app.py" = true := rfl

theorem render_bounded : 1 ≤ "render".length ∧ "render".length ≤ 512 := by
  decide

theorem render_colonFree : ':' ∉ "render".toList := by
  decide

theorem f_bounded : 1 ≤ "f".length ∧ "f".length ≤ 512 := by
  decide

theorem f_colonFree : ':' ∉ "f".toList := by
  decide

/-- The function `render` of the file `app.py`. -/
def sampleRender (line : Nat) (digest : Sha256) (positive : 0 < line) : IndexedSymbol :=
  sampleSymbol "app.py" "render" line digest isRepositorySourcePath_app render_bounded
    render_colonFree positive

/-- An index of these symbols. -/
def sampleIndex (role : RevisionRole) (sha : GitSha) (symbols : List IndexedSymbol)
    (references : List IndexedReference := []) : RepositoryIndex where
  revision := ⟨role, sha⟩
  files := symbols.map fun symbol => ⟨symbol.path, "sample", 9, false⟩
  symbols := symbols
  imports := []
  references := references
  sources _ := none
  stats := ⟨0, false⟩
  sha256 := repeatedDigest '0' isLowerHex_zero

/-- The word characters of ASCII. -/
def asciiWords : WordClass where
  isWord c := c.isAlphanum || c == '_'
  ascii _ _ := rfl

def sampleBase : GitSha := ⟨String.ofList (List.replicate 40 'a'), isGitSha_as⟩
def sampleHead : GitSha := ⟨String.ofList (List.replicate 40 'b'), isGitSha_bs⟩

theorem sampleRevisions_ne : sampleBase ≠ sampleHead := by decide +kernel

/-- A planner over an index of each revision; the references are those of HEAD. -/
def samplePlanner (base head : List IndexedSymbol) (references : List IndexedReference := []) :
    DeterministicInvestigationPlanner where
  investigator := {
    base := sampleIndex .base sampleBase base
    head := sampleIndex .head sampleHead head references
    budget := {}
    words := asciiWords
    baseRole := rfl
    headRole := rfl
    revisionsDistinct := sampleRevisions_ne }
  budget := {}

end PatchProof
