import PatchProof.Models

/-!
# The claim agent's structured results

What the claim-selection task hands to the rest of the workflow: the accounting
of one model invocation, the behavioral claim with its grounding references, and
the selection, which either carries one claim or abstains.  The field bounds and
validators of the source are proof fields, so whatever the model said, a value
of these types has been through them.
-/

set_option autoImplicit false

namespace PatchProof

/-! ## Accounting -/

/-- Available accounting for one model invocation. -/
structure ModelUsage where
  modelName : BoundedText 1 128
  modelVersion : Option (BoundedText 0 128) := none
  promptTokens : Option Nat := none
  outputTokens : Option Nat := none
  totalTokens : Option Nat := none
  cachedTokens : Option Nat := none
  reasoningTokens : Option Nat := none
  durationSeconds : Duration
  providerAttempts : Nat := 1
  attemptsBounded : 1 ≤ providerAttempts ∧ providerAttempts ≤ 2
  deriving DecidableEq

theorem one_attempt_bounded : 1 ≤ 1 ∧ 1 ≤ 2 := by
  decide

/-- One call of a model, for evaluating the definitions. -/
def ModelUsage.single : ModelUsage where
  modelName := ⟨"model", by decide⟩
  durationSeconds := ⟨0, by decide⟩
  attemptsBounded := one_attempt_bounded

/-! ## Claims -/

/-- A normalized relative POSIX path without control characters. -/
def isContextPath (path : String) : Bool :=
  path.toList.all (fun c => c != '\\' && c != '\x00' && c != '\n' && c != '\r') &&
    (pathSegments path.toList).all fun segment =>
      !segment.isEmpty && segment != ['.'] && segment != ['.', '.']

/-- The pattern of a claim identifier. -/
def isClaimId (text : String) : Bool :=
  let slugChar (c : Char) : Bool := ('a' ≤ c && c ≤ 'z') || ('0' ≤ c && c ≤ '9')
  ['c', 'l', 'a', 'i', 'm', '-'].isPrefixOf text.toList &&
    match text.toList.drop 6 with
    | first :: rest => slugChar first && rest.length ≤ 62 && rest.all fun c => slugChar c || c == '-'
    | [] => false

/-- A model-selected symbol that must match deterministic changed-symbol output. -/
structure AffectedSymbolRef where
  path : String
  pathWellFormed : isContextPath path = true
  qualifiedName : BoundedText 1 256
  deriving DecidableEq

/-- A claim citation that must fall inside a provided context snippet. -/
structure SupportingContextRef where
  path : String
  pathWellFormed : isContextPath path = true
  startLine : Nat
  endLine : Nat
  relevance : BoundedText 1 300
  lineRange : 1 ≤ startLine ∧ startLine ≤ endLine
  deriving DecidableEq

/-- One testable, scenario-scoped behavior proposed by the model.  The source's
testability flag has one admissible value and is left out. -/
structure BehavioralClaim where
  claimId : String
  claimIdWellFormed : isClaimId claimId = true
  summary : BoundedText 1 300
  observableOperation : BoundedText 0 300
  triggerCondition : BoundedText 0 300
  expectedHeadObservation : BoundedText 0 400
  expectedBaseHypothesis : BoundedText 0 400
  sharedInterface : BoundedText 0 256
  preconditions : List (BoundedText 1 300)
  preconditionsWellFormed : preconditions.length ≤ 6 ∧
    preconditions.all (fun item => strip item.text != "") = true
  action : BoundedText 1 500
  expectedBehavior : BoundedText 1 700
  affectedSymbols : List AffectedSymbolRef
  affectedSymbolsWellFormed : affectedSymbols ≠ [] ∧ affectedSymbols.length ≤ 8 ∧
    affectedSymbols.Nodup
  supportingContext : List SupportingContextRef
  supportingContextWellFormed : supportingContext ≠ [] ∧ supportingContext.length ≤ 8
  confidence : ℚ
  confidenceBounded : 65 / 100 ≤ confidence ∧ confidence ≤ 1
  reasoningSummary : BoundedText 1 600
  deriving DecidableEq

/-- Whether semantic analysis selected one bounded behavioral claim. -/
inductive ClaimSelectionDisposition where
  | selected
  | insufficientEvidence
  | counterfactualNotApplicable
  deriving DecidableEq

/-- Exactly one selected claim or an explicit abstention. -/
structure ClaimSelection where
  disposition : ClaimSelectionDisposition
  claim : Option BehavioralClaim
  explanation : BoundedText 1 700
  selectedIffClaim : disposition = .selected ↔ claim.isSome = true
  deriving DecidableEq

/-- The validated selection and the audit metadata kept with it. -/
structure ClaimAgentResult where
  selection : ClaimSelection
  usage : ModelUsage
  rawResponseSha256 : Sha256
  deriving DecidableEq

/-! ## Facts about every selection

The bounds of a drafted claim lie within those of a claim. -/

theorem isClaimId_selectedBehavior : isClaimId "claim-selected-behavior" = true := by
  decide +kernel

theorem selected_iff_some (claim : BehavioralClaim) :
    ClaimSelectionDisposition.selected = .selected ↔ (some claim).isSome = true :=
  ⟨fun _ => rfl, fun _ => rfl⟩

theorem draftedLeast_le : 0 ≤ 1 := Nat.zero_le 1

theorem draftedStatement_le : 220 ≤ 300 := by decide

theorem draftedObservation_le : 280 ≤ 400 := by decide

theorem draftedAction_le : 350 ≤ 500 := by decide

theorem draftedBehavior_le : 450 ≤ 700 := by decide

theorem certainty_bounded : (65 / 100 : ℚ) ≤ 1 ∧ (1 : ℚ) ≤ 1 := by
  decide +kernel

/-! ## The narrative given to the agent -/

/-- Bounded untrusted pull-request prose. -/
structure PullRequestNarrative where
  title : BoundedText 1 300
  body : BoundedText 0 8000
  truncated : Bool
  deriving DecidableEq

/-- The title a narrative falls back to. -/
def narrativeTitle (title : String) : String :=
  orElseText (strip title) "Untitled pull request"

theorem narrativeTitle_bounds (title : String) :
    1 ≤ (truncate 300 (narrativeTitle title)).length ∧
      (truncate 300 (narrativeTitle title)).length ≤ 300 := by
  refine ⟨?_, length_truncate_le 300 _⟩
  have nonempty : narrativeTitle title ≠ "" := by
    unfold narrativeTitle orElseText
    split
    · decide
    · assumption
  have positive : 0 < (narrativeTitle title).length := by
    rw [Nat.pos_iff_ne_zero]
    exact fun zero => nonempty (String.length_eq_zero_iff.mp zero)
  rw [← String.length_toList] at positive
  simp only [truncate, String.length_ofList, List.length_take]
  omega

/-- `PullRequestNarrative.from_untrusted`, without linked-issue prose. -/
def PullRequestNarrative.fromUntrusted (title body : String) : PullRequestNarrative where
  title := ⟨truncate 300 (narrativeTitle title), narrativeTitle_bounds title⟩
  body := ⟨truncate 8000 body, Nat.zero_le _, length_truncate_le 8000 body⟩
  truncated := truncate 300 (narrativeTitle title) != narrativeTitle title ||
    truncate 8000 body != body

end PatchProof
