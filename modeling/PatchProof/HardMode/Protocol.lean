import PatchProof.Worker.Candidates

/-!
# The protocol of a declared live run

The frozen manifest of a hard-mode run declares how many semantic tasks a case may need and how
often a transient provider failure may be retried.  Before a journal is started the worst case
is derived from these numbers and compared with the capacity that the operator has declared.

Of a case the manifest keeps what its own validator reads.
-/

set_option autoImplicit false

namespace PatchProof

/-! ## The protocol -/

/-- What `hard_mode` raises of its own. -/
inductive HardModeFailure where
  | configuration (message : String)
  | value (message : String)
  deriving DecidableEq

/-- `HardModeProtocol`, as far as the call budget goes. -/
structure HardModeProtocol where
  claimCallsPerCase : Nat
  candidateCallsPerCase : Nat
  assessmentCallsPerDiscriminatingCase : Nat
  transientProviderRetriesPerLogicalCall : Nat
  maximumPossibleLogicalModelCalls : Option Nat
  maximumPossibleProviderCalls : Option Nat
  declaredAvailableProviderCalls : Option Nat
  modelCallBudgetPreflightPassed : Option Bool
  oneClaimCall : claimCallsPerCase = 1
  candidateCalls : candidateCallsPerCase = 2 ∨ candidateCallsPerCase = 3
  oneAssessmentCall : assessmentCallsPerDiscriminatingCase = 1
  retries : transientProviderRetriesPerLogicalCall = 0 ∨
    transientProviderRetriesPerLogicalCall = 1

namespace HardModeProtocol

variable (protocol : HardModeProtocol)

theorem one_call : 1 = 1 := rfl

theorem three_calls : 3 = 2 ∨ 3 = 3 := .inr rfl

/-- The maximum number of semantic tasks of a complete run. -/
def deriveMaximumPossibleLogicalModelCalls (caseCount : Nat) : Except HardModeFailure Nat :=
  if caseCount ≤ 0 then
    .error (.value "hard-mode model-call budget requires at least one case")
  else .ok (caseCount * (protocol.claimCallsPerCase + protocol.candidateCallsPerCase +
    protocol.assessmentCallsPerDiscriminatingCase))

/-- The initial request and every permitted transient retry. -/
def maximumProviderAttemptsPerLogicalCall : Nat :=
  1 + protocol.transientProviderRetriesPerLogicalCall

/-- The request capacity that a complete run needs in the worst case. -/
def deriveMaximumPossibleProviderCalls (caseCount : Nat) : Except HardModeFailure Nat := do
  let logicalCalls ← protocol.deriveMaximumPossibleLogicalModelCalls caseCount
  return logicalCalls * protocol.maximumProviderAttemptsPerLogicalCall

theorem deriveMaximumPossibleLogicalModelCalls_succ (others : Nat) :
    protocol.deriveMaximumPossibleLogicalModelCalls (others + 1) =
      .ok ((others + 1) * (2 + protocol.candidateCallsPerCase)) := by
  rw [deriveMaximumPossibleLogicalModelCalls, if_neg (Nat.not_succ_le_zero others),
    protocol.oneClaimCall, protocol.oneAssessmentCall]
  congr 2
  omega

theorem deriveMaximumPossibleProviderCalls_succ (others : Nat) :
    protocol.deriveMaximumPossibleProviderCalls (others + 1) =
      .ok ((others + 1) * (2 + protocol.candidateCallsPerCase) *
        (1 + protocol.transientProviderRetriesPerLogicalCall)) := by
  rw [deriveMaximumPossibleProviderCalls, deriveMaximumPossibleLogicalModelCalls_succ]
  rfl

/-- `validate_pacing`, as far as the budget goes: the values are declared together, and pass and
fail as the capacity says. -/
def budgetConsistent : Bool :=
  match protocol.maximumPossibleLogicalModelCalls, protocol.maximumPossibleProviderCalls,
    protocol.declaredAvailableProviderCalls, protocol.modelCallBudgetPreflightPassed with
  | none, none, none, none => true
  | some _, some required, some available, some passed => passed == decide (required ≤ available)
  | _, _, _, _ => false

end HardModeProtocol

/-! ## The manifest -/

inductive HardModeCaseKind where
  | historicalPr
  | localSynthetic
  deriving DecidableEq

structure HardModeCase where
  caseId : String
  kind : HardModeCaseKind
  repository : String
  deriving DecidableEq

/-- `validate_coverage`, up to the declared maxima. -/
def covers (cases : List HardModeCase) : Bool :=
  let historical := cases.filter fun case => case.kind == .historicalPr
  4 ≤ historical.length && 2 ≤ (historical.map HardModeCase.repository).dedup.length &&
    (cases.any fun case => case.kind == .localSynthetic) &&
    (cases.map HardModeCase.caseId).dedup.length == cases.length

/-- A manifest that validates. -/
structure HardModeManifest where
  protocol : HardModeProtocol
  cases : List HardModeCase
  counted : 5 ≤ cases.length ∧ cases.length ≤ 20
  budgetConsistent : protocol.budgetConsistent = true
  covered : covers cases = true
  declared : protocol.maximumPossibleLogicalModelCalls = none ∨
    (protocol.deriveMaximumPossibleLogicalModelCalls cases.length =
        .ok (protocol.maximumPossibleLogicalModelCalls.getD 0) ∧
      protocol.deriveMaximumPossibleProviderCalls cases.length =
        .ok (protocol.maximumPossibleProviderCalls.getD 0))

/-! ## The preflight -/

/-- What the preflight has checked; it is made by a check that has passed. -/
structure HardModeCallBudgetPreflight where
  maximumPossibleLogicalModelCalls : Nat
  maximumPossibleProviderCalls : Nat
  declaredAvailableProviderCalls : Nat
  deriving DecidableEq

/-- `_model_call_budget_preflight`. -/
def modelCallBudgetPreflight (manifest : HardModeManifest) :
    Except HardModeFailure HardModeCallBudgetPreflight := do
  if manifest.protocol.candidateCallsPerCase ≠ maxCandidateModelCalls then
    .error (.configuration ("new hard-mode live runs must declare the production candidate-call " ++
      "budget of " ++ toString maxCandidateModelCalls))
  else
    let logicalRequired ←
      manifest.protocol.deriveMaximumPossibleLogicalModelCalls manifest.cases.length
    let providerRequired ←
      manifest.protocol.deriveMaximumPossibleProviderCalls manifest.cases.length
    match manifest.protocol.maximumPossibleLogicalModelCalls,
      manifest.protocol.maximumPossibleProviderCalls,
      manifest.protocol.declaredAvailableProviderCalls,
      manifest.protocol.modelCallBudgetPreflightPassed with
    | some declaredLogical, some declaredProvider, some available, some declaredPassed =>
        if declaredLogical ≠ logicalRequired then
          .error (.configuration ("manifest records " ++ toString declaredLogical ++
            " maximum possible logical model calls but the protocol formula derives " ++
            toString logicalRequired))
        else if declaredProvider ≠ providerRequired then
          .error (.configuration ("manifest records " ++ toString declaredProvider ++
            " maximum possible provider calls but the retry-aware protocol formula derives " ++
            toString providerRequired))
        else if declaredPassed ≠ decide (providerRequired ≤ available) then
          .error (.configuration ("manifest model-call budget pass/fail does not match its " ++
            "declared call capacity"))
        else if ¬ providerRequired ≤ available then
          .error (.configuration ("operator-declared provider-call availability " ++
            toString available ++ " is below the maximum possible provider calls " ++
            toString providerRequired ++ "; refusing to start the live journal"))
        else
          return ⟨logicalRequired, providerRequired, available⟩
    | _, _, _, _ => .error (.configuration ("new hard-mode live runs must record maximum " ++
        "possible logical model calls, maximum possible provider calls, declared available " ++
        "provider calls, and preflight pass/fail in the manifest; PatchProof does not query the " ++
        "provider's live remaining quota"))

/-- What a manifest has that passes. -/
theorem preflight_spec {manifest : HardModeManifest} {preflight : HardModeCallBudgetPreflight}
    (passes : modelCallBudgetPreflight manifest = .ok preflight) :
    manifest.protocol.candidateCallsPerCase = maxCandidateModelCalls ∧
      manifest.protocol.deriveMaximumPossibleProviderCalls manifest.cases.length =
        .ok preflight.maximumPossibleProviderCalls ∧
      preflight.maximumPossibleProviderCalls ≤ preflight.declaredAvailableProviderCalls := by
  unfold modelCallBudgetPreflight at passes
  split at passes
  · cases passes
  · rename_i same
    refine ⟨Decidable.not_not.mp same, ?_⟩
    obtain ⟨logicalRequired, _, passes⟩ := Guard.bind_eq_ok_iff.mp passes
    obtain ⟨providerRequired, derived, passes⟩ := Guard.bind_eq_ok_iff.mp passes
    split at passes
    · split at passes
      · cases passes
      · split at passes
        · cases passes
        · split at passes
          · cases passes
          · split at passes
            · cases passes
            · rename_i funded
              cases passes
              exact ⟨derived, Decidable.not_not.mp funded⟩
    · cases passes

end PatchProof
