import PatchProof.Workflow.Run

/-!
# Deterministic transition rules

One optimistic transition of a run: the dimensions it requests, the tables of
allowed moves, and the checks that the source makes in order before it writes
the new row.  The checks are summed up by `Permits`, and
`applyRunTransition_eq_ok_iff` says that a transition returns exactly when it is
permitted, and then returns the row with the requested changes, the new
timestamp and the next version.  Later modules use that equivalence and never
the chain of checks.
-/

set_option autoImplicit false

namespace PatchProof

/-! ## Requests -/

/-- Requested dimensions of one transition; at least one must be given. -/
structure RunTransition where
  lifecycle : Option RunLifecycle := none
  phase : Option RunPhase := none
  terminalReason : Option TerminalReason := none
  mechanicalEvidenceStatus : Option MechanicalEvidenceStatus := none
  claimOutcome : Option ClaimOutcome := none
  publicationState : Option PublicationState := none
  requireChange : (lifecycle.isSome || phase.isSome || terminalReason.isSome ||
    mechanicalEvidenceStatus.isSome || claimOutcome.isSome || publicationState.isSome) = true := by
    rfl
  deriving DecidableEq

theorem RunTransition.phase_changes (phase : RunPhase) :
    ((none : Option RunLifecycle).isSome || (some phase).isSome ||
      (none : Option TerminalReason).isSome || (none : Option MechanicalEvidenceStatus).isSome ||
      (none : Option ClaimOutcome).isSome || (none : Option PublicationState).isSome) = true := rfl

theorem RunTransition.publication_changes (state : PublicationState) :
    ((none : Option RunLifecycle).isSome || (none : Option RunPhase).isSome ||
      (none : Option TerminalReason).isSome || (none : Option MechanicalEvidenceStatus).isSome ||
      (none : Option ClaimOutcome).isSome || (some state).isSome) = true := rfl

/-! ## Allowed moves -/

def lifecycleTransitions : RunLifecycle → List RunLifecycle
  | .accepted => [.accepted, .queued, .terminal]
  | .queued => [.queued, .running, .terminal]
  | .running => [.running, .terminal]
  | .terminal => [.terminal]

def phaseOrder : RunPhase → Nat
  | .context => 0
  | .claim => 1
  | .testGeneration => 2
  | .baseExecution => 3
  | .headExecution => 4
  | .assessment => 5
  | .publication => 6

def publicationTransitions : PublicationState → List PublicationState
  | .notStarted => [.notStarted, .pending]
  | .pending => [.pending, .published, .retryableFailure, .terminalFailure, .notApplicable]
  | .retryableFailure => [.retryableFailure, .pending, .published, .terminalFailure]
  | .published => [.published]
  | .terminalFailure => [.terminalFailure]
  | .notApplicable => [.notApplicable]

/-! ## Applying a transition -/

/-- The row with the requested dimensions written over its own. -/
def RunRow.withChanges (row : RunRow) (transition : RunTransition) : RunRow :=
  { row with
    lifecycle := transition.lifecycle.getD row.lifecycle
    phase := transition.phase.getD row.phase
    terminalReason := transition.terminalReason.or row.terminalReason
    mechanicalEvidenceStatus := transition.mechanicalEvidenceStatus.or row.mechanicalEvidenceStatus
    claimOutcome := transition.claimOutcome.or row.claimOutcome
    publicationState := transition.publicationState.getD row.publicationState }

/-- The row a transition writes. -/
def RunRow.transitioned (row : RunRow) (transition : RunTransition) (updatedAt : Int) : RunRow :=
  { row.withChanges transition with updatedAt := updatedAt, version := row.version + 1 }

/-- Validate and apply one transition. -/
def applyRunTransition (current : VerificationRun) (transition : RunTransition)
    (updatedAt : Int) : Except StoreException VerificationRun := do
  Guard.require (current.updatedAt ≤ updatedAt)
    (.invalidRunTransition "transition timestamp cannot move backward")
  Guard.require (current.revisionState ≠ .superseded)
    (.invalidRunTransition "superseded runs cannot resume or publish")
  let changed := current.toRunRow.withChanges transition
  Guard.require (changed.lifecycle ∈ lifecycleTransitions current.lifecycle)
    (.invalidRunTransition ("lifecycle cannot move from " ++ current.lifecycle.value ++ " to "
      ++ changed.lifecycle.value))
  Guard.require (phaseOrder current.phase ≤ phaseOrder changed.phase)
    (.invalidRunTransition ("phase cannot move backward from " ++ current.phase.value ++ " to "
      ++ changed.phase.value))
  Guard.require (changed.publicationState ∈ publicationTransitions current.publicationState)
    (.invalidRunTransition ("publication cannot move from " ++ current.publicationState.value
      ++ " to " ++ changed.publicationState.value))
  Guard.require (changed.lifecycle = .terminal → changed.terminalReason ≠ none)
    (.invalidRunTransition "terminal lifecycle requires a terminal reason")
  Guard.require (changed.lifecycle ≠ .terminal → changed.terminalReason = none)
    (.invalidRunTransition "terminal reason requires terminal lifecycle")
  Guard.require (current.terminalReason ≠ none → changed.terminalReason = current.terminalReason)
    (.invalidRunTransition "terminal reason is immutable once recorded")
  Guard.require (current.mechanicalEvidenceStatus ≠ none →
      changed.mechanicalEvidenceStatus = current.mechanicalEvidenceStatus)
    (.invalidRunTransition "mechanical evidence status cannot be overwritten")
  Guard.require (current.claimOutcome ≠ none → changed.claimOutcome = current.claimOutcome)
    (.invalidRunTransition "claim outcome cannot be overwritten")
  Guard.require (changed ≠ current.toRunRow)
    (.invalidRunTransition "transition does not change persisted state")
  VerificationRun.modelValidate (current.toRunRow.transitioned transition updatedAt)

/-! ## When a transition is permitted -/

/-- What the checks of `applyRunTransition` ask of the row before it. -/
structure Permits (current : RunRow) (transition : RunTransition) (updatedAt : Int) : Prop where
  notBackward : current.updatedAt ≤ updatedAt
  notSuperseded : current.revisionState ≠ .superseded
  lifecycleAllowed :
    (current.withChanges transition).lifecycle ∈ lifecycleTransitions current.lifecycle
  phaseForward : phaseOrder current.phase ≤ phaseOrder (current.withChanges transition).phase
  publicationAllowed : (current.withChanges transition).publicationState ∈
    publicationTransitions current.publicationState
  terminalHasReason : (current.withChanges transition).lifecycle = .terminal →
    (current.withChanges transition).terminalReason ≠ none
  reasonOnlyTerminal : (current.withChanges transition).lifecycle ≠ .terminal →
    (current.withChanges transition).terminalReason = none
  reasonImmutable : current.terminalReason ≠ none →
    (current.withChanges transition).terminalReason = current.terminalReason
  statusImmutable : current.mechanicalEvidenceStatus ≠ none →
    (current.withChanges transition).mechanicalEvidenceStatus = current.mechanicalEvidenceStatus
  outcomeImmutable : current.claimOutcome ≠ none →
    (current.withChanges transition).claimOutcome = current.claimOutcome
  changes : current.withChanges transition ≠ current

/-- A permitted transition of a valid row writes a valid row. -/
theorem Permits.transitioned_valid {current : RunRow} {transition : RunTransition}
    {updatedAt : Int} (permits : Permits current transition updatedAt) (valid : current.Valid) :
    (current.transitioned transition updatedAt).Valid where
  versionPositive := by
    have := valid.versionPositive
    simp only [RunRow.transitioned]
    omega
  terminalHasReason := permits.terminalHasReason
  reasonOnlyTerminal := permits.reasonOnlyTerminal
  currentNotReplaced := valid.currentNotReplaced
  supersededReplaced := valid.supersededReplaced
  notBeforeCreation := Int.le_trans valid.notBeforeCreation permits.notBackward

/-- **When a transition returns.**  Exactly when it is permitted, and then with
the requested changes, the given timestamp and the next version. -/
theorem applyRunTransition_eq_ok_iff {current updated : VerificationRun}
    {transition : RunTransition} {updatedAt : Int} :
    applyRunTransition current transition updatedAt = .ok updated ↔
      Permits current.toRunRow transition updatedAt ∧
        updated.toRunRow = current.toRunRow.transitioned transition updatedAt := by
  simp only [applyRunTransition, Guard.require_bind_eq_ok_iff,
    VerificationRun.modelValidate_eq_ok_iff]
  constructor
  · rintro ⟨backward, superseded, lifecycle, phase, publication, hasReason, onlyTerminal, reason,
      status, outcome, changes, row⟩
    exact ⟨⟨backward, superseded, lifecycle, phase, publication, hasReason, onlyTerminal, reason,
      status, outcome, changes⟩, row⟩
  · rintro ⟨permits, row⟩
    exact ⟨permits.notBackward, permits.notSuperseded, permits.lifecycleAllowed,
      permits.phaseForward, permits.publicationAllowed, permits.terminalHasReason,
      permits.reasonOnlyTerminal, permits.reasonImmutable, permits.statusImmutable,
      permits.outcomeImmutable, permits.changes, row⟩

/-- A permitted transition does return. -/
theorem applyRunTransition_of_permits {current : VerificationRun} {transition : RunTransition}
    {updatedAt : Int} (permits : Permits current.toRunRow transition updatedAt) :
    applyRunTransition current transition updatedAt =
      .ok ⟨current.toRunRow.transitioned transition updatedAt,
        permits.transitioned_valid current.valid⟩ :=
  applyRunTransition_eq_ok_iff.mpr ⟨permits, rfl⟩

/-! ## The failure transition -/

/-- The transition by which a store records a failed run. -/
def RunTransition.failure : RunTransition where
  lifecycle := some .terminal
  terminalReason := some .failed

/-- A current, non-terminal run can always be failed, unless the clock is behind
the row. -/
theorem permits_failure {current : RunRow} {updatedAt : Int} (valid : current.Valid)
    (isCurrent : current.revisionState = .current) (active : current.lifecycle ≠ .terminal)
    (notBackward : current.updatedAt ≤ updatedAt) :
    Permits current .failure updatedAt where
  notBackward := notBackward
  notSuperseded := by
    rw [isCurrent]
    decide
  lifecycleAllowed := by
    cases stage : current.lifecycle <;> simp [RunRow.withChanges, RunTransition.failure,
      lifecycleTransitions]
  phaseForward := Nat.le_refl _
  publicationAllowed := by
    cases state : current.publicationState <;> simp [RunRow.withChanges, RunTransition.failure,
      publicationTransitions, state]
  terminalHasReason := fun _ => by simp [RunRow.withChanges, RunTransition.failure]
  reasonOnlyTerminal := fun absurdity => absurd rfl absurdity
  reasonImmutable := fun recorded => absurd (valid.reasonOnlyTerminal active) recorded
  statusImmutable := fun _ => rfl
  outcomeImmutable := fun _ => rfl
  changes := fun same => active (congrArg RunRow.lifecycle same).symm

/-- A run that can be failed was not terminal for another reason. -/
theorem Permits.failure_active {current : RunRow} {updatedAt : Int}
    (permits : Permits current .failure updatedAt) (valid : current.Valid) :
    current.lifecycle ≠ .terminal := by
  intro terminal
  have recorded := valid.terminalHasReason terminal
  have kept : some TerminalReason.failed = current.terminalReason := permits.reasonImmutable recorded
  apply permits.changes
  cases current
  simp_all [RunRow.withChanges, RunTransition.failure]

end PatchProof
