import PatchProof.Library.Guard
import PatchProof.Models

/-!
# Verification runs

The durable record of one verification run and the webhook facts it is created
from.  A run keeps several state dimensions apart: the coarse lifecycle, the
business phase, why work ended, the evidence and claim conclusions, the
publication state, and whether the revision is still the pull request's newest.

`RunRow` is what a store holds.  `VerificationRun` is a row that has passed the
model's own validators, which is a proof field: every function that hands out a
run hands out a valid one, and a row that fails its validators can be stored but
not loaded.  Columns whose text is checked once, when the webhook event is
validated, carry that check in their type.

Timestamps are integers counting microseconds; the source normalizes them all to
one zone, and its ISO text orders as the instants do.
-/

set_option autoImplicit false

namespace PatchProof

/-! ## Exceptions of the run models and stores -/

/-- The exceptions that the transition rules and the stores raise, each with its
message. -/
inductive StoreException where
  | runNotFound (message : String)
  | concurrentRunUpdate (message : String)
  | storedEvidenceConflict (message : String)
  | invalidRunTransition (message : String)
  | validation (message : String)
  | value (message : String)
  | integrity
  | alreadyExists
  deriving DecidableEq

/-- The class an exception belongs to, its message forgotten. -/
inductive StoreExceptionClass where
  | runNotFound
  | concurrentRunUpdate
  | storedEvidenceConflict
  | invalidRunTransition
  | validation
  | value
  | integrity
  | alreadyExists
  deriving DecidableEq

def StoreException.exceptionClass : StoreException → StoreExceptionClass
  | .runNotFound _ => .runNotFound
  | .concurrentRunUpdate _ => .concurrentRunUpdate
  | .storedEvidenceConflict _ => .storedEvidenceConflict
  | .invalidRunTransition _ => .invalidRunTransition
  | .validation _ => .validation
  | .value _ => .value
  | .integrity => .integrity
  | .alreadyExists => .alreadyExists

/-! ## State dimensions -/

/-- Coarse scheduling lifecycle, independent of the phase. -/
inductive RunLifecycle where
  | accepted
  | queued
  | running
  | terminal
  deriving DecidableEq

def RunLifecycle.value : RunLifecycle → String
  | .accepted => "ACCEPTED"
  | .queued => "QUEUED"
  | .running => "RUNNING"
  | .terminal => "TERMINAL"

/-- Current business phase within a verification run. -/
inductive RunPhase where
  | context
  | claim
  | testGeneration
  | baseExecution
  | headExecution
  | assessment
  | publication
  deriving DecidableEq

def RunPhase.value : RunPhase → String
  | .context => "CONTEXT"
  | .claim => "CLAIM"
  | .testGeneration => "TEST_GENERATION"
  | .baseExecution => "BASE_EXECUTION"
  | .headExecution => "HEAD_EXECUTION"
  | .assessment => "ASSESSMENT"
  | .publication => "PUBLICATION"

/-- Why work ended, separate from an evidence or claim outcome. -/
inductive TerminalReason where
  | completed
  | failed
  | superseded
  | cancelled
  deriving DecidableEq

/-- Retryable publication state, independent of the lifecycle. -/
inductive PublicationState where
  | notStarted
  | pending
  | published
  | retryableFailure
  | terminalFailure
  | notApplicable
  deriving DecidableEq

def PublicationState.value : PublicationState → String
  | .notStarted => "NOT_STARTED"
  | .pending => "PENDING"
  | .published => "PUBLISHED"
  | .retryableFailure => "RETRYABLE_FAILURE"
  | .terminalFailure => "TERMINAL_FAILURE"
  | .notApplicable => "NOT_APPLICABLE"

/-- Whether a run still represents the pull request's newest known HEAD. -/
inductive RevisionState where
  | current
  | superseded
  deriving DecidableEq

/-! ## Events -/

/-- Validated webhook facts accepted by the persistence boundary. -/
structure PullRequestEvent where
  deliveryId : BoundedText 1 128
  action : BoundedText 1 64
  repository : RepositoryName
  prNumber : PositiveInt
  baseSha : GitSha
  headSha : GitSha
  headUpdatedAt : Int
  title : BoundedText 1 300 := ⟨"Untitled pull request", by decide⟩
  body : BoundedText 0 8000 := ⟨"", by decide⟩
  installationId : Option PositiveInt := none
  deriving DecidableEq

/-! ## Rows and runs -/

/-- The identity of a run, a UUID. -/
structure RunId where
  bits : BitVec 128
  deriving DecidableEq

theorem RunId.ext_bits {runId other : RunId} (same : runId.bits = other.bits) : runId = other := by
  cases runId
  cases other
  cases same
  rfl

/-- The last `count` hexadecimal digits of a number. -/
def hexDigits : Nat → Nat → List Char
  | 0, _ => []
  | count + 1, number => hexDigits count (number / 16) ++ [Nat.digitChar (number % 16)]

/-- `str(run_id)`: the digits in groups of 8, 4, 4, 4 and 12.  The text orders as
the number does. -/
def RunId.text (runId : RunId) : String :=
  let digits := hexDigits 32 runId.bits.toNat
  String.ofList (digits.take 8 ++ '-' :: (digits.drop 8).take 4 ++ '-' :: (digits.drop 12).take 4 ++
    '-' :: (digits.drop 16).take 4 ++ '-' :: digits.drop 20)

/-- One stored row of the run table. -/
structure RunRow where
  runId : RunId
  deliveryId : String
  eventAction : String
  repository : RepositoryName
  prNumber : PositiveInt
  baseSha : GitSha
  headSha : GitSha
  headUpdatedAt : Int
  title : BoundedText 1 300
  body : BoundedText 0 8000
  installationId : Option PositiveInt
  lifecycle : RunLifecycle
  phase : RunPhase
  terminalReason : Option TerminalReason
  mechanicalEvidenceStatus : Option MechanicalEvidenceStatus
  claimOutcome : Option ClaimOutcome
  publicationState : PublicationState
  revisionState : RevisionState
  supersededByRunId : Option RunId
  createdAt : Int
  updatedAt : Int
  version : Int
  deriving DecidableEq

/-- The validators of a run, in the order in which they are tried: the version
bound of the field, then `validate_dimensions`. -/
def RunRow.validate (row : RunRow) : Except StoreException Unit := do
  Guard.require (1 ≤ row.version) (.validation "Input should be greater than or equal to 1")
  Guard.require (row.lifecycle = .terminal → row.terminalReason ≠ none)
    (.validation "terminal lifecycle requires a terminal reason")
  Guard.require (row.lifecycle ≠ .terminal → row.terminalReason = none)
    (.validation "non-terminal lifecycle cannot have a terminal reason")
  Guard.require (row.revisionState = .current → row.supersededByRunId = none)
    (.validation "current revision cannot reference a superseding run")
  Guard.require (row.revisionState = .superseded → row.supersededByRunId ≠ none)
    (.validation "superseded revision must reference its replacement run")
  Guard.require (row.createdAt ≤ row.updatedAt)
    (.validation "updated timestamp cannot precede creation")

/-- What the validators of a run establish. -/
structure RunRow.Valid (row : RunRow) : Prop where
  versionPositive : 1 ≤ row.version
  terminalHasReason : row.lifecycle = .terminal → row.terminalReason ≠ none
  reasonOnlyTerminal : row.lifecycle ≠ .terminal → row.terminalReason = none
  currentNotReplaced : row.revisionState = .current → row.supersededByRunId = none
  supersededReplaced : row.revisionState = .superseded → row.supersededByRunId ≠ none
  notBeforeCreation : row.createdAt ≤ row.updatedAt

theorem RunRow.validate_eq_ok_iff {row : RunRow} {value : Unit} :
    row.validate = .ok value ↔ row.Valid := by
  simp only [RunRow.validate, Guard.require_bind_eq_ok_iff, Guard.require_eq_ok_iff]
  constructor
  · rintro ⟨version, hasReason, onlyTerminal, notReplaced, replaced, order⟩
    exact ⟨version, hasReason, onlyTerminal, notReplaced, replaced, order⟩
  · intro valid
    exact ⟨valid.versionPositive, valid.terminalHasReason, valid.reasonOnlyTerminal,
      valid.currentNotReplaced, valid.supersededReplaced, valid.notBeforeCreation⟩

instance (row : RunRow) : Decidable row.Valid :=
  match checked : row.validate with
  | .ok _ => isTrue (RunRow.validate_eq_ok_iff.mp checked)
  | .error _ => isFalse fun valid => by
      have passed : row.validate = .ok () := RunRow.validate_eq_ok_iff.mpr valid
      rw [passed] at checked
      cases checked

/-- A row that has passed the validators. -/
structure VerificationRun extends RunRow where
  valid : toRunRow.Valid

theorem VerificationRun.ext_row {run other : VerificationRun}
    (same : run.toRunRow = other.toRunRow) : run = other := by
  cases run
  cases other
  cases same
  rfl

instance : DecidableEq VerificationRun := fun run other =>
  decidable_of_iff (run.toRunRow = other.toRunRow)
    ⟨VerificationRun.ext_row, congrArg VerificationRun.toRunRow⟩

/-- `VerificationRun.model_validate`: a valid row becomes a run, any other raises. -/
def VerificationRun.modelValidate (row : RunRow) : Except StoreException VerificationRun :=
  match checked : row.validate with
  | .ok _ => .ok ⟨row, RunRow.validate_eq_ok_iff.mp checked⟩
  | .error exception => .error exception

theorem VerificationRun.modelValidate_eq_ok_iff {row : RunRow} {run : VerificationRun} :
    VerificationRun.modelValidate row = .ok run ↔ run.toRunRow = row := by
  unfold VerificationRun.modelValidate
  split
  · rename_i checked
    constructor
    · intro returned
      cases returned
      rfl
    · intro same
      subst same
      rfl
  · rename_i exception checked
    constructor
    · intro returned
      cases returned
    · intro same
      subst same
      have passed : run.toRunRow.validate = .ok () := RunRow.validate_eq_ok_iff.mpr run.valid
      rw [passed] at checked
      cases checked

theorem VerificationRun.modelValidate_of_valid {row : RunRow} (valid : row.Valid) :
    VerificationRun.modelValidate row = .ok ⟨row, valid⟩ :=
  VerificationRun.modelValidate_eq_ok_iff.mpr rfl

theorem VerificationRun.modelValidate_raises {row : RunRow} {raised : StoreException}
    (refused : VerificationRun.modelValidate row = .error raised) :
    ∃ message, raised = .validation message := by
  unfold VerificationRun.modelValidate at refused
  split at refused
  · cases refused
  · rename_i exception checked
    cases refused
    simp only [RunRow.validate, Guard.bind_eq_error_iff, Guard.require_eq_error_iff] at checked
    rcases checked with ⟨_, rfl⟩ | ⟨_, _, ⟨_, rfl⟩ | ⟨_, _, ⟨_, rfl⟩ | ⟨_, _, ⟨_, rfl⟩ |
      ⟨_, _, ⟨_, rfl⟩ | ⟨_, _, _, rfl⟩⟩⟩⟩⟩
    all_goals exact ⟨_, rfl⟩

end PatchProof
