import Mathlib.Data.List.Sort
import PatchProof.Storage.Records

/-!
# The SQLite run store

The relational implementation of the store contract: five tables, the queries of
the source as functions of the rows, and one definition per operation.  Each
operation runs inside one transaction.  It returns its result with the new
store, or it raises, and `SqliteStore.perform` then keeps the old store, which is
the rollback.

Primary keys and the partial unique index on current runs raise an integrity
error.  The guards on the number of updated rows cannot fail inside the
transaction that has just read the row, and are not repeated.  Integers are
unbounded: the 64-bit range of the columns is not modelled.
-/

set_option autoImplicit false

namespace PatchProof

/-- The tables of the database. -/
structure SqliteStore (Document : Type) where
  runs : Table RunRow.runId
  deliveries : Table DeliveryRecord.deliveryId
  evidence : Table (@StoredEvidence.runId Document)
  publications : Table CheckPublication.runId
  failures : Table RunFailureRecord.runId

namespace SqliteStore

variable {Document : Type}

/-- The freshly initialized database. -/
def empty : SqliteStore Document where
  runs := .empty
  deliveries := .empty
  evidence := .empty
  publications := .empty
  failures := .empty

/-! ## Queries -/

/-- `SELECT * FROM runs WHERE run_id = ?`, or the not-found exception. -/
def requireRun (store : SqliteStore Document) (runId : RunId) :
    Except StoreException VerificationRun :=
  match store.runs.lookup runId with
  | some row => VerificationRun.modelValidate row
  | none => .error (.runNotFound ("verification run not found: " ++ runId.text))

/-- Load the row a query found, if it found one. -/
def loadRow : Option RunRow → Except StoreException (Option VerificationRun)
  | some row => do return some (← VerificationRun.modelValidate row)
  | none => .ok none

/-- Load every row of a result set. -/
def loadRows : List RunRow → Except StoreException (List VerificationRun)
  | [] => .ok []
  | row :: rest => do
      let run ← VerificationRun.modelValidate row
      return run :: (← loadRows rest)

/-- The run joined to a delivery identifier. -/
def duplicateDelivery (store : SqliteStore Document) (deliveryId : String) : Option RunRow :=
  (store.deliveries.lookup deliveryId).bind fun delivery => store.runs.lookup delivery.runId

/-- The first current run of a pull request. -/
def currentRow (store : SqliteStore Document) (pull : RepositoryName × PositiveInt) :
    Option RunRow :=
  store.runs.rows.find? fun row => decide (row.pullRequest = pull ∧ row.revisionState = .current)

/-- `ORDER BY head_updated_at DESC, created_at DESC`. -/
def newestFirst (row other : RunRow) : Prop :=
  other.headUpdatedAt < row.headUpdatedAt ∨
    (other.headUpdatedAt = row.headUpdatedAt ∧ other.createdAt ≤ row.createdAt)

instance : DecidableRel newestFirst := fun row other => by
  unfold newestFirst
  infer_instance

/-- The newest run of a BASE/HEAD pair. -/
def duplicateRevision (store : SqliteStore Document) (pull : RepositoryName × PositiveInt)
    (revision : GitSha × GitSha) : Option RunRow :=
  ((store.runs.rows.filter fun row =>
    decide (row.pullRequest = pull ∧ row.revision = revision)).insertionSort newestFirst).head?

/-- `ORDER BY created_at, run_id`. -/
def auditOrder (row other : RunRow) : Prop :=
  row.createdAt < other.createdAt ∨
    (row.createdAt = other.createdAt ∧ row.runId.bits.toNat ≤ other.runId.bits.toNat)

instance : DecidableRel auditOrder := fun row other => by
  unfold auditOrder
  infer_instance

/-! ## Inserts -/

/-- Insert a row, raising when its primary key is taken. -/
def insertRow {ρ κ : Type} {key : ρ → κ} [DecidableEq κ] (table : Table key) (row : ρ) :
    Except StoreException (Table key) :=
  match table.insert? row with
  | some grown => .ok grown
  | none => .error .integrity

/-- Insert a run, raising also when the pull request already has a current run
and the new one is current. -/
def insertRun (table : Table RunRow.runId) (row : RunRow) :
    Except StoreException (Table RunRow.runId) := do
  Guard.require (row.revisionState = .current → ∀ other ∈ table.rows,
    other.pullRequest = row.pullRequest → other.revisionState ≠ .current) .integrity
  insertRow table row

/-! ## Accepting events -/

/-- An event of a known revision: refresh the run if the event is newer, and
record the delivery. -/
def acceptDuplicate (store : SqliteStore Document) (event : PullRequestEvent) (now : Int)
    (run : VerificationRun) : Except StoreException (AcceptanceResult × SqliteStore Document) := do
  let runs := if run.headUpdatedAt < event.headUpdatedAt
    then store.runs.replace (run.toRunRow.refreshed event now) else store.runs
  let kept ← if run.headUpdatedAt < event.headUpdatedAt
    then requireRun { store with runs := runs } run.runId else .ok run
  let deliveries ← insertRow store.deliveries ⟨event.deliveryId.text, kept.runId, now⟩
  return (⟨.duplicateRevision, kept.toRunRow⟩, { store with runs := runs, deliveries := deliveries })

/-- An event that gets a run of its own: replace the current run unless the event
is stale, insert the new run, and record the delivery. -/
def acceptNew (store : SqliteStore Document) (event : PullRequestEvent) (input : StoreInput)
    (current : Option VerificationRun) :
    Except StoreException (AcceptanceResult × SqliteStore Document) := do
  let stale := isStale event current
  let runs := match current with
    | some run => if stale then store.runs
        else store.runs.replace (run.toRunRow.replacedBy input.freshRunId input.now)
    | none => store.runs
  let run := RunRow.created event input
    (if stale then current.map fun newer => newer.runId else none)
  let runs ← insertRun runs run
  let deliveries ← insertRow store.deliveries ⟨event.deliveryId.text, run.runId, input.now⟩
  return (⟨if stale then .staleCreated else .created, run⟩,
    { store with runs := runs, deliveries := deliveries })

/-- Deduplicate, supersede stale work, and persist one delivery. -/
def acceptPullRequest (store : SqliteStore Document) (event : PullRequestEvent)
    (input : StoreInput) : Except StoreException (AcceptanceResult × SqliteStore Document) :=
  match store.duplicateDelivery event.deliveryId.text with
  | some row => do
      let run ← VerificationRun.modelValidate row
      return (⟨.duplicateDelivery, run.toRunRow⟩, store)
  | none => do
      let current ← loadRow (store.currentRow event.pullRequest)
      let duplicate ← loadRow (store.duplicateRevision event.pullRequest event.revision)
      match duplicate with
      | some run =>
          if reusesRevision event current run then store.acceptDuplicate event input.now run
          else store.acceptNew event input current
      | none => store.acceptNew event input current

/-! ## Reading and moving runs -/

/-- The revision history of one pull request. -/
def listRuns (store : SqliteStore Document) (repository : String) (prNumber : Int) :
    Except StoreException (List VerificationRun) :=
  loadRows ((store.runs.rows.filter fun row =>
    decide (row.repository.text = lower repository ∧ row.prNumber.value = prNumber)).insertionSort
      auditOrder)

/-- Apply one optimistic transition. -/
def transitionRun (store : SqliteStore Document) (now : Int) (runId : RunId)
    (expectedVersion : Int) (transition : RunTransition) :
    Except StoreException (VerificationRun × SqliteStore Document) := do
  let current ← store.requireRun runId
  Guard.require (current.version = expectedVersion)
    (.concurrentRunUpdate ("run version is " ++ toString current.version ++ ", expected "
      ++ toString expectedVersion))
  let updated ← applyRunTransition current transition now
  return (updated, { store with runs := store.runs.replace updated.toRunRow })

/-- Record one sanitized failure and terminate an active current run. -/
def failRun (store : SqliteStore Document) (now : Int) (runId : RunId)
    (errorCode summary : String) (retryable : Bool) (modelUsage : Option ModelUsage)
    (rawResponseSha256 : Option String) :
    Except StoreException (RunFailureRecord × SqliteStore Document) := do
  Guard.require (isErrorCode errorCode = true)
    (.value "worker failure code must be a bounded uppercase identifier")
  Guard.require (boundedSummary summary ≠ "") (.value "worker failure summary must not be empty")
  Guard.require (rawResponseSha256.all isSha256 = true)
    (.value "worker failure response hash must be lowercase SHA-256")
  let current ← store.requireRun runId
  match store.failures.lookup runId with
  | some prior => return (prior, store)
  | none =>
      let updated ← applyRunTransition current .failure now
      let failure : RunFailureRecord := ⟨runId, current.phase, errorCode, boundedSummary summary,
        retryable, now, modelUsage, rawResponseSha256⟩
      let failures ← insertRow store.failures failure
      return (failure,
        { store with runs := store.runs.replace updated.toRunRow, failures := failures })

/-! ## Evidence and publication -/

/-- Insert one immutable evidence document, or return an identical prior insert. -/
def saveEvidence [DecidableEq Document] (sha256Of : Document → String)
    (store : SqliteStore Document) (now : Int) (runId : RunId) (documentJson : Document)
    (sha256 : String) : Except StoreException (StoredEvidence Document × SqliteStore Document) := do
  Guard.require (sha256Of documentJson = sha256)
    (.value "evidence SHA-256 does not match serialized evidence")
  let _ ← store.requireRun runId
  match store.evidence.lookup runId with
  | some row =>
      Guard.require (row.sha256 = sha256 ∧ row.documentJson = documentJson)
        (.storedEvidenceConflict "stored evidence cannot be overwritten")
      return (row, store)
  | none =>
      let row : StoredEvidence Document := ⟨runId, documentJson, sha256, now⟩
      let evidence ← insertRow store.evidence row
      return (row, { store with evidence := evidence })

/-- Start or retry publication without changing its payload. -/
def beginPublication (store : SqliteStore Document) (now : Int) (runId : RunId)
    (payloadSha256 : String) : Except StoreException (CheckPublication × SqliteStore Document) := do
  Guard.require (isSha256 payloadSha256 = true)
    (.value "publication payload hash must be a lowercase SHA-256 value")
  let _ ← store.requireRun runId
  match store.publications.lookup runId with
  | some row =>
      Guard.require (row.payloadSha256 = payloadSha256)
        (.storedEvidenceConflict "publication payload cannot be replaced")
      let retried := { row with
        attemptCount := row.attemptCount + 1, lastError := none, updatedAt := now }
      return (retried, { store with publications := store.publications.replace retried })
  | none =>
      let row : CheckPublication := ⟨runId, payloadSha256, none, 1, none, now⟩
      let publications ← insertRow store.publications row
      return (row, { store with publications := publications })

/-- The publication row of a run whose publication has started. -/
def requirePublication (store : SqliteStore Document) (runId : RunId) :
    Except StoreException CheckPublication :=
  match store.publications.lookup runId with
  | some row => .ok row
  | none => .error (.runNotFound "publication attempt has not started")

/-- Remember the remote Check identity. -/
def setCheckRunId (store : SqliteStore Document) (now : Int) (runId : RunId)
    (checkRunId : Int) : Except StoreException (CheckPublication × SqliteStore Document) := do
  Guard.require (0 < checkRunId) (.value "GitHub Check run ID must be positive")
  let row ← store.requirePublication runId
  Guard.require (row.checkRunId = none ∨ row.checkRunId = some checkRunId)
    (.storedEvidenceConflict "GitHub Check identity cannot be replaced")
  let identified := { row with checkRunId := some checkRunId, updatedAt := now }
  return (identified, { store with publications := store.publications.replace identified })

/-- Persist a bounded failure summary for operational retry. -/
def recordPublicationError (store : SqliteStore Document) (now : Int) (runId : RunId)
    (error : String) : Except StoreException (CheckPublication × SqliteStore Document) := do
  let row ← store.requirePublication runId
  let failed := { row with lastError := some (boundedPublicationError error), updatedAt := now }
  return (failed, { store with publications := store.publications.replace failed })

/-! ## Answering calls -/

section Calls

variable [DecidableEq Document] (sha256Of : Document → String)

/-- One operation as a transaction: its result and the new store, or an exception. -/
def execute (store : SqliteStore Document) (input : StoreInput) :
    (call : StoreCall Document) → Except StoreException (call.Result × SqliteStore Document)
  | .acceptPullRequest event => store.acceptPullRequest event input
  | .getRun runId => do return (← store.requireRun runId, store)
  | .listRuns repository prNumber => do return (← store.listRuns repository prNumber, store)
  | .transitionRun runId expectedVersion transition =>
      store.transitionRun input.now runId expectedVersion transition
  | .saveEvidence runId documentJson sha256 =>
      store.saveEvidence sha256Of input.now runId documentJson sha256
  | .getEvidence runId => .ok (store.evidence.lookup runId, store)
  | .beginPublication runId payloadSha256 => store.beginPublication input.now runId payloadSha256
  | .getPublication runId => .ok (store.publications.lookup runId, store)
  | .setCheckRunId runId checkRunId => store.setCheckRunId input.now runId checkRunId
  | .recordPublicationError runId error => store.recordPublicationError input.now runId error
  | .failRun runId errorCode summary retryable modelUsage rawResponseSha256 =>
      store.failRun input.now runId errorCode summary retryable modelUsage rawResponseSha256
  | .getFailure runId => .ok (store.failures.lookup runId, store)

/-- What the caller sees and the store it leaves: an exception rolls back. -/
def perform (store : SqliteStore Document) (input : StoreInput) (call : StoreCall Document) :
    Except StoreException call.Result × SqliteStore Document :=
  match store.execute sha256Of input call with
  | .ok (result, written) => (.ok result, written)
  | .error exception => (.error exception, store)

end Calls

end SqliteStore

end PatchProof
