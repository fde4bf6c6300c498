import PatchProof.Storage.DocumentKeys
import PatchProof.Storage.Sqlite

/-!
# The Firestore run store

The document implementation of the store contract.  Where the relational store
queries its run table, this one keeps pointer documents: one per pull request for
the current run and one per BASE/HEAD revision for the run created last, keyed by
a digest of their text.  Operations run in serialized transactions; a creation
whose document exists raises.

Two of its branches copy a run without validating the copy, so what acceptance
returns is a row.  The digest is a parameter.
-/

set_option autoImplicit false

namespace PatchProof

/-! ## Documents -/

/-- A run document: the run and the digest by which its pull request is found. -/
structure RunDocument where
  row : RunRow
  pullRequestKey : String
  deriving DecidableEq

def RunDocument.runId (document : RunDocument) : RunId := document.row.runId

/-- A pointer document: the run it points to, and the time it was stamped with. -/
structure PointerDocument where
  key : String
  runId : RunId
  stamp : Int
  deriving DecidableEq

/-- The collections of one namespace. -/
structure FirestoreStore (Document : Type) where
  runs : Table RunDocument.runId
  deliveries : Table DeliveryRecord.deliveryId
  current : Table PointerDocument.key
  revisions : Table PointerDocument.key
  evidence : Table (@StoredEvidence.runId Document)
  publications : Table CheckPublication.runId
  failures : Table RunFailureRecord.runId

namespace FirestoreStore

variable {Document : Type}

def empty : FirestoreStore Document where
  runs := .empty
  deliveries := .empty
  current := .empty
  revisions := .empty
  evidence := .empty
  publications := .empty
  failures := .empty

/-! ## Reads and creations -/

/-- Load a run document, or raise the not-found exception. -/
def getRun (store : FirestoreStore Document) (runId : RunId) :
    Except StoreException VerificationRun :=
  match store.runs.lookup runId with
  | some document => VerificationRun.modelValidate document.row
  | none => .error (.runNotFound ("verification run not found: " ++ runId.text))

/-- Load the run a pointer document points to, if the pointer exists. -/
def getPointed (store : FirestoreStore Document) (pointers : Table PointerDocument.key)
    (key : String) : Except StoreException (Option VerificationRun) :=
  match pointers.lookup key with
  | some pointer => do return some (← store.getRun pointer.runId)
  | none => .ok none

/-- `transaction.create`: write a document whose identifier must be new. -/
def createDocument {ρ κ : Type} {key : ρ → κ} [DecidableEq κ] (collection : Table key)
    (document : ρ) : Except StoreException (Table key) :=
  match collection.insert? document with
  | some grown => .ok grown
  | none => .error .alreadyExists

section Keys

variable (sha256 : String → String)

def pullKey (pull : RepositoryName × PositiveInt) : String :=
  sha256 (pullKeyText pull.1.text pull.2.value)

def revisionKey (pull : RepositoryName × PositiveInt) (revision : GitSha × GitSha) : String :=
  sha256 (revisionKeyText pull.1.text pull.2.value revision)

/-- The document of a run. -/
def runDocument (row : RunRow) : RunDocument := ⟨row, pullKey sha256 row.pullRequest⟩

/-! ## Accepting events -/

/-- An event of a known revision: refresh a copy of the run if the event is newer,
and record the delivery. -/
def acceptDuplicate (store : FirestoreStore Document) (event : PullRequestEvent) (now : Int)
    (duplicate : VerificationRun) :
    Except StoreException (AcceptanceResult × FirestoreStore Document) := do
  let newer := duplicate.headUpdatedAt < event.headUpdatedAt
  let shown := if newer then duplicate.toRunRow.refreshed event now else duplicate.toRunRow
  let runs := if newer then store.runs.put (runDocument sha256 shown) else store.runs
  let deliveries ← createDocument store.deliveries ⟨event.deliveryId.text, shown.runId, now⟩
  return (⟨.duplicateRevision, shown⟩, { store with runs := runs, deliveries := deliveries })

/-- An event that gets a run of its own, and the pointers that lead to it. -/
def acceptNew (store : FirestoreStore Document) (event : PullRequestEvent) (input : StoreInput)
    (current : Option VerificationRun) :
    Except StoreException (AcceptanceResult × FirestoreStore Document) := do
  let stale := isStale event current
  let runs := match current with
    | some run => if stale then store.runs
        else store.runs.put
          (runDocument sha256 (run.toRunRow.replacedBy input.freshRunId input.now))
    | none => store.runs
  let run := RunRow.created event input
    (if stale then current.map fun newer => newer.runId else none)
  let runs ← createDocument runs (runDocument sha256 run)
  let deliveries ← createDocument store.deliveries
    ⟨event.deliveryId.text, input.freshRunId, input.now⟩
  let revisions := store.revisions.put
    ⟨revisionKey sha256 event.pullRequest event.revision, input.freshRunId, event.headUpdatedAt⟩
  let pointers := if stale then store.current
    else store.current.put ⟨pullKey sha256 event.pullRequest, input.freshRunId, input.now⟩
  return (⟨if stale then .staleCreated else .created, run⟩,
    { store with
      runs := runs, deliveries := deliveries, revisions := revisions, current := pointers })

/-- Deduplicate deliveries and revisions and supersede one older current run. -/
def acceptPullRequest (store : FirestoreStore Document) (event : PullRequestEvent)
    (input : StoreInput) : Except StoreException (AcceptanceResult × FirestoreStore Document) :=
  match store.deliveries.lookup event.deliveryId.text with
  | some delivery => do
      let run ← store.getRun delivery.runId
      return (⟨.duplicateDelivery, run.toRunRow⟩, store)
  | none => do
      let current ← store.getPointed store.current (pullKey sha256 event.pullRequest)
      let duplicate ← store.getPointed store.revisions
        (revisionKey sha256 event.pullRequest event.revision)
      match duplicate with
      | some run =>
          if reusesRevision event current run then
            store.acceptDuplicate sha256 event input.now run
          else store.acceptNew sha256 event input current
      | none => store.acceptNew sha256 event input current

/-! ## Reading and moving runs -/

/-- The default order of a query's stream, by document identifier. -/
def streamOrder (document other : RunDocument) : Prop :=
  document.runId.bits.toNat ≤ other.runId.bits.toNat

instance : DecidableRel streamOrder := fun document other => by
  unfold streamOrder
  infer_instance

/-- The revision history of one pull request: every streamed document is loaded,
and the runs are sorted afterwards. -/
def listRuns (store : FirestoreStore Document) (repository : String) (prNumber : Int) :
    Except StoreException (List VerificationRun) := do
  let snapshots := (store.runs.rows.filter fun document =>
    decide (document.pullRequestKey = sha256 (pullKeyText (lower repository) prNumber))).insertionSort
      streamOrder
  let runs ← SqliteStore.loadRows (snapshots.map RunDocument.row)
  return runs.insertionSort fun run other => SqliteStore.auditOrder run.toRunRow other.toRunRow

/-- Apply one optimistic transition. -/
def transitionRun (store : FirestoreStore Document) (now : Int) (runId : RunId)
    (expectedVersion : Int) (transition : RunTransition) :
    Except StoreException (VerificationRun × FirestoreStore Document) := do
  let current ← store.getRun runId
  Guard.require (current.version = expectedVersion)
    (.concurrentRunUpdate ("expected run version " ++ toString expectedVersion ++ ", found "
      ++ toString current.version))
  let updated ← applyRunTransition current transition now
  return (updated, { store with runs := store.runs.put (runDocument sha256 updated.toRunRow) })

/-- Record one sanitized failure and terminate an active current run. -/
def failRun (store : FirestoreStore Document) (now : Int) (runId : RunId)
    (errorCode summary : String) (retryable : Bool) (modelUsage : Option ModelUsage)
    (rawResponseSha256 : Option String) :
    Except StoreException (RunFailureRecord × FirestoreStore Document) := do
  Guard.require (isErrorCode errorCode = true)
    (.value "worker failure code must be a bounded uppercase identifier")
  Guard.require (boundedSummary summary ≠ "") (.value "worker failure summary must not be empty")
  Guard.require (rawResponseSha256.all isSha256 = true)
    (.value "worker failure response hash must be lowercase SHA-256")
  match store.failures.lookup runId with
  | some prior => return (prior, store)
  | none =>
      let current ← store.getRun runId
      let updated ← applyRunTransition current .failure now
      let failure : RunFailureRecord := ⟨runId, current.phase, errorCode, boundedSummary summary,
        retryable, now, modelUsage, rawResponseSha256⟩
      let failures ← createDocument store.failures failure
      return (failure, { store with
        runs := store.runs.put (runDocument sha256 updated.toRunRow), failures := failures })

end Keys

/-! ## Evidence and publication -/

/-- Create one immutable evidence document, or return an identical prior one. -/
def saveEvidence [DecidableEq Document] (sha256Of : Document → String)
    (store : FirestoreStore Document) (now : Int) (runId : RunId) (documentJson : Document)
    (sha256 : String) :
    Except StoreException (StoredEvidence Document × FirestoreStore Document) := do
  Guard.require (sha256Of documentJson = sha256)
    (.value "evidence SHA-256 does not match serialized evidence")
  let _ ← store.getRun runId
  match store.evidence.lookup runId with
  | some stored =>
      Guard.require (stored.sha256 = sha256 ∧ stored.documentJson = documentJson)
        (.storedEvidenceConflict "stored evidence cannot be overwritten")
      return (stored, store)
  | none =>
      let stored : StoredEvidence Document := ⟨runId, documentJson, sha256, now⟩
      let evidence ← createDocument store.evidence stored
      return (stored, { store with evidence := evidence })

/-- Start or retry publication without changing its payload. -/
def beginPublication (store : FirestoreStore Document) (now : Int) (runId : RunId)
    (payloadSha256 : String) :
    Except StoreException (CheckPublication × FirestoreStore Document) := do
  Guard.require (isSha256 payloadSha256 = true)
    (.value "publication payload hash must be a lowercase SHA-256 value")
  let _ ← store.getRun runId
  match store.publications.lookup runId with
  | some current =>
      Guard.require (current.payloadSha256 = payloadSha256)
        (.storedEvidenceConflict "publication payload cannot be replaced")
      let updated : CheckPublication :=
        ⟨runId, payloadSha256, current.checkRunId, current.attemptCount + 1, none, now⟩
      return (updated, { store with publications := store.publications.put updated })
  | none =>
      let publication : CheckPublication := ⟨runId, payloadSha256, none, 1, none, now⟩
      let publications ← createDocument store.publications publication
      return (publication, { store with publications := publications })

/-- The shared update of a publication document: an identity, or an error text. -/
def updatePublication (store : FirestoreStore Document) (now : Int) (runId : RunId)
    (checkRunId : Option Int) (lastError : Option String) :
    Except StoreException (CheckPublication × FirestoreStore Document) :=
  match store.publications.lookup runId with
  | none => .error (.runNotFound "publication attempt has not started")
  | some current => do
      Guard.require (checkRunId ≠ none → current.checkRunId ≠ none →
          current.checkRunId = checkRunId)
        (.storedEvidenceConflict "GitHub Check identity cannot be replaced")
      let updated : CheckPublication := ⟨runId, current.payloadSha256,
        checkRunId.or current.checkRunId, current.attemptCount, lastError.or current.lastError, now⟩
      return (updated, { store with publications := store.publications.put updated })

/-- Remember the remote Check identity. -/
def setCheckRunId (store : FirestoreStore Document) (now : Int) (runId : RunId)
    (checkRunId : Int) : Except StoreException (CheckPublication × FirestoreStore Document) := do
  Guard.require (0 < checkRunId) (.value "GitHub Check run ID must be positive")
  store.updatePublication now runId (some checkRunId) none

/-- Persist a bounded failure summary. -/
def recordPublicationError (store : FirestoreStore Document) (now : Int) (runId : RunId)
    (error : String) : Except StoreException (CheckPublication × FirestoreStore Document) :=
  store.updatePublication now runId none (some (boundedPublicationError error))

/-! ## Answering calls -/

section Calls

variable [DecidableEq Document] (sha256Of : Document → String) (sha256 : String → String)

/-- One operation as a transaction: its result and the new store, or an exception. -/
def execute (store : FirestoreStore Document) (input : StoreInput) :
    (call : StoreCall Document) → Except StoreException (call.Result × FirestoreStore Document)
  | .acceptPullRequest event => store.acceptPullRequest sha256 event input
  | .getRun runId => do return (← store.getRun runId, store)
  | .listRuns repository prNumber => do return (← store.listRuns sha256 repository prNumber, store)
  | .transitionRun runId expectedVersion transition =>
      store.transitionRun sha256 input.now runId expectedVersion transition
  | .saveEvidence runId documentJson documentSha256 =>
      store.saveEvidence sha256Of input.now runId documentJson documentSha256
  | .getEvidence runId => .ok (store.evidence.lookup runId, store)
  | .beginPublication runId payloadSha256 => store.beginPublication input.now runId payloadSha256
  | .getPublication runId => .ok (store.publications.lookup runId, store)
  | .setCheckRunId runId checkRunId => store.setCheckRunId input.now runId checkRunId
  | .recordPublicationError runId error => store.recordPublicationError input.now runId error
  | .failRun runId errorCode summary retryable modelUsage rawResponseSha256 =>
      store.failRun sha256 input.now runId errorCode summary retryable modelUsage rawResponseSha256
  | .getFailure runId => .ok (store.failures.lookup runId, store)

/-- What the caller sees and the store it leaves: an exception commits nothing. -/
def perform (store : FirestoreStore Document) (input : StoreInput) (call : StoreCall Document) :
    Except StoreException call.Result × FirestoreStore Document :=
  match store.execute sha256Of sha256 input call with
  | .ok (result, written) => (.ok result, written)
  | .error exception => (.error exception, store)

end Calls

end FirestoreStore

end PatchProof
