import PatchProof.ClaimAgent
import PatchProof.Library.Table
import PatchProof.Workflow.Transition

/-!
# Stored records and the store contract

The records that a run store keeps beside the runs, and the persistence contract
`VerificationRunStore`: its operations as an enumeration of calls, each with the
type of what it returns.  Both implementations answer the same calls, given the
clock reading and the fresh run identifier that the call may consume.

The serialized evidence document is a type parameter.  Stores compare documents
and hash them and do nothing else with them.
-/

set_option autoImplicit false

namespace PatchProof

/-! ## Records -/

/-- Idempotency or supersession result of accepting one webhook event. -/
inductive AcceptanceKind where
  | created
  | duplicateDelivery
  | duplicateRevision
  | staleCreated
  deriving DecidableEq

/-- A stored run and why this delivery resolved to it.  The run is given by its
row: one of the stores hands out a copy that no validator has seen. -/
structure AcceptanceResult where
  kind : AcceptanceKind
  run : RunRow
  deriving DecidableEq

/-- The run that a delivery identifier resolved to. -/
structure DeliveryRecord where
  deliveryId : String
  runId : RunId
  receivedAt : Int
  deriving DecidableEq

/-- Content-addressed serialized evidence. -/
structure StoredEvidence (Document : Type) where
  runId : RunId
  documentJson : Document
  sha256 : String
  createdAt : Int
  deriving DecidableEq

/-- Retry metadata for one run's single logical GitHub Check. -/
structure CheckPublication where
  runId : RunId
  payloadSha256 : String
  checkRunId : Option Int
  attemptCount : Nat
  lastError : Option String
  updatedAt : Int
  deriving DecidableEq

/-- Sanitized terminal worker failure. -/
structure RunFailureRecord where
  runId : RunId
  phase : RunPhase
  errorCode : String
  summary : String
  retryable : Bool
  createdAt : Int
  modelUsage : Option ModelUsage
  rawResponseSha256 : Option String
  deriving DecidableEq

/-! ## The store contract -/

/-- What a call takes from its surroundings: one clock reading and one fresh
identifier. -/
structure StoreInput where
  now : Int
  freshRunId : RunId
  deriving DecidableEq

/-- The operations of `VerificationRunStore`. -/
inductive StoreCall (Document : Type) where
  | acceptPullRequest (event : PullRequestEvent)
  | getRun (runId : RunId)
  | listRuns (repository : String) (prNumber : Int)
  | transitionRun (runId : RunId) (expectedVersion : Int) (transition : RunTransition)
  | saveEvidence (runId : RunId) (documentJson : Document) (sha256 : String)
  | getEvidence (runId : RunId)
  | beginPublication (runId : RunId) (payloadSha256 : String)
  | getPublication (runId : RunId)
  | setCheckRunId (runId : RunId) (checkRunId : Int)
  | recordPublicationError (runId : RunId) (error : String)
  | failRun (runId : RunId) (errorCode summary : String) (retryable : Bool)
      (modelUsage : Option ModelUsage) (rawResponseSha256 : Option String)
  | getFailure (runId : RunId)
  deriving DecidableEq

/-- What each operation returns. -/
abbrev StoreCall.Result {Document : Type} : StoreCall Document → Type
  | .acceptPullRequest _ => AcceptanceResult
  | .getRun _ => VerificationRun
  | .listRuns _ _ => List VerificationRun
  | .transitionRun _ _ _ => VerificationRun
  | .saveEvidence _ _ _ => StoredEvidence Document
  | .getEvidence _ => Option (StoredEvidence Document)
  | .beginPublication _ _ => CheckPublication
  | .getPublication _ => Option CheckPublication
  | .setCheckRunId _ _ => CheckPublication
  | .recordPublicationError _ _ => CheckPublication
  | .failRun _ _ _ _ _ _ => RunFailureRecord
  | .getFailure _ => Option RunFailureRecord

/-- The identifiers a call draws: acceptance may need one for a new run. -/
def StoreCall.drawn {Document : Type} (call : StoreCall Document) (input : StoreInput) :
    List RunId :=
  match call with
  | .acceptPullRequest _ => [input.freshRunId]
  | _ => []

/-! ## Rows that both stores write -/

/-- The pull request a run belongs to. -/
def RunRow.pullRequest (row : RunRow) : RepositoryName × PositiveInt :=
  (row.repository, row.prNumber)

/-- The BASE/HEAD pair a run compares. -/
def RunRow.revision (row : RunRow) : GitSha × GitSha := (row.baseSha, row.headSha)

def PullRequestEvent.pullRequest (event : PullRequestEvent) : RepositoryName × PositiveInt :=
  (event.repository, event.prNumber)

def PullRequestEvent.revision (event : PullRequestEvent) : GitSha × GitSha :=
  (event.baseSha, event.headSha)

/-- The row after a newer event for the same revision. -/
def RunRow.refreshed (row : RunRow) (event : PullRequestEvent) (now : Int) : RunRow :=
  { row with
    headUpdatedAt := event.headUpdatedAt
    eventAction := event.action.text
    title := event.title
    body := event.body
    installationId := event.installationId
    updatedAt := now
    version := row.version + 1 }

/-- The row after a newer revision has replaced it. -/
def RunRow.replacedBy (row : RunRow) (replacement : RunId) (now : Int) : RunRow :=
  { row with
    revisionState := .superseded
    supersededByRunId := some replacement
    lifecycle := .terminal
    terminalReason := if row.lifecycle = .terminal then row.terminalReason else some .superseded
    updatedAt := now
    version := row.version + 1 }

/-- The row of a new run; `newer` is the current run when the event is stale. -/
def RunRow.created (event : PullRequestEvent) (input : StoreInput) (newer : Option RunId) :
    RunRow where
  runId := input.freshRunId
  deliveryId := event.deliveryId.text
  eventAction := event.action.text
  repository := event.repository
  prNumber := event.prNumber
  baseSha := event.baseSha
  headSha := event.headSha
  headUpdatedAt := event.headUpdatedAt
  title := event.title
  body := event.body
  installationId := event.installationId
  lifecycle := if newer.isSome then .terminal else .accepted
  phase := .context
  terminalReason := if newer.isSome then some .superseded else none
  mechanicalEvidenceStatus := none
  claimOutcome := none
  publicationState := .notStarted
  revisionState := if newer.isSome then .superseded else .current
  supersededByRunId := newer
  createdAt := input.now
  updatedAt := input.now
  version := 1

/-- The row a store writes for a new run passes the validators. -/
theorem RunRow.created_valid (event : PullRequestEvent) (input : StoreInput)
    (newer : Option RunId) : (RunRow.created event input newer).Valid := by
  cases newer <;> constructor <;> simp [RunRow.created]

/-- An event older than, or as old as, the current run. -/
def isStale (event : PullRequestEvent) : Option VerificationRun → Bool
  | some current => decide (event.headUpdatedAt ≤ current.headUpdatedAt)
  | none => false

/-- Whether an event for a known revision resolves to the run of that revision:
no run is current, or that run is the current one, or the event is not newer
than the current one. -/
def reusesRevision (event : PullRequestEvent) (current : Option VerificationRun)
    (duplicate : VerificationRun) : Bool :=
  match current with
  | none => true
  | some run =>
      decide (duplicate.runId = run.runId) || decide (event.headUpdatedAt ≤ run.headUpdatedAt)

/-- The bounded failure text a publication error is stored as. -/
def boundedPublicationError (error : String) : String :=
  orElseText (truncate 1000 (strip error)) "GitHub Check publication failed"

/-- The bounded summary a failed run is stored with. -/
def boundedSummary (summary : String) : String := truncate 500 (strip summary)

/-! ## Sample events -/

/-- A Git object name of 40 equal digits. -/
def sampleSha (digit : Char) (isHex : isLowerHex digit = true := by decide) : GitSha where
  text := String.ofList (List.replicate 40 digit)
  wellFormed := isGitSha_replicate digit isHex

theorem deliveryId_first : 1 ≤ "first".length ∧ "first".length ≤ 128 := by
  decide

theorem deliveryId_webhook : 1 ≤ "webhook".length ∧ "webhook".length ≤ 128 := by
  decide

theorem analyzeAction_bounded :
    1 ≤ "patchproof_analyze".length ∧ "patchproof_analyze".length ≤ 64 := by
  decide

theorem deliveryId_second : 1 ≤ "second".length ∧ "second".length ≤ 128 := by
  decide

/-- An event of one pull request, for evaluating the definitions. -/
def sampleEvent (deliveryId : String) (head : Char) (headUpdatedAt : Int)
    (isHex : isLowerHex head = true := by decide)
    (bounded : 1 ≤ deliveryId.length ∧ deliveryId.length ≤ 128 := by decide) :
    PullRequestEvent where
  deliveryId := ⟨deliveryId, bounded⟩
  action := ⟨"synchronize", by decide⟩
  repository := ⟨"octo/service", isRepositoryName_octo⟩
  prNumber := ⟨7, seven_positive⟩
  baseSha := sampleSha '0' isLowerHex_zero
  headSha := sampleSha head isHex
  headUpdatedAt := headUpdatedAt

end PatchProof
