import PatchProof.Worker.Execute

/-!
# Publishing a stored report

The Checks client, which updates a known Check, finds one by its external
identifier, or creates one, and the publisher around it, which keeps retry and
idempotency state in the store.  A transport failure or a transient status is
retryable, any other refusal is terminal, and whatever else the client raises
passes through.
-/

set_option autoImplicit false

namespace PatchProof

variable {p : Platform}

/-! ## The Checks client -/

def transientStatuses : List Nat := [408, 409, 425, 429]

/-- `_request`: the body of a response, or the exception its status stands for. -/
def acceptResponse {Body : Type} (unusable : String) : HttpReply Body → Activity p Body
  | .unavailable => Program.raise (.checkRetryable "GitHub Checks API is temporarily unavailable")
  | .response status body => do
      Program.demand (¬ (status ∈ transientStatuses ∨ 500 ≤ status))
        (.checkRetryable ("GitHub Checks API transient HTTP " ++ toString status))
      Program.demand (200 ≤ status ∧ status < 300)
        (.checkTerminal ("GitHub Checks API rejected publication with HTTP " ++ toString status))
      match body with
      | some body => return body
      | none => Program.raise (.checkRetryable unusable)

/-- `token_for`. -/
def tokenFor (installationId : PositiveInt) (repository : RepositoryName) : Activity p String := do
  match ← external .installationToken (installationId, repository) with
  | .token token => return token
  | .retryable message => Program.raise (.checkRetryable message)
  | .terminal message => Program.raise (.checkTerminal message)

/-- The first listed Check with the external identifier. -/
def firstMatching (externalId : String) : List ListedCheck → Activity p (Option Int)
  | [] => return none
  | listed :: rest =>
      if listed.externalId = some externalId then
        match listed.checkRunId with
        | some checkRunId => return some checkRunId
        | none => Program.raise (.checkRetryable "GitHub returned an unusable Check listing")
      else firstMatching externalId rest

/-- `_find_existing`. -/
def findExisting (repository : RepositoryName) (payload : GitHubCheckPayload) :
    Activity p (Option Int) := do
  let listed ← acceptResponse "GitHub returned an unusable Check listing"
    (← external .listCheckRuns (repository, payload.headSha))
  firstMatching payload.externalId listed

/-- `upsert_completed`. -/
def upsertCompleted (repository : RepositoryName) (installationId : Option PositiveInt)
    (payload : GitHubCheckPayload) (knownCheckRunId : Option Int) : Activity p Int := do
  match installationId with
  | none =>
      Program.raise (.checkTerminal "webhook did not include a GitHub App installation ID")
  | some installationId =>
      let _ ← tokenFor installationId repository
      let known ← match knownCheckRunId with
        | some checkRunId => pure (some checkRunId)
        | none => findExisting repository payload
      let reply ← match known with
        | some checkRunId => external .updateCheckRun (repository, checkRunId, payload)
        | none => external .createCheckRun (repository, payload)
      let remoteId ← acceptResponse "GitHub returned an unusable Check response" reply
      Program.demand (0 < remoteId) (.checkRetryable "GitHub returned an invalid Check ID")
      return remoteId

/-! ## The publisher -/

/-- A publication that is already published is checked against the stored report. -/
def confirmPublished (runId : RunId) (payload : GitHubCheckPayload) :
    Activity p CheckPublication := do
  match ← perform (.getPublication runId) with
  | none => Program.raise (.runtime "published run is missing GitHub Check metadata")
  | some publication =>
      Program.demand (publication.payloadSha256 = (p.payloadSha256 payload).text)
        (.runtime "published GitHub Check payload does not match stored evidence")
      return publication

/-- Create or update the Check and remember its identity. -/
def announce (runId : RunId) (run : VerificationRun) (payload : GitHubCheckPayload)
    (publication : CheckPublication) : Activity p CheckPublication := do
  let checkRunId ← upsertCompleted run.repository run.installationId payload publication.checkRunId
  perform (.setCheckRunId runId checkRunId)

/-- Move the newest row of a run to a publication state. -/
def movePublication (runId : RunId) (state : PublicationState) : Activity p Unit := do
  let latest ← perform (.getRun runId)
  let _ ← perform (.transitionRun runId latest.version { publicationState := some state })

/-- Keep a publication error and its state, then raise it again. -/
def withdraw {α : Type} (runId : RunId) (error : String) (state : PublicationState)
    (exception : RaisedException) : Activity p α := do
  let _ ← perform (.recordPublicationError runId error)
  movePublication runId state
  Program.raise exception

/-- Announce, keeping what the client reports about a failure. -/
def announceOrWithdraw (runId : RunId) (run : VerificationRun) (payload : GitHubCheckPayload)
    (publication : CheckPublication) : Activity p CheckPublication :=
  (announce runId run payload publication).catching fun
    | .checkRetryable message =>
        withdraw runId message .retryableFailure (.checkRetryable message)
    | .checkTerminal message =>
        withdraw runId message .terminalFailure (.checkTerminal message)
    | exception => Program.raise exception

/-- The attempt that follows the checks of `publish`. -/
def deliver (runId : RunId) (payload : GitHubCheckPayload) : Activity p CheckPublication := do
  let publication ← perform (.beginPublication runId (p.payloadSha256 payload).text)
  let run ← perform (.getRun runId)
  let run ← if run.publicationState = .retryableFailure then
      perform (.transitionRun runId run.version { publicationState := some .pending })
    else pure run
  let publication ← announceOrWithdraw runId run payload publication
  movePublication runId .published
  return publication

/-- `GitHubCheckPublisher.publish`. -/
def publish (runId : RunId) : Activity p CheckPublication := do
  let run ← perform (.getRun runId)
  Program.demand (run.revisionState = .current)
    (.runtime "superseded verification run cannot publish")
  Program.demand (run.lifecycle = .terminal ∧ run.terminalReason = some .completed)
    (.runtime "publication requires a completed verification run")
  match ← perform (.getEvidence runId) with
  | none => Program.raise (.runtime "publication requires a stored evidence document")
  | some evidence =>
      let report ← attempt (p.decode evidence.documentJson)
      if run.publicationState = .published then confirmPublished runId (p.payload report)
      else do
        Program.demand (run.publicationState ≠ .terminalFailure)
          (.runtime "terminal GitHub publication failure cannot be retried")
        deliver runId (p.payload report)

end PatchProof
