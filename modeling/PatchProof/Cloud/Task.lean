import PatchProof.Publication.Publisher

/-!
# The cloud task

One delivery of a run's task: `process` composes the workflow in the control
plane, runs it when there is no stored evidence yet, and then publishes or marks
publication as not applicable; `verifyTask` decides whether the delivery is
acknowledged.  A routine that returns has acknowledged its delivery, one that
raises has asked for another.  The caller's identity has been verified before.
-/

set_option autoImplicit false

namespace PatchProof

variable {p : Platform}

/-! ## Processing -/

/-- The configuration that processing reads. -/
structure Deployment where
  allowedRepositories : List RepositoryName

/-- `_finish_without_github_check`. -/
def finishWithoutGithubCheck (runId : RunId) : Activity p Unit := do
  let run ← perform (.getRun runId)
  if run.publicationState = .pending then
    let _ ← perform (.transitionRun runId run.version { publicationState := some .notApplicable })

/-- Publish, or mark publication as not applicable, as the first read of the run
says. -/
def settle (runId : RunId) (run : VerificationRun) : Activity p Unit :=
  if run.installationId.isSome then do
    let _ ← publish runId
  else finishWithoutGithubCheck runId

/-- Whether the run was asked for through the analysis endpoint. -/
def isProductAnalysis (run : VerificationRun) : Bool := run.eventAction == "patchproof_analyze"

/-- Compose the workflow of a run inside the temporary directory, and run it. -/
def composeAndRun (runId : RunId) (run : VerificationRun) : Activity p Unit := do
  external .prepareRepository run.revisions
  let contract ← if isProductAnalysis run then external .preparePullRequest run.revisions
    else do
      let raw ← external .readCommittedFile (run.headSha, contractFilename)
      attempt (p.loadContract raw)
  let _ ← runReliably
    { challenge := .executor
      runnerContract := contract
      installDependencies := true
      investigates := isProductAnalysis run } runId

/-- `CloudRunTaskProcessor.process`. -/
def process (deployment : Deployment) (runId : RunId) : Activity p Unit := do
  let run ← perform (.getRun runId)
  Program.demand (run.repository ∈ deployment.allowedRepositories)
    (.permission "durable run repository is not allowlisted")
  match ← perform (.getEvidence runId) with
  | some _ => settle runId run
  | none =>
      external .createTemporaryDirectory ()
      releasing (composeAndRun runId run) (external .removeTemporaryDirectory ())
      settle runId run

/-! ## Acknowledging -/

/-- What an acknowledged delivery is answered with. -/
inductive TaskAnswer where
  | completed
  | terminal
  deriving DecidableEq

/-- What `verify_task` makes of an exception. -/
def answerException (runId : RunId) (exception : RaisedException) : Activity p TaskAnswer :=
  match exception with
  | .checkRetryable message => Program.raise (.checkRetryable message)
  | .evidenceWorker _ => return .terminal
  | .checkTerminal _ => return .terminal
  | exception =>
      if exception.isPermission then return .terminal
      else do
        recordFailure runId exception
        return .terminal

/-- `verify_task`. -/
def verifyTask (deployment : Deployment) (runId : RunId) : Activity p TaskAnswer :=
  (do
    process deployment runId
    return TaskAnswer.completed).catching (answerException runId)

end PatchProof
