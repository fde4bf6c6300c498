import PatchProof.Evidence.Classifier
import PatchProof.Worker.Candidates

/-!
# The evidence workflow

`execute` computes one run: it replays a stored result when there is one, and
otherwise admits the run, moves it to its semantic phase, selects a claim, tries
at most three candidates on BASE and HEAD, and persists a terminal result.  Every
step is the source's, in the source's order, and each store operation is a call of
its own, so that anything may happen between two of them.

The challenge session runs either on local worktrees, one execution after the
other, or in the private executor, which answers with the whole result at once.
-/

set_option autoImplicit false

namespace PatchProof

variable {p : Platform}

/-! ## Composition -/

/-- Where candidates are executed. -/
inductive ChallengeKind where
  | worktrees
  | executor
  deriving DecidableEq

/-- What a workflow was composed of. -/
structure EvidenceWorkflow (p : Platform) where
  challenge : ChallengeKind
  runnerContract : p.Contract
  installDependencies : Bool
  investigates : Bool

def contractFilename : String := ".patchproof.yaml"

/-! ## Store steps -/

/-- `_transition`. -/
def transition (run : VerificationRun) (requested : RunTransition) : Activity p VerificationRun :=
  perform (.transitionRun run.runId run.version requested)

/-- `_require_current`. -/
def requireCurrent (run : VerificationRun) : Activity p Unit :=
  Program.demand (run.revisionState = .current)
    (.runtime "superseded verification run cannot execute or publish")

/-- The transition by which a run is completed. -/
def RunTransition.completion (mechanicalStatus : MechanicalEvidenceStatus)
    (claimOutcome : ClaimOutcome) : RunTransition where
  lifecycle := some .terminal
  phase := some .publication
  terminalReason := some .completed
  mechanicalEvidenceStatus := some mechanicalStatus
  claimOutcome := some claimOutcome
  publicationState := some .pending

/-- `_persist_terminal`. -/
def persistTerminal (run : VerificationRun) (report : p.Report) :
    Activity p (StoredEvidence p.Document) := do
  let stored ← perform (.saveEvidence run.runId (p.encode report) (p.reportSha256 report).text)
  let latest ← perform (.getRun run.runId)
  let _ ← transition latest (.completion report.mechanicalStatus report.claimOutcome)
  return stored

/-- Build a report, persist it as the run's result, and return it. -/
def conclude (run : VerificationRun) (build : Int → Except RaisedException p.Report) :
    Activity p p.Report := do
  let createdAt ← external .readClock ()
  let report ← attempt (build createdAt)
  let _ ← persistTerminal run report
  return report

/-! ## Challenge sessions -/

/-- `session`: the worktrees live as long as the body. -/
def withSession {α : Type} (workflow : EvidenceWorkflow p) (run : VerificationRun)
    (body : Activity p α) : Activity p α :=
  match workflow.challenge with
  | .executor => body
  | .worktrees => do
      external .enterSession (run.baseSha, run.headSha)
      releasing body (external .leaveSession ())

/-- `session.installed_import_roots`. -/
def installedImportRoots (workflow : EvidenceWorkflow p) : Activity p (List String) :=
  match workflow.challenge with
  | .executor => return []
  | .worktrees => external .installedImportRoots ()

/-- `session.run`: execute one artifact on both revisions.  The callback learns of
the BASE result and its own result is passed on. -/
def runChallenge {τ : Type} (workflow : EvidenceWorkflow p) (run : VerificationRun)
    (artifact : TestArtifact) (onBaseComplete : ExecutionResult → Activity p τ) :
    Activity p (ChallengeResult × τ) :=
  match workflow.challenge with
  | .worktrees => do
      let base ← external .executeArtifact (.base, artifact)
      let state ← onBaseComplete base
      let head ← external .executeArtifact (.head, artifact)
      let result ← attempt (MechanicalEvidenceClassifier.challenge p.digest artifact base head)
      return (result, state)
  | .executor => do
      let result ← external .challengeRemotely (run.baseSha, run.headSha, artifact)
      Program.demand (p.digest result.artifact.content = p.digest artifact.content)
        (.runtime "private executor returned a different artifact")
      let state ← onBaseComplete result.base
      return (result, state)

/-- `_candidate_environment_failure`. -/
def candidateEnvironmentFailure (challenge : ChallengeResult) : Option EnvironmentReadiness :=
  let detail (result : ExecutionResult) : String :=
    orElseText (result.detail.getD "") "repository-declared setup failed"
  if challenge.base.status = .environmentSetupFailed then
    some ⟨.baseSetupFailed,
      truncate 2000 ("BASE repository environment setup failed: " ++ detail challenge.base)⟩
  else if challenge.head.status = .environmentSetupFailed then
    some ⟨.headSetupFailed,
      truncate 2000 ("HEAD repository environment setup failed: " ++ detail challenge.head)⟩
  else none

/-! ## Trying candidates -/

/-- What stays the same while candidates are tried. -/
structure CandidateTask (p : Platform) where
  claim : BehavioralClaim
  claimResult : ClaimAgentResult
  transcript : Option p.Transcript
  readiness : EnvironmentReadinessEvidence

/-- What changes from one candidate to the next. -/
structure CandidateRound (p : Platform) where
  run : VerificationRun
  generator : CandidateGenerator p
  attempt : CandidateAttempt
  attempts : List CandidateAttempt
  evaluations : List CandidateEvaluationEvidence := []
  challenge : Option ChallengeResult := none

/-- What a report written in this round starts from. -/
def CandidateRound.basis (round : CandidateRound p) (task : CandidateTask p)
    (readiness : EnvironmentReadinessEvidence) : ReportBasis p.Transcript where
  run := round.run
  claimResult := task.claimResult
  attempts := round.attempts
  evaluations := round.evaluations
  environmentReadiness := some readiness
  investigationTranscript := task.transcript

/-- `_advance_for_execution`. -/
def advanceForExecution (run : VerificationRun) : Activity p VerificationRun :=
  if run.phase = .testGeneration then transition run { phase := some .baseExecution }
  else return run

/-- `mark_head_execution`. -/
def markHeadExecution (runId : RunId) (run : VerificationRun) : Activity p VerificationRun := do
  requireCurrent (← perform (.getRun runId))
  if run.phase = .baseExecution then transition run { phase := some .headExecution }
  else return run

/-- `assessor.assess` under the bounded retry policy. -/
def assessChallenge (claim : BehavioralClaim) (source : String) (challenge : ChallengeResult) :
    Activity p SemanticAssessmentResult :=
  boundedRetry (external .assess (claim, source, challenge))
    fun attempts bounded (result : SemanticAssessmentResult) =>
      { result with usage := result.usage.withProviderAttempts attempts bounded }

/-- Look at the result of an executed candidate: an environment failure or a
discriminating result concludes the run. -/
def judgeChallenge (task : CandidateTask p) (round : CandidateRound p)
    (candidate : ValidatedCandidate) (challenge : ChallengeResult) :
    Activity p (Option p.Report) :=
  match candidateEnvironmentFailure challenge with
  | some failure => do
      let readiness ← attempt (EnvironmentReadinessEvidence.fromDomain failure)
      let report ← conclude round.run (abstentionReport p.digest (round.basis task readiness)
        .environmental failure.reason (some challenge))
      return some report
  | none => do
      if challenge.assessment.mechanicalStatus = .discriminating then
        let semanticResult ← assessChallenge task.claim candidate.proposal.source.text challenge
        attempt (validateSemanticDecision challenge semanticResult.decision)
        let report ← conclude round.run (completedReport p.digest
          (round.basis task task.readiness) task.claim challenge semanticResult)
        return some report
      else return none

/-- Execute a validated candidate on BASE and HEAD and look at the result. -/
def executeCandidate (workflow : EvidenceWorkflow p) (runId : RunId) (task : CandidateTask p)
    (round : CandidateRound p) (candidate : ValidatedCandidate) :
    Activity p (Option p.Report × CandidateRound p) := do
  requireCurrent (← perform (.getRun runId))
  let run ← advanceForExecution round.run
  let (challenge, run) ← runChallenge workflow run candidate.artifact
    fun _ => markHeadExecution runId run
  let evaluation ← attempt (challenge.evidence p.digest round.attempt.sequence)
  let run ← if run.phase = .assessment then pure run
    else transition run { phase := some .assessment }
  let round := { round with
    run := run
    evaluations := round.evaluations ++ [evaluation]
    challenge := some challenge }
  let report ← judgeChallenge task round candidate challenge
  return (report, round)

/-- Abstain after the last candidate. -/
def abstain (task : CandidateTask p) (round : CandidateRound p) : Activity p p.Report :=
  let (status, reason) := match round.challenge with
    | some challenge => (challenge.assessment.mechanicalStatus, challenge.assessment.reason)
    | none => (MechanicalEvidenceStatus.invalidTest,
        "All three bounded candidate attempts failed deterministic validation.")
  conclude round.run (abstentionReport p.digest (round.basis task task.readiness) status reason
    round.challenge)

/-- The loop over candidates; the number is how many iterations are left. -/
def tryCandidates (workflow : EvidenceWorkflow p) (runId : RunId) (task : CandidateTask p) :
    Nat → CandidateRound p → Activity p p.Report
  | 0, round => abstain task round
  | remaining + 1, round => do
      let (report, round) ← match round.attempt.validated with
        | some candidate => executeCandidate workflow runId task round candidate
        | none => pure (none, round)
      match report with
      | some report => return report
      | none =>
          if maxRepairs ≤ maxCandidateModelCalls - (remaining + 1) then abstain task round
          else do
            let feedback ← attempt (repairFeedback p round.attempt round.challenge)
            let (next, generator) ← round.generator.repair feedback
            tryCandidates workflow runId task remaining { round with
              generator := generator
              attempt := next
              attempts := round.attempts ++ [next]
              challenge := none }

/-- What follows a round that has not concluded: the last one is followed by an abstention, the
others by a repair. -/
def repairOrAbstain (workflow : EvidenceWorkflow p) (runId : RunId) (task : CandidateTask p)
    (remaining : Nat) (round : CandidateRound p) : Activity p p.Report :=
  if maxRepairs ≤ maxCandidateModelCalls - (remaining + 1) then abstain task round
  else do
    let feedback ← attempt (repairFeedback p round.attempt round.challenge)
    let (next, generator) ← round.generator.repair feedback
    tryCandidates workflow runId task remaining { round with
      generator := generator
      attempt := next
      attempts := round.attempts ++ [next]
      challenge := none }

/-- A candidate that does not validate is not executed. -/
theorem tryCandidates_of_none {workflow : EvidenceWorkflow p} {runId : RunId}
    {task : CandidateTask p} {remaining : Nat} {round : CandidateRound p}
    (refused : round.attempt.validated = none) :
    tryCandidates workflow runId task (remaining + 1) round =
      repairOrAbstain workflow runId task remaining round := by
  rw [tryCandidates, refused]
  rfl

/-- A candidate that validates is executed, which may conclude the run. -/
theorem tryCandidates_of_some {workflow : EvidenceWorkflow p} {runId : RunId}
    {task : CandidateTask p} {remaining : Nat} {round : CandidateRound p}
    {candidate : ValidatedCandidate} (validated : round.attempt.validated = some candidate) :
    tryCandidates workflow runId task (remaining + 1) round =
      executeCandidate workflow runId task round candidate >>= fun executed =>
        executed.1.elim (repairOrAbstain workflow runId task remaining executed.2) pure := by
  rw [tryCandidates, validated]
  dsimp only
  congr 1
  funext executed
  obtain ⟨_ | report, after⟩ := executed <;> rfl

/-! ## The semantic phase -/

/-- Select the claim, by the investigator when there is one. -/
def selectClaim (workflow : EvidenceWorkflow p) (run : VerificationRun) (context : p.Context) :
    Activity p (ClaimAgentResult × Option p.Transcript) :=
  let narrative := PullRequestNarrative.fromUntrusted run.title.text run.body.text
  if workflow.investigates then do
    let (claimResult, transcript) ←
      external .investigate (run.baseSha, run.headSha, narrative, context)
    return (claimResult, some transcript)
  else do
    let claimResult ← external .selectClaim (context, narrative)
    return (claimResult, none)

/-- The status of an abstention at claim selection. -/
def abstentionStatus (disposition : ClaimSelectionDisposition) : MechanicalEvidenceStatus :=
  if disposition = .counterfactualNotApplicable then .counterfactualNotApplicable
  else .nonDiscriminating

/-- Everything that happens within the challenge session. -/
def pursueClaim (workflow : EvidenceWorkflow p) (runId : RunId) (run : VerificationRun)
    (context : p.Context) (contract : p.Contract) (existingPaths : List String)
    (claim : BehavioralClaim) (claimResult : ClaimAgentResult) (transcript : Option p.Transcript) :
    Activity p p.Report := do
  let environmentReadiness ← external .prepareEnvironment (run.baseSha, run.headSha)
  let readiness ← attempt (EnvironmentReadinessEvidence.fromDomain environmentReadiness)
  if environmentReadiness.ready then
    let run ← transition run { phase := some .testGeneration }
    let signatures ← external .retrieveCallableSignatures (run.headSha, context,
      claim.affectedSymbols.map fun symbol => (symbol.path, symbol.qualifiedName.text))
    let roots ← installedImportRoots workflow
    let generator : CandidateGenerator p := {
      claim := claim
      context := context
      contract := contract
      existingPaths := existingPaths
      installedImportRoots := roots
      repositorySignatures := signatures }
    let (first, generator) ← generator.generateInitial
    tryCandidates workflow runId ⟨claim, claimResult, transcript, readiness⟩ maxCandidateModelCalls
      { run := run, generator := generator, attempt := first, attempts := [first] }
  else
    conclude run (abstentionReport p.digest
      { run := run
        claimResult := claimResult
        environmentReadiness := some readiness
        investigationTranscript := transcript }
      .environmental environmentReadiness.reason none)

/-- What the worker that has moved the run to the claim phase goes on to do. -/
def lead (workflow : EvidenceWorkflow p) (runId : RunId) (run : VerificationRun)
    (context : p.Context) (contract : p.Contract) (existingPaths : List String) :
    Activity p p.Report := do
  let (claimResult, transcript) ← selectClaim workflow run context
  match claimResult.selection.claim with
  | none =>
      conclude run (abstentionReport p.digest
        { run := run, claimResult := claimResult, investigationTranscript := transcript }
        (abstentionStatus claimResult.selection.disposition)
        claimResult.selection.explanation.text none)
  | some claim =>
      withSession workflow run
        (pursueClaim workflow runId run context contract existingPaths claim claimResult transcript)

/-! ## Execution -/

/-- The checks on the run's execution contract. -/
def admitContract (workflow : EvidenceWorkflow p) (run : VerificationRun) :
    Activity p p.Contract := do
  let baseContract ← attempt (p.loadContract
    (← external .readCommittedFile (run.baseSha, contractFilename)))
  let contract ← attempt (p.loadContract
    (← external .readCommittedFile (run.headSha, contractFilename)))
  Program.demand (baseContract = contract)
    (.runtime "BASE and HEAD execution contracts differ; comparison is unsafe")
  Program.demand (workflow.runnerContract = contract)
    (.runtime "executor contract does not match the immutable repository contract")
  Program.demand (workflow.installDependencies = true)
    (.runtime "Phase 5 execution requires validated dependency installation")
  return contract

/-- Queue and start a run that is not running yet. -/
def start (run : VerificationRun) : Activity p VerificationRun := do
  let run ← if run.lifecycle = .accepted then transition run { lifecycle := some .queued }
    else pure run
  if run.lifecycle = .queued then transition run { lifecycle := some .running } else return run

/-- Compute a run that has no stored result. -/
def compute (workflow : EvidenceWorkflow p) (runId : RunId) : Activity p p.Report := do
  let run ← perform (.getRun runId)
  requireCurrent run
  Program.demand (run.lifecycle ≠ .terminal)
    (.runtime "terminal verification run cannot execute again")
  let contract ← admitContract workflow run
  let existingPaths ← external .committedPaths run.headSha
  let run ← start run
  let context ← external .retrieveContext (run.baseSha, run.headSha)
  let run ← transition run { phase := some .claim }
  lead workflow runId run context contract existingPaths

/-- Return a stored result, completing the run if it still has to be. -/
def replay (runId : RunId) (prior : StoredEvidence p.Document) : Activity p p.Report := do
  let report ← attempt (p.decode prior.documentJson)
  let durableRun ← perform (.getRun runId)
  if durableRun.revisionState = .current ∧ durableRun.lifecycle ≠ .terminal then
    let _ ← persistTerminal durableRun report
  return report

/-- `EvidenceWorkflow.execute`. -/
def execute (workflow : EvidenceWorkflow p) (runId : RunId) : Activity p p.Report := do
  match ← perform (.getEvidence runId) with
  | some prior => replay runId prior
  | none => compute workflow runId

/-! ## The fail-closed boundary -/

/-- Record a classified failure of a run that is current and not terminal. -/
def recordFailure (runId : RunId) (exception : RaisedException) : Activity p Unit := do
  let failure := classify exception
  let run ← perform (.getRun runId)
  if run.revisionState = .current ∧ run.lifecycle ≠ .terminal then
    let _ ← perform (.failRun runId failure.code.value failure.summary failure.retryable
      failure.modelUsage (failure.rawResponseSha256.map Sha256.text))

/-- `ReliableEvidenceWorker.run`. -/
def runReliably (workflow : EvidenceWorkflow p) (runId : RunId) : Activity p p.Report :=
  (execute workflow runId).catching fun exception => do
    recordFailure runId exception
    Program.raise (.evidenceWorker (classify exception))

end PatchProof
