import PatchProof.Evidence.Candidate

/-!
# The evidence report

The immutable result document of a run and the functions that fill it in: the
durable forms of attempts, executions and evaluations, the report of a completed
assessment, and the report of an abstention.

Field bounds and the model validator of the source are proof fields.  A builder
therefore either returns a report that satisfies them or raises, as the source
does when validation fails.  The investigation transcript is carried along and
never looked into; its type is a parameter.

`EvidenceReport.Gated` states what the outcome of a report may claim: support or
a regression only over a contrasting pair of executions of the selected artifact
that the last evaluation recorded and a validated attempt produced.
-/

set_option autoImplicit false

namespace PatchProof

/-! ## Semantic assessment -/

/-- Semantic relation of the generated assertion to the selected claim. -/
inductive AssertionRelation where
  | related
  | uncertain
  deriving DecidableEq

/-- Bounded interpretation of one discriminating result. -/
structure SemanticEvidenceDecision where
  outcome : ClaimOutcome
  assertionRelation : AssertionRelation
  explanation : BoundedText 1 1000
  confidence : ℚ
  confidenceBounded : 0 ≤ confidence ∧ confidence ≤ 1
  deriving DecidableEq

/-- Validated semantic decision plus model provenance. -/
structure SemanticAssessmentResult where
  decision : SemanticEvidenceDecision
  usage : ModelUsage
  rawResponseSha256 : Sha256
  deriving DecidableEq

/-! ## Durable facts -/

/-- The place of an attempt among at most three. -/
structure AttemptSequence where
  value : Nat
  bounded : 1 ≤ value ∧ value ≤ 3
  deriving DecidableEq

def AttemptSequence.check (value : Nat) : Except RaisedException AttemptSequence :=
  if bounded : 1 ≤ value ∧ value ≤ 3 then .ok ⟨value, bounded⟩
  else .error (.value "attempt sequence is out of bounds")

/-- Durable provenance of one candidate attempt. -/
structure CandidateAttemptEvidence where
  sequence : AttemptSequence
  origin : String
  status : String
  parentCandidateId : Option String
  parentArtifactSha256 : Option Sha256
  candidateId : Option String
  targetPath : Option String
  testFunction : Option String
  source : Option (BoundedText 1 16000)
  rationale : Option String
  artifactSha256 : Option Sha256
  behaviorFingerprint : Option Sha256
  signatureContext : Option RepositorySignatureContext
  issues : BoundedList 8 String
  feedback : Option CandidateFeedback
  usage : ModelUsage
  rawResponseSha256 : Sha256
  deriving DecidableEq

/-- Bounded replay facts of one execution. -/
structure ExecutionEvidence where
  role : String
  revisionSha : String
  testNodeId : String
  expectedArtifactSha256 : Sha256
  artifactSha256Before : Option Sha256
  artifactSha256After : Option Sha256
  status : String
  collectedCount : Nat
  exitCode : Option Int
  durationSeconds : Duration
  stdout : BoundedText 0 12000
  stderr : BoundedText 0 12000
  detail : Option (BoundedText 0 2000)
  deriving DecidableEq

/-- Mechanical evidence retained for every executed candidate. -/
structure CandidateEvaluationEvidence where
  attemptSequence : AttemptSequence
  artifactSha256 : Sha256
  baseExecution : ExecutionEvidence
  headExecution : ExecutionEvidence
  mechanicalStatus : MechanicalEvidenceStatus
  differentialPattern : DifferentialPattern
  mechanicalReason : BoundedText 1 2000
  deriving DecidableEq

/-- Durable setup result established before candidate generation. -/
structure EnvironmentReadinessEvidence where
  status : EnvironmentReadinessStatus
  reason : BoundedText 1 2000
  deriving DecidableEq

theorem abstained_bounded :
    1 ≤ "PatchProof abstained.".length ∧ "PatchProof abstained.".length ≤ 2000 := by
  decide

/-- Immutable result document of one run. -/
structure EvidenceReport (Transcript : Type) where
  schemaVersion : Int := 1
  runId : RunId
  repository : RepositoryName
  prNumber : PositiveInt
  baseSha : GitSha
  headSha : GitSha
  claimDisposition : ClaimSelectionDisposition
  claim : Option BehavioralClaim
  claimUsage : ModelUsage
  claimResponseSha256 : Sha256
  environmentReadiness : Option EnvironmentReadinessEvidence
  investigationTranscript : Option Transcript
  candidateAttempts : BoundedList 3 CandidateAttemptEvidence
  candidateEvaluations : BoundedList 3 CandidateEvaluationEvidence
  selectedArtifactSha256 : Option Sha256
  baseExecution : Option ExecutionEvidence
  headExecution : Option ExecutionEvidence
  mechanicalStatus : MechanicalEvidenceStatus
  differentialPattern : DifferentialPattern
  mechanicalReason : BoundedText 1 2000
  semanticAssessment : Option SemanticAssessmentResult
  claimOutcome : ClaimOutcome
  conclusion : BoundedText 1 2000
  createdAt : Int
  executionsPaired : baseExecution.isSome = headExecution.isSome
  discriminatingComplete : mechanicalStatus = .discriminating →
    baseExecution.isSome = true ∧ semanticAssessment.isSome = true
  abstentionInsufficient : claim = none → claimOutcome = .insufficientEvidence
  deriving DecidableEq

/-! ## Filling in the facts -/

section Builders

variable (digest : String → Sha256)

/-- `_attempt_evidence`. -/
def CandidateAttempt.evidence (attempt : CandidateAttempt) :
    Except RaisedException CandidateAttemptEvidence := do
  let sequence ← AttemptSequence.check attempt.sequence
  let issues ← BoundedList.check 8 (attempt.issues.map fun issue =>
    issue.code.value ++ ": " ++ issue.message.text)
  return {
    sequence := sequence
    origin := attempt.origin.value
    status := attempt.status.value
    parentCandidateId := attempt.parentCandidateId
    parentArtifactSha256 := attempt.parentArtifactSha256
    candidateId := attempt.proposal.map CandidateTestProposal.candidateId
    targetPath := attempt.proposal.map CandidateTestProposal.targetPath
    testFunction := attempt.proposal.map CandidateTestProposal.testFunction
    source := attempt.proposal.map CandidateTestProposal.source
    rationale := attempt.proposal.map fun proposal => proposal.rationale.text
    artifactSha256 := attempt.validated.map fun candidate => digest candidate.artifact.content
    behaviorFingerprint := attempt.behaviorFingerprint
    signatureContext := some attempt.signatures
    issues := issues
    feedback := attempt.feedback
    usage := attempt.usage
    rawResponseSha256 := attempt.rawResponseSha256 }

/-- `_attempt_evidence` of every attempt. -/
def attemptsEvidence : List CandidateAttempt → Except RaisedException (List CandidateAttemptEvidence)
  | [] => .ok []
  | attempt :: rest => do
      let evidence ← attempt.evidence digest
      return evidence :: (← attemptsEvidence rest)

/-- A prefix of a text. -/
def BoundedText.truncated (most : Nat) (text : String) : BoundedText 0 most :=
  ⟨truncate most text, Nat.zero_le _, length_truncate_le most text⟩

/-- `_execution_evidence`. -/
def ExecutionResult.evidence (result : ExecutionResult) : ExecutionEvidence where
  role := result.revision.role.value
  revisionSha := result.revision.sha.text
  testNodeId := result.testNodeId
  expectedArtifactSha256 := result.expectedArtifactSha256
  artifactSha256Before := result.artifactSha256Before
  artifactSha256After := result.artifactSha256After
  status := result.status.value
  collectedCount := result.collectedCount
  exitCode := result.exitCode
  durationSeconds := result.durationSeconds
  stdout := .truncated 12000 result.stdout
  stderr := .truncated 12000 result.stderr
  detail := match result.detail with
    | some detail => if detail = "" then none else some (.truncated 2000 detail)
    | none => none

/-- `_evaluation_evidence`. -/
def ChallengeResult.evidence (challenge : ChallengeResult) (attemptSequence : Nat) :
    Except RaisedException CandidateEvaluationEvidence := do
  let sequence ← AttemptSequence.check attemptSequence
  let reason ← BoundedText.check 1 2000 challenge.assessment.reason
  return {
    attemptSequence := sequence
    artifactSha256 := digest challenge.artifact.content
    baseExecution := challenge.base.evidence
    headExecution := challenge.head.evidence
    mechanicalStatus := challenge.assessment.mechanicalStatus
    differentialPattern := challenge.assessment.pattern
    mechanicalReason := reason }

/-- `EnvironmentReadinessEvidence.from_domain`. -/
def EnvironmentReadinessEvidence.fromDomain (readiness : EnvironmentReadiness) :
    Except RaisedException EnvironmentReadinessEvidence := do
  return ⟨readiness.status, ← BoundedText.check 1 2000 (truncate 2000 readiness.reason)⟩

/-! ## Reports -/

/-- `_conclusion`. -/
def conclusionText (outcome : ClaimOutcome) (claim : BehavioralClaim) : String :=
  match outcome with
  | .claimSupportedForScenario =>
      "The generated scenario supports claim " ++ claim.claimId ++ ": " ++ claim.summary.text ++
      ". This is claim-scoped evidence, not verification of the pull request as a whole."
  | .potentialRegression =>
      "The generated scenario indicates a potential regression for claim " ++ claim.claimId ++
      ": " ++ claim.summary.text ++ "."
  | _ => "PatchProof found insufficient evidence for claim " ++ claim.claimId ++ "."

variable {Transcript : Type}

/-- What every report of a run states about the run, its claim and its candidates. -/
structure ReportBasis (Transcript : Type) where
  run : VerificationRun
  claimResult : ClaimAgentResult
  attempts : List CandidateAttempt := []
  evaluations : List CandidateEvaluationEvidence := []
  environmentReadiness : Option EnvironmentReadinessEvidence := none
  investigationTranscript : Option Transcript := none

/-- `_completed_report`; the claim is the one that was selected. -/
def completedReport (basis : ReportBasis Transcript) (claim : BehavioralClaim)
    (challenge : ChallengeResult) (semanticResult : SemanticAssessmentResult) (createdAt : Int) :
    Except RaisedException (EvidenceReport Transcript) := do
  let attempts ← attemptsEvidence digest basis.attempts
  let attempts ← BoundedList.check 3 attempts
  let evaluations ← BoundedList.check 3 basis.evaluations
  let reason ← BoundedText.check 1 2000 challenge.assessment.reason
  let conclusion ← BoundedText.check 1 2000 (conclusionText semanticResult.decision.outcome claim)
  return {
    runId := basis.run.runId
    repository := basis.run.repository
    prNumber := basis.run.prNumber
    baseSha := basis.run.baseSha
    headSha := basis.run.headSha
    claimDisposition := basis.claimResult.selection.disposition
    claim := some claim
    claimUsage := basis.claimResult.usage
    claimResponseSha256 := basis.claimResult.rawResponseSha256
    environmentReadiness := basis.environmentReadiness
    investigationTranscript := basis.investigationTranscript
    candidateAttempts := attempts
    candidateEvaluations := evaluations
    selectedArtifactSha256 := some (digest challenge.artifact.content)
    baseExecution := some challenge.base.evidence
    headExecution := some challenge.head.evidence
    mechanicalStatus := challenge.assessment.mechanicalStatus
    differentialPattern := challenge.assessment.pattern
    mechanicalReason := reason
    semanticAssessment := some semanticResult
    claimOutcome := semanticResult.decision.outcome
    conclusion := conclusion
    createdAt := createdAt
    executionsPaired := rfl
    discriminatingComplete := fun _ => ⟨rfl, rfl⟩
    abstentionInsufficient := fun absurdity => by cases absurdity }

/-- `_abstention_report`. -/
def abstentionReport (basis : ReportBasis Transcript) (mechanicalStatus : MechanicalEvidenceStatus)
    (reason : String) (challenge : Option ChallengeResult) (createdAt : Int) :
    Except RaisedException (EvidenceReport Transcript) := do
  let attempts ← attemptsEvidence digest basis.attempts
  let attempts ← BoundedList.check 3 attempts
  let evaluations ← BoundedList.check 3 basis.evaluations
  let reason ← BoundedText.check 1 2000 (truncate 2000 reason)
  -- A discriminating status without an interpretation fails the report's validator.
  if discriminating : mechanicalStatus = .discriminating then
    .error (.value "discriminating evidence requires executions and interpretation")
  else return {
    runId := basis.run.runId
    repository := basis.run.repository
    prNumber := basis.run.prNumber
    baseSha := basis.run.baseSha
    headSha := basis.run.headSha
    claimDisposition := basis.claimResult.selection.disposition
    claim := basis.claimResult.selection.claim
    claimUsage := basis.claimResult.usage
    claimResponseSha256 := basis.claimResult.rawResponseSha256
    environmentReadiness := basis.environmentReadiness
    investigationTranscript := basis.investigationTranscript
    candidateAttempts := attempts
    candidateEvaluations := evaluations
    selectedArtifactSha256 := challenge.map fun result => digest result.artifact.content
    baseExecution := challenge.map fun result => result.base.evidence
    headExecution := challenge.map fun result => result.head.evidence
    mechanicalStatus := mechanicalStatus
    differentialPattern := match challenge with
      | some result => result.assessment.pattern
      | none => .notComparable
    mechanicalReason := reason
    semanticAssessment := none
    claimOutcome := .insufficientEvidence
    conclusion := if basis.claimResult.selection.claim.isSome then
        ⟨"PatchProof found insufficient evidence for the selected claim and abstained.", by decide⟩
      else
        ⟨"PatchProof could not select a sufficiently grounded claim and abstained.", by decide⟩
    createdAt := createdAt
    executionsPaired := by cases challenge <;> rfl
    discriminatingComplete := fun absurdity => absurd absurdity discriminating
    abstentionInsufficient := fun _ => rfl }

/-- `_validate_semantic_decision`. -/
def validateSemanticDecision (challenge : ChallengeResult) (decision : SemanticEvidenceDecision) :
    Except RaisedException Unit := do
  Guard.require (decision.outcome = .insufficientEvidence ∨
      (challenge.assessment.pattern = .baseAssertionFailedHeadPassed ∧
        decision.outcome = .claimSupportedForScenario) ∨
      (challenge.assessment.pattern = .basePassedHeadAssertionFailed ∧
        decision.outcome = .potentialRegression))
    (.value "semantic assessment contradicts mechanical BASE/HEAD evidence")
  Guard.require (decision.outcome = .insufficientEvidence ∨ decision.assertionRelation = .related)
    (.value "claim conclusion requires a related assertion")

end Builders

/-! ## What an outcome may claim -/

section Gate

variable {Transcript : Type}

/-- One execution ran the selected artifact, intact, at the given node. -/
structure ExecutionEvidence.Ran (execution : ExecutionEvidence) (nodeId : String)
    (artifactSha256 : Sha256) : Prop where
  node : execution.testNodeId = nodeId
  expected : execution.expectedArtifactSha256 = artifactSha256
  before : execution.artifactSha256Before = some artifactSha256
  after : execution.artifactSha256After = some artifactSha256

/-- A report whose outcome rests on executions with these two statuses. -/
structure EvidenceReport.RestsOn (report : EvidenceReport Transcript)
    (baseStatus headStatus : TestExecutionStatus) : Prop where
  executions : ∃ nodeId artifactSha256 base head,
    report.selectedArtifactSha256 = some artifactSha256 ∧
    report.baseExecution = some base ∧ base.status = baseStatus.value ∧
    base.Ran nodeId artifactSha256 ∧
    report.headExecution = some head ∧ head.status = headStatus.value ∧
    head.Ran nodeId artifactSha256 ∧
    ∃ last, report.candidateEvaluations.items.getLast? = some last ∧
      last.baseExecution = base ∧ last.headExecution = head
  related : ∃ assessment, report.semanticAssessment = some assessment ∧
    assessment.decision.assertionRelation = .related
  validated : ∃ attempt ∈ report.candidateAttempts.items,
    attempt.status = CandidateAttemptStatus.validated.value ∧
      attempt.artifactSha256 = report.selectedArtifactSha256 ∧
      report.selectedArtifactSha256 ≠ none

/-- The evidence gate: support rests on a failed BASE and a passed HEAD, a potential
regression on the mirrored pair, and nothing else is concluded. -/
def EvidenceReport.Gated (report : EvidenceReport Transcript) : Prop :=
  match report.claimOutcome with
  | .claimSupportedForScenario => report.RestsOn .assertionFailed .passed
  | .potentialRegression => report.RestsOn .passed .assertionFailed
  | .insufficientEvidence => True
  | .claimNotSupportedForScenario => False

end Gate

end PatchProof
