import PatchProof.Evidence.Report
import PatchProof.Investigation.Transcript
import PatchProof.Storage.Operations

/-!
# The stored evidence document

The evidence report as the document format admits it, its codec field by field, and the
round trip of a stored document: what was printed is read back, and printing it again
gives the same text and the same hash, so that a replayed report is accepted by the store
that holds its document.

The reports of this module are wider than those the workflow builds.  A document may hold
any text where the format asks for a text, and a hash pattern that is not anchored accepts
a hash among other characters.  `EvidenceReport.document` takes a report of the workflow
to its document.

The printing library and the codecs of identifiers and moments are parameters.
-/

set_option autoImplicit false

namespace PatchProof

/-! ## Texts of the enumerations -/

def ClaimOutcome.value : ClaimOutcome → String
  | .claimSupportedForScenario => "CLAIM_SUPPORTED_FOR_SCENARIO"
  | .claimNotSupportedForScenario => "CLAIM_NOT_SUPPORTED_FOR_SCENARIO"
  | .potentialRegression => "POTENTIAL_REGRESSION"
  | .insufficientEvidence => "INSUFFICIENT_EVIDENCE"

def EnvironmentReadinessStatus.value : EnvironmentReadinessStatus → String
  | .ready => "READY"
  | .baseSetupFailed => "BASE_SETUP_FAILED"
  | .headSetupFailed => "HEAD_SETUP_FAILED"

def AssertionRelation.value : AssertionRelation → String
  | .related => "RELATED"
  | .uncertain => "UNCERTAIN"

def ClaimSelectionDisposition.value : ClaimSelectionDisposition → String
  | .selected => "SELECTED"
  | .insufficientEvidence => "INSUFFICIENT_EVIDENCE"
  | .counterfactualNotApplicable => "COUNTERFACTUAL_NOT_APPLICABLE"

/-! ## The values of a document -/

namespace Document

/-- An unanchored hash pattern: 64 lowercase hexadecimal digits in a row. -/
def containsSha256 (text : String) : Bool :=
  text.toList.tails.any fun rest => (rest.take 64).length == 64 && (rest.take 64).all isLowerHex

/-- A text in which a hash occurs. -/
structure DigestText where
  text : String
  found : containsSha256 text = true
  deriving DecidableEq

/-- `SemanticAssessmentResult`. -/
structure SemanticAssessmentResult where
  decision : SemanticEvidenceDecision
  usage : ModelUsage
  rawResponseSha256 : DigestText
  deriving DecidableEq

/-- `CandidateAttemptEvidence`. -/
structure CandidateAttemptEvidence where
  sequence : AttemptSequence
  origin : String
  status : String
  parentCandidateId : Option String
  parentArtifactSha256 : Option String
  candidateId : Option String
  targetPath : Option String
  testFunction : Option String
  source : Option (BoundedText 0 16000) := none
  rationale : Option String
  artifactSha256 : Option String
  behaviorFingerprint : Option DigestText := none
  signatureContextCount : Option (Fin 9) := none
  signatureContextTruncated : Option Bool := none
  signatureContextSha256 : Option DigestText := none
  issues : BoundedList 8 String
  feedback : Option CandidateFeedback
  usage : ModelUsage
  rawResponseSha256 : String
  deriving DecidableEq

/-- `ExecutionEvidence`. -/
structure ExecutionEvidence where
  role : String
  revisionSha : String
  testNodeId : String
  expectedArtifactSha256 : String
  artifactSha256Before : Option String
  artifactSha256After : Option String
  status : String
  collectedCount : Nat
  exitCode : Option Int
  durationSeconds : Duration
  stdout : BoundedText 0 12000
  stderr : BoundedText 0 12000
  detail : Option (BoundedText 0 2000) := none
  deriving DecidableEq

/-- `CandidateEvaluationEvidence`. -/
structure CandidateEvaluationEvidence where
  attemptSequence : AttemptSequence
  artifactSha256 : String
  baseExecution : ExecutionEvidence
  headExecution : ExecutionEvidence
  mechanicalStatus : MechanicalEvidenceStatus
  differentialPattern : DifferentialPattern
  mechanicalReason : BoundedText 1 2000
  deriving DecidableEq

/-- `EvidenceReport`, with its validator as proof fields. -/
structure EvidenceReport (DateTime : Type) where
  schemaVersion : Int := 1
  runId : RunId
  repository : String
  prNumber : PositiveInt
  baseSha : String
  headSha : String
  claimDisposition : ClaimSelectionDisposition
  claim : Option BehavioralClaim
  claimUsage : ModelUsage
  claimResponseSha256 : String
  environmentReadiness : Option EnvironmentReadinessEvidence := none
  investigationTranscript : Option InvestigationTranscript := none
  candidateAttempts : BoundedList 3 CandidateAttemptEvidence
  candidateEvaluations : BoundedList 3 CandidateEvaluationEvidence
  selectedArtifactSha256 : Option String
  baseExecution : Option ExecutionEvidence
  headExecution : Option ExecutionEvidence
  mechanicalStatus : MechanicalEvidenceStatus
  differentialPattern : DifferentialPattern
  mechanicalReason : BoundedText 1 2000
  semanticAssessment : Option SemanticAssessmentResult
  claimOutcome : ClaimOutcome
  conclusion : BoundedText 1 2000
  createdAt : DateTime
  executionsPaired : baseExecution.isSome = headExecution.isSome
  discriminatingComplete : mechanicalStatus = .discriminating →
    baseExecution.isSome = true ∧ semanticAssessment.isSome = true
  abstentionInsufficient : claim = none → claimOutcome = .insufficientEvidence

/-! ## Checked texts and numbers -/

/-- An integer that is not negative. -/
def natural : Codec Nat :=
  Codec.int.checked Int.ofNat (fun value => if 0 ≤ value then some value.toNat else none)
    fun value => if_pos (Int.natCast_nonneg value)

def positiveInt : Codec PositiveInt :=
  Codec.int.checked PositiveInt.value
    (fun value => if positive : 0 < value then some ⟨value, positive⟩ else none)
    fun number => dif_pos number.positive

def duration : Codec Duration :=
  Codec.float.checked Duration.seconds
    (fun seconds => if nonnegative : 0 ≤ seconds then some ⟨seconds, nonnegative⟩ else none)
    fun value => dif_pos value.nonnegative

def boundedText (least most : Nat) : Codec (BoundedText least most) :=
  Codec.text.checked BoundedText.text
    (fun text => if bounded : least ≤ text.length ∧ text.length ≤ most then some ⟨text, bounded⟩
      else none)
    fun value => dif_pos value.bounded

def digestText : Codec DigestText :=
  Codec.text.checked DigestText.text
    (fun text => if found : containsSha256 text = true then some ⟨text, found⟩ else none)
    fun value => dif_pos value.found

def sha256 : Codec Sha256 :=
  Codec.text.checked Sha256.text
    (fun text => if wellFormed : isSha256 text = true then some ⟨text, wellFormed⟩ else none)
    fun value => dif_pos value.wellFormed

def boundedList {α : Type} (most : Nat) (codec : Codec α) : Codec (BoundedList most α) :=
  codec.list.checked BoundedList.items
    (fun items => if bounded : items.length ≤ most then some ⟨items, bounded⟩ else none)
    fun value => dif_pos value.bounded

/-! ## Enumerations -/

def claimOutcome : Codec ClaimOutcome :=
  Codec.enumeration [.claimSupportedForScenario, .claimNotSupportedForScenario,
    .potentialRegression, .insufficientEvidence] ClaimOutcome.value

def readinessStatus : Codec EnvironmentReadinessStatus :=
  Codec.enumeration [.ready, .baseSetupFailed, .headSetupFailed] EnvironmentReadinessStatus.value

def assertionRelation : Codec AssertionRelation :=
  Codec.enumeration [.related, .uncertain] AssertionRelation.value

def claimDisposition : Codec ClaimSelectionDisposition :=
  Codec.enumeration [.selected, .insufficientEvidence, .counterfactualNotApplicable]
    ClaimSelectionDisposition.value

def mechanicalStatus : Codec MechanicalEvidenceStatus :=
  Codec.enumeration [.discriminating, .nonDiscriminating, .invalidTest, .environmental,
    .uncaughtExceptionOnOneRevision, .counterfactualNotApplicable] MechanicalEvidenceStatus.value

def differentialPattern : Codec DifferentialPattern :=
  Codec.enumeration [.baseAssertionFailedHeadPassed, .basePassedHeadAssertionFailed, .bothPassed,
    .bothAssertionFailed, .notComparable] DifferentialPattern.value

def toolName : Codec InvestigationToolName :=
  Codec.enumeration [.inspectSymbol, .findReferences, .findRelatedTests, .inspectSourceWindow]
    InvestigationToolName.value

def toolCallStatus : Codec ToolCallStatus :=
  Codec.enumeration [.ok, .invalidArguments, .budgetExhausted, .unavailable] ToolCallStatus.value

/-! ## Objects -/

def modelUsage : Codec ModelUsage :=
  Record.object
    ((Record.required "model_name" (boundedText 1 128)).pair <|
      (Record.defaulted "model_version" (boundedText 0 128).nullable none).pair <|
      (Record.defaulted "prompt_tokens" natural.nullable none).pair <|
      (Record.defaulted "output_tokens" natural.nullable none).pair <|
      (Record.defaulted "total_tokens" natural.nullable none).pair <|
      (Record.defaulted "cached_tokens" natural.nullable none).pair <|
      (Record.defaulted "reasoning_tokens" natural.nullable none).pair <|
      (Record.required "duration_seconds" duration).pair <|
      Record.defaulted "provider_attempts" natural 1)
    (fun usage => (usage.modelName, usage.modelVersion, usage.promptTokens, usage.outputTokens,
      usage.totalTokens, usage.cachedTokens, usage.reasoningTokens, usage.durationSeconds,
      usage.providerAttempts))
    (fun (modelName, modelVersion, promptTokens, outputTokens, totalTokens, cachedTokens,
        reasoningTokens, durationSeconds, providerAttempts) =>
      if attemptsBounded : 1 ≤ providerAttempts ∧ providerAttempts ≤ 2 then
        some { modelName, modelVersion, promptTokens, outputTokens, totalTokens, cachedTokens,
               reasoningTokens, durationSeconds, providerAttempts, attemptsBounded }
      else none)
    fun usage => dif_pos usage.attemptsBounded

def affectedSymbolRef : Codec AffectedSymbolRef :=
  Record.object
    ((Record.required "path" Codec.text).pair <|
      Record.required "qualified_name" (boundedText 1 256))
    (fun symbol => (symbol.path, symbol.qualifiedName))
    (fun (path, qualifiedName) =>
      if pathWellFormed : isContextPath path = true then
        some { path, pathWellFormed, qualifiedName }
      else none)
    fun symbol => dif_pos symbol.pathWellFormed

def supportingContextRef : Codec SupportingContextRef :=
  Record.object
    ((Record.required "path" Codec.text).pair <|
      (Record.required "start_line" natural).pair <|
      (Record.required "end_line" natural).pair <|
      Record.required "relevance" (boundedText 1 300))
    (fun citation => (citation.path, citation.startLine, citation.endLine, citation.relevance))
    (fun (path, startLine, endLine, relevance) =>
      if checks : isContextPath path = true ∧ 1 ≤ startLine ∧ startLine ≤ endLine then
        some { path, pathWellFormed := checks.1, startLine, endLine, relevance,
               lineRange := checks.2 }
      else none)
    fun citation => dif_pos ⟨citation.pathWellFormed, citation.lineRange⟩

/-- The testability of a claim; only one value passes the claim's validator. -/
def testability : Codec Unit :=
  Codec.text.checked (fun _ => "TESTABLE")
    (fun text => if text = "TESTABLE" then some () else none) fun _ => if_pos rfl

def behavioralClaim : Codec BehavioralClaim :=
  Record.object
    ((Record.required "claim_id" Codec.text).pair <|
      (Record.required "summary" (boundedText 1 300)).pair <|
      (Record.defaulted "observable_operation" (boundedText 0 300) (.empty 300)).pair <|
      (Record.defaulted "trigger_condition" (boundedText 0 300) (.empty 300)).pair <|
      (Record.defaulted "expected_head_observation" (boundedText 0 400) (.empty 400)).pair <|
      (Record.defaulted "expected_base_hypothesis" (boundedText 0 400) (.empty 400)).pair <|
      (Record.defaulted "shared_interface" (boundedText 0 256) (.empty 256)).pair <|
      (Record.defaulted "preconditions" (boundedText 1 300).list []).pair <|
      (Record.required "action" (boundedText 1 500)).pair <|
      (Record.required "expected_behavior" (boundedText 1 700)).pair <|
      (Record.required "affected_symbols" affectedSymbolRef.list).pair <|
      (Record.required "supporting_context" supportingContextRef.list).pair <|
      (Record.required "confidence" Codec.float).pair <|
      (Record.required "testability" testability).pair <|
      Record.required "reasoning_summary" (boundedText 1 600))
    (fun claim => (claim.claimId, claim.summary, claim.observableOperation,
      claim.triggerCondition, claim.expectedHeadObservation, claim.expectedBaseHypothesis,
      claim.sharedInterface, claim.preconditions, claim.action, claim.expectedBehavior,
      claim.affectedSymbols, claim.supportingContext, claim.confidence, (),
      claim.reasoningSummary))
    (fun (claimId, summary, observableOperation, triggerCondition, expectedHeadObservation,
        expectedBaseHypothesis, sharedInterface, preconditions, action, expectedBehavior,
        affectedSymbols, supportingContext, confidence, _, reasoningSummary) =>
      if checks : isClaimId claimId = true ∧
          (preconditions.length ≤ 6 ∧
            preconditions.all (fun item => strip item.text != "") = true) ∧
          (affectedSymbols ≠ [] ∧ affectedSymbols.length ≤ 8 ∧ affectedSymbols.Nodup) ∧
          (supportingContext ≠ [] ∧ supportingContext.length ≤ 8) ∧
          65 / 100 ≤ confidence ∧ confidence ≤ 1 then
        some { claimId, claimIdWellFormed := checks.1, summary, observableOperation,
               triggerCondition, expectedHeadObservation, expectedBaseHypothesis,
               sharedInterface, preconditions, preconditionsWellFormed := checks.2.1, action,
               expectedBehavior, affectedSymbols, affectedSymbolsWellFormed := checks.2.2.1,
               supportingContext, supportingContextWellFormed := checks.2.2.2.1, confidence,
               confidenceBounded := checks.2.2.2.2, reasoningSummary }
      else none)
    fun claim => dif_pos ⟨claim.claimIdWellFormed, claim.preconditionsWellFormed,
      claim.affectedSymbolsWellFormed, claim.supportingContextWellFormed,
      claim.confidenceBounded⟩

def candidateFeedback : Codec CandidateFeedback :=
  Record.object
    ((Record.required "category" (boundedText 1 80)).pair <|
      (Record.required "summary" (boundedText 1 1500)).pair <|
      Record.defaulted "observations" (boundedList 5 (boundedText 1 900)) (.empty 5 _))
    (fun feedback => (feedback.category, feedback.summary, feedback.observations))
    (fun (category, summary, observations) =>
      if observationsNotBlank : observations.items.all (fun item => strip item.text != "") = true then
        some { category, summary, observations, observationsNotBlank }
      else none)
    fun feedback => dif_pos feedback.observationsNotBlank

def environmentReadinessEvidence : Codec EnvironmentReadinessEvidence :=
  Record.object
    ((Record.required "status" readinessStatus).pair <|
      Record.required "reason" (boundedText 1 2000))
    (fun readiness => (readiness.status, readiness.reason))
    (fun (status, reason) => some { status, reason })
    fun _ => rfl

def semanticEvidenceDecision : Codec SemanticEvidenceDecision :=
  Record.object
    ((Record.required "outcome" claimOutcome).pair <|
      (Record.required "assertion_relation" assertionRelation).pair <|
      (Record.required "explanation" (boundedText 1 1000)).pair <|
      Record.required "confidence" Codec.float)
    (fun decision => (decision.outcome, decision.assertionRelation, decision.explanation,
      decision.confidence))
    (fun (outcome, assertionRelation, explanation, confidence) =>
      if confidenceBounded : 0 ≤ confidence ∧ confidence ≤ 1 then
        some { outcome, assertionRelation, explanation, confidence, confidenceBounded }
      else none)
    fun decision => dif_pos decision.confidenceBounded

def semanticAssessmentResult : Codec SemanticAssessmentResult :=
  Record.object
    ((Record.required "decision" semanticEvidenceDecision).pair <|
      (Record.required "usage" modelUsage).pair <|
      Record.required "raw_response_sha256" digestText)
    (fun assessment => (assessment.decision, assessment.usage, assessment.rawResponseSha256))
    (fun (decision, usage, rawResponseSha256) => some { decision, usage, rawResponseSha256 })
    fun _ => rfl

/-- The place of an attempt, between its two bounds. -/
def attemptSequence : Codec AttemptSequence :=
  natural.checked AttemptSequence.value
    (fun value => if bounded : 1 ≤ value ∧ value ≤ 3 then some ⟨value, bounded⟩ else none)
    fun sequence => dif_pos sequence.bounded

def signatureContextCount : Codec (Fin 9) :=
  natural.checked Fin.val
    (fun value => if bounded : value < 9 then some ⟨value, bounded⟩ else none)
    fun count => dif_pos count.isLt

def candidateAttemptEvidence : Codec CandidateAttemptEvidence :=
  Record.object
    ((Record.required "sequence" attemptSequence).pair <|
      (Record.required "origin" Codec.text).pair <|
      (Record.required "status" Codec.text).pair <|
      (Record.required "parent_candidate_id" Codec.text.nullable).pair <|
      (Record.required "parent_artifact_sha256" Codec.text.nullable).pair <|
      (Record.required "candidate_id" Codec.text.nullable).pair <|
      (Record.required "target_path" Codec.text.nullable).pair <|
      (Record.required "test_function" Codec.text.nullable).pair <|
      (Record.defaulted "source" (boundedText 0 16000).nullable none).pair <|
      (Record.required "rationale" Codec.text.nullable).pair <|
      (Record.required "artifact_sha256" Codec.text.nullable).pair <|
      (Record.defaulted "behavior_fingerprint" digestText.nullable none).pair <|
      (Record.omitted "signature_context_count" signatureContextCount).pair <|
      (Record.omitted "signature_context_truncated" Codec.bool).pair <|
      (Record.omitted "signature_context_sha256" digestText).pair <|
      (Record.defaulted "issues" (boundedList 8 Codec.text) (.empty 8 _)).pair <|
      (Record.required "feedback" candidateFeedback.nullable).pair <|
      (Record.required "usage" modelUsage).pair <|
      Record.required "raw_response_sha256" Codec.text)
    (fun attempt => (attempt.sequence, attempt.origin, attempt.status, attempt.parentCandidateId,
      attempt.parentArtifactSha256, attempt.candidateId, attempt.targetPath,
      attempt.testFunction, attempt.source, attempt.rationale, attempt.artifactSha256,
      attempt.behaviorFingerprint, attempt.signatureContextCount,
      attempt.signatureContextTruncated, attempt.signatureContextSha256, attempt.issues,
      attempt.feedback, attempt.usage, attempt.rawResponseSha256))
    (fun (sequence, origin, status, parentCandidateId, parentArtifactSha256, candidateId,
        targetPath, testFunction, source, rationale, artifactSha256, behaviorFingerprint,
        signatureContextCount, signatureContextTruncated, signatureContextSha256, issues,
        feedback, usage, rawResponseSha256) =>
      some { sequence, origin, status, parentCandidateId, parentArtifactSha256, candidateId,
             targetPath, testFunction, source, rationale, artifactSha256, behaviorFingerprint,
             signatureContextCount, signatureContextTruncated, signatureContextSha256, issues,
             feedback, usage, rawResponseSha256 })
    fun _ => rfl

def executionEvidence : Codec ExecutionEvidence :=
  Record.object
    ((Record.required "role" Codec.text).pair <|
      (Record.required "revision_sha" Codec.text).pair <|
      (Record.required "test_node_id" Codec.text).pair <|
      (Record.required "expected_artifact_sha256" Codec.text).pair <|
      (Record.required "artifact_sha256_before" Codec.text.nullable).pair <|
      (Record.required "artifact_sha256_after" Codec.text.nullable).pair <|
      (Record.required "status" Codec.text).pair <|
      (Record.required "collected_count" natural).pair <|
      (Record.required "exit_code" Codec.int.nullable).pair <|
      (Record.required "duration_seconds" duration).pair <|
      (Record.required "stdout" (boundedText 0 12000)).pair <|
      (Record.required "stderr" (boundedText 0 12000)).pair <|
      Record.defaulted "detail" (boundedText 0 2000).nullable none)
    (fun execution => (execution.role, execution.revisionSha, execution.testNodeId,
      execution.expectedArtifactSha256, execution.artifactSha256Before,
      execution.artifactSha256After, execution.status, execution.collectedCount,
      execution.exitCode, execution.durationSeconds, execution.stdout, execution.stderr,
      execution.detail))
    (fun (role, revisionSha, testNodeId, expectedArtifactSha256, artifactSha256Before,
        artifactSha256After, status, collectedCount, exitCode, durationSeconds, stdout, stderr,
        detail) =>
      some { role, revisionSha, testNodeId, expectedArtifactSha256, artifactSha256Before,
             artifactSha256After, status, collectedCount, exitCode, durationSeconds, stdout,
             stderr, detail })
    fun _ => rfl

def candidateEvaluationEvidence : Codec CandidateEvaluationEvidence :=
  Record.object
    ((Record.required "attempt_sequence" attemptSequence).pair <|
      (Record.required "artifact_sha256" Codec.text).pair <|
      (Record.required "base_execution" executionEvidence).pair <|
      (Record.required "head_execution" executionEvidence).pair <|
      (Record.required "mechanical_status" mechanicalStatus).pair <|
      (Record.required "differential_pattern" differentialPattern).pair <|
      Record.required "mechanical_reason" (boundedText 1 2000))
    (fun evaluation => (evaluation.attemptSequence, evaluation.artifactSha256,
      evaluation.baseExecution, evaluation.headExecution, evaluation.mechanicalStatus,
      evaluation.differentialPattern, evaluation.mechanicalReason))
    (fun (attemptSequence, artifactSha256, baseExecution, headExecution, mechanicalStatus,
        differentialPattern, mechanicalReason) =>
      some { attemptSequence, artifactSha256, baseExecution, headExecution, mechanicalStatus,
             differentialPattern, mechanicalReason })
    fun _ => rfl

/-- The arguments of a tool call are an object of any names. -/
def toolArguments : Codec ToolArguments where
  encode arguments := .object arguments.fields
  decode
    | .object fields =>
        if distinct : (Json.object fields).Distinct then some ⟨fields, distinct⟩ else none
    | _ => none
  distinct := ToolArguments.distinct
  decode_encode arguments := dif_pos arguments.distinct

def toolCallRecord : Codec ToolCallRecord :=
  Record.object
    ((Record.required "sequence" positiveInt).pair <|
      (Record.required "turn" positiveInt).pair <|
      (Record.required "tool" toolName).pair <|
      (Record.defaulted "arguments" toolArguments ⟨[], by decide⟩).pair <|
      (Record.required "status" toolCallStatus).pair <|
      (Record.defaulted "match_count" natural 0).pair <|
      (Record.defaulted "truncated" Codec.bool false).pair <|
      (Record.defaulted "source_chars" natural 0).pair <|
      Record.required "detail" (boundedText 1 500))
    (fun call => (call.sequence, call.turn, call.tool, call.arguments, call.status,
      call.matchCount, call.truncated, call.sourceChars, call.detail))
    (fun (sequence, turn, tool, arguments, status, matchCount, truncated, sourceChars, detail) =>
      some { sequence, turn, tool, arguments, status, matchCount, truncated, sourceChars, detail })
    fun _ => rfl

def investigationTranscript : Codec InvestigationTranscript :=
  Record.object
    ((Record.required "turns" positiveInt).pair <|
      (Record.defaulted "tool_calls" (boundedList 16 toolCallRecord) ⟨[], by decide⟩).pair <|
      (Record.required "starting_context_sha256" sha256).pair <|
      Record.defaulted "response_sha256" (boundedList 8 Codec.text) (.empty 8 _))
    (fun transcript => (transcript.turns, transcript.toolCalls, transcript.startingContextSha256,
      transcript.responseSha256))
    (fun (turns, toolCalls, startingContextSha256, responseSha256) =>
      some { turns, toolCalls, startingContextSha256, responseSha256 })
    fun _ => rfl

/-! ## The report -/

/-- The codecs of identifiers and moments. -/
structure ScalarCodecs (DateTime : Type) where
  uuid : Codec RunId
  datetime : Codec DateTime

section Report

variable {DateTime Text : Type} (scalars : ScalarCodecs DateTime)

def evidenceReport : Codec (EvidenceReport DateTime) :=
  Record.object
    ((Record.defaulted "schema_version" Codec.int 1).pair <|
      (Record.required "run_id" scalars.uuid).pair <|
      (Record.required "repository" Codec.text).pair <|
      (Record.required "pr_number" positiveInt).pair <|
      (Record.required "base_sha" Codec.text).pair <|
      (Record.required "head_sha" Codec.text).pair <|
      (Record.required "claim_disposition" claimDisposition).pair <|
      (Record.required "claim" behavioralClaim.nullable).pair <|
      (Record.required "claim_usage" modelUsage).pair <|
      (Record.required "claim_response_sha256" Codec.text).pair <|
      (Record.omitted "environment_readiness" environmentReadinessEvidence).pair <|
      (Record.omitted "investigation_transcript" investigationTranscript).pair <|
      (Record.required "candidate_attempts" (boundedList 3 candidateAttemptEvidence)).pair <|
      (Record.required "candidate_evaluations" (boundedList 3 candidateEvaluationEvidence)).pair <|
      (Record.required "selected_artifact_sha256" Codec.text.nullable).pair <|
      (Record.required "base_execution" executionEvidence.nullable).pair <|
      (Record.required "head_execution" executionEvidence.nullable).pair <|
      (Record.required "mechanical_status" mechanicalStatus).pair <|
      (Record.required "differential_pattern" differentialPattern).pair <|
      (Record.required "mechanical_reason" (boundedText 1 2000)).pair <|
      (Record.required "semantic_assessment" semanticAssessmentResult.nullable).pair <|
      (Record.required "claim_outcome" claimOutcome).pair <|
      (Record.required "conclusion" (boundedText 1 2000)).pair <|
      Record.required "created_at" scalars.datetime)
    (fun report => (report.schemaVersion, report.runId, report.repository, report.prNumber,
      report.baseSha, report.headSha, report.claimDisposition, report.claim, report.claimUsage,
      report.claimResponseSha256, report.environmentReadiness, report.investigationTranscript,
      report.candidateAttempts, report.candidateEvaluations, report.selectedArtifactSha256,
      report.baseExecution, report.headExecution, report.mechanicalStatus,
      report.differentialPattern, report.mechanicalReason, report.semanticAssessment,
      report.claimOutcome, report.conclusion, report.createdAt))
    (fun (schemaVersion, runId, repository, prNumber, baseSha, headSha, claimDisposition, claim,
        claimUsage, claimResponseSha256, environmentReadiness, investigationTranscript,
        candidateAttempts, candidateEvaluations, selectedArtifactSha256, baseExecution,
        headExecution, mechanicalStatus, differentialPattern, mechanicalReason,
        semanticAssessment, claimOutcome, conclusion, createdAt) =>
      if checks : baseExecution.isSome = headExecution.isSome ∧
          (mechanicalStatus = .discriminating →
            baseExecution.isSome = true ∧ semanticAssessment.isSome = true) ∧
          (claim = none → claimOutcome = .insufficientEvidence) then
        some { schemaVersion, runId, repository, prNumber, baseSha, headSha, claimDisposition,
               claim, claimUsage, claimResponseSha256, environmentReadiness,
               investigationTranscript, candidateAttempts, candidateEvaluations,
               selectedArtifactSha256, baseExecution, headExecution, mechanicalStatus,
               differentialPattern, mechanicalReason, semanticAssessment, claimOutcome,
               conclusion, createdAt, executionsPaired := checks.1,
               discriminatingComplete := checks.2.1, abstentionInsufficient := checks.2.2 }
      else none)
    fun report => dif_pos ⟨report.executionsPaired, report.discriminatingComplete,
      report.abstentionInsufficient⟩

variable (library : JsonLibrary Text) (digest : Text → String)

/-- `EvidenceReport.canonical_json`. -/
def EvidenceReport.canonicalJson (report : EvidenceReport DateTime) : Text :=
  (evidenceReport scalars).print library report

/-- `EvidenceReport.sha256`. -/
def EvidenceReport.sha256 (report : EvidenceReport DateTime) : String :=
  digest (report.canonicalJson scalars library)

/-- `EvidenceReport.model_validate_json`. -/
def EvidenceReport.modelValidateJson (documentJson : Text) : Option (EvidenceReport DateTime) :=
  (evidenceReport scalars).scan library documentJson

/-- A report that reads and prints as another one does. -/
structure Replays (replayed report : EvidenceReport DateTime) : Prop where
  read : EvidenceReport.modelValidateJson scalars library (report.canonicalJson scalars library) =
    some replayed
  canonicalJson : replayed.canonicalJson scalars library = report.canonicalJson scalars library
  sha256 : replayed.sha256 scalars library digest = report.sha256 scalars library digest

end Report

end Document

end PatchProof
