import PatchProof.Protocol.Saving
import PatchProof.Worker.FailClosed

/-!
# The evidence gate

What a saved report may conclude.  Support rests on an assertion that failed on BASE and
passed on HEAD, a potential regression on the mirrored pair; both executions ran the
selected artifact, intact and at one node, they are the pair of the last evaluation, a
validated attempt came to that artifact, and the assessor related the assertion to the
claim.  Everything else is insufficient evidence (`EvidenceReport.Gated`).

On local worktrees the workflow classifies the two executions itself.  The private executor
answers with an assessment, so there the gate rests on the executor's having classified the
pair it answers with (`Classified`).  Nothing is assumed about the models: the claim, the
candidates and the decision of the assessor are whatever the schedule brings.
-/

set_option autoImplicit false

namespace PatchProof

/-! ## What the builders establish -/

/-- The assessment of a challenge is the classification of its two executions. -/
def Classified (digest : String → Sha256) (challenge : ChallengeResult) : Prop :=
  challenge.assessment =
    MechanicalEvidenceClassifier.assess digest challenge.artifact challenge.base challenge.head

namespace MechanicalEvidenceClassifier.Contrast

variable {base head : TestExecutionStatus}

theorem supported (contrast : Contrast .baseAssertionFailedHeadPassed base head) :
    base = .assertionFailed ∧ head = .passed := by
  cases contrast
  exact ⟨rfl, rfl⟩

theorem contradicted (contrast : Contrast .basePassedHeadAssertionFailed base head) :
    base = .passed ∧ head = .assertionFailed := by
  cases contrast
  exact ⟨rfl, rfl⟩

end MechanicalEvidenceClassifier.Contrast

section Builders

variable {digest : String → Sha256} {Transcript : Type} {basis : ReportBasis Transcript}
  {createdAt : Int} {report : EvidenceReport Transcript}

/-- Every attempt is recorded. -/
theorem mem_attemptsEvidence {attempts : List CandidateAttempt}
    {recorded : List CandidateAttemptEvidence} {attempt : CandidateAttempt}
    (records : attemptsEvidence digest attempts = .ok recorded) (mem : attempt ∈ attempts) :
    ∃ evidence ∈ recorded, attempt.evidence digest = .ok evidence := by
  induction attempts generalizing recorded with
  | nil => cases mem
  | cons first rest ih =>
      unfold attemptsEvidence at records
      obtain ⟨evidence, ofFirst, records⟩ := Guard.bind_eq_ok_iff.mp records
      obtain ⟨more, others, records⟩ := Guard.bind_eq_ok_iff.mp records
      obtain rfl := Except.ok.inj records
      rcases List.mem_cons.mp mem with rfl | later
      · exact ⟨evidence, List.mem_cons_self, ofFirst⟩
      · obtain ⟨found, isMore, recordedAs⟩ := ih others later
        exact ⟨found, List.mem_cons_of_mem _ isMore, recordedAs⟩

theorem CandidateAttempt.evidence_status {attempt : CandidateAttempt}
    {evidence : CandidateAttemptEvidence} (recorded : attempt.evidence digest = .ok evidence) :
    evidence.status = attempt.status.value := by
  unfold CandidateAttempt.evidence at recorded
  obtain ⟨sequence, -, recorded⟩ := Guard.bind_eq_ok_iff.mp recorded
  obtain ⟨issues, -, recorded⟩ := Guard.bind_eq_ok_iff.mp recorded
  obtain rfl := Except.ok.inj recorded
  rfl

/-- An attempt that came to an artifact is recorded as validated, with the artifact's hash. -/
theorem exists_validated_evidence {attempts : List CandidateAttempt}
    {recorded : List CandidateAttemptEvidence} {challenge : ChallengeResult}
    (accounts : AccountFor digest attempts (some challenge))
    (records : attemptsEvidence digest attempts = .ok recorded) :
    ∃ evidence ∈ recorded, evidence.status = CandidateAttemptStatus.validated.value ∧
      evidence.artifactSha256 = some (digest challenge.artifact.content) := by
  obtain ⟨attempt, mem, came⟩ := accounts
  obtain ⟨evidence, isRecorded, recordedAs⟩ := mem_attemptsEvidence records mem
  refine ⟨evidence, isRecorded, ?_, (attempt.evidence_artifactSha256 recordedAs).trans came⟩
  have present : attempt.validated.isSome = true := by
    rw [← Option.isSome_map]
    exact Option.isSome_iff_exists.mpr ⟨_, came⟩
  rw [CandidateAttempt.evidence_status recordedAs, attempt.validatedIff.mpr present]

/-- A challenge that the classifier found to discriminate ran the artifact on both sides. -/
theorem Classified.contrast {challenge : ChallengeResult} (classified : Classified digest challenge)
    (discriminates : challenge.assessment.mechanicalStatus = .discriminating) :
    challenge.base.evidence.Ran challenge.artifact.nodeId (digest challenge.artifact.content) ∧
      challenge.head.evidence.Ran challenge.artifact.nodeId (digest challenge.artifact.content) ∧
      MechanicalEvidenceClassifier.Contrast challenge.assessment.pattern challenge.base.status
        challenge.head.status := by
  rw [classified] at discriminates ⊢
  obtain ⟨base, head, contrast⟩ :=
    MechanicalEvidenceClassifier.assess_discriminates discriminates
  exact ⟨⟨base.node, base.expected, base.before, base.after⟩,
    ⟨head.node, head.expected, head.before, head.after⟩, contrast⟩

/-- What the validation of a decision lets through. -/
theorem validateSemanticDecision_eq_ok_iff {challenge : ChallengeResult}
    {decision : SemanticEvidenceDecision} :
    validateSemanticDecision challenge decision = .ok () ↔
      (decision.outcome = .insufficientEvidence ∨
        (challenge.assessment.pattern = .baseAssertionFailedHeadPassed ∧
          decision.outcome = .claimSupportedForScenario) ∨
        (challenge.assessment.pattern = .basePassedHeadAssertionFailed ∧
          decision.outcome = .potentialRegression)) ∧
      (decision.outcome = .insufficientEvidence ∨ decision.assertionRelation = .related) := by
  unfold validateSemanticDecision
  rw [Guard.require_bind_eq_ok_iff, Guard.require_eq_ok_iff]

theorem abstentionReport_gated {mechanicalStatus : MechanicalEvidenceStatus} {reason : String}
    {challenge : Option ChallengeResult}
    (built : abstentionReport digest basis mechanicalStatus reason challenge createdAt =
      .ok report) : report.Gated := by
  unfold abstentionReport at built
  obtain ⟨attempts, -, built⟩ := Guard.bind_eq_ok_iff.mp built
  obtain ⟨bounded, -, built⟩ := Guard.bind_eq_ok_iff.mp built
  obtain ⟨evaluations, -, built⟩ := Guard.bind_eq_ok_iff.mp built
  obtain ⟨checked, -, built⟩ := Guard.bind_eq_ok_iff.mp built
  split at built
  · cases built
  · obtain rfl := Except.ok.inj built
    trivial

/-- A completed report rests on its challenge when the assertion is related to the claim. -/
theorem completedReport_restsOn {claim : BehavioralClaim} {challenge : ChallengeResult}
    {semanticResult : SemanticAssessmentResult}
    (accounts : AccountFor digest basis.attempts (some challenge))
    (classified : Classified digest challenge) (last : LastEvaluated basis.evaluations challenge)
    (discriminates : challenge.assessment.mechanicalStatus = .discriminating)
    (related : semanticResult.decision.assertionRelation = .related)
    (built : completedReport digest basis claim challenge semanticResult createdAt =
      .ok report) : report.RestsOn challenge.base.status challenge.head.status := by
  unfold completedReport at built
  obtain ⟨attempts, records, built⟩ := Guard.bind_eq_ok_iff.mp built
  obtain ⟨bounded, within, built⟩ := Guard.bind_eq_ok_iff.mp built
  obtain ⟨evaluations, kept, built⟩ := Guard.bind_eq_ok_iff.mp built
  obtain ⟨checked, -, built⟩ := Guard.bind_eq_ok_iff.mp built
  obtain ⟨conclusion, -, built⟩ := Guard.bind_eq_ok_iff.mp built
  obtain rfl := Except.ok.inj built
  obtain ⟨base, head, -⟩ := classified.contrast discriminates
  obtain ⟨evaluation, isLast, sameBase, sameHead⟩ := last
  have recorded := BoundedList.check_eq_ok_iff.mp within
  have evaluated := BoundedList.check_eq_ok_iff.mp kept
  obtain ⟨evidence, mem, isValidated, hash⟩ := exists_validated_evidence accounts records
  refine ⟨?_, ⟨semanticResult, rfl, related⟩, ?_⟩
  · refine ⟨challenge.artifact.nodeId, digest challenge.artifact.content, challenge.base.evidence,
      challenge.head.evidence, rfl, rfl, rfl, base, rfl, rfl, head, evaluation, ?_, sameBase,
      sameHead⟩
    rw [evaluated]
    exact isLast
  · refine ⟨evidence, ?_, isValidated, hash, Option.some_ne_none _⟩
    rw [recorded]
    exact mem

theorem completedReport_outcome {claim : BehavioralClaim} {challenge : ChallengeResult}
    {semanticResult : SemanticAssessmentResult}
    (built : completedReport digest basis claim challenge semanticResult createdAt =
      .ok report) : report.claimOutcome = semanticResult.decision.outcome := by
  unfold completedReport at built
  obtain ⟨attempts, -, built⟩ := Guard.bind_eq_ok_iff.mp built
  obtain ⟨bounded, -, built⟩ := Guard.bind_eq_ok_iff.mp built
  obtain ⟨evaluations, -, built⟩ := Guard.bind_eq_ok_iff.mp built
  obtain ⟨checked, -, built⟩ := Guard.bind_eq_ok_iff.mp built
  obtain ⟨conclusion, -, built⟩ := Guard.bind_eq_ok_iff.mp built
  obtain rfl := Except.ok.inj built
  rfl

/-- **A completed report is gated.** -/
theorem completedReport_gated {claim : BehavioralClaim} {challenge : ChallengeResult}
    {semanticResult : SemanticAssessmentResult}
    (accounts : AccountFor digest basis.attempts (some challenge))
    (classified : Classified digest challenge) (last : LastEvaluated basis.evaluations challenge)
    (discriminates : challenge.assessment.mechanicalStatus = .discriminating)
    (valid : validateSemanticDecision challenge semanticResult.decision = .ok ())
    (built : completedReport digest basis claim challenge semanticResult createdAt =
      .ok report) : report.Gated := by
  obtain ⟨agrees, relates⟩ := validateSemanticDecision_eq_ok_iff.mp valid
  obtain ⟨-, -, contrast⟩ := classified.contrast discriminates
  have rests := fun related =>
    completedReport_restsOn accounts classified last discriminates related built
  unfold EvidenceReport.Gated
  rw [completedReport_outcome built]
  rcases agrees with insufficient | ⟨pattern, supports⟩ | ⟨pattern, regresses⟩
  · rw [insufficient]
    trivial
  · rw [pattern] at contrast
    obtain ⟨base, head⟩ := contrast.supported
    rw [supports] at relates ⊢
    rw [base, head] at rests
    exact rests (relates.resolve_left nofun)
  · rw [pattern] at contrast
    obtain ⟨base, head⟩ := contrast.contradicted
    rw [regresses] at relates ⊢
    rw [base, head] at rests
    exact rests (relates.resolve_left nofun)

end Builders

/-! ## Wherever a schedule leads -/

section Service

variable {p : Platform}

/-- Reports of the platform that are gated. -/
abbrev Platform.Gated (p : Platform) (report : p.Report) : Prop := report.Gated

/-- Reports are gated when the executor classifies what it answers with. -/
theorem gated_upheld : Upheld p.Gated (Classified p.digest) where
  classified challenged := by
    obtain ⟨rfl, rfl, rfl, assessed⟩ :=
      MechanicalEvidenceClassifier.challenge_eq_ok_iff.mp challenged
    exact assessed
  abstention _ built := abstentionReport_gated built
  completion accounts classified last discriminates valid built :=
    completedReport_gated accounts classified last discriminates valid built

/-- **The evidence gate.**  Whatever the models answer and however the executions end,
wherever a schedule of the service leads: every report that was to be saved, and every
report that is stored, is gated. -/
theorem evidence_gate {ι : Type} [DecidableEq ι] (duties : ι → Duty p)
    (schedule : List (ι × Moment p))
    (classifies : ∀ tick ∈ schedule, tick.2.Trusts (Classified p.digest)) :
    (∀ event ∈ (reachedPool duties schedule).history, SavesGood p.Gated event.call) ∧
      ∀ runId stored, ((reachedPool duties schedule).shared.view runId).evidence = some stored →
        ∃ report, stored.documentJson = p.encode report ∧ report.Gated :=
  (reachedPool_saves gated_upheld duties schedule classifies).symm

end Service

/-! ## A claim that is supported -/

/-- The artifact that every draft is turned into. -/
def gatedArtifact : TestArtifact where
  relativePath := "tests/test_gate.py"
  nodeId := "tests/test_gate.py::test_behavior"
  content := "def test_behavior(): assert gate()"
  wellFormed := by decide +kernel

/-- A platform on which every answer of the candidate model is a candidate that validates. -/
def validatingPlatform : Platform :=
  { samplePlatform with
    firstTestPath := fun _ => "tests/"
    decodeDraft := fun _ => some ⟨⟨"assert gate()", by decide⟩, ⟨"calls the gate", by decide⟩⟩
    validateCandidate := fun _ _ _ _ proposal => .ok ⟨proposal, gatedArtifact, [], sampleSha256⟩ }

/-- The artifact ran intact on a revision. -/
def gatedExecution (revision : Revision) (status : TestExecutionStatus) : ExecutionResult where
  revision := revision
  testNodeId := gatedArtifact.nodeId
  expectedArtifactSha256 := sampleSha256
  artifactSha256Before := some sampleSha256
  artifactSha256After := some sampleSha256
  status := status
  collectedCount := 1
  exitCode := none
  durationSeconds := ⟨1, Duration.one_nonnegative⟩

/-- An answer of the executor: BASE fails its assertion, HEAD passes, and the pair is
classified. -/
def classifiedChallenge : ChallengeResult :=
  let sha : GitSha := ⟨String.ofList (List.replicate 40 'a'), isGitSha_replicate 'a' isLowerHex_a⟩
  let base := gatedExecution ⟨.base, sha⟩ .assertionFailed
  let head := gatedExecution ⟨.head, sha⟩ .passed
  { artifact := gatedArtifact
    base := base
    head := head
    assessment :=
      MechanicalEvidenceClassifier.assess validatingPlatform.digest gatedArtifact base head
    baseRole := rfl
    headRole := rfl }

/-- Time passes, the executor classifies, and the assessor supports the claim. -/
def supportingMoment (index : ℕ) : Moment validatingPlatform where
  now := index + 1
  freshRunId := ⟨1⟩
  answer
    | .readCommittedFile => .ok []
    | .committedPaths => .ok []
    | .retrieveContext => .ok ()
    | .selectClaim => .ok ⟨sampleSelection, sampleUsage, sampleSha256⟩
    | .prepareEnvironment => .ok ⟨.ready, "environment is ready"⟩
    | .retrieveCallableSignatures => .ok (.absent sampleSha256)
    | .invokeCandidateModel => .ok ⟨"a test of the gate", by decide, sampleUsage⟩
    | .challengeRemotely => .ok classifiedChallenge
    | .assess => .ok ⟨⟨.claimSupportedForScenario, .related, ⟨"the gate decides", by decide⟩, 1,
        ⟨Duration.one_nonnegative, le_rfl⟩⟩, sampleUsage, sampleSha256⟩
    | .readClock => .ok (5 : Int)
    | _ => .error (.other "not asked")

theorem supportingMoment_trusts (index : ℕ) :
    (supportingMoment index).Trusts (Classified validatingPlatform.digest) := by
  intro challenge answered
  obtain rfl : classifiedChallenge = challenge := Except.ok.inj answered
  rfl

/-- An event, and a worker for its run that uses the executor. -/
def acceptedThenGated : ℕ → Duty validatingPlatform
  | 0 => .accept (sampleEvent "first" 'a' 10 isLowerHex_a deliveryId_first)
  | _ => .work ⟨.executor, (), true, false⟩ ⟨1⟩

/-- The one follows the other. -/
def gatedAfterwards : List (ℕ × Moment validatingPlatform) :=
  (0, supportingMoment 0) :: (List.range 30).map fun tick => (1, supportingMoment (tick + 1))

/-- The claim is supported, by a report that is gated. -/
theorem evidence_gate_supported : ∃ report : EvidenceReport Unit,
    ((reachedPool acceptedThenGated gatedAfterwards).shared.view ⟨1⟩).evidence.map
        StoredEvidence.documentJson = some report ∧
      report.claimOutcome = .claimSupportedForScenario ∧ report.Gated := by
  have classifies : ∀ tick ∈ gatedAfterwards,
      tick.2.Trusts (Classified validatingPlatform.digest) := by
    intro tick mem
    rcases List.mem_cons.mp mem with rfl | later
    · exact supportingMoment_trusts 0
    · obtain ⟨index, -, rfl⟩ := List.mem_map.mp later
      exact supportingMoment_trusts (index + 1)
  have supports : ((reachedPool acceptedThenGated gatedAfterwards).shared.view ⟨1⟩).evidence.map
      (fun stored => stored.documentJson.claimOutcome) = some .claimSupportedForScenario := by
    decide +kernel
  obtain ⟨stored, found, outcome⟩ := Option.map_eq_some_iff.mp supports
  obtain ⟨report, encodes, gated⟩ :=
    (evidence_gate acceptedThenGated gatedAfterwards classifies).2 ⟨1⟩ stored found
  obtain rfl : stored.documentJson = report := encodes
  exact ⟨stored.documentJson, by rw [found]; rfl, outcome, gated⟩

end PatchProof
