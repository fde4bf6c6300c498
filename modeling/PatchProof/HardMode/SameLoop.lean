import PatchProof.HardMode.LiveCase
import PatchProof.Library.Lockstep

/-!
# Benchmark and product try candidates alike

The benchmark and the workflow each have a loop of their own over candidates.  Here the loop of
the workflow follows that of the benchmark: whatever the candidate model and the sandbox answer,
its calls to them are the calls that the benchmark makes, in the same order and with the same
requests, so that a candidate, its feedback and its challenge are the same in both, and it ends
where the benchmark ends.  Between these calls the workflow keeps the books of its run, which may
fail on its own.
-/

set_option autoImplicit false

namespace PatchProof

variable {p : Platform}

/-! ## The two loops -/

/-- A candidate that was tried, with its challenge. -/
abbrev TriedCandidate : Type := CandidateAttempt × Option ChallengeResult

/-- `session.run` without a callback. -/
def plainSession (workflow : EvidenceWorkflow p) (run : VerificationRun)
    (artifact : TestArtifact) : Activity p ChallengeResult := do
  let (result, _) ← runChallenge workflow run artifact fun _ => pure ()
  return result

/-- A consumer that takes whatever is yielded. -/
def collect (tried : List TriedCandidate) (candidate : CandidateAttempt)
    (challenge : Option ChallengeResult) : Activity p (List TriedCandidate × Bool) :=
  return (tried ++ [(candidate, challenge)], false)

/-- `list(_bounded_candidate_challenges(session, generator))`, with the last challenge. -/
def benchmarkLoop (workflow : EvidenceWorkflow p) (run : VerificationRun)
    (generator : CandidateGenerator p) :
    Activity p (List TriedCandidate × Option ChallengeResult) :=
  boundedCandidateChallenges (plainSession workflow run) collect generator []

/-- The candidate loop of `EvidenceWorkflow.execute`. -/
def workflowLoop (workflow : EvidenceWorkflow p) (runId : RunId) (task : CandidateTask p)
    (run : VerificationRun) (generator : CandidateGenerator p) : Activity p p.Report := do
  let (first, generator) ← generator.generateInitial
  tryCandidates workflow runId task maxCandidateModelCalls
    { run := run, generator := generator, attempt := first, attempts := [first] }

/-- The loop is what the workflow goes on with once the environment is ready. -/
theorem pursueClaim_eq (workflow : EvidenceWorkflow p) (runId : RunId) (run : VerificationRun)
    (context : p.Context) (contract : p.Contract) (existingPaths : List String)
    (claim : BehavioralClaim) (claimResult : ClaimAgentResult) (transcript : Option p.Transcript) :
    pursueClaim workflow runId run context contract existingPaths claim claimResult transcript =
      (do
        let environmentReadiness ← external .prepareEnvironment (run.baseSha, run.headSha)
        let readiness ← attempt (EnvironmentReadinessEvidence.fromDomain environmentReadiness)
        if environmentReadiness.ready then do
          let run ← transition run
            { phase := some .testGeneration
              requireChange := RunTransition.phase_changes .testGeneration }
          let signatures ← external .retrieveCallableSignatures (run.headSha, context,
            claim.affectedSymbols.map fun symbol => (symbol.path, symbol.qualifiedName.text))
          let roots ← installedImportRoots workflow
          workflowLoop workflow runId ⟨claim, claimResult, transcript, readiness⟩ run
            { claim := claim
              context := context
              contract := contract
              existingPaths := existingPaths
              installedImportRoots := roots
              repositorySignatures := signatures }
        else
          conclude run (abstentionReport p.digest
            { run := run
              claimResult := claimResult
              environmentReadiness := some readiness
              investigationTranscript := transcript }
            .environmental environmentReadiness.reason none)) := rfl

/-- The session of a live case is the session of a workflow on worktrees. -/
theorem plainSession_worktrees {workflow : EvidenceWorkflow p}
    (worktrees : workflow.challenge = .worktrees) (run : VerificationRun)
    (artifact : TestArtifact) : plainSession workflow run artifact = worktreeSession artifact := by
  simp only [plainSession, runChallenge, worktrees, worktreeSession, Program.bind_eq_bind,
    Program.pure_eq_done, Program.bind_bind, Program.bind, Program.bind_done]

/-! ## What the loops share -/

/-- The calls by which candidates are generated and executed. -/
def isLoopCall : ServiceCall p → Bool
  | .external .invokeCandidateModel _ | .external .executeArtifact _
  | .external .challengeRemotely _ => true
  | _ => false

/-- The run has kept its revisions. -/
def KeepsRevisions (run current : VerificationRun) : Prop :=
  current.baseSha = run.baseSha ∧ current.headSha = run.headSha

/-- Whether the setup of an execution did not fail. -/
def WasSetUp (result : ExecutionResult) : Prop := result.status ≠ .environmentSetupFailed

/-- No session reports a failed setup, and a transition keeps the revisions of the run. -/
def LoopAnswers (run : VerificationRun) : (call : ServiceCall p) → ServiceCall.Reply p call → Prop
  | .external .executeArtifact _, .ok result => WasSetUp result
  | .external .challengeRemotely _, .ok result => WasSetUp result.base ∧ WasSetUp result.head
  | .store (.transitionRun _ _ _), .ok current => KeepsRevisions run current
  | _, _ => True

/-- The workflow fails on its own: the store fails, the run was superseded, or an evaluation
cannot be recorded. -/
inductive BookkeepingFailure (digest : String → Sha256) : RaisedException → Prop
  | store {exception : StoreException} : BookkeepingFailure digest (.store exception)
  | superseded : BookkeepingFailure digest
      (.runtime "superseded verification run cannot execute or publish")
  | unrecorded {challenge : ChallengeResult} {sequence : Nat} {exception : RaisedException}
      (fails : challenge.evidence digest sequence = .error exception) :
      BookkeepingFailure digest exception

/-- The evaluations of the candidates that were executed. -/
def evaluationsEvidence (digest : String → Sha256) : List TriedCandidate →
    Except RaisedException (List CandidateEvaluationEvidence)
  | [] => .ok []
  | (candidate, some challenge) :: rest => do
      let evidence ← challenge.evidence digest candidate.sequence
      return evidence :: (← evaluationsEvidence digest rest)
  | (_, none) :: rest => evaluationsEvidence digest rest

/-- A report lists these candidates and their evaluations. -/
structure Lists (report : p.Report) (tried : List TriedCandidate) : Prop where
  attempts : attemptsEvidence p.digest (tried.map Prod.fst) = .ok report.candidateAttempts.items
  evaluations : evaluationsEvidence p.digest tried = .ok report.candidateEvaluations.items

/-- Where the benchmark is when the workflow returns: it has ended, and the report lists what it
has yielded. -/
def EndsWith (benchmark : Activity p (List TriedCandidate × Option ChallengeResult))
    (report : p.Report) : Prop :=
  ∃ tried challenge, benchmark = .done (.ok (tried, challenge)) ∧ Lists report tried

/-- Where the benchmark is when the workflow raises: it raises the same, or it has ended, unless
the workflow fails on its own. -/
def RaisesWith (benchmark : Activity p (List TriedCandidate × Option ChallengeResult))
    (exception : RaisedException) : Prop :=
  benchmark = .done (.error exception) ∨ (∃ outcome, benchmark = .done (.ok outcome)) ∨
    BookkeepingFailure p.digest exception

section KeepsStep

variable {run : VerificationRun} {α β : Type}
  {benchmark : Activity p (List TriedCandidate × Option ChallengeResult)}

/-- The program keeps step with the benchmark. -/
abbrev KeepsStep (run : VerificationRun)
    (onReturn : Activity p (List TriedCandidate × Option ChallengeResult) → α → Prop)
    (benchmark : Activity p (List TriedCandidate × Option ChallengeResult))
    (program : Activity p α) : Prop :=
  program.Follows (Program.lockstep isLoopCall (LoopAnswers run)) onReturn RaisesWith benchmark

/-- A step of the workflow's own, during which the benchmark waits. -/
abbrev StepsAside (run : VerificationRun) (good : α → Prop)
    (benchmark : Activity p (List TriedCandidate × Option ChallengeResult))
    (step : Activity p α) : Prop :=
  Program.Aside isLoopCall (LoopAnswers run) RaisesWith good benchmark step

/-! ## Keeping the books -/

theorem aside_perform {call : StoreCall p.Document} {good : call.Result → Prop}
    (answers : ∀ result, LoopAnswers run (.store call) (.ok result) → good result) :
    StepsAside run good benchmark (perform call) := by
  intro reply assumed
  refine ⟨benchmark, .own rfl, ?_⟩
  cases reply with
  | ok result => exact ⟨rfl, answers result assumed⟩
  | error exception => exact .inr (.inr .store)

theorem aside_called {call : StoreCall p.Document} :
    StepsAside run (fun _ => True) benchmark (perform call) :=
  aside_perform fun _ _ => trivial

theorem aside_transition {current : VerificationRun} {requested : RunTransition} :
    StepsAside run (KeepsRevisions run) benchmark (transition current requested) :=
  aside_perform fun _ keeps => keeps

theorem aside_requireCurrent {current : VerificationRun} :
    StepsAside run (fun _ => True) benchmark (requireCurrent current : Activity p Unit) :=
  .demand (fun _ => ⟨rfl, trivial⟩) fun _ => .inr (.inr .superseded)

theorem aside_advanceForExecution {current : VerificationRun}
    (keeps : KeepsRevisions run current) :
    StepsAside run (KeepsRevisions run) benchmark
      (advanceForExecution current : Activity p VerificationRun) := by
  unfold advanceForExecution
  split
  · exact aside_transition
  · exact ⟨rfl, keeps⟩

theorem aside_markHeadExecution {runId : RunId} {current : VerificationRun}
    (keeps : KeepsRevisions run current) :
    StepsAside run (KeepsRevisions run) benchmark
      (markHeadExecution runId current : Activity p VerificationRun) := by
  refine aside_called.next fun _ _ => ?_
  refine aside_requireCurrent.next fun _ _ => ?_
  split
  · exact aside_transition
  · exact ⟨rfl, keeps⟩

/-- An evaluation is recorded. -/
theorem aside_evaluation {challenge : ChallengeResult} {sequence : Nat} :
    StepsAside run (fun evaluation => challenge.evidence p.digest sequence = .ok evaluation)
      benchmark (attempt (challenge.evidence p.digest sequence)) := by
  cases recorded : challenge.evidence p.digest sequence with
  | ok evaluation => exact ⟨rfl, rfl⟩
  | error exception => exact .inr (.inr (.unrecorded recorded))

/-! ## After the benchmark has ended -/

/-- The benchmark has ended. -/
def HasEnded (benchmark : Activity p (List TriedCandidate × Option ChallengeResult)) : Prop :=
  ∃ outcome, benchmark = .done (.ok outcome)

section Ended

variable (ended : HasEnded benchmark)

include ended

theorem aside_attempt {outcome : Except RaisedException α} :
    StepsAside run (fun value => outcome = .ok value) benchmark (attempt outcome) := by
  cases outcome with
  | ok value => exact ⟨rfl, rfl⟩
  | error exception => exact .inr (.inl ended)

theorem aside_external {kind : ExternalKind} {request : kind.Request p}
    (unseen : isLoopCall (.external kind request) = false) :
    StepsAside run (fun _ => True) benchmark (external kind request) := by
  intro reply _
  refine ⟨benchmark, .own unseen, ?_⟩
  cases reply with
  | ok result => exact ⟨rfl, trivial⟩
  | error exception => exact .inr (.inl ended)

theorem aside_conclude {current : VerificationRun}
    {build : Int → Except RaisedException p.Report} :
    StepsAside run (fun report => ∃ createdAt, build createdAt = .ok report) benchmark
      (conclude current build) := by
  refine (aside_external ended rfl).next fun createdAt _ => ?_
  refine (aside_attempt ended).next fun report built => ?_
  have persisted : StepsAside run (fun _ => True) benchmark (persistTerminal current report) := by
    refine aside_called.next fun _ _ => ?_
    refine aside_called.next fun _ _ => ?_
    exact aside_transition.next fun _ _ => ⟨rfl, trivial⟩
  exact persisted.next fun _ _ => ⟨rfl, createdAt, built⟩

theorem aside_assessChallenge {claim : BehavioralClaim} {source : String}
    {challenge : ChallengeResult} :
    StepsAside run (fun _ => True) benchmark (assessChallenge claim source challenge) := by
  have asking : Program.Aside isLoopCall (LoopAnswers run)
      (fun residual (_ : RaisedException) => residual = benchmark) (fun _ => True) benchmark
      (external (p := p) .assess (claim, source, challenge)) := by
    intro reply _
    refine ⟨benchmark, .own rfl, ?_⟩
    cases reply with
    | ok result => exact ⟨rfl, trivial⟩
    | error exception => exact rfl
  refine Program.Follows.catching (asking.next fun _ _ => ⟨rfl, trivial⟩) fun _ exception same => ?_
  subst same
  split
  · exact (aside_external ended rfl).next fun _ _ => ⟨rfl, trivial⟩
  · exact .inr (.inl ended)

end Ended

/-! ## What a report lists -/

/-- The books of a round are those of what was tried. -/
structure Matches (tried : List TriedCandidate) (round : CandidateRound p) : Prop where
  attempts : round.attempts = tried.map Prod.fst
  evaluations : evaluationsEvidence p.digest tried = .ok round.evaluations

theorem evaluationsEvidence_concat_none {digest : String → Sha256} {tried : List TriedCandidate}
    (candidate : CandidateAttempt) :
    evaluationsEvidence digest (tried ++ [(candidate, none)]) =
      evaluationsEvidence digest tried := by
  induction tried with
  | nil => rfl
  | cons first rest ih =>
      obtain ⟨earlier, _ | challenge⟩ := first
      · exact ih
      · simp only [List.cons_append, evaluationsEvidence, ih]

theorem evaluationsEvidence_concat_some {digest : String → Sha256} {tried : List TriedCandidate}
    {candidate : CandidateAttempt} {challenge : ChallengeResult}
    {evaluations : List CandidateEvaluationEvidence} {evaluation : CandidateEvaluationEvidence}
    (recorded : evaluationsEvidence digest tried = .ok evaluations)
    (last : challenge.evidence digest candidate.sequence = .ok evaluation) :
    evaluationsEvidence digest (tried ++ [(candidate, some challenge)]) =
      .ok (evaluations ++ [evaluation]) := by
  induction tried generalizing evaluations with
  | nil =>
      cases recorded
      simp only [List.nil_append, evaluationsEvidence, last]
      rfl
  | cons first rest ih =>
      obtain ⟨earlier, _ | challenged⟩ := first
      · exact ih recorded
      · obtain ⟨evidence, written, recorded⟩ := Guard.bind_eq_ok_iff.mp recorded
        obtain ⟨others, listed, same⟩ := Guard.bind_eq_ok_iff.mp recorded
        cases same
        simp only [List.cons_append, evaluationsEvidence, ih listed, written]
        rfl

theorem items_of_check {most : Nat} {items : List α} {bounded : BoundedList most α}
    (checked : BoundedList.check most items = .ok bounded) : bounded.items = items := by
  unfold BoundedList.check at checked
  split at checked
  · cases checked
    rfl
  · cases checked

/-- What the evidence of a basis and of its report have in common. -/
theorem Matches.lists {tried : List TriedCandidate} {round : CandidateRound p}
    (same : Matches tried round) {listed : List CandidateAttemptEvidence} {report : p.Report}
    (attempts : attemptsEvidence p.digest round.attempts = .ok listed)
    (listsAttempts : report.candidateAttempts.items = listed)
    (listsEvaluations : report.candidateEvaluations.items = round.evaluations) :
    Lists report tried where
  attempts := by rw [← same.attempts, attempts, listsAttempts]
  evaluations := by rw [same.evaluations, listsEvaluations]

theorem lists_of_abstentionReport {tried : List TriedCandidate} {round : CandidateRound p}
    (same : Matches tried round) {task : CandidateTask p}
    {readiness : EnvironmentReadinessEvidence} {status : MechanicalEvidenceStatus}
    {reason : String} {challenge : Option ChallengeResult} {createdAt : Int} {report : p.Report}
    (built : abstentionReport p.digest (round.basis task readiness) status reason challenge
      createdAt = .ok report) : Lists report tried := by
  obtain ⟨listed, attempts, built⟩ := Guard.bind_eq_ok_iff.mp built
  obtain ⟨few, checked, built⟩ := Guard.bind_eq_ok_iff.mp built
  obtain ⟨evaluations, checkedEvaluations, built⟩ := Guard.bind_eq_ok_iff.mp built
  obtain ⟨_, _, built⟩ := Guard.bind_eq_ok_iff.mp built
  split at built
  · cases built
  · cases built
    exact same.lists attempts (items_of_check checked) (items_of_check checkedEvaluations)

theorem lists_of_completedReport {tried : List TriedCandidate} {round : CandidateRound p}
    (same : Matches tried round) {task : CandidateTask p}
    {readiness : EnvironmentReadinessEvidence} {claim : BehavioralClaim}
    {challenge : ChallengeResult} {semanticResult : SemanticAssessmentResult} {createdAt : Int}
    {report : p.Report}
    (built : completedReport p.digest (round.basis task readiness) claim challenge semanticResult
      createdAt = .ok report) : Lists report tried := by
  obtain ⟨listed, attempts, built⟩ := Guard.bind_eq_ok_iff.mp built
  obtain ⟨few, checked, built⟩ := Guard.bind_eq_ok_iff.mp built
  obtain ⟨evaluations, checkedEvaluations, built⟩ := Guard.bind_eq_ok_iff.mp built
  obtain ⟨_, _, built⟩ := Guard.bind_eq_ok_iff.mp built
  obtain ⟨_, _, built⟩ := Guard.bind_eq_ok_iff.mp built
  cases built
  exact same.lists attempts (items_of_check checked) (items_of_check checkedEvaluations)

/-! ## Calls that both make -/

theorem asksOnly_demand {condition : Prop} [Decidable condition] {exception : RaisedException} :
    Program.AsksOnly isLoopCall (Program.demand condition exception : Activity p Unit) :=
  .demand (fun _ => trivial) fun _ => trivial

theorem asksOnly_attempt (outcome : Except RaisedException α) :
    Program.AsksOnly isLoopCall (attempt outcome : Activity p α) := by
  cases outcome <;> trivial

theorem asksOnly_external {kind : ExternalKind} {request : kind.Request p}
    (seen : isLoopCall (.external kind request) = true) :
    Program.AsksOnly isLoopCall (external kind request) := by
  intro reply _
  refine ⟨(), seen, ?_⟩
  cases reply <;> trivial

/-- A retried call. -/
theorem asksOnly_boundedRetry {kind : ExternalKind} {request : kind.Request p}
    {account : (attempts : Nat) → 1 ≤ attempts ∧ attempts ≤ 2 → kind.Result p → kind.Result p}
    (seen : isLoopCall (.external kind request) = true) :
    Program.AsksOnly isLoopCall (boundedRetry (external kind request) account) := by
  have first : Program.AsksOnly isLoopCall (do
      let response ← external kind request
      return account 1 one_attempt_bounded response) :=
    (asksOnly_external seen).bind fun _ _ _ => trivial
  apply first.catching
  intro _ exception _
  split
  · exact (asksOnly_external seen).bind fun _ _ _ => trivial
  · trivial

theorem asksOnly_invoke (generator : CandidateGenerator p) (origin : CandidateOrigin)
    (feedback : Option CandidateFeedback) :
    Program.AsksOnly isLoopCall (generator.invoke origin feedback) := by
  apply asksOnly_demand.bind
  intro _ _ _
  apply asksOnly_demand.bind
  intro _ _ _
  apply (asksOnly_boundedRetry rfl).bind
  intro _ response _
  apply (asksOnly_attempt _).bind
  intro _ judgement _
  trivial

theorem asksOnly_repair (generator : CandidateGenerator p) (feedback : CandidateFeedback) :
    Program.AsksOnly isLoopCall (generator.repair feedback) := by
  apply asksOnly_demand.bind
  intro _ _ _
  apply asksOnly_demand.bind
  intro _ _ _
  exact asksOnly_invoke _ _ _

theorem asksOnly_generateInitial (generator : CandidateGenerator p) :
    Program.AsksOnly isLoopCall generator.generateInitial := by
  apply asksOnly_demand.bind
  intro _ _ _
  exact asksOnly_invoke _ _ _

/-- A call that both make, and what both go on with. -/
theorem KeepsStep.external {kind : ExternalKind} {request : kind.Request p}
    (seen : isLoopCall (.external kind request) = true)
    {onReturn : Activity p (List TriedCandidate × Option ChallengeResult) → α → Prop}
    {goOn : kind.Result p → Activity p (List TriedCandidate × Option ChallengeResult)}
    {rest : kind.Result p → Activity p α}
    (goesOn : ∀ result, LoopAnswers run (.external kind request) (.ok result) →
      KeepsStep run onReturn (goOn result) (rest result)) :
    KeepsStep run onReturn (external kind request >>= goOn) (external kind request >>= rest) := by
  intro reply assumed
  refine ⟨_, .shared seen, ?_⟩
  cases reply with
  | ok result => exact goesOn result assumed
  | error exception => exact .inl rfl

/-! ## One execution -/

/-- An executed candidate whose setup did not fail. -/
def SetUpBoth (challenge : ChallengeResult) : Prop :=
  WasSetUp challenge.base ∧ WasSetUp challenge.head

theorem setUpBoth_of_challenge {artifact : TestArtifact} {base head : ExecutionResult}
    {challenge : ChallengeResult} (baseSetUp : WasSetUp base) (headSetUp : WasSetUp head)
    (classified :
      MechanicalEvidenceClassifier.challenge p.digest artifact base head = .ok challenge) :
    SetUpBoth challenge := by
  unfold MechanicalEvidenceClassifier.challenge at classified
  split at classified
  · cases classified
    exact ⟨baseSetUp, headSetUp⟩
  · cases classified

theorem candidateEnvironmentFailure_of_setUpBoth {challenge : ChallengeResult}
    (setUp : SetUpBoth challenge) : candidateEnvironmentFailure challenge = none := by
  rw [candidateEnvironmentFailure, if_neg setUp.1, if_neg setUp.2]

/-- The workflow marks the run between the executions; otherwise both execute alike. -/
theorem keepsStep_runChallenge {τ : Type} {workflow : EvidenceWorkflow p}
    {current : VerificationRun} (keeps : KeepsRevisions run current) {artifact : TestArtifact}
    {onBaseComplete : ExecutionResult → Activity p τ} {good : τ → Prop}
    (callback : ∀ base waiting, StepsAside run good waiting (onBaseComplete base))
    (goOn : ChallengeResult → Activity p (List TriedCandidate × Option ChallengeResult)) :
    KeepsStep run
      (fun benchmark result => benchmark = goOn result.1 ∧ SetUpBoth result.1 ∧ good result.2)
      (plainSession workflow run artifact >>= goOn)
      (runChallenge workflow current artifact onBaseComplete) := by
  cases kind : workflow.challenge with
  | worktrees =>
      have leader : plainSession workflow run artifact >>= goOn = (do
          let base ← PatchProof.external .executeArtifact (.base, artifact)
          let head ← PatchProof.external .executeArtifact (.head, artifact)
          let result ← attempt (MechanicalEvidenceClassifier.challenge p.digest artifact base head)
          goOn result) := by
        rw [plainSession_worktrees kind]
        simp only [worktreeSession, Program.bind_eq_bind, Program.bind_bind]
      rw [leader]
      unfold runChallenge
      rw [kind]
      apply KeepsStep.external rfl
      intro base baseSetUp
      apply (callback base _).next
      intro state held
      apply KeepsStep.external rfl
      intro head headSetUp
      cases classified : MechanicalEvidenceClassifier.challenge p.digest artifact base head with
      | ok result => exact ⟨rfl, setUpBoth_of_challenge baseSetUp headSetUp classified, held⟩
      | error exception => exact .inl rfl
  | executor =>
      have leader : plainSession workflow run artifact >>= goOn = (do
          let result ← PatchProof.external .challengeRemotely (run.baseSha, run.headSha, artifact)
          Program.demand (p.digest result.artifact.content = p.digest artifact.content)
            (.runtime "private executor returned a different artifact")
          goOn result) := by
        simp only [plainSession, runChallenge, kind, Program.bind_eq_bind, Program.bind_bind,
          Program.pure_eq_done, Program.bind]
      rw [leader]
      unfold runChallenge
      rw [kind]
      dsimp only
      rw [keeps.1, keeps.2]
      apply KeepsStep.external rfl
      intro result setUp
      apply asksOnly_demand.then fun _ => .inl rfl
      intro _
      apply (callback result.base _).next
      intro state held
      exact ⟨rfl, setUp, held⟩

/-! ## One round -/

section Round

variable {workflow : EvidenceWorkflow p} {runId : RunId} {task : CandidateTask p}
  {round : CandidateRound p} {tried : List TriedCandidate}

theorem keepsStep_abstain (same : Matches tried round) (last : Option ChallengeResult) :
    KeepsStep run EndsWith (.done (.ok (tried, last))) (abstain task round) := by
  unfold abstain
  split
  apply Program.Follows.mono (aside_conclude ⟨_, rfl⟩)
  · rintro _ report ⟨rfl, createdAt, built⟩
    exact ⟨tried, last, rfl, lists_of_abstentionReport same built⟩
  · exact fun _ _ raises => raises

/-- Once the benchmark has ended with a discriminating challenge, the workflow concludes. -/
theorem keepsStep_judgeChallenge {candidate : ValidatedCandidate} {challenge : ChallengeResult}
    (setUp : SetUpBoth challenge) (same : Matches tried round)
    (discriminating : challenge.assessment.mechanicalStatus = .discriminating)
    (last : Option ChallengeResult) :
    KeepsStep run (fun benchmark concluded => ∃ report, concluded = some report ∧
        EndsWith benchmark report) (.done (.ok (tried, last)))
      (judgeChallenge task round candidate challenge) := by
  unfold judgeChallenge
  rw [candidateEnvironmentFailure_of_setUpBoth setUp]
  dsimp only
  rw [if_pos discriminating]
  apply (aside_assessChallenge ⟨_, rfl⟩).next
  intro semanticResult _
  apply (aside_attempt ⟨_, rfl⟩).next
  intro _ _
  apply (aside_conclude ⟨_, rfl⟩).next
  rintro report ⟨createdAt, built⟩
  exact ⟨report, rfl, tried, last, rfl, lists_of_completedReport same built⟩

theorem judgeChallenge_of_ne {candidate : ValidatedCandidate} {challenge : ChallengeResult}
    (setUp : SetUpBoth challenge)
    (other : challenge.assessment.mechanicalStatus ≠ .discriminating) :
    judgeChallenge task round candidate challenge = pure none := by
  unfold judgeChallenge
  rw [candidateEnvironmentFailure_of_setUpBoth setUp]
  dsimp only
  rw [if_neg other]

/-- A round whose candidate has got this challenge. -/
structure Challenged (run : VerificationRun) (tried : List TriedCandidate)
    (before : CandidateRound p) (challenge : ChallengeResult) (after : CandidateRound p) :
    Prop where
  keeps : KeepsRevisions run after.run
  generator : after.generator = before.generator
  attempt : after.attempt = before.attempt
  challenged : after.challenge = some challenge
  same : Matches (tried ++ [(before.attempt, some challenge)]) after

/-- Where the benchmark is when the workflow has executed a candidate. -/
def IsJudged (run : VerificationRun) (tried : List TriedCandidate) (before : CandidateRound p)
    (goOn : ChallengeResult → Activity p (List TriedCandidate × Option ChallengeResult))
    (benchmark : Activity p (List TriedCandidate × Option ChallengeResult))
    (result : Option p.Report × CandidateRound p) : Prop :=
  (∃ report, result.1 = some report ∧ EndsWith benchmark report) ∨
    ∃ challenge, result.1 = none ∧
      challenge.assessment.mechanicalStatus ≠ .discriminating ∧ benchmark = goOn challenge ∧
      Challenged run tried before challenge result.2

theorem keepsStep_executeCandidate (keeps : KeepsRevisions run round.run)
    (same : Matches (tried ++ [(round.attempt, none)]) round) {candidate : ValidatedCandidate}
    {goOn : ChallengeResult → Activity p (List TriedCandidate × Option ChallengeResult)}
    (ends : ∀ challenge, challenge.assessment.mechanicalStatus = .discriminating →
      goOn challenge =
        .done (.ok (tried ++ [(round.attempt, some challenge)], some challenge))) :
    KeepsStep run (IsJudged run tried round goOn)
      (plainSession workflow run candidate.artifact >>= goOn)
      (executeCandidate workflow runId task round candidate) := by
  unfold executeCandidate
  refine aside_called.next fun _ _ => ?_
  refine aside_requireCurrent.next fun _ _ => ?_
  refine (aside_advanceForExecution keeps).next fun current keeps => ?_
  refine (keepsStep_runChallenge keeps
    (fun _ _ => aside_markHeadExecution keeps) goOn).bind fun _ result => ?_
  rintro ⟨rfl, setUp, keeps⟩
  obtain ⟨challenge, current⟩ := result
  refine aside_evaluation.next fun evaluation recorded => ?_
  have judging : ∀ {current : VerificationRun}, KeepsRevisions run current →
      KeepsStep run (IsJudged run tried round goOn) (goOn challenge) (do
        let round := { round with
          run := current
          evaluations := round.evaluations ++ [evaluation]
          challenge := some challenge }
        let report ← judgeChallenge task round candidate challenge
        return (report, round)) := by
    intro current keeps
    have after : Challenged run tried round challenge { round with
        run := current
        evaluations := round.evaluations ++ [evaluation]
        challenge := some challenge } := {
      keeps := keeps
      generator := rfl
      attempt := rfl
      challenged := rfl
      same := {
        attempts := by simpa using same.attempts
        evaluations := evaluationsEvidence_concat_some
          ((evaluationsEvidence_concat_none _).symm.trans same.evaluations) recorded } }
    by_cases discriminating : challenge.assessment.mechanicalStatus = .discriminating
    · rw [ends challenge discriminating]
      refine (keepsStep_judgeChallenge setUp after.same discriminating _).bind ?_
      rintro _ _ ⟨report, rfl, concluded⟩
      exact .inl ⟨report, rfl, concluded⟩
    · dsimp only
      rw [judgeChallenge_of_ne setUp discriminating]
      exact .inr ⟨challenge, rfl, discriminating, rfl, after⟩
  dsimp only
  split
  · exact judging keeps
  · exact aside_transition.next fun _ keeps => judging keeps

/-! ## All rounds -/

theorem matches_next {challenge : Option ChallengeResult} {next : CandidateAttempt}
    {generator : CandidateGenerator p} (same : Matches tried round) :
    Matches (tried ++ [(next, none)]) { round with
      generator := generator
      attempt := next
      attempts := round.attempts ++ [next]
      challenge := challenge } where
  attempts := by simp [same.attempts]
  evaluations := (evaluationsEvidence_concat_none next).trans same.evaluations

/-- The rounds that are left are tried in step. -/
def RoundsKeepStep (workflow : EvidenceWorkflow p) (runId : RunId) (task : CandidateTask p)
    (run : VerificationRun) (remaining : Nat) : Prop :=
  ∀ (round : CandidateRound p) (tried : List TriedCandidate), KeepsRevisions run round.run →
    round.challenge = none → Matches (tried ++ [(round.attempt, none)]) round →
    KeepsStep run EndsWith
      (candidateChallenges (plainSession workflow run) collect remaining round.generator
        round.attempt none tried)
      (tryCandidates workflow runId task remaining round)

/-- Both stop after the last repair, and both repair before it with the same feedback. -/
theorem keepsStep_repair {remaining : Nat}
    (rounds : 0 < remaining → RoundsKeepStep workflow runId task run remaining)
    (keeps : KeepsRevisions run round.run) (same : Matches tried round) :
    KeepsStep run EndsWith
      (if maxRepairs ≤ maxCandidateModelCalls - (remaining + 1) then
        pure (tried, round.challenge)
      else do
        let feedback ← attempt (repairFeedback p round.attempt round.challenge)
        let next ← round.generator.repair feedback
        candidateChallenges (plainSession workflow run) collect remaining next.2 next.1 none tried)
      (repairOrAbstain workflow runId task remaining round) := by
  unfold repairOrAbstain
  split
  · exact keepsStep_abstain same _
  · rename_i repairs
    have left : 0 < remaining := by
      rw [maxRepairs, maxCandidateModelCalls] at repairs
      omega
    apply (asksOnly_attempt _).then fun _ => .inl rfl
    intro feedback
    apply (asksOnly_repair _ _).then fun _ => .inl rfl
    rintro ⟨next, generator⟩
    exact rounds left { round with
      generator := generator
      attempt := next
      attempts := round.attempts ++ [next]
      challenge := none } _ keeps rfl (matches_next same)

/-- What the benchmark does after it has yielded a candidate. -/
def afterYield (workflow : EvidenceWorkflow p) (run : VerificationRun) (remaining : Nat)
    (generator : CandidateGenerator p) (candidate : CandidateAttempt)
    (challenge : Option ChallengeResult) (tried : List TriedCandidate) :
    Activity p (List TriedCandidate × Option ChallengeResult) :=
  if isDiscriminating challenge then return (tried, challenge)
  else if maxRepairs ≤ maxCandidateModelCalls - (remaining + 1) then return (tried, challenge)
  else do
    let feedback ← attempt (repairFeedback p candidate challenge)
    let (next, generator) ← generator.repair feedback
    candidateChallenges (plainSession workflow run) collect remaining generator next none tried

theorem candidateChallenges_succ (remaining : Nat) (generator : CandidateGenerator p)
    (candidate : CandidateAttempt) (challenge : Option ChallengeResult) :
    candidateChallenges (plainSession workflow run) collect (remaining + 1) generator candidate
        challenge tried =
      challengeOf (plainSession workflow run) candidate challenge >>= fun challenge =>
        afterYield workflow run remaining generator candidate challenge
          (tried ++ [(candidate, challenge)]) := rfl

theorem keepsStep_tryCandidates {remaining : Nat} (left : 0 < remaining) :
    RoundsKeepStep workflow runId task run remaining := by
  induction remaining with
  | zero => exact absurd left (Nat.lt_irrefl 0)
  | succ remaining ih =>
      intro round tried keeps fresh same
      rw [candidateChallenges_succ]
      unfold challengeOf
      cases isValidated : round.attempt.validated with
      | none =>
          rw [tryCandidates_of_none isValidated]
          obtain ⟨current, generator, candidate, attempts, evaluations, challenge⟩ := round
          subst fresh
          exact keepsStep_repair ih keeps same
      | some validated =>
          rw [tryCandidates_of_some isValidated]
          dsimp only
          rw [Program.bind_eq_bind, Program.bind_eq_bind, Program.bind_bind]
          refine (keepsStep_executeCandidate keeps same ?_).bind ?_
          · intro challenge discriminating
            simp [afterYield, isDiscriminating, discriminating, Program.bind]
          · rintro _ ⟨report, after⟩ (⟨report, rfl, concluded⟩ | ⟨challenge, rfl, other, rfl, is⟩)
            · exact concluded
            · obtain ⟨current, generator, candidate, attempts, evaluations, challenged⟩ := after
              obtain ⟨keeps, rfl, rfl, rfl, same⟩ := is
              have stays : afterYield workflow run remaining round.generator round.attempt
                  (some challenge) (tried ++ [(round.attempt, some challenge)]) = _ :=
                if_neg (by simp [isDiscriminating, other])
              change KeepsStep run EndsWith (afterYield workflow run remaining round.generator
                round.attempt (some challenge) (tried ++ [(round.attempt, some challenge)])) _
              rw [stays]
              exact keepsStep_repair ih keeps same

end Round

end KeepsStep

/-! ## The loops as a whole -/

end PatchProof
