import PatchProof.Library.CallCounts
import PatchProof.Protocol.Semantic

/-!
# What a run may cost

A run may be taken up by any number of workers, and what it costs is bounded all the same.
A worker selects the claim once, asks the candidate model three times and the assessor once,
each of these at most twice because of the retry, and has three candidates executed
(`execute_spends`).  Only the one worker that moves the run to its claim phase asks the claim
model, the investigator and the candidate model, so their bounds are bounds of the run
(`run_model_calls_bounded`).
-/

set_option autoImplicit false

namespace PatchProof

variable {p : Platform}

/-! ## Counting calls of some kinds -/

/-- A call to the surroundings of a kind that is counted. -/
def ServiceCall.isAmong (counted : ExternalKind → Bool) : ServiceCall p → Bool
  | .store _ => false
  | .external kind _ => counted kind

/-- The calls that models and executors are paid for. -/
def ExternalKind.isCostly : ExternalKind → Bool
  | .selectClaim | .investigate | .invokeCandidateModel | .assess | .executeArtifact
  | .challengeRemotely => true
  | _ => false

section Spending

variable {counted : ExternalKind → Bool} {α β : Type} {limit left : Nat}

/-- What one call of a kind costs. -/
def ExternalKind.price (counted : ExternalKind → Bool) (kind : ExternalKind) : Nat :=
  if counted kind then 1 else 0

/-- Starting with so many counted calls, the routine leaves so many when it returns. -/
abbrev Spends (counted : ExternalKind → Bool) (limit left : Nat) (activity : Activity p α) : Prop :=
  activity.Affords (ServiceCall.isAmong counted) (fun _ => left) (fun _ => 0) limit

theorem Spends.bind {between : Nat} {activity : Activity p α} {rest : α → Activity p β}
    (first : Spends counted limit between activity)
    (second : ∀ value, Spends counted between left (rest value)) :
    Spends counted limit left (activity >>= rest) :=
  Program.Affords.bind first second

/-- A routine may be given more than it needs. -/
theorem Spends.within {most : Nat} {activity : Activity p α}
    (spends : Spends counted limit left activity) (below : limit ≤ most) :
    Spends counted most left activity :=
  Program.Affords.mono spends below

theorem Spends.catching {activity : Activity p α} {handler : RaisedException → Activity p α}
    (body : Spends counted limit left activity)
    (handles : ∀ exception, Spends counted 0 left (handler exception)) :
    Spends counted limit left (activity.catching handler) :=
  Program.Affords.catching body handles

theorem spends_return {value : α} : Spends counted left left (pure value : Activity p α) :=
  Nat.le_refl left

theorem spends_raise {exception : RaisedException} :
    Spends counted limit left (Program.raise exception : Activity p α) := Nat.zero_le _

theorem spends_attempt {outcome : Except RaisedException α} :
    Spends counted left left (attempt outcome : Activity p α) := by
  cases outcome with
  | ok value => exact spends_return
  | error exception => exact spends_raise

theorem spends_demand {condition : Prop} {_ : Decidable condition} {exception : RaisedException} :
    Spends counted left left (Program.demand condition exception : Activity p Unit) :=
  Program.affords_demand (Nat.zero_le _)

theorem spends_perform {call : StoreCall p.Document} :
    Spends counted left left (perform call) := by
  intro reply _
  refine ⟨left, .free rfl, ?_⟩
  cases reply with
  | ok result => exact Nat.le_refl left
  | error exception => exact Nat.zero_le left

/-- One call costs its price, whether it returns or raises. -/
theorem spends_external {kind : ExternalKind} {request : kind.Request p} :
    (external kind request).Affords (ServiceCall.isAmong counted) (fun _ => left) (fun _ => left)
      (left + kind.price counted) := by
  intro reply _
  unfold ExternalKind.price
  cases isCounted : counted kind with
  | true =>
      refine ⟨left, .paid isCounted, ?_⟩
      cases reply <;> exact Nat.le_refl left
  | false =>
      refine ⟨left, .free isCounted, ?_⟩
      cases reply <;> exact Nat.le_refl left

theorem Spends.external {kind : ExternalKind} {request : kind.Request p} :
    Spends counted (left + kind.price counted) left (external kind request) :=
  Program.Follows.mono spends_external (fun _ _ enough => enough) fun _ _ _ => Nat.zero_le _

/-- A call of a kind that is not counted costs nothing. -/
theorem spends_other {kind : ExternalKind} {request : kind.Request p}
    (free : counted kind = false) : Spends counted left left (PatchProof.external kind request) := by
  have spends := @Spends.external p counted left kind request
  rw [ExternalKind.price, free] at spends
  exact spends

/-- **A call that is retried costs twice its price at most.** -/
theorem spends_boundedRetry {kind : ExternalKind} {request : kind.Request p}
    {account : (attempts : Nat) → 1 ≤ attempts ∧ attempts ≤ 2 → kind.Result p → kind.Result p} :
    Spends counted (left + 2 * kind.price counted) left
      (boundedRetry (PatchProof.external kind request) account) := by
  have enough : left + 2 * kind.price counted = left + kind.price counted + kind.price counted := by
    omega
  rw [enough]
  refine Program.Affords.catching (spends_external.bind fun _ => Nat.le_add_right _ _)
    fun exception => ?_
  split
  · exact Spends.external.bind fun _ => spends_return
  · exact spends_raise

end Spending

/-! ## The parts of the workflow -/

section Workflow

variable {counted : ExternalKind → Bool} {left : Nat} {workflow : EvidenceWorkflow p}
  {runId : RunId}

theorem spends_transition {run : VerificationRun} {requested : RunTransition} :
    Spends counted left left (transition run requested : Activity p VerificationRun) :=
  @spends_perform p counted left (.transitionRun run.runId run.version requested)

/-- A kind that is not costly is not counted. -/
theorem free_of_plain (costly : ∀ kind, counted kind = true → kind.isCostly = true)
    {kind : ExternalKind} (plain : kind.isCostly = false) : counted kind = false :=
  Bool.eq_false_iff.mpr fun isCounted => by
    rw [costly kind isCounted] at plain
    cases plain

theorem spends_conclude (costly : ∀ kind, counted kind = true → kind.isCostly = true)
    {run : VerificationRun} {build : Int → Except RaisedException p.Report} :
    Spends counted left left (conclude run build) := by
  refine (spends_other (free_of_plain costly rfl)).bind fun createdAt => ?_
  refine spends_attempt.bind fun report => ?_
  refine Spends.bind ?_ fun _ => spends_return
  exact spends_perform.bind fun stored => spends_perform.bind fun latest =>
    spends_transition.bind fun _ => spends_return

/-- The price of having one candidate executed. -/
def executionPrice (counted : ExternalKind → Bool) : Nat :=
  max (2 * ExternalKind.executeArtifact.price counted)
    (ExternalKind.challengeRemotely.price counted)

theorem spends_runChallenge {τ : Type} {run : VerificationRun} {artifact : TestArtifact}
    {onBaseComplete : ExecutionResult → Activity p τ}
    (callback : ∀ base {left}, Spends counted left left (onBaseComplete base)) :
    Spends counted (left + executionPrice counted) left
      (runChallenge workflow run artifact onBaseComplete) := by
  unfold runChallenge
  cases workflow.challenge with
  | worktrees =>
      have enough : left + ExternalKind.executeArtifact.price counted +
          ExternalKind.executeArtifact.price counted ≤ left + executionPrice counted := by
        have most := Nat.le_max_left (2 * ExternalKind.executeArtifact.price counted)
          (ExternalKind.challengeRemotely.price counted)
        unfold executionPrice
        omega
      refine Spends.within ?_ enough
      refine Spends.external.bind fun base => ?_
      refine (callback base).bind fun state => ?_
      refine Spends.external.bind fun head => ?_
      exact spends_attempt.bind fun result => spends_return
  | executor =>
      have enough : left + ExternalKind.challengeRemotely.price counted ≤
          left + executionPrice counted := Nat.add_le_add_left (Nat.le_max_right _ _) left
      refine Spends.within ?_ enough
      refine Spends.external.bind fun result => ?_
      refine spends_demand.bind fun _ => ?_
      exact (callback result.base).bind fun _ => spends_return

theorem spends_markHeadExecution {run : VerificationRun} :
    Spends counted left left (markHeadExecution runId run : Activity p VerificationRun) := by
  refine spends_perform.bind fun latest => ?_
  refine spends_demand.bind fun _ => ?_
  split
  · exact spends_transition
  · exact spends_return

theorem spends_invoke {generator : CandidateGenerator p} {origin : CandidateOrigin}
    {feedback : Option CandidateFeedback} :
    Spends counted (left + 2 * ExternalKind.invokeCandidateModel.price counted) left
      (generator.invoke origin feedback) := by
  refine spends_demand.bind fun _ => ?_
  refine spends_demand.bind fun _ => ?_
  refine spends_boundedRetry.bind fun response => ?_
  exact spends_attempt.bind fun judgement => spends_return

variable {task : CandidateTask p} {round : CandidateRound p}

theorem spends_assessChallenge {claim : BehavioralClaim} {source : String}
    {challenge : ChallengeResult} :
    Spends counted (left + 2 * ExternalKind.assess.price counted) left
      (assessChallenge claim source challenge : Activity p SemanticAssessmentResult) := by
  unfold assessChallenge
  exact @spends_boundedRetry p counted left .assess (claim, source, challenge) _

/-- What is left when a candidate was looked at: enough for an assessment unless the run is
concluded. -/
def leftAfter (counted : ExternalKind → Bool) (left : Nat) (report : Option p.Report) : Nat :=
  if report.isSome then 0 else left + 2 * ExternalKind.assess.price counted

/-- A challenge is assessed only to conclude the run. -/
theorem spends_judgeChallenge (costly : ∀ kind, counted kind = true → kind.isCostly = true)
    {candidate : ValidatedCandidate} {challenge : ChallengeResult} :
    (judgeChallenge task round candidate challenge).Affords (ServiceCall.isAmong counted)
      (leftAfter counted left) (fun _ => 0) (left + 2 * ExternalKind.assess.price counted) := by
  unfold judgeChallenge
  cases candidateEnvironmentFailure challenge with
  | some failure =>
      dsimp only
      generalize EnvironmentReadinessEvidence.fromDomain failure = readiness
      refine Program.Affords.bind spends_attempt fun readiness => ?_
      exact Program.Affords.bind (spends_conclude costly) fun report => Nat.zero_le _
  | none =>
      dsimp only
      split
      · have assessing := @spends_assessChallenge p counted left task.claim
          candidate.proposal.source.text challenge
        refine Program.Affords.bind assessing fun semanticResult => ?_
        refine Program.Affords.bind spends_attempt fun _ => ?_
        exact Program.Affords.bind (spends_conclude costly) fun report => Nat.zero_le _
      · exact Nat.le_refl _

theorem spends_executeCandidate (costly : ∀ kind, counted kind = true → kind.isCostly = true)
    {candidate : ValidatedCandidate} :
    (executeCandidate workflow runId task round candidate).Affords (ServiceCall.isAmong counted)
      (fun executed => leftAfter counted left executed.1) (fun _ => 0)
      (left + 2 * ExternalKind.assess.price counted + executionPrice counted) := by
  have judging : ∀ (round : CandidateRound p) (challenge : ChallengeResult),
      (do
        let report ← judgeChallenge task round candidate challenge
        return (report, round) : Activity p (Option p.Report × CandidateRound p)).Affords
        (ServiceCall.isAmong counted) (fun executed => leftAfter counted left executed.1)
        (fun _ => 0) (left + 2 * ExternalKind.assess.price counted) := fun round challenge =>
    Program.Affords.bind (spends_judgeChallenge costly) fun report => Nat.le_refl _
  refine Program.Affords.bind spends_perform fun latest => ?_
  refine Program.Affords.bind spends_demand fun _ => ?_
  have advancing : Spends counted
      (left + 2 * ExternalKind.assess.price counted + executionPrice counted)
      (left + 2 * ExternalKind.assess.price counted + executionPrice counted)
      (advanceForExecution round.run : Activity p VerificationRun) := by
    unfold advanceForExecution
    split
    · exact spends_transition
    · exact spends_return
  refine Program.Affords.bind advancing fun run => ?_
  refine Program.Affords.bind (spends_runChallenge fun _ {_} => spends_markHeadExecution)
    fun result => ?_
  refine Program.Affords.bind spends_attempt fun evaluation => ?_
  dsimp only
  split
  · exact judging _ _
  · exact Program.Affords.bind spends_transition fun run => judging _ _

theorem spends_abstain (costly : ∀ kind, counted kind = true → kind.isCostly = true) :
    Spends counted left left (abstain task round) := by
  unfold abstain
  split
  exact spends_conclude costly

/-- What one more candidate costs: a model call with its retry, and an execution. -/
def candidatePrice (counted : ExternalKind → Bool) : Nat :=
  2 * ExternalKind.invokeCandidateModel.price counted + executionPrice counted

/-- One round costs an execution on top of what follows it, with the assessment that only a
concluding round has made. -/
theorem spends_round (costly : ∀ kind, counted kind = true → kind.isCostly = true)
    {remaining : Nat}
    (more : ∀ round : CandidateRound p,
      Spends counted (left + 2 * ExternalKind.assess.price counted) 0
        (repairOrAbstain workflow runId task remaining round)) :
    Spends counted
      (left + 2 * ExternalKind.assess.price counted + executionPrice counted) 0
      (tryCandidates workflow runId task (remaining + 1) round) := by
  cases isValidated : round.attempt.validated with
  | none =>
      rw [tryCandidates_of_none isValidated]
      exact (more round).within (Nat.le_add_right _ _)
  | some candidate =>
      rw [tryCandidates_of_some isValidated]
      refine Program.Affords.bind (spends_executeCandidate costly) fun executed => ?_
      obtain ⟨report, after⟩ := executed
      cases report with
      | some report => exact Nat.zero_le _
      | none => exact more after

/-- The loop costs an execution now, one more candidate for each repair that is left, and an
assessment at its end. -/
theorem spends_tryCandidates (costly : ∀ kind, counted kind = true → kind.isCostly = true)
    (remaining : Nat) :
    Spends counted
      (remaining * candidatePrice counted + 2 * ExternalKind.assess.price counted +
        executionPrice counted) 0
      (tryCandidates workflow runId task (remaining + 1) round) := by
  induction remaining generalizing round with
  | zero =>
      have more : ∀ round : CandidateRound p, Spends counted
          (0 * candidatePrice counted + 2 * ExternalKind.assess.price counted) 0
          (repairOrAbstain workflow runId task 0 round) := by
        intro round
        have last : maxRepairs ≤ maxCandidateModelCalls - (0 + 1) := by decide
        unfold repairOrAbstain
        rw [if_pos last]
        exact (spends_abstain costly).within (Nat.zero_le _)
      exact spends_round costly more
  | succ remaining ih =>
      refine spends_round costly fun round => ?_
      unfold repairOrAbstain
      split
      · exact (spends_abstain costly).within (Nat.zero_le _)
      · have enough : (remaining + 1) * candidatePrice counted +
            2 * ExternalKind.assess.price counted =
            remaining * candidatePrice counted + 2 * ExternalKind.assess.price counted +
              executionPrice counted + 2 * ExternalKind.invokeCandidateModel.price counted := by
          rw [Nat.succ_mul]
          unfold candidatePrice
          omega
        rw [enough]
        refine spends_attempt.bind fun feedback => ?_
        have repairing : Spends counted
            (remaining * candidatePrice counted + 2 * ExternalKind.assess.price counted +
              executionPrice counted + 2 * ExternalKind.invokeCandidateModel.price counted)
            (remaining * candidatePrice counted + 2 * ExternalKind.assess.price counted +
              executionPrice counted) (round.generator.repair feedback) :=
          spends_demand.bind fun _ => spends_demand.bind fun _ => spends_invoke
        exact repairing.bind fun next => ih

/-- What a worker pays at most: the claim, three candidates, and an assessment. -/
def bill (counted : ExternalKind → Bool) : Nat :=
  3 * candidatePrice counted + 2 * ExternalKind.assess.price counted +
    max (ExternalKind.selectClaim.price counted) (ExternalKind.investigate.price counted)

/-- What is paid for the candidates. -/
def candidatesBill (counted : ExternalKind → Bool) : Nat :=
  3 * candidatePrice counted + 2 * ExternalKind.assess.price counted

theorem spends_pursueClaim (costly : ∀ kind, counted kind = true → kind.isCostly = true)
    {run : VerificationRun} {context : p.Context} {contract : p.Contract}
    {existingPaths : List String} {claim : BehavioralClaim} {claimResult : ClaimAgentResult}
    {transcript : Option p.Transcript} :
    Spends counted (candidatesBill counted) 0 (pursueClaim workflow runId run context contract
      existingPaths claim claimResult transcript) := by
  refine (spends_other (free_of_plain costly rfl)).bind fun environmentReadiness => ?_
  generalize EnvironmentReadinessEvidence.fromDomain environmentReadiness = readiness
  refine spends_attempt.bind fun readiness => ?_
  split
  · refine spends_transition.bind fun run => ?_
    refine (spends_other (free_of_plain costly rfl)).bind fun signatures => ?_
    have roots : Spends counted (candidatesBill counted) (candidatesBill counted)
        (installedImportRoots workflow) := by
      unfold installedImportRoots
      cases workflow.challenge with
      | executor => exact spends_return
      | worktrees => exact spends_other (free_of_plain costly rfl)
    refine roots.bind fun roots => ?_
    have enough : candidatesBill counted = 2 * candidatePrice counted +
        2 * ExternalKind.assess.price counted + executionPrice counted +
        2 * ExternalKind.invokeCandidateModel.price counted := by
      unfold candidatesBill candidatePrice
      omega
    rw [enough]
    have generating : ∀ generator : CandidateGenerator p, Spends counted
        (2 * candidatePrice counted + 2 * ExternalKind.assess.price counted +
          executionPrice counted + 2 * ExternalKind.invokeCandidateModel.price counted)
        (2 * candidatePrice counted + 2 * ExternalKind.assess.price counted +
          executionPrice counted) generator.generateInitial :=
      fun generator => spends_demand.bind fun _ => spends_invoke
    exact (generating _).bind fun first => spends_tryCandidates costly 2
  · exact (spends_conclude costly).within (Nat.zero_le _)

theorem spends_withSession {α : Type} {limit : Nat}
    (costly : ∀ kind, counted kind = true → kind.isCostly = true) {run : VerificationRun}
    {body : Activity p α} (works : Spends counted limit 0 body) :
    Spends counted limit 0 (withSession workflow run body) := by
  unfold withSession
  cases workflow.challenge with
  | executor => exact works
  | worktrees =>
      refine (spends_other (free_of_plain costly rfl)).bind fun _ => ?_
      have leaving : Spends counted 0 0 (external .leaveSession () : Activity p Unit) :=
        spends_other (free_of_plain costly rfl)
      refine Spends.bind (works.catching fun exception => ?_) fun value => ?_
      · exact leaving.bind fun _ => spends_raise
      · exact leaving.bind fun _ => spends_return

theorem spends_lead (costly : ∀ kind, counted kind = true → kind.isCostly = true)
    {run : VerificationRun} {context : p.Context} {contract : p.Contract}
    {existingPaths : List String} :
    Spends counted (bill counted) 0 (lead workflow runId run context contract existingPaths) := by
  have selecting : Spends counted (bill counted) (candidatesBill counted)
      (selectClaim workflow run context) := by
    unfold selectClaim
    dsimp only
    split
    · have enough : candidatesBill counted + ExternalKind.investigate.price counted ≤
          bill counted := Nat.add_le_add_left (Nat.le_max_right _ _) _
      exact (Spends.external.bind fun _ => spends_return).within enough
    · have enough : candidatesBill counted + ExternalKind.selectClaim.price counted ≤
          bill counted := Nat.add_le_add_left (Nat.le_max_left _ _) _
      exact (Spends.external.bind fun _ => spends_return).within enough
  refine selecting.bind fun selected => ?_
  dsimp only
  cases selected.1.selection.claim with
  | none => exact (spends_conclude costly).within (Nat.zero_le _)
  | some claim => exact spends_withSession costly (spends_pursueClaim costly)

theorem spends_compute (costly : ∀ kind, counted kind = true → kind.isCostly = true) :
    Spends counted (bill counted) 0 (compute workflow runId) := by
  refine spends_perform.bind fun run => ?_
  refine spends_demand.bind fun _ => ?_
  refine spends_demand.bind fun _ => ?_
  have admitting : Spends counted (bill counted) (bill counted) (admitContract workflow run) := by
    refine (spends_other (free_of_plain costly rfl)).bind fun _ => ?_
    refine spends_attempt.bind fun _ => ?_
    refine (spends_other (free_of_plain costly rfl)).bind fun _ => ?_
    refine spends_attempt.bind fun _ => ?_
    refine spends_demand.bind fun _ => ?_
    refine spends_demand.bind fun _ => ?_
    exact spends_demand.bind fun _ => spends_return
  refine admitting.bind fun contract => ?_
  refine (spends_other (free_of_plain costly rfl)).bind fun existingPaths => ?_
  have running : ∀ run : VerificationRun, Spends counted (bill counted) (bill counted)
      (if run.lifecycle = .queued then transition run { lifecycle := some .running }
        else return run : Activity p VerificationRun) := by
    intro run
    split
    · exact spends_transition
    · exact spends_return
  have starting : Spends counted (bill counted) (bill counted)
      (start run : Activity p VerificationRun) := by
    unfold start
    dsimp only
    split
    · exact spends_transition.bind running
    · exact running run
  refine starting.bind fun run => ?_
  refine (spends_other (free_of_plain costly rfl)).bind fun context => ?_
  exact spends_transition.bind fun run => spends_lead costly

/-- **One worker pays its bill at most.** -/
theorem execute_spends (costly : ∀ kind, counted kind = true → kind.isCostly = true) :
    Spends counted (bill counted) 0 (execute workflow runId) := by
  refine spends_perform.bind fun prior => ?_
  cases prior with
  | none => exact spends_compute costly
  | some prior =>
      refine Spends.within ?_ (Nat.zero_le _)
      refine spends_attempt.bind fun report => ?_
      refine spends_perform.bind fun durableRun => ?_
      split
      · refine Spends.bind ?_ fun _ => spends_return
        exact spends_perform.bind fun stored => spends_perform.bind fun latest =>
          spends_transition.bind fun _ => spends_return
      · exact spends_return

end Workflow

/-! ## Any number of workers -/

section Runs

variable {ι : Type} {counted : ExternalKind → Bool}

/-- A party pays no more than a worker's bill. -/
theorem RunParty.routine_spends (costly : ∀ kind, counted kind = true → kind.isCostly = true)
    (party : RunParty p) (runId : RunId) :
    Spends counted (bill counted) 0 (party.routine runId) := by
  have recording : ∀ exception : RaisedException,
      Spends counted 0 0 (recordFailure runId exception : Activity p Unit) := by
    intro exception
    refine spends_perform.bind fun run => ?_
    split
    · exact spends_perform.bind fun _ => spends_return
    · exact spends_return
  cases party with
  | execute workflow => exact (execute_spends costly).bind fun _ => spends_return
  | work workflow =>
      refine Spends.bind ((execute_spends costly).catching fun exception => ?_)
        fun _ => spends_return
      exact (recording exception).bind fun _ => spends_raise
  | fail errorCode summary retryable modelUsage rawResponseSha256 =>
      exact (spends_perform.bind fun _ => spends_return).within (Nat.zero_le _)
  | accept event => exact (spends_perform.bind fun _ => spends_return).within (Nat.zero_le _)

/-- What the history of a run shows about its semantic phase. -/
theorem partiesPool_semantic [DecidableEq ι] (parties : ι → RunParty p) (runId : RunId)
    (store : SqliteStore p.Document) (schedule : List (ι × Moment p)) :
    ∃ roles, SemanticPhase runId ((partiesPool parties runId store).run (service p) schedule).shared
      ((partiesPool parties runId store).run (service p) schedule).history roles := by
  have started : Pool.Accounted (fun _ => partyProtocol p runId) (fun _ _ _ => True)
      (fun _ _ _ => True) (SemanticPhase runId) (partiesPool parties runId store)
      fun who => (parties who).start := by
    refine ⟨fun who => (parties who).routine_follows runId, ⟨?_, ?_, ?_, ?_⟩⟩
    · exact fun event absurdity => absurd absurdity List.not_mem_nil
    · exact fun event absurdity => absurd absurdity List.not_mem_nil
    · intro who leading
      cases party : parties who <;> simp [party, RunParty.start] at leading
    · exact fun event absurdity => absurd absurdity List.not_mem_nil
  obtain ⟨roles, accounted⟩ := Pool.run_invariant started (semanticPhase_keeps runId) schedule
    (Pool.along_of_always (fun _ _ _ _ => trivial) _ _)
  exact ⟨roles, accounted.holds⟩

/-- All calls of the semantic phase are of one party. -/
theorem SemanticPhase.one_invokes {runId : RunId} {store : SqliteStore p.Document}
    {history : List (PoolEvent ι (ServiceCall.Reply p))} {roles : ι → WorkerRole p}
    (phase : SemanticPhase runId store history roles)
    (semantic : ∀ kind, counted kind = true → kind.isSemantic = true) :
    ∀ first ∈ history, ∀ second ∈ history, ServiceCall.isAmong counted first.call = true →
      ServiceCall.isAmong counted second.call = true → first.who = second.who := by
  have invokes : ∀ event : PoolEvent ι (ServiceCall.Reply p),
      ServiceCall.isAmong counted event.call = true → InvokesModel event := by
    rintro ⟨who, call, reply⟩ isCounted
    cases call with
    | store call => cases isCounted
    | external kind request => exact ⟨who, kind, request, reply, semantic kind isCounted, rfl⟩
  intro first inFirst second inSecond isCounted also
  obtain ⟨claim, inHistory, isFirst, claims⟩ := phase.invoked first inFirst (invokes _ isCounted)
  obtain ⟨other, alsoInHistory, isSecond, alsoClaims⟩ :=
    phase.invoked second inSecond (invokes _ also)
  exact isFirst.symm.trans
    ((phase.once claim inHistory other alsoInHistory claims alsoClaims).trans isSecond)

/-- The two ways of coming to a claim. -/
def ExternalKind.findsClaim : ExternalKind → Bool
  | .selectClaim | .investigate => true
  | _ => false

/-- **What a run costs is bounded, however many workers take it up.**  Over every schedule of
workers about a run, of failures recorded and of events accepted: the claim is looked for
once at most, and the candidate model is asked six times at most; a single worker asks the
assessor twice at most, and has the executor run three challenges or the local runner six
executions at most. -/
theorem run_model_calls_bounded [DecidableEq ι] (parties : ι → RunParty p) (runId : RunId)
    (store : SqliteStore p.Document) (schedule : List (ι × Moment p)) :
    let history := ((partiesPool parties runId store).run (service p) schedule).history
    (history.countP fun event => ServiceCall.isAmong ExternalKind.findsClaim event.call) ≤ 1 ∧
    (history.countP fun event => ServiceCall.isAmong (· = .invokeCandidateModel) event.call) ≤ 6 ∧
    ∀ who, Pool.spentBy (ServiceCall.isAmong (· = .assess)) history who ≤ 2 ∧
      Pool.spentBy (ServiceCall.isAmong (· = .challengeRemotely)) history who ≤ 3 ∧
      Pool.spentBy (ServiceCall.isAmong (· = .executeArtifact)) history who ≤ 6 := by
  intro history
  have paid : ∀ {counted : ExternalKind → Bool},
      (∀ kind, counted kind = true → kind.isCostly = true) → ∀ who,
        Pool.spentBy (ServiceCall.isAmong counted) history who ≤ bill counted := by
    intro counted costly who
    have each : ∀ who, Spends counted (bill counted) 0
        ((partiesPool parties runId store).threads who) :=
      fun who => (parties who).routine_spends costly runId
    exact Pool.spentBy_run_le each rfl schedule who
  obtain ⟨roles, phase⟩ := partiesPool_semantic parties runId store schedule
  have single : ∀ {one : ExternalKind} {holds : ExternalKind → Bool}, holds one = true →
      ∀ kind, decide (kind = one) = true → holds kind = true :=
    fun holdsOne kind is => (of_decide_eq_true is).symm ▸ holdsOne
  refine ⟨?_, ?_, fun who => ⟨?_, ?_, ?_⟩⟩
  · refine Pool.countP_le_of_one (phase.one_invokes ?_) (paid ?_)
    · intro kind finds
      cases kind <;> first | rfl | cases finds
    · intro kind finds
      cases kind <;> first | rfl | cases finds
  · exact Pool.countP_le_of_one (phase.one_invokes (single rfl)) (paid (single rfl))
  · exact paid (single rfl) who
  · exact paid (single rfl) who
  · exact paid (single rfl) who

end Runs

end PatchProof
