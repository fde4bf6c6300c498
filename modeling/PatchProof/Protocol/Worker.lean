import PatchProof.Protocol.View
import PatchProof.Worker.Execute

/-!
# What a worker may ask

The calls of a worker as moves of a role.  A worker that has entered reads its run,
prepares it, and calls Git; it asks a model only once it leads, which it does when
the run has moved to the claim phase for it; and it completes the run only with the
report whose evidence it has saved.

`runReliably_follows` goes through the workflow once.  What is said about workers
elsewhere is said about these moves.
-/

set_option autoImplicit false

namespace PatchProof

variable {p : Platform}

/-! ## Moves -/

/-- Where a worker stands.  It is dismissed when a stored result needs nothing more,
refused when a run whose evidence it saved could not be completed, unreleased when the
worktrees of a completed run could not be released, and failing once it has raised. -/
inductive WorkerRole (p : Platform) where
  | entered
  | leading
  | dismissed
  | saved (report : p.Report)
  | ready (report : p.Report) (run : VerificationRun)
  | refused
  | completed (report : p.Report)
  | unreleased (report : p.Report) (exception : SurroundingException)
  | failing

namespace WorkerRole

/-- A worker that has still to come to a result. -/
inductive Busy : WorkerRole p → Prop
  | entered : Busy .entered
  | leading : Busy .leading

/-- A worker that has not completed its run. -/
inductive Open : WorkerRole p → Prop
  | entered : Open .entered
  | leading : Open .leading
  | dismissed : Open .dismissed
  | refused : Open .refused

theorem Busy.isOpen {role : WorkerRole p} (busy : role.Busy) : role.Open := by
  cases busy with
  | entered => exact .entered
  | leading => exact .leading

/-- The role after the worktrees were asked to be released. -/
def released : WorkerRole p → Except SurroundingException Unit → WorkerRole p
  | .completed report, .error exception => .unreleased report exception
  | role, _ => role

theorem Open.released {role : WorkerRole p} (isOpen : role.Open)
    (reply : Except SurroundingException Unit) : role.released reply = role := by
  cases isOpen <;> rfl

/-- Where a worker stands that raises; only worktrees are released. -/
inductive Raises : WorkerRole p → ChallengeKind → RaisedException → Prop
  | unfinished {role challenge exception} (isOpen : role.Open) : Raises role challenge exception
  | unreleased {report exception} :
      Raises (.unreleased report exception) .worktrees (.surrounding exception)

/-- Where a worker stands that returns a report. -/
inductive Returns : WorkerRole p → p.Report → Prop
  | completed {report} : Returns (.completed report) report
  | dismissed {report} : Returns .dismissed report

/-- Where a worker stands that has judged a candidate. -/
inductive Judged : WorkerRole p → Option p.Report → Prop
  | completed {report} : Judged (.completed report) (some report)
  | leading : Judged .leading none

end WorkerRole

/-- The calls to GitHub by which a Check is published. -/
def ExternalKind.asksGithub : ExternalKind → Bool
  | .installationToken | .listCheckRuns | .updateCheckRun | .createCheckRun => true
  | _ => false

/-- The calls to the surroundings that say nothing about the worker. -/
def ExternalKind.isPlain : ExternalKind → Bool
  | .selectClaim | .investigate | .invokeCandidateModel | .leaveSession => false
  | kind => !kind.asksGithub

/-- The calls to the surroundings that a worker may make while it leads. -/
def ExternalKind.isConsulted : ExternalKind → Bool
  | .leaveSession => false
  | kind => !kind.asksGithub

/-- A transition that moves a run on without ending it or starting its claim. -/
structure RunTransition.Prepares (transition : RunTransition) : Prop where
  lifecycle : transition.lifecycle ≠ some .terminal
  phase : ∀ phase, transition.phase = some phase → phaseOrder .claim < phaseOrder phase
  terminalReason : transition.terminalReason = none
  mechanicalEvidenceStatus : transition.mechanicalEvidenceStatus = none
  claimOutcome : transition.claimOutcome = none
  publicationState : transition.publicationState = none

/-- The transition to the claim phase. -/
def RunTransition.claiming : RunTransition :=
  { phase := some .claim, requireChange := RunTransition.phase_changes .claim }

/-- The moves of a worker for one run. -/
inductive WorkerMove (runId : RunId) :
    WorkerRole p → (call : ServiceCall p) → ServiceCall.Reply p call → WorkerRole p → Prop
  | reads {role reply} (busy : role.Busy) : WorkerMove runId role (.store (.getRun runId)) reply role
  | recalls {role challenge exception reply} (raises : role.Raises challenge exception) :
      WorkerMove runId role (.store (.getRun runId)) reply .failing
  | dismisses {run} (ended : ¬ (run.revisionState = .current ∧ run.lifecycle ≠ .terminal)) :
      WorkerMove runId .entered (.store (.getRun runId)) (.ok run) .dismissed
  | rereads {report run} :
      WorkerMove runId (.saved report) (.store (.getRun runId)) (.ok run) (.ready report run)
  | rereadsNot {report exception} :
      WorkerMove runId (.saved report) (.store (.getRun runId)) (.error exception) .refused
  | readsEvidence {role reply} : WorkerMove runId role (.store (.getEvidence runId)) reply role
  | asks {role kind request reply} (plain : kind.isPlain = true) :
      WorkerMove runId role (.external kind request) reply role
  | releases {role request reply} :
      WorkerMove runId role (.external .leaveSession request) reply (role.released reply)
  | consults {kind request reply} (consulted : kind.isConsulted = true) :
      WorkerMove runId .leading (.external kind request) reply .leading
  | prepares {role version transition reply} (busy : role.Busy) (prepares : transition.Prepares) :
      WorkerMove runId role (.store (.transitionRun runId version transition)) reply role
  | claims {version updated} :
      WorkerMove runId .entered (.store (.transitionRun runId version .claiming)) (.ok updated)
        .leading
  | claimsNot {version exception} :
      WorkerMove runId .entered (.store (.transitionRun runId version .claiming)) (.error exception)
        .entered
  | saves {role report stored} (busy : role.Busy) :
      WorkerMove runId role
        (.store (.saveEvidence runId (p.encode report) (p.reportSha256 report).text)) (.ok stored)
        (.saved report)
  | savesNot {role report exception} (busy : role.Busy) :
      WorkerMove runId role
        (.store (.saveEvidence runId (p.encode report) (p.reportSha256 report).text))
        (.error exception) role
  | completes {report run updated} :
      WorkerMove runId (.ready report run) (.store (.transitionRun runId run.version
        (.completion report.mechanicalStatus report.claimOutcome))) (.ok updated)
        (.completed report)
  | completesNot {report run exception} :
      WorkerMove runId (.ready report run) (.store (.transitionRun runId run.version
        (.completion report.mechanicalStatus report.claimOutcome))) (.error exception) .refused
  | fails {errorCode summary retryable modelUsage rawResponseSha256 reply} :
      WorkerMove runId .failing (.store (.failRun runId errorCode summary retryable modelUsage
        rawResponseSha256)) reply .failing

/-- A run that is read or written is the run that was asked for. -/
def AnswersOwn : (call : ServiceCall p) → ServiceCall.Reply p call → Prop
  | .store (.getRun runId), .ok run => run.runId = runId
  | .store (.transitionRun runId _ _), .ok run => run.runId = runId
  | _, _ => True

/-- The protocol of a worker for one run. -/
def workerProtocol (p : Platform) (runId : RunId) :
    Protocol (ServiceCall.Reply p) (WorkerRole p) where
  Assumes := AnswersOwn
  Move := WorkerMove runId

section Follows

variable {runId : RunId} {role : WorkerRole p} {α β : Type}

/-- From a role on, a routine follows the protocol and returns as stated; where it
raises, the run is not completed. -/
abbrev Works (runId : RunId) (onReturn : WorkerRole p → α → Prop) (role : WorkerRole p)
    (program : Activity p α) : Prop :=
  Program.Follows (workerProtocol p runId) onReturn (fun moved _ => moved.Open) role program

/-- The bind rule after a routine that leaves the role. -/
theorem Works.next {between : α → Prop} {after : WorkerRole p → β → Prop} {program : Activity p α}
    {rest : α → Activity p β}
    (first : Works runId (fun moved value => moved = role ∧ between value) role program)
    (second : ∀ value, between value → Works runId after role (rest value)) :
    Works runId after role (program >>= rest) :=
  first.bind fun _ value ⟨same, holds⟩ => same ▸ second value holds

/-- The bind rule after a routine that leaves the role and returns anything. -/
theorem Works.then {after : WorkerRole p → β → Prop} {program : Activity p α}
    {rest : α → Activity p β} (first : Works runId (fun moved _ => moved = role) role program)
    (second : ∀ value, Works runId after role (rest value)) :
    Works runId after role (program >>= rest) :=
  first.bind fun _ value same => same ▸ second value

/-! ## Steps of a busy worker -/

section Busy

variable (busy : role.Busy)

include busy

/-- One call of the store that leaves the role. -/
theorem works_perform {call : StoreCall p.Document} {onReturn : call.Result → Prop}
    (moves : ∀ reply, WorkerMove runId role (.store call) reply role)
    (returns : ∀ result, AnswersOwn (.store call) (.ok result) → onReturn result) :
    Works runId (fun moved result => moved = role ∧ onReturn result) role
      (perform call) := by
  intro reply answers
  refine ⟨role, moves reply, ?_⟩
  cases reply with
  | ok result => exact ⟨rfl, returns result answers⟩
  | error exception => exact busy.isOpen

theorem works_getRun :
    Works runId (fun moved (run : VerificationRun) => moved = role ∧ run.runId = runId) role
      (perform (.getRun runId)) :=
  works_perform busy (fun _ => .reads busy) fun _ answers => answers

theorem works_transition {run : VerificationRun} {requested : RunTransition}
    (own : run.runId = runId) (prepares : requested.Prepares) :
    Works runId (fun moved (updated : VerificationRun) => moved = role ∧ updated.runId = runId) role
      (transition run requested) := by
  unfold transition
  rw [own]
  exact works_perform busy (fun _ => .prepares busy prepares) fun _ answers => answers

/-- A call to the surroundings that says nothing about the worker. -/
theorem works_external {kind : ExternalKind} {request : kind.Request p}
    (plain : kind.isPlain = true) :
    Works runId (fun moved _ => moved = role) role (external kind request) := by
  intro reply _
  refine ⟨role, .asks plain, ?_⟩
  cases reply with
  | ok result => rfl
  | error exception => exact busy.isOpen

theorem works_attempt {outcome : Except RaisedException α} :
    Works runId (fun moved _ => moved = role) role (attempt outcome) := by
  cases outcome with
  | ok value => rfl
  | error exception => exact busy.isOpen

theorem works_demand {condition : Prop} [Decidable condition] {exception : RaisedException} :
    Works runId (fun moved _ => moved = role) role (Program.demand condition exception) :=
  .demand (fun _ => rfl) fun _ => busy.isOpen

theorem works_requireCurrent {run : VerificationRun} :
    Works runId (fun moved _ => moved = role) role (requireCurrent run : Activity p Unit) :=
  works_demand busy

theorem works_persistTerminal {run : VerificationRun} {report : p.Report}
    (own : run.runId = runId) :
    Works runId (fun moved _ => moved = .completed report) role (persistTerminal run report) := by
  subst own
  intro reply _
  cases reply with
  | error exception => exact ⟨role, .savesNot busy, busy.isOpen⟩
  | ok stored =>
      refine ⟨.saved report, .saves busy, ?_⟩
      intro reply answers
      cases reply with
      | error exception => exact ⟨.refused, .rereadsNot, .refused⟩
      | ok latest =>
          have own : latest.runId = run.runId := answers
          refine ⟨.ready report latest, .rereads, ?_⟩
          have completing : Works run.runId (fun moved _ => moved = .completed report)
              (.ready report latest) (transition latest
                (.completion report.mechanicalStatus report.claimOutcome)) := by
            unfold transition
            rw [own]
            intro reply _
            cases reply with
            | ok updated => exact ⟨.completed report, .completes, rfl⟩
            | error exception => exact ⟨.refused, .completesNot, .refused⟩
          exact completing.bind fun _ _ same => same

theorem works_conclude {run : VerificationRun} {build : Int → Except RaisedException p.Report}
    (own : run.runId = runId) :
    Works runId (fun moved report => moved = .completed report) role (conclude run build) := by
  refine (works_external busy rfl).then fun createdAt => ?_
  refine (works_attempt busy).then fun report => ?_
  exact (works_persistTerminal busy own).bind fun _ _ same => same

end Busy

/-- A call to the surroundings by a worker that leads. -/
theorem works_consult {kind : ExternalKind} {request : kind.Request p}
    (consulted : kind.isConsulted = true) :
    Works runId (fun moved _ => moved = .leading) .leading (external kind request) := by
  intro reply _
  refine ⟨.leading, .consults consulted, ?_⟩
  cases reply with
  | ok result => rfl
  | error exception => exact .leading

/-! ## The parts of the workflow -/

theorem works_runChallenge {τ : Type} (busy : role.Busy) {workflow : EvidenceWorkflow p}
    {run : VerificationRun} {artifact : TestArtifact}
    {onBaseComplete : ExecutionResult → Activity p τ} {holds : τ → Prop}
    (callback : ∀ base, Works runId (fun moved state => moved = role ∧ holds state) role
      (onBaseComplete base)) :
    Works runId (fun moved result => moved = role ∧ holds result.2) role
      (runChallenge workflow run artifact onBaseComplete) := by
  unfold runChallenge
  cases workflow.challenge with
  | worktrees =>
      refine (works_external busy rfl).then fun base => ?_
      refine (callback base).next fun state held => ?_
      refine (works_external busy rfl).then fun head => ?_
      exact (works_attempt busy).then fun result => ⟨rfl, held⟩
  | executor =>
      refine (works_external busy rfl).then fun result => ?_
      refine (works_demand busy).then fun _ => ?_
      exact (callback result.base).next fun state held => ⟨rfl, held⟩

theorem prepares_phase {phase : RunPhase} (later : phaseOrder .claim < phaseOrder phase) :
    RunTransition.Prepares { phase := some phase } where
  lifecycle := by simp
  phase other same := by
    obtain rfl := Option.some.inj same
    exact later
  terminalReason := rfl
  mechanicalEvidenceStatus := rfl
  claimOutcome := rfl
  publicationState := rfl

theorem prepares_lifecycle {lifecycle : RunLifecycle} (active : lifecycle ≠ .terminal) :
    RunTransition.Prepares { lifecycle := some lifecycle } where
  lifecycle same := active (Option.some.inj same)
  phase := by simp
  terminalReason := rfl
  mechanicalEvidenceStatus := rfl
  claimOutcome := rfl
  publicationState := rfl

theorem works_advanceForExecution (busy : role.Busy) {run : VerificationRun}
    (own : run.runId = runId) :
    Works runId (fun moved (updated : VerificationRun) => moved = role ∧ updated.runId = runId) role
      (advanceForExecution run) := by
  unfold advanceForExecution
  split
  · exact works_transition busy own (prepares_phase (by decide))
  · exact ⟨rfl, own⟩

theorem works_markHeadExecution (busy : role.Busy) {run : VerificationRun}
    (own : run.runId = runId) :
    Works runId (fun moved (updated : VerificationRun) => moved = role ∧ updated.runId = runId) role
      (markHeadExecution runId run) := by
  refine (works_getRun busy).next fun latest _ => ?_
  refine (works_requireCurrent busy).then fun _ => ?_
  split
  · exact works_transition busy own (prepares_phase (by decide))
  · exact ⟨rfl, own⟩

/-- A retried call to the surroundings by a worker that leads. -/
theorem works_retriedConsult {kind : ExternalKind} {request : kind.Request p}
    {account : (attempts : Nat) → 1 ≤ attempts ∧ attempts ≤ 2 → kind.Result p → kind.Result p}
    (consulted : kind.isConsulted = true) :
    Works runId (fun moved _ => moved = .leading) .leading
      (boundedRetry (external kind request) account) := by
  have asking : Program.Follows (workerProtocol p runId) (fun moved _ => moved = .leading)
      (fun moved _ => moved = .leading) .leading (external kind request) := by
    intro reply _
    refine ⟨.leading, .consults consulted, ?_⟩
    cases reply <;> rfl
  have first : Program.Follows (workerProtocol p runId) (fun moved _ => moved = .leading)
      (fun moved _ => moved = .leading) .leading (do
        let response ← external kind request
        return account 1 (by decide) response) :=
    asking.bind fun _ _ same => same
  refine first.catching fun moved exception same => ?_
  subst same
  split
  · exact (works_consult consulted).then fun _ => rfl
  · exact .leading

theorem works_judgeChallenge {task : CandidateTask p} {round : CandidateRound p}
    {candidate : ValidatedCandidate} {challenge : ChallengeResult}
    (own : round.run.runId = runId) :
    Works runId (fun moved report => moved.Judged report) .leading
      (judgeChallenge task round candidate challenge) := by
  unfold judgeChallenge
  cases candidateEnvironmentFailure challenge with
  | some failure =>
      dsimp only
      generalize EnvironmentReadinessEvidence.fromDomain failure = recorded
      refine (works_attempt .leading).then fun readiness => ?_
      exact (works_conclude .leading own).bind fun _ _ same => same ▸ .completed
  | none =>
      dsimp only
      split
      · refine (works_retriedConsult rfl).then fun semanticResult => ?_
        refine (works_attempt .leading).then fun _ => ?_
        exact (works_conclude .leading own).bind fun _ _ same => same ▸ .completed
      · exact .leading

theorem works_executeCandidate {workflow : EvidenceWorkflow p} {task : CandidateTask p}
    {round : CandidateRound p} {candidate : ValidatedCandidate} (own : round.run.runId = runId) :
    Works runId (fun moved result => result.2.run.runId = runId ∧ moved.Judged result.1) .leading
      (executeCandidate workflow runId task round candidate) := by
  refine (works_getRun .leading).next fun latest _ => ?_
  refine (works_requireCurrent .leading).then fun _ => ?_
  refine (works_advanceForExecution .leading own).next fun run own => ?_
  refine (works_runChallenge .leading fun _ => works_markHeadExecution .leading own).next ?_
  intro result own
  obtain ⟨challenge, run⟩ := result
  refine (works_attempt .leading).then fun evaluation => ?_
  have judging : ∀ {run : VerificationRun}, run.runId = runId → Works runId
      (fun moved result => result.2.run.runId = runId ∧ moved.Judged result.1) .leading (do
        let round := { round with
          run := run
          evaluations := round.evaluations ++ [evaluation]
          challenge := some challenge }
        let report ← judgeChallenge task round candidate challenge
        return (report, round)) := by
    intro run own
    exact (works_judgeChallenge own).bind fun _ _ judged => ⟨own, judged⟩
  dsimp only
  split
  · exact judging own
  · exact (works_transition .leading own (prepares_phase (by decide))).next fun _ own => judging own

theorem works_abstain {task : CandidateTask p} {round : CandidateRound p}
    (own : round.run.runId = runId) :
    Works runId (fun moved report => moved = .completed report) .leading (abstain task round) := by
  unfold abstain
  split
  exact works_conclude .leading own

theorem works_invoke {generator : CandidateGenerator p} {origin : CandidateOrigin}
    {feedback : Option CandidateFeedback} :
    Works runId (fun moved _ => moved = .leading) .leading (generator.invoke origin feedback) := by
  refine (works_demand .leading).then fun _ => ?_
  refine (works_demand .leading).then fun _ => ?_
  refine (works_retriedConsult rfl).then fun response => ?_
  exact (works_attempt .leading).then fun judgement => rfl

theorem works_repair {generator : CandidateGenerator p} {feedback : CandidateFeedback} :
    Works runId (fun moved _ => moved = .leading) .leading (generator.repair feedback) := by
  refine (works_demand .leading).then fun _ => ?_
  refine (works_demand .leading).then fun _ => ?_
  exact works_invoke

theorem works_generateInitial {generator : CandidateGenerator p} :
    Works runId (fun moved _ => moved = .leading) .leading generator.generateInitial := by
  refine (works_demand .leading).then fun _ => ?_
  exact works_invoke

theorem works_tryCandidates {workflow : EvidenceWorkflow p} {task : CandidateTask p}
    (remaining : Nat) {round : CandidateRound p} (own : round.run.runId = runId) :
    Works runId (fun moved report => moved = .completed report) .leading
      (tryCandidates workflow runId task remaining round) := by
  induction remaining generalizing round with
  | zero => exact works_abstain own
  | succ remaining ih =>
      have more : ∀ {round : CandidateRound p}, round.run.runId = runId →
          Works runId (fun moved report => moved = .completed report) .leading
            (repairOrAbstain workflow runId task remaining round) := by
        intro round own
        unfold repairOrAbstain
        split
        · exact works_abstain own
        · refine (works_attempt .leading).then fun feedback => ?_
          exact works_repair.then fun next => ih own
      cases validated : round.attempt.validated with
      | none =>
          rw [tryCandidates_of_none validated]
          exact more own
      | some candidate =>
          rw [tryCandidates_of_some validated]
          refine (works_executeCandidate own).bind ?_
          rintro moved ⟨report, round⟩ ⟨own, is⟩
          dsimp only at own is
          cases is with
          | completed => rfl
          | leading => exact more own

theorem works_selectClaim {workflow : EvidenceWorkflow p} {run : VerificationRun}
    {context : p.Context} :
    Works runId (fun moved _ => moved = .leading) .leading
      (selectClaim workflow run context) := by
  unfold selectClaim
  dsimp only
  split
  · exact (works_consult rfl).then fun _ => rfl
  · exact (works_consult rfl).then fun _ => rfl

theorem works_installedImportRoots {workflow : EvidenceWorkflow p} :
    Works runId (fun moved _ => moved = .leading) .leading (installedImportRoots workflow) := by
  unfold installedImportRoots
  cases workflow.challenge with
  | executor => rfl
  | worktrees => exact works_external .leading rfl

theorem works_pursueClaim {workflow : EvidenceWorkflow p} {run : VerificationRun}
    {context : p.Context} {contract : p.Contract} {existingPaths : List String}
    {claim : BehavioralClaim} {claimResult : ClaimAgentResult} {transcript : Option p.Transcript}
    (own : run.runId = runId) :
    Works runId (fun moved report => moved = .completed report) .leading
      (pursueClaim workflow runId run context contract existingPaths claim claimResult
        transcript) := by
  refine (works_external .leading rfl).then fun readiness => ?_
  dsimp only
  generalize EnvironmentReadinessEvidence.fromDomain readiness = recorded
  refine (works_attempt .leading).then fun evidence => ?_
  split
  · refine (works_transition .leading own (prepares_phase (by decide))).next fun run own => ?_
    refine (works_external .leading rfl).then fun signatures => ?_
    refine works_installedImportRoots.then fun roots => ?_
    refine works_generateInitial.then fun first => ?_
    exact works_tryCandidates _ own
  · exact works_conclude .leading own

theorem works_admitContract (busy : role.Busy) {workflow : EvidenceWorkflow p}
    {run : VerificationRun} :
    Works runId (fun moved _ => moved = role) role (admitContract workflow run) := by
  refine (works_external busy rfl).then fun raw => ?_
  refine (works_attempt busy).then fun baseContract => ?_
  refine (works_external busy rfl).then fun raw => ?_
  refine (works_attempt busy).then fun contract => ?_
  refine (works_demand busy).then fun _ => ?_
  refine (works_demand busy).then fun _ => ?_
  exact (works_demand busy).then fun _ => rfl

theorem works_start (busy : role.Busy) {run : VerificationRun} (own : run.runId = runId) :
    Works runId (fun moved (updated : VerificationRun) => moved = role ∧ updated.runId = runId) role
      (start run : Activity p VerificationRun) := by
  have starting : ∀ (run : VerificationRun), run.runId = runId →
      Works runId (fun moved (updated : VerificationRun) => moved = role ∧ updated.runId = runId)
        role (if run.lifecycle = .queued then
            (transition run { lifecycle := some .running } : Activity p VerificationRun)
          else return run) := by
    intro run own
    split
    · exact works_transition busy own (prepares_lifecycle (by decide))
    · exact ⟨rfl, own⟩
  unfold start
  dsimp only
  split
  · exact (works_transition busy own (prepares_lifecycle (by decide))).next starting
  · exact starting run own

/-! ## The end of the workflow -/

/-- From a role on, a routine follows the protocol to its end. -/
abbrev Ends (challenge : ChallengeKind) (runId : RunId) (role : WorkerRole p)
    (program : Activity p p.Report) : Prop :=
  Program.Follows (workerProtocol p runId) (fun moved report => moved.Returns report)
    (fun moved exception => moved.Raises challenge exception) role program

theorem Works.ends {challenge : ChallengeKind} {program : Activity p p.Report}
    (works : Works runId (fun moved report => moved = .completed report) role program) :
    Ends challenge runId role program :=
  works.mono (fun _ _ same => same ▸ .completed) fun _ _ isOpen => .unfinished isOpen

/-- A routine on the way to the end. -/
theorem Works.thenEnds {challenge : ChallengeKind} {between : WorkerRole p → α → Prop}
    {program : Activity p α}
    {rest : α → Activity p p.Report} (first : Works runId between role program)
    (second : ∀ moved value, between moved value → Ends challenge runId moved (rest value)) :
    Ends challenge runId role (program >>= rest) :=
  Program.Follows.bind (first.mono (fun _ _ holds => holds) fun _ _ isOpen => .unfinished isOpen)
    second

/-- Releasing the worktrees leaves what the body came to, unless it raises. -/
theorem ends_withSession {workflow : EvidenceWorkflow p} {run : VerificationRun}
    {body : Activity p p.Report} (busy : role.Busy)
    (works : Works runId (fun moved report => moved = .completed report) role body) :
    Ends workflow.challenge runId role (withSession workflow run body) := by
  unfold withSession
  cases kind : workflow.challenge with
  | executor => exact works.ends
  | worktrees =>
      refine (works_external busy rfl).thenEnds fun moved _ same => ?_
      subst same
      have handled : Works runId (fun moved report => moved = .completed report) moved
          (body.catching fun exception => do
            external .leaveSession ()
            Program.raise exception) := by
        refine works.catching fun raising exception isOpen => ?_
        intro reply _
        refine ⟨raising.released reply, .releases, ?_⟩
        cases reply with
        | ok _ => exact (isOpen.released (.ok ())).symm ▸ isOpen
        | error other => exact (isOpen.released (.error other)).symm ▸ isOpen
      refine handled.thenEnds fun completed report same => ?_
      subst same
      intro reply _
      refine ⟨WorkerRole.released _ reply, .releases, ?_⟩
      cases reply with
      | ok _ => exact .completed
      | error exception => exact .unreleased

theorem ends_lead {workflow : EvidenceWorkflow p} {run : VerificationRun} {context : p.Context}
    {contract : p.Contract} {existingPaths : List String} (own : run.runId = runId) :
    Ends workflow.challenge runId .leading (lead workflow runId run context contract existingPaths) := by
  refine works_selectClaim.thenEnds fun moved selected leads => ?_
  subst leads
  dsimp only
  cases selected.1.selection.claim with
  | none => exact (works_conclude .leading own).ends
  | some claim => exact ends_withSession .leading (works_pursueClaim own)

theorem ends_compute {workflow : EvidenceWorkflow p} :
    Ends workflow.challenge runId .entered (compute workflow runId) := by
  have claiming : ∀ {run : VerificationRun}, run.runId = runId →
      Works runId (fun moved (updated : VerificationRun) => moved = .leading ∧
        updated.runId = runId) .entered
        (transition run .claiming : Activity p VerificationRun) := by
    intro run own
    unfold transition
    rw [own]
    intro reply answers
    cases reply with
    | ok updated => exact ⟨.leading, .claims, rfl, answers⟩
    | error exception => exact ⟨.entered, .claimsNot, .entered⟩
  refine (works_getRun .entered).thenEnds fun _ run ⟨entered, own⟩ => ?_
  subst entered
  refine (works_requireCurrent .entered).thenEnds fun _ _ entered => ?_
  subst entered
  refine (works_demand .entered).thenEnds fun _ _ entered => ?_
  subst entered
  refine (works_admitContract .entered).thenEnds fun _ contract entered => ?_
  subst entered
  refine (works_external .entered rfl).thenEnds fun _ existingPaths entered => ?_
  subst entered
  refine (works_start .entered own).thenEnds fun _ run ⟨entered, own⟩ => ?_
  subst entered
  refine (works_external .entered rfl).thenEnds fun _ context entered => ?_
  subst entered
  refine (claiming own).thenEnds fun _ run ⟨leads, own⟩ => ?_
  subst leads
  exact ends_lead own

theorem ends_replay {challenge : ChallengeKind} {prior : StoredEvidence p.Document} :
    Ends challenge runId .entered (replay runId prior) := by
  refine (works_attempt .entered).thenEnds fun _ report entered => ?_
  subst entered
  intro reply answers
  cases reply with
  | error exception => exact ⟨.entered, .reads .entered, .unfinished .entered⟩
  | ok run =>
      have own : run.runId = runId := answers
      by_cases active : run.revisionState = .current ∧ run.lifecycle ≠ .terminal
      · refine ⟨.entered, .reads .entered, ?_⟩
        change Ends challenge runId .entered (if run.revisionState = .current ∧ run.lifecycle ≠ .terminal then do
            let _ ← persistTerminal run report
            return report
          else return report)
        rw [if_pos active]
        have persisting : Works runId (fun moved result => moved = .completed result) .entered (do
            let _ ← persistTerminal run report
            return report) :=
          (works_persistTerminal .entered own).bind fun _ _ same => same
        exact persisting.ends
      · refine ⟨.dismissed, .dismisses active, ?_⟩
        change Ends challenge runId .dismissed (if run.revisionState = .current ∧ run.lifecycle ≠ .terminal then do
            let _ ← persistTerminal run report
            return report
          else return report)
        rw [if_neg active]
        exact .dismissed

/-- **The workflow follows the protocol.** -/
theorem execute_follows (workflow : EvidenceWorkflow p) :
    Ends workflow.challenge runId .entered (execute workflow runId) := by
  intro reply _
  refine ⟨.entered, .readsEvidence, ?_⟩
  cases reply with
  | error exception => exact .unfinished .entered
  | ok prior =>
      cases prior with
      | some prior => exact ends_replay
      | none => exact ends_compute

/-- **A worker follows its protocol.** -/
theorem runReliably_follows (workflow : EvidenceWorkflow p) :
    Program.Follows (workerProtocol p runId) (fun moved report => moved.Returns report)
      (fun _ _ => True) .entered (runReliably workflow runId) := by
  refine (execute_follows workflow).catching fun role exception raises => ?_
  have recording : Program.Follows (workerProtocol p runId) (fun _ _ => True) (fun _ _ => True) role
      (recordFailure runId exception : Activity p Unit) := by
    intro reply _
    refine ⟨.failing, .recalls raises, ?_⟩
    cases reply with
    | error exception => trivial
    | ok run =>
        change Program.Follows (workerProtocol p runId) _ _ .failing (if run.revisionState = .current ∧
            run.lifecycle ≠ .terminal then do
          let _ ← perform (.failRun runId (classify exception).code.value
            (classify exception).summary (classify exception).retryable
            (classify exception).modelUsage
            ((classify exception).rawResponseSha256.map Sha256.text))
          else return ())
        split
        · intro reply _
          refine ⟨.failing, .fails, ?_⟩
          cases reply <;> trivial
        · trivial
  exact recording.bind fun _ _ _ => trivial

end Follows

end PatchProof
