import PatchProof.Evidence.Classifier
import PatchProof.Library.Guard
import PatchProof.Protocol.Reachable

/-!
# What reports the workflow saves

A property that every report built by the workflow has is a property of every document
in the store, wherever a schedule of the service has led.  `savingProtocol` permits every
call, except that a document may be saved only when it encodes a report with the
property; a routine that reads stored evidence may rely on the property, so a replayed
report has it again.

A property is `Upheld` when the two builders of reports establish it from what the
workflow knows when it calls them; the routines are followed once, for all such properties.
A property may rest on what the executor answers with: then the routines follow
`trustingProtocol`, which is `savingProtocol` with trusted challenge results.

The property shown here is `Composed`: a selected artifact is the artifact of an attempt
that the report records, and when no artifact was selected, the report records no
attempts or one that came to no artifact.
-/

set_option autoImplicit false

namespace PatchProof

variable {p : Platform}

/-! ## Saving only reports with a property -/

/-- Stored evidence that encodes a report with the property. -/
def Encodes (Good : p.Report → Prop) (stored : StoredEvidence p.Document) : Prop :=
  ∃ report, stored.documentJson = p.encode report ∧ Good report

/-- Evidence that is read encodes a report with the property. -/
def ReadsGood (Good : p.Report → Prop) : (call : ServiceCall p) → ServiceCall.Reply p call → Prop
  | .store (.getEvidence _), .ok (some stored) => Encodes Good stored
  | _, _ => True

/-- A call that saves a document saves a report with the property. -/
def SavesGood (Good : p.Report → Prop) : ServiceCall p → Prop
  | .store (.saveEvidence _ documentJson _) =>
      ∃ report, documentJson = p.encode report ∧ Good report
  | _ => True

/-- The protocol of routines that save only reports with the property. -/
def savingProtocol (Good : p.Report → Prop) : Protocol (ServiceCall.Reply p) Unit where
  Assumes call reply := AnswersOwn call reply ∧ ReadsGood Good call reply
  Move _ call _ _ := SavesGood Good call

section Rules

variable {Good : p.Report → Prop} {α β : Type}

/-- A routine saves only reports with the property, and returns as stated. -/
abbrev Saves (Good : p.Report → Prop) (onReturn : α → Prop) (program : Activity p α) : Prop :=
  Program.Follows (savingProtocol Good) (fun _ value => onReturn value) (fun _ _ => True) ()
    program

theorem Saves.bind {between : α → Prop} {after : β → Prop} {program : Activity p α}
    {rest : α → Activity p β} (first : Saves Good between program)
    (second : ∀ value, between value → Saves Good after (rest value)) :
    Saves Good after (program >>= rest) :=
  Program.Follows.bind first fun _ value holds => second value holds

/-- The bind rule after a routine that returns anything. -/
theorem Saves.then {after : β → Prop} {program : Activity p α} {rest : α → Activity p β}
    (first : Saves Good (fun _ => True) program) (second : ∀ value, Saves Good after (rest value)) :
    Saves Good after (program >>= rest) :=
  first.bind fun value _ => second value

theorem Saves.catching {onReturn : α → Prop} {program : Activity p α}
    {handler : RaisedException → Activity p α} (body : Saves Good onReturn program)
    (handles : ∀ exception, Saves Good onReturn (handler exception)) :
    Saves Good onReturn (program.catching handler) :=
  Program.Follows.catching body fun _ exception _ => handles exception

theorem saves_perform {call : StoreCall p.Document}
    (permitted : SavesGood Good (.store call : ServiceCall p)) :
    Saves Good (fun _ => True) (perform call) := by
  intro reply _
  refine ⟨(), permitted, ?_⟩
  cases reply <;> trivial

theorem saves_external {kind : ExternalKind} {request : kind.Request p} :
    Saves Good (fun _ => True) (external kind request) := by
  intro reply _
  refine ⟨(), trivial, ?_⟩
  cases reply <;> trivial

theorem saves_attempt {outcome : Except RaisedException α} :
    Saves Good (fun value => outcome = .ok value) (attempt outcome) := by
  cases outcome with
  | ok value => rfl
  | error exception => trivial

theorem saves_demand {condition : Prop} [Decidable condition] {exception : RaisedException} :
    Saves Good (fun _ => condition) (Program.demand condition exception) :=
  .demand (fun holds => holds) fun _ => trivial

theorem saves_attempted {outcome : Except RaisedException α} :
    Saves Good (fun _ => True) (attempt outcome) :=
  saves_attempt.mono (fun _ _ _ => trivial) fun _ _ _ => trivial

theorem saves_demanded {condition : Prop} [Decidable condition] {exception : RaisedException} :
    Saves Good (fun _ => True) (Program.demand condition exception) :=
  .demand (fun _ => trivial) fun _ => trivial

theorem saves_transition {run : VerificationRun} {requested : RunTransition} :
    Saves Good (fun _ => True) (transition run requested : Activity p VerificationRun) :=
  @saves_perform p Good (.transitionRun run.runId run.version requested) trivial

theorem saves_getRun {runId : RunId} :
    Saves Good (fun _ => True) (perform (.getRun runId) : Activity p VerificationRun) :=
  @saves_perform p Good (.getRun runId) trivial

/-- What follows a protocol without saving saves nothing without the property. -/
theorem saves_of_follows {ρ : Type} {protocol : Protocol (ServiceCall.Reply p) ρ}
    {onReturn : ρ → α → Prop} {onRaise : ρ → RaisedException → Prop} {role : ρ}
    {program : Activity p α} (follows : Program.Follows protocol onReturn onRaise role program)
    (assumes : ∀ call reply, AnswersOwn call reply → protocol.Assumes call reply)
    (moves : ∀ role call reply moved, protocol.Move role call reply moved → SavesGood Good call) :
    Saves Good (fun _ => True) program := by
  induction program generalizing role with
  | done outcome => cases outcome <;> trivial
  | ask call next ih =>
      intro reply assumed
      obtain ⟨moved, move, rest⟩ := follows reply (assumes call reply assumed.1)
      exact ⟨(), moves _ _ _ _ move, ih reply rest⟩

/-! ## The parts of the workflow -/

theorem saves_persistTerminal {run : VerificationRun} {report : p.Report} (good : Good report) :
    Saves Good (fun _ => True) (persistTerminal run report) := by
  have saving : Saves Good (fun _ => True) (perform (.saveEvidence run.runId (p.encode report)
      (p.reportSha256 report).text) : Activity p (StoredEvidence p.Document)) :=
    saves_perform ⟨report, rfl, good⟩
  exact saving.then fun _ => saves_getRun.then fun _ => saves_transition.then fun _ => trivial

theorem saves_conclude {run : VerificationRun} {build : Int → Except RaisedException p.Report}
    (builds : ∀ createdAt report, build createdAt = .ok report → Good report) :
    Saves Good Good (conclude run build) := by
  refine saves_external.then fun createdAt => ?_
  refine saves_attempt.bind fun report built => ?_
  have good := builds createdAt report built
  exact (saves_persistTerminal good).then fun _ => good

theorem saves_boundedRetry {kind : ExternalKind} {request : kind.Request p}
    {account : (attempts : Nat) → 1 ≤ attempts ∧ attempts ≤ 2 → kind.Result p → kind.Result p} :
    Saves Good (fun _ => True) (boundedRetry (external kind request) account) := by
  have asking : Saves Good (fun _ => True) (do
      let response ← external kind request
      return account 1 (by decide) response) := saves_external.then fun _ => trivial
  refine asking.catching fun exception => ?_
  split
  · exact saves_external.then fun _ => trivial
  · trivial

theorem saves_advanceForExecution {run : VerificationRun} :
    Saves Good (fun _ => True) (advanceForExecution run : Activity p VerificationRun) := by
  unfold advanceForExecution
  split
  · exact saves_transition
  · trivial

theorem saves_markHeadExecution {runId : RunId} {run : VerificationRun} :
    Saves Good (fun _ => True) (markHeadExecution runId run : Activity p VerificationRun) := by
  refine saves_getRun.then fun latest => ?_
  refine saves_demanded.then fun _ => ?_
  split
  · exact saves_transition
  · trivial

theorem saves_invoke {generator : CandidateGenerator p} {origin : CandidateOrigin}
    {feedback : Option CandidateFeedback} :
    Saves Good (fun _ => True) (generator.invoke origin feedback) := by
  refine saves_demanded.then fun _ => ?_
  refine saves_demanded.then fun _ => ?_
  refine saves_boundedRetry.then fun response => ?_
  exact saves_attempted.then fun _ => trivial

theorem saves_repair {generator : CandidateGenerator p} {feedback : CandidateFeedback} :
    Saves Good (fun _ => True) (generator.repair feedback) :=
  saves_demanded.then fun _ => saves_demanded.then fun _ => saves_invoke

theorem saves_generateInitial {generator : CandidateGenerator p} :
    Saves Good (fun _ => True) generator.generateInitial :=
  saves_demanded.then fun _ => saves_invoke

theorem saves_selectClaim {workflow : EvidenceWorkflow p} {run : VerificationRun}
    {context : p.Context} : Saves Good (fun _ => True) (selectClaim workflow run context) := by
  unfold selectClaim
  dsimp only
  split
  · exact saves_external.then fun _ => trivial
  · exact saves_external.then fun _ => trivial

theorem saves_installedImportRoots {workflow : EvidenceWorkflow p} :
    Saves Good (fun _ => True) (installedImportRoots workflow) := by
  unfold installedImportRoots
  cases workflow.challenge with
  | executor => trivial
  | worktrees => exact saves_external

theorem saves_admitContract {workflow : EvidenceWorkflow p} {run : VerificationRun} :
    Saves Good (fun _ => True) (admitContract workflow run) := by
  refine saves_external.then fun _ => ?_
  refine saves_attempted.then fun _ => ?_
  refine saves_external.then fun _ => ?_
  refine saves_attempted.then fun _ => ?_
  refine saves_demanded.then fun _ => ?_
  refine saves_demanded.then fun _ => ?_
  exact saves_demanded.then fun _ => trivial

theorem saves_start {run : VerificationRun} :
    Saves Good (fun _ => True) (start run : Activity p VerificationRun) := by
  have starting : ∀ run : VerificationRun, Saves Good (fun _ => True)
      (if run.lifecycle = .queued then transition run { lifecycle := some .running }
        else return run : Activity p VerificationRun) := by
    intro run
    split
    · exact saves_transition
    · trivial
  unfold start
  dsimp only
  split
  · exact saves_transition.then fun run => starting run
  · exact starting run

theorem saves_recordFailure {runId : RunId} {exception : RaisedException} :
    Saves Good (fun _ => True) (recordFailure runId exception : Activity p Unit) := by
  refine saves_getRun.then fun run => ?_
  split
  · refine Saves.then (saves_perform ?_) fun _ => trivial
    trivial
  · trivial

end Rules

/-! ## Routines that trust the executor -/

/-- The executor answers with a challenge result that is trusted. -/
def AnswersTrusted (Trusted : ChallengeResult → Prop) :
    (call : ServiceCall p) → ServiceCall.Reply p call → Prop
  | .external .challengeRemotely _, .ok challenge => Trusted challenge
  | _, _ => True

/-- The saving protocol of routines that trust what the executor answers with. -/
def trustingProtocol (Good : p.Report → Prop) (Trusted : ChallengeResult → Prop) :
    Protocol (ServiceCall.Reply p) Unit where
  Assumes call reply := (savingProtocol Good).Assumes call reply ∧ AnswersTrusted Trusted call reply
  Move := (savingProtocol Good).Move

section Trusting

variable {Good : p.Report → Prop} {Trusted : ChallengeResult → Prop} {α β : Type}

/-- With a trusted executor, a routine saves only reports with the property. -/
abbrev SavesTrusting (Good : p.Report → Prop) (Trusted : ChallengeResult → Prop)
    (onReturn : α → Prop) (program : Activity p α) : Prop :=
  Program.Follows (trustingProtocol Good Trusted) (fun _ value => onReturn value)
    (fun _ _ => True) () program

theorem SavesTrusting.bind {between : α → Prop} {after : β → Prop} {program : Activity p α}
    {rest : α → Activity p β} (first : SavesTrusting Good Trusted between program)
    (second : ∀ value, between value → SavesTrusting Good Trusted after (rest value)) :
    SavesTrusting Good Trusted after (program >>= rest) :=
  Program.Follows.bind first fun _ value holds => second value holds

theorem SavesTrusting.then {after : β → Prop} {program : Activity p α}
    {rest : α → Activity p β} (first : SavesTrusting Good Trusted (fun _ => True) program)
    (second : ∀ value, SavesTrusting Good Trusted after (rest value)) :
    SavesTrusting Good Trusted after (program >>= rest) :=
  first.bind fun value _ => second value

theorem SavesTrusting.catching {onReturn : α → Prop} {program : Activity p α}
    {handler : RaisedException → Activity p α}
    (body : SavesTrusting Good Trusted onReturn program)
    (handles : ∀ exception, SavesTrusting Good Trusted onReturn (handler exception)) :
    SavesTrusting Good Trusted onReturn (program.catching handler) :=
  Program.Follows.catching body fun _ exception _ => handles exception

/-- What needs no trust can be had with it. -/
theorem Saves.trusting {onReturn : α → Prop} {program : Activity p α}
    (saves : Saves Good onReturn program) : SavesTrusting Good Trusted onReturn program := by
  have placed : Program.Follows (trustingProtocol Good Trusted)
      (fun moved value => ∃ role, moved = id role ∧ onReturn value)
      (fun moved _ => ∃ role, moved = id role ∧ True) (id ()) program :=
    saves.embed id (fun _ _ assumed => assumed.1) fun _ _ _ _ move => move
  exact placed.mono (fun _ _ ⟨_, _, returned⟩ => returned) fun _ _ _ => trivial

/-- The executor's answer is trusted. -/
theorem trusts_challengeRemotely {request : ExternalKind.challengeRemotely.Request p} :
    SavesTrusting Good Trusted Trusted (external .challengeRemotely request) := by
  intro reply assumed
  refine ⟨(), trivial, ?_⟩
  cases reply with
  | ok challenge => exact assumed.2
  | error exception => trivial

/-- The artifact that was challenged has the bytes that were handed in, and a result that is
trusted wherever it was assessed. -/
theorem saves_runChallenge {τ : Type} {workflow : EvidenceWorkflow p} {run : VerificationRun}
    {artifact : TestArtifact} {onBaseComplete : ExecutionResult → Activity p τ}
    (classified : ∀ {base head result},
      MechanicalEvidenceClassifier.challenge p.digest artifact base head = .ok result →
        Trusted result)
    (callback : ∀ base, Saves Good (fun _ => True) (onBaseComplete base)) :
    SavesTrusting Good Trusted
      (fun result => p.digest result.1.artifact.content = p.digest artifact.content ∧
        Trusted result.1) (runChallenge workflow run artifact onBaseComplete) := by
  unfold runChallenge
  cases workflow.challenge with
  | worktrees =>
      refine saves_external.trusting.then fun base => ?_
      refine (callback base).trusting.then fun state => ?_
      refine saves_external.trusting.then fun head => ?_
      refine saves_attempt.trusting.bind fun result challenged => ?_
      obtain ⟨rfl, -⟩ := MechanicalEvidenceClassifier.challenge_eq_ok_iff.mp challenged
      exact ⟨rfl, classified challenged⟩
  | executor =>
      refine trusts_challengeRemotely.bind fun result trusted => ?_
      refine saves_demand.trusting.bind fun _ same => ?_
      exact (callback result.base).trusting.then fun _ => ⟨same, trusted⟩

theorem saves_withSession {workflow : EvidenceWorkflow p} {run : VerificationRun}
    {onReturn : α → Prop} {body : Activity p α}
    (works : SavesTrusting Good Trusted onReturn body) :
    SavesTrusting Good Trusted onReturn (withSession workflow run body) := by
  unfold withSession
  cases workflow.challenge with
  | executor => exact works
  | worktrees =>
      refine saves_external.trusting.then fun _ => ?_
      have handled : SavesTrusting Good Trusted onReturn (body.catching fun exception => do
          external .leaveSession ()
          Program.raise exception) :=
        works.catching fun _ => saves_external.trusting.then fun _ => trivial
      exact handled.bind fun value returned => saves_external.trusting.then fun _ => returned

end Trusting

/-! ## What a report is composed of -/

/-- The hash of the artifact that an attempt came to. -/
def CandidateAttempt.artifactSha256 (digest : String → Sha256) (attempt : CandidateAttempt) :
    Option Sha256 :=
  attempt.validated.map fun candidate => digest candidate.artifact.content

/-- The attempts account for what was challenged last: one of them came to that artifact;
when nothing was, there are none or one came to no artifact. -/
def AccountFor (digest : String → Sha256) (attempts : List CandidateAttempt) :
    Option ChallengeResult → Prop
  | some challenge => ∃ attempt ∈ attempts,
      attempt.artifactSha256 digest = some (digest challenge.artifact.content)
  | none => attempts = [] ∨ ∃ attempt ∈ attempts, attempt.artifactSha256 digest = none

theorem accountFor_nil {digest : String → Sha256} : AccountFor digest [] none := .inl rfl

/-- A selected artifact is the artifact of a recorded attempt, and when none was selected,
no attempts are recorded or one that came to no artifact. -/
structure EvidenceReport.Composed {Transcript : Type} (report : EvidenceReport Transcript) :
    Prop where
  selected : ∀ artifactSha256, report.selectedArtifactSha256 = some artifactSha256 →
    ∃ attempt ∈ report.candidateAttempts.items, attempt.artifactSha256 = some artifactSha256
  unselected : report.selectedArtifactSha256 = none → report.candidateAttempts.items = [] ∨
    ∃ attempt ∈ report.candidateAttempts.items, attempt.artifactSha256 = none

section Composed

variable {digest : String → Sha256}

theorem CandidateAttempt.evidence_artifactSha256 {attempt : CandidateAttempt}
    {evidence : CandidateAttemptEvidence} (recorded : attempt.evidence digest = .ok evidence) :
    evidence.artifactSha256 = attempt.artifactSha256 digest := by
  unfold CandidateAttempt.evidence at recorded
  obtain ⟨sequence, -, recorded⟩ := Guard.bind_eq_ok_iff.mp recorded
  obtain ⟨issues, -, recorded⟩ := Guard.bind_eq_ok_iff.mp recorded
  obtain rfl := Except.ok.inj recorded
  rfl

/-- The recorded attempts have the hashes of the attempts, one for one. -/
theorem attemptsEvidence_artifacts {attempts : List CandidateAttempt}
    {recorded : List CandidateAttemptEvidence}
    (records : attemptsEvidence digest attempts = .ok recorded) :
    recorded.map CandidateAttemptEvidence.artifactSha256 =
      attempts.map (CandidateAttempt.artifactSha256 digest) := by
  induction attempts generalizing recorded with
  | nil =>
      obtain rfl := Except.ok.inj records
      rfl
  | cons attempt rest ih =>
      unfold attemptsEvidence at records
      obtain ⟨evidence, first, records⟩ := Guard.bind_eq_ok_iff.mp records
      obtain ⟨more, others, records⟩ := Guard.bind_eq_ok_iff.mp records
      obtain rfl := Except.ok.inj records
      rw [List.map_cons, List.map_cons, CandidateAttempt.evidence_artifactSha256 first, ih others]

/-- Recorded attempts that account for the last challenge compose a report that selects
its artifact. -/
theorem composed_of_accountFor {Transcript : Type} {report : EvidenceReport Transcript}
    {attempts : List CandidateAttempt} {challenge : Option ChallengeResult}
    (accounts : AccountFor digest attempts challenge)
    (records : attemptsEvidence digest attempts = .ok report.candidateAttempts.items)
    (selects : report.selectedArtifactSha256 =
      challenge.map fun result => digest result.artifact.content) : report.Composed := by
  have artifacts := attemptsEvidence_artifacts records
  have recorded : ∀ attempt ∈ attempts, ∃ evidence ∈ report.candidateAttempts.items,
      evidence.artifactSha256 = attempt.artifactSha256 digest := by
    intro attempt mem
    have inMap : attempt.artifactSha256 digest ∈
        report.candidateAttempts.items.map CandidateAttemptEvidence.artifactSha256 := by
      rw [artifacts]
      exact List.mem_map_of_mem mem
    exact List.mem_map.mp inMap
  cases challenge with
  | some result =>
      obtain ⟨attempt, mem, same⟩ := accounts
      obtain ⟨evidence, isRecorded, hash⟩ := recorded attempt mem
      refine ⟨fun artifactSha256 is => ⟨evidence, isRecorded, ?_⟩, fun absent => ?_⟩
      · rw [hash, same, ← is, selects]
        rfl
      · rw [selects] at absent
        cases absent
  | none =>
      refine ⟨fun artifactSha256 is => ?_, fun _ => ?_⟩
      · rw [selects] at is
        cases is
      · rcases accounts with none | ⟨attempt, mem, absent⟩
        · subst none
          exact .inl (List.map_eq_nil_iff.mp artifacts)
        · obtain ⟨evidence, isRecorded, hash⟩ := recorded attempt mem
          exact .inr ⟨evidence, isRecorded, hash.trans absent⟩

variable {Transcript : Type} {basis : ReportBasis Transcript} {createdAt : Int}
  {report : EvidenceReport Transcript}

theorem abstentionReport_composed {mechanicalStatus : MechanicalEvidenceStatus} {reason : String}
    {challenge : Option ChallengeResult} (accounts : AccountFor digest basis.attempts challenge)
    (built : abstentionReport digest basis mechanicalStatus reason challenge createdAt =
      .ok report) : report.Composed := by
  unfold abstentionReport at built
  obtain ⟨attempts, records, built⟩ := Guard.bind_eq_ok_iff.mp built
  obtain ⟨bounded, within, built⟩ := Guard.bind_eq_ok_iff.mp built
  obtain ⟨evaluations, -, built⟩ := Guard.bind_eq_ok_iff.mp built
  obtain ⟨checked, -, built⟩ := Guard.bind_eq_ok_iff.mp built
  split at built
  · cases built
  · obtain rfl := Except.ok.inj built
    have same := BoundedList.check_eq_ok_iff.mp within
    exact composed_of_accountFor accounts (records.trans (congrArg Except.ok same.symm)) rfl

theorem completedReport_composed {claim : BehavioralClaim} {challenge : ChallengeResult}
    {semanticResult : SemanticAssessmentResult}
    (accounts : AccountFor digest basis.attempts (some challenge))
    (built : completedReport digest basis claim challenge semanticResult createdAt =
      .ok report) : report.Composed := by
  unfold completedReport at built
  obtain ⟨attempts, records, built⟩ := Guard.bind_eq_ok_iff.mp built
  obtain ⟨bounded, within, built⟩ := Guard.bind_eq_ok_iff.mp built
  obtain ⟨evaluations, -, built⟩ := Guard.bind_eq_ok_iff.mp built
  obtain ⟨checked, -, built⟩ := Guard.bind_eq_ok_iff.mp built
  obtain ⟨conclusion, -, built⟩ := Guard.bind_eq_ok_iff.mp built
  obtain rfl := Except.ok.inj built
  have same := BoundedList.check_eq_ok_iff.mp within
  exact composed_of_accountFor accounts (records.trans (congrArg Except.ok same.symm)) rfl

end Composed

/-! ## Properties that the workflow upholds -/

/-- The last candidate evaluation holds the two executions of a challenge. -/
def LastEvaluated (evaluations : List CandidateEvaluationEvidence) (challenge : ChallengeResult) :
    Prop :=
  ∃ last, evaluations.getLast? = some last ∧ last.baseExecution = challenge.base.evidence ∧
    last.headExecution = challenge.head.evidence

theorem ChallengeResult.evidence_executions {digest : String → Sha256}
    {challenge : ChallengeResult} {attemptSequence : Nat} {evaluation : CandidateEvaluationEvidence}
    (evaluated : challenge.evidence digest attemptSequence = .ok evaluation) :
    evaluation.baseExecution = challenge.base.evidence ∧
      evaluation.headExecution = challenge.head.evidence := by
  unfold ChallengeResult.evidence at evaluated
  obtain ⟨sequence, -, evaluated⟩ := Guard.bind_eq_ok_iff.mp evaluated
  obtain ⟨reason, -, evaluated⟩ := Guard.bind_eq_ok_iff.mp evaluated
  obtain rfl := Except.ok.inj evaluated
  exact ⟨rfl, rfl⟩

/-- Both builders establish the property from what the workflow knows when it calls them, and
a challenge assessed by the workflow itself is trusted. -/
structure Upheld (Good : p.Report → Prop) (Trusted : ChallengeResult → Prop) : Prop where
  classified : ∀ {artifact base head result},
    MechanicalEvidenceClassifier.challenge p.digest artifact base head = .ok result →
      Trusted result
  abstention : ∀ {basis mechanicalStatus reason challenge createdAt report},
    AccountFor p.digest basis.attempts challenge →
      abstentionReport p.digest basis mechanicalStatus reason challenge createdAt = .ok report →
      Good report
  completion : ∀ {basis claim challenge semanticResult createdAt report},
    AccountFor p.digest basis.attempts (some challenge) → Trusted challenge →
      LastEvaluated basis.evaluations challenge →
      challenge.assessment.mechanicalStatus = .discriminating →
      validateSemanticDecision challenge semanticResult.decision = .ok () →
      completedReport p.digest basis claim challenge semanticResult createdAt = .ok report →
      Good report

/-! ## The workflow saves such reports -/

section Workflow

variable {Good : p.Report → Prop} {Trusted : ChallengeResult → Prop}
  {workflow : EvidenceWorkflow p} {runId : RunId} {task : CandidateTask p}
  {round : CandidateRound p}

theorem saves_assessChallenge {claim : BehavioralClaim} {source : String}
    {challenge : ChallengeResult} :
    Saves Good (fun _ => True)
      (assessChallenge claim source challenge : Activity p SemanticAssessmentResult) := by
  unfold assessChallenge
  exact @saves_boundedRetry p Good .assess (claim, source, challenge) _

theorem saves_judgeChallenge (upheld : Upheld Good Trusted) {candidate : ValidatedCandidate}
    {challenge : ChallengeResult} (accounts : AccountFor p.digest round.attempts (some challenge))
    (trusted : Trusted challenge) (last : LastEvaluated round.evaluations challenge) :
    Saves Good (fun report => ∀ built, report = some built → Good built)
      (judgeChallenge task round candidate challenge) := by
  have kept : ∀ report : p.Report, Good report → ∀ built, some report = some built → Good built :=
    fun report good built same => Option.some.inj same ▸ good
  unfold judgeChallenge
  cases candidateEnvironmentFailure challenge with
  | some failure =>
      dsimp only
      generalize EnvironmentReadinessEvidence.fromDomain failure = readiness
      refine saves_attempted.then fun readiness => ?_
      refine Saves.bind (saves_conclude fun createdAt report built => ?_) kept
      exact upheld.abstention accounts built
  | none =>
      dsimp only
      split
      · rename_i discriminates
        refine Saves.then saves_assessChallenge fun semanticResult => ?_
        refine saves_attempt.bind fun _ valid => ?_
        refine Saves.bind (saves_conclude fun createdAt report built => ?_) kept
        exact upheld.completion accounts trusted last discriminates valid built
      · intro built absurdity
        cases absurdity

/-- What a round has come to when a candidate was executed. -/
structure CandidateRound.Executed (before after : CandidateRound p) : Prop where
  attempt : after.attempt = before.attempt
  attempts : after.attempts = before.attempts
  accounts : AccountFor p.digest after.attempts after.challenge

theorem saves_executeCandidate (upheld : Upheld Good Trusted) {candidate : ValidatedCandidate}
    (isCurrent : round.attempt ∈ round.attempts)
    (isValidated : round.attempt.validated = some candidate) :
    SavesTrusting Good Trusted (fun result => (∀ built, result.1 = some built → Good built) ∧
        round.Executed result.2)
      (executeCandidate workflow runId task round candidate) := by
  refine saves_getRun.trusting.then fun latest => ?_
  refine saves_demanded.trusting.then fun _ => ?_
  refine saves_advanceForExecution.trusting.then fun run => ?_
  refine (saves_runChallenge upheld.classified fun _ => saves_markHeadExecution).bind
    fun result challenged => ?_
  obtain ⟨challenge, run⟩ := result
  obtain ⟨same, trusted⟩ := challenged
  refine saves_attempt.trusting.bind fun evaluation evaluated => ?_
  have accounts : AccountFor p.digest round.attempts (some challenge) := by
    refine ⟨round.attempt, isCurrent, ?_⟩
    rw [CandidateAttempt.artifactSha256, isValidated]
    exact congrArg some same.symm
  have last : LastEvaluated (round.evaluations ++ [evaluation]) challenge :=
    ⟨evaluation, List.getLast?_concat, ChallengeResult.evidence_executions evaluated⟩
  have judging : ∀ run : VerificationRun, Saves Good
      (fun result => (∀ built, result.1 = some built → Good built) ∧
        round.Executed result.2) (do
        let round := { round with
          run := run
          evaluations := round.evaluations ++ [evaluation]
          challenge := some challenge }
        let report ← judgeChallenge task round candidate challenge
        return (report, round)) := by
    intro run
    refine Saves.bind (saves_judgeChallenge upheld accounts trusted last) fun report good => ?_
    exact ⟨good, rfl, rfl, accounts⟩
  dsimp only
  split
  · exact (judging run).trusting
  · exact (saves_transition.then judging).trusting

theorem saves_abstain (upheld : Upheld Good Trusted)
    (accounts : AccountFor p.digest round.attempts round.challenge) :
    Saves Good Good (abstain task round) := by
  unfold abstain
  split
  exact saves_conclude fun createdAt report built => upheld.abstention accounts built

/-- While candidates are left, a round goes on from its newest attempt. -/
theorem saves_tryCandidates (upheld : Upheld Good Trusted) (remaining : Nat)
    (left : 0 < remaining) (isCurrent : round.attempt ∈ round.attempts)
    (unchallenged : round.challenge = none) :
    SavesTrusting Good Trusted Good (tryCandidates workflow runId task remaining round) := by
  induction remaining generalizing round with
  | zero => exact absurd left (Nat.lt_irrefl 0)
  | succ remaining ih =>
      have more : ∀ {round : CandidateRound p},
          AccountFor p.digest round.attempts round.challenge →
          SavesTrusting Good Trusted Good
            (repairOrAbstain workflow runId task remaining round) := by
        intro round accounts
        unfold repairOrAbstain
        split
        · exact (saves_abstain upheld accounts).trusting
        · rename_i more
          have leftOver : 0 < remaining := by
            have repairs : maxRepairs = 2 := rfl
            have calls : maxCandidateModelCalls = 3 := rfl
            omega
          refine saves_attempted.trusting.then fun feedback => ?_
          refine saves_repair.trusting.then fun next => ?_
          exact ih leftOver (List.mem_append_right _ (List.mem_singleton.mpr rfl)) rfl
      cases isValidated : round.attempt.validated with
      | none =>
          rw [tryCandidates_of_none isValidated]
          have noArtifact : round.attempt.artifactSha256 p.digest = none := by
            rw [CandidateAttempt.artifactSha256, isValidated]
            rfl
          refine more ?_
          rw [unchallenged]
          exact .inr ⟨round.attempt, isCurrent, noArtifact⟩
      | some candidate =>
          rw [tryCandidates_of_some isValidated]
          refine (saves_executeCandidate upheld isCurrent isValidated).bind ?_
          rintro ⟨report, round⟩ after
          cases report with
          | some report => exact after.1 report rfl
          | none => exact more after.2.accounts

theorem saves_pursueClaim (upheld : Upheld Good Trusted) {run : VerificationRun}
    {context : p.Context} {contract : p.Contract} {existingPaths : List String}
    {claim : BehavioralClaim} {claimResult : ClaimAgentResult} {transcript : Option p.Transcript} :
    SavesTrusting Good Trusted Good (pursueClaim workflow runId run context contract existingPaths
      claim claimResult transcript) := by
  refine saves_external.trusting.then fun environmentReadiness => ?_
  generalize EnvironmentReadinessEvidence.fromDomain environmentReadiness = readiness
  refine saves_attempted.trusting.then fun readiness => ?_
  split
  · refine saves_transition.trusting.then fun run => ?_
    refine saves_external.trusting.then fun signatures => ?_
    refine saves_installedImportRoots.trusting.then fun roots => ?_
    refine saves_generateInitial.trusting.then fun first => ?_
    exact saves_tryCandidates upheld _ (by decide) (List.mem_singleton.mpr rfl) rfl
  · exact (saves_conclude fun createdAt report built =>
      upheld.abstention accountFor_nil built).trusting

theorem saves_lead (upheld : Upheld Good Trusted) {run : VerificationRun} {context : p.Context}
    {contract : p.Contract} {existingPaths : List String} :
    SavesTrusting Good Trusted Good (lead workflow runId run context contract existingPaths) := by
  refine saves_selectClaim.trusting.then fun selected => ?_
  dsimp only
  cases selected.1.selection.claim with
  | none =>
      exact (saves_conclude fun createdAt report built =>
        upheld.abstention accountFor_nil built).trusting
  | some claim => exact saves_withSession (saves_pursueClaim upheld)

theorem saves_compute (upheld : Upheld Good Trusted) :
    SavesTrusting Good Trusted Good (compute workflow runId) := by
  refine saves_getRun.trusting.then fun run => ?_
  refine saves_demanded.trusting.then fun _ => ?_
  refine saves_demanded.trusting.then fun _ => ?_
  refine saves_admitContract.trusting.then fun contract => ?_
  refine saves_external.trusting.then fun existingPaths => ?_
  refine saves_start.trusting.then fun run => ?_
  refine saves_external.trusting.then fun context => ?_
  exact saves_transition.trusting.then fun run => saves_lead upheld

/-- A replayed report has what the stored one has. -/
theorem saves_replay {prior : StoredEvidence p.Document} (stored : Encodes Good prior) :
    Saves Good Good (replay runId prior) := by
  obtain ⟨report, encodes, good⟩ := stored
  refine saves_attempt.bind fun decoded reads => ?_
  rw [encodes, p.decode_encode] at reads
  obtain rfl := Except.ok.inj reads
  refine saves_getRun.then fun durableRun => ?_
  split
  · exact (saves_persistTerminal good).then fun _ => good
  · exact good

/-- **The workflow saves only reports with the property, and returns one.** -/
theorem execute_saves (upheld : Upheld Good Trusted) :
    SavesTrusting Good Trusted Good (execute workflow runId) := by
  intro reply reads
  refine ⟨(), trivial, ?_⟩
  cases reply with
  | error exception => trivial
  | ok prior =>
      cases prior with
      | some prior => exact (saves_replay reads.1.2).trusting
      | none => exact saves_compute upheld

theorem saves_runReliably (upheld : Upheld Good Trusted) :
    SavesTrusting Good Trusted Good (runReliably workflow runId) :=
  (execute_saves upheld).catching fun _ => saves_recordFailure.trusting.then fun _ => trivial

end Workflow

/-! ## The whole service saves such reports -/

section Service

variable {Good : p.Report → Prop} {Trusted : ChallengeResult → Prop} {runId : RunId}

/-- A publish attempt saves nothing. -/
theorem saves_publish : Saves Good (fun _ => True) (publish runId : Activity p CheckPublication) := by
  refine saves_of_follows (@publish_advances p runId) (fun _ _ answers => answers) ?_
  intro stage call reply moved move
  cases move <;> trivial

theorem saves_settle {run : VerificationRun} :
    Saves Good (fun _ => True) (settle runId run : Activity p Unit) := by
  unfold settle
  split
  · exact saves_publish.then fun _ => trivial
  · refine saves_getRun.then fun run => ?_
    split
    · refine Saves.then (saves_perform ?_) fun _ => trivial
      trivial
    · trivial

theorem saves_composeAndRun (upheld : Upheld Good Trusted) {run : VerificationRun} :
    SavesTrusting Good Trusted (fun _ => True) (composeAndRun runId run : Activity p Unit) := by
  have running : ∀ contract : p.Contract, SavesTrusting Good Trusted (fun _ => True) (do
      let _ ← runReliably
        { challenge := .executor
          runnerContract := contract
          installDependencies := true
          investigates := isProductAnalysis run } runId : Activity p Unit) :=
    fun contract => (saves_runReliably upheld).bind fun _ _ => trivial
  refine saves_external.trusting.then fun _ => ?_
  dsimp only
  split
  · exact saves_external.trusting.then running
  · refine saves_external.trusting.then fun raw => ?_
    exact saves_attempted.trusting.then running

theorem saves_process (upheld : Upheld Good Trusted) {deployment : Deployment} :
    SavesTrusting Good Trusted (fun _ => True) (process deployment runId : Activity p Unit) := by
  refine saves_getRun.trusting.then fun run => ?_
  refine saves_demanded.trusting.then fun _ => ?_
  have reading : Saves Good (fun _ => True)
      (perform (.getEvidence runId) : Activity p (Option (StoredEvidence p.Document))) :=
    saves_perform trivial
  refine reading.trusting.then fun prior => ?_
  cases prior with
  | some prior => exact saves_settle.trusting
  | none =>
      refine saves_external.trusting.then fun _ => ?_
      have handled : SavesTrusting Good Trusted (fun _ => True) ((composeAndRun runId run).catching
          fun exception => do
            external .removeTemporaryDirectory ()
            Program.raise exception : Activity p Unit) :=
        (saves_composeAndRun upheld).catching fun _ => saves_external.trusting.then fun _ => trivial
      have released : SavesTrusting Good Trusted (fun _ => True)
          (releasing (composeAndRun runId run) (external .removeTemporaryDirectory ()) :
            Activity p Unit) :=
        handled.then fun _ => saves_external.trusting.then fun _ => trivial
      exact released.then fun _ => saves_settle.trusting

theorem saves_verifyTask (upheld : Upheld Good Trusted) {deployment : Deployment} :
    SavesTrusting Good Trusted (fun _ => True)
      (verifyTask deployment runId : Activity p TaskAnswer) := by
  have answering : SavesTrusting Good Trusted (fun _ => True) (do
      process deployment runId
      return TaskAnswer.completed : Activity p TaskAnswer) :=
    (saves_process upheld).then fun _ => trivial
  refine answering.catching fun exception => Saves.trusting ?_
  unfold answerException
  split
  · trivial
  · trivial
  · trivial
  · split
    · trivial
    · exact saves_recordFailure.then fun _ => trivial

theorem Duty.routine_saves (upheld : Upheld Good Trusted) (duty : Duty p) :
    SavesTrusting Good Trusted (fun _ => True) duty.routine := by
  cases duty with
  | accept event =>
      intro reply _
      refine ⟨(), trivial, ?_⟩
      cases reply <;> trivial
  | deliver deployment runId => exact (saves_verifyTask upheld).then fun _ => trivial
  | work workflow runId => exact (saves_runReliably upheld).bind fun _ _ => trivial
  | publish runId => exact saves_publish.trusting.then fun _ => trivial

/-- The stored evidence of every run encodes a report with the property. -/
def StoresGood (Good : p.Report → Prop) (store : SqliteStore p.Document) : Prop :=
  ∀ runId stored, (store.view runId).evidence = some stored → Encodes Good stored

/-- A call that saves only reports with the property leaves only such reports stored. -/
theorem StoresGood.answered {store : SqliteStore p.Document} (stores : StoresGood Good store)
    (moment : Moment p) (call : ServiceCall p) (saves : SavesGood Good call) :
    StoresGood Good ((service p).answer store moment call).2 := by
  cases call with
  | external kind request => exact stores
  | store call =>
      intro runId stored found
      have observed := store.perform_observed p.sha256Of moment.storeInput call runId
      have before := stores runId
      change ((store.perform p.sha256Of moment.storeInput call).2.view runId).evidence = _ at found
      revert observed found
      generalize (store.perform p.sha256Of moment.storeInput call).1 = reply
      generalize (store.perform p.sha256Of moment.storeInput call).2.view runId = after
      intro observed found
      cases observed with
      | saved hashes present fresh =>
          obtain rfl := Option.some.inj found
          exact saves
      | _ => exact before stored found

/-- What is read of stored evidence has the property. -/
theorem StoresGood.reads {store : SqliteStore p.Document} (stores : StoresGood Good store)
    (moment : Moment p) (call : ServiceCall p) :
    ReadsGood Good call ((service p).answer store moment call).1 := by
  cases call with
  | external kind request => trivial
  | store call =>
      cases call with
      | getEvidence runId =>
          change ReadsGood Good (.store (.getEvidence runId)) (.ok (store.view runId).evidence)
          cases found : (store.view runId).evidence with
          | none => trivial
          | some stored => exact stores runId stored found
      | _ => trivial

/-- At this moment the executor answers with a challenge result that is trusted. -/
def Moment.Trusts (Trusted : ChallengeResult → Prop) (moment : Moment p) : Prop :=
  ∀ challenge, moment.answer .challengeRemotely = .ok challenge → Trusted challenge

theorem Moment.Trusts.answers {moment : Moment p} (trusts : moment.Trusts Trusted)
    (store : SqliteStore p.Document) (call : ServiceCall p) :
    AnswersTrusted Trusted call ((service p).answer store moment call).1 := by
  cases call with
  | store call => trivial
  | external kind request =>
      cases kind with
      | challengeRemotely =>
          change AnswersTrusted Trusted (.external .challengeRemotely request)
            (moment.answer .challengeRemotely)
          cases answered : moment.answer .challengeRemotely with
          | ok challenge => exact trusts challenge answered
          | error exception => trivial
      | _ => trivial

variable {ι : Type} [DecidableEq ι]

theorem storesGood_keeps :
    Pool.Keeps (service p) (fun _ : ι => trustingProtocol Good Trusted)
      (fun (_ : Pool ι (ServiceCall.Reply p) (SqliteStore p.Document) RaisedException Unit)
        _ _ moment => moment.Trusts Trusted)
      (fun store history _ => StoresGood Good store ∧
        ∀ event ∈ history, SavesGood Good event.call) where
  assumed holds trusts :=
    ⟨⟨answersOwn_service _ _ _, holds.1.reads _ _⟩, trusts.answers _ _⟩
  kept holds _ move := ⟨holds.1.answered _ _ move, List.forall_mem_cons.mpr ⟨move, holds.2⟩⟩

/-- **Wherever a schedule leads, all stored evidence and everything that was to be saved is
reports with the property**, when the executor is trusted at every moment. -/
theorem reachedPool_saves (upheld : Upheld Good Trusted) (duties : ι → Duty p)
    (schedule : List (ι × Moment p)) (trusts : ∀ tick ∈ schedule, tick.2.Trusts Trusted) :
    StoresGood Good (reachedPool duties schedule).shared ∧
      ∀ event ∈ (reachedPool duties schedule).history, SavesGood Good event.call := by
  have started : Pool.Accounted (fun _ : ι => trustingProtocol Good Trusted) (fun _ _ _ => True)
      (fun _ _ _ => True) (fun store history _ => StoresGood Good store ∧
        ∀ event ∈ history, SavesGood Good event.call) (startedPool duties) fun _ => () := by
    refine ⟨fun who => (duties who).routine_saves upheld, fun runId stored absurdity => ?_, ?_⟩
    · cases absurdity
    · exact List.forall_mem_nil _
  obtain ⟨roles, accounted⟩ := Pool.run_invariant started storesGood_keeps schedule
    (Pool.along_of_forall_mem schedule (fun tick mem _ _ => trusts tick mem) _)
  exact accounted.holds

end Service

/-! ## Saved reports are composed -/

/-- Reports of the platform that are composed. -/
abbrev Platform.Composed (p : Platform) (report : p.Report) : Prop := report.Composed

/-- No trust is needed for reports to be composed. -/
theorem composed_upheld : Upheld p.Composed fun _ => True where
  classified _ := trivial
  abstention := abstentionReport_composed
  completion accounts _ _ _ _ built := completedReport_composed accounts built

/-- **Wherever a schedule leads, all stored evidence is composed reports.** -/
theorem reachedPool_composed {ι : Type} [DecidableEq ι] (duties : ι → Duty p)
    (schedule : List (ι × Moment p)) :
    StoresGood p.Composed (reachedPool duties schedule).shared :=
  (reachedPool_saves composed_upheld duties schedule fun _ _ _ _ => trivial).1

end PatchProof
