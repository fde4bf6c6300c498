import PatchProof.Protocol.Task

/-!
# Where a publish attempt stands

An attempt checks that its run is completed, begins, and then asks GitHub; whatever
else a routine does ends its attempt.  GitHub is asked only from an attempt that has
begun, and an attempt begins only after a read that showed the run completed.  Workers
never ask GitHub and never begin a publication, so they need no roles of their own.
-/

set_option autoImplicit false

namespace PatchProof

variable {p : Platform}

/-! ## Moves -/

/-- Where a routine stands with an attempt. -/
inductive AttemptRole where
  | idle
  | checked
  | begun
  deriving DecidableEq

/-- The calls that neither begin a publication nor ask GitHub. -/
def ServiceCall.isQuiet : ServiceCall p → Bool
  | .store (.beginPublication _ _) => false
  | .store _ => true
  | .external kind _ => !kind.asksGithub

/-- The moves of a routine with an attempt. -/
inductive AttemptMove (runId : RunId) :
    AttemptRole → (call : ServiceCall p) → ServiceCall.Reply p call → AttemptRole → Prop
  | leaves {role call reply} (quiet : call.isQuiet = true) : AttemptMove runId role call reply .idle
  | checks {role} {run : VerificationRun} (completed : run.toRunRow.Completed) :
      AttemptMove runId role (.store (.getRun runId)) (.ok run) .checked
  | recalls {reply} : AttemptMove runId .checked (.store (.getEvidence runId)) reply .checked
  | begins {payloadSha256 publication} :
      AttemptMove runId .checked (.store (.beginPublication runId payloadSha256)) (.ok publication)
        .begun
  | beginsNot {payloadSha256 exception} :
      AttemptMove runId .checked (.store (.beginPublication runId payloadSha256)) (.error exception)
        .idle
  | rereads {reply} : AttemptMove runId .begun (.store (.getRun runId)) reply .begun
  | reopens {version reply} :
      AttemptMove runId .begun
        (.store (.transitionRun runId version { publicationState := some .pending })) reply .begun
  | asks {kind request reply} (asks : kind.asksGithub = true) :
      AttemptMove runId .begun (.external kind request) reply .begun

/-- The protocol of a routine with an attempt. -/
def attemptProtocol (p : Platform) (runId : RunId) :
    Protocol (ServiceCall.Reply p) AttemptRole where
  Assumes := AnswersOwn
  Move := AttemptMove runId

/-- Workers are quiet. -/
theorem WorkerMove.isQuiet {runId : RunId} {role moved : WorkerRole p} {call : ServiceCall p}
    {reply : ServiceCall.Reply p call} (move : WorkerMove runId role call reply moved) :
    call.isQuiet = true := by
  cases move with
  | @asks _ kind _ _ plain => cases kind <;> first | rfl | cases plain
  | @consults kind _ _ consulted => cases kind <;> first | rfl | cases consulted
  | _ => rfl

section Follows

variable {runId : RunId} {role : AttemptRole} {α β : Type}

/-- From a role on, a routine follows the protocol and returns as stated. -/
abbrev Attempts (runId : RunId) (onReturn : AttemptRole → α → Prop) (role : AttemptRole)
    (program : Activity p α) : Prop :=
  Program.Follows (attemptProtocol p runId) onReturn (fun _ _ => True) role program

/-- From a role on, a routine follows the protocol. -/
abbrev Attempting (runId : RunId) (role : AttemptRole) (program : Activity p α) : Prop :=
  Attempts runId (fun _ _ => True) role program

theorem Attempting.bind {program : Activity p α} {rest : α → Activity p β}
    (first : Attempting runId role program)
    (second : ∀ role value, Attempting runId role (rest value)) :
    Attempting runId role (program >>= rest) :=
  Program.Follows.bind first fun role value _ => second role value

theorem Attempting.catching {program : Activity p α} {handler : RaisedException → Activity p α}
    (body : Attempting runId role program)
    (handles : ∀ role exception, Attempting runId role (handler exception)) :
    Attempting runId role (program.catching handler) :=
  Program.Follows.catching body fun role exception _ => handles role exception

theorem attempting_perform {call : StoreCall p.Document}
    (quiet : (ServiceCall.store call : ServiceCall p).isQuiet = true) :
    Attempting runId role (perform call) := by
  intro reply _
  refine ⟨.idle, .leaves quiet, ?_⟩
  cases reply <;> trivial

theorem attempting_external {kind : ExternalKind} {request : kind.Request p}
    (quiet : (ServiceCall.external kind request : ServiceCall p).isQuiet = true) :
    Attempting runId role (external kind request) := by
  intro reply _
  refine ⟨.idle, .leaves quiet, ?_⟩
  cases reply <;> trivial

theorem attempting_attempt {outcome : Except RaisedException α} :
    Attempting runId role (attempt outcome : Activity p α) := by
  cases outcome <;> trivial

theorem attempting_demand {condition : Prop} [Decidable condition] {exception : RaisedException} :
    Attempting runId role (Program.demand condition exception : Activity p Unit) :=
  .demand (fun _ => trivial) fun _ => trivial

/-- A part of a routine that leaves the role. -/
abbrev Staying (runId : RunId) (role : AttemptRole) (program : Activity p α) : Prop :=
  Attempts runId (fun moved _ => moved = role) role program

theorem Staying.bind {program : Activity p α} {rest : α → Activity p β}
    (first : Staying runId role program) (second : ∀ value, Staying runId role (rest value)) :
    Staying runId role (program >>= rest) := by
  refine Program.Follows.bind first fun moved value same => ?_
  subst same
  exact second value

/-- What follows a part that leaves the role. -/
theorem Staying.then {program : Activity p α} {rest : α → Activity p β}
    (first : Staying runId role program) (second : ∀ value, Attempting runId role (rest value)) :
    Attempting runId role (program >>= rest) := by
  refine Program.Follows.bind first fun moved value same => ?_
  subst same
  exact second value

theorem staying_demand {condition : Prop} [Decidable condition] {exception : RaisedException} :
    Staying runId role (Program.demand condition exception : Activity p Unit) :=
  .demand (fun _ => rfl) fun _ => trivial

theorem staying_attempt {outcome : Except RaisedException α} :
    Staying runId role (attempt outcome : Activity p α) := by
  cases outcome <;> trivial

theorem staying_perform {call : StoreCall p.Document}
    (moves : ∀ reply, AttemptMove runId role (.store call) reply role) :
    Staying runId role (perform call) := by
  intro reply _
  refine ⟨role, moves reply, ?_⟩
  cases reply <;> trivial

/-! ## Asking GitHub -/

theorem staying_upsertCompleted {repository : RepositoryName}
    {installationId : Option PositiveInt} {payload : GitHubCheckPayload} {known : Option Int} :
    Staying runId .begun (upsertCompleted repository installationId payload known : Activity p Int) := by
  have idles : Idles (attemptProtocol p runId) .begun
      (upsertCompleted repository installationId payload known : Activity p Int) :=
    idles_upsertCompleted fun _ _ _ github => AttemptMove.asks github
  exact idles.mono (fun _ _ same => same) fun _ _ _ => trivial

/-! ## Attempts -/

theorem attempting_movePublication {state : PublicationState} :
    Attempting runId role (movePublication (p := p) runId state) :=
  (attempting_perform rfl).bind fun _ _ => (attempting_perform rfl).bind fun _ _ => trivial

theorem attempting_withdraw {error : String} {state : PublicationState}
    {exception : RaisedException} :
    Attempting runId role (withdraw runId error state exception : Activity p α) :=
  (attempting_perform rfl).bind fun _ _ => attempting_movePublication.bind fun _ _ => trivial

theorem attempting_announceOrWithdraw {run : VerificationRun} {payload : GitHubCheckPayload}
    {publication : CheckPublication} :
    Attempting runId .begun (announceOrWithdraw (p := p) runId run payload publication) := by
  have announcing : Attempting runId .begun (announce (p := p) runId run payload publication) :=
    staying_upsertCompleted.then fun checkRunId => attempting_perform rfl
  refine announcing.catching fun role exception => ?_
  cases exception with
  | checkRetryable message => exact attempting_withdraw
  | checkTerminal message => exact attempting_withdraw
  | _ => trivial

theorem attempting_deliver {payload : GitHubCheckPayload} :
    Attempting runId .checked (deliver (p := p) runId payload) := by
  have announcing : ∀ (run : VerificationRun) (publication : CheckPublication),
      Attempting runId .begun (do
        let publication ← announceOrWithdraw runId run payload publication
        movePublication runId .published
        return publication : Activity p CheckPublication) := fun run publication =>
    attempting_announceOrWithdraw.bind fun _ _ => attempting_movePublication.bind fun _ _ => trivial
  have begins : Attempts runId (fun moved _ => moved = .begun) .checked
      (perform (.beginPublication runId (p.payloadSha256 payload).text) :
        Activity p CheckPublication) := by
    intro reply _
    cases reply with
    | ok publication => exact ⟨.begun, .begins, rfl⟩
    | error exception => exact ⟨.idle, .beginsNot, trivial⟩
  have rereads : Staying runId .begun (perform (.getRun runId) : Activity p VerificationRun) :=
    staying_perform fun _ => .rereads
  refine Program.Follows.bind begins fun moved publication same => ?_
  subst same
  refine rereads.then fun run => ?_
  dsimp only
  split
  · have reopens : Staying runId .begun (perform (.transitionRun runId run.version
        { publicationState := some .pending }) : Activity p VerificationRun) :=
      staying_perform fun _ => .reopens
    exact reopens.then fun run => announcing run publication
  · exact announcing run publication

/-- **A publish attempt follows the protocol.** -/
theorem publish_attempts : Attempting runId role (publish (p := p) runId) := by
  intro reply _
  cases reply with
  | error exception => exact ⟨.idle, .leaves rfl, trivial⟩
  | ok run =>
      by_cases completed : run.toRunRow.Completed
      · refine ⟨.checked, .checks completed, ?_⟩
        refine staying_demand.then fun _ => ?_
        refine staying_demand.then fun _ => ?_
        refine (staying_perform fun _ => .recalls).then fun evidence => ?_
        cases evidence with
        | none => trivial
        | some evidence =>
            refine staying_attempt.then fun report => ?_
            split
            · refine (attempting_perform rfl).bind fun _ publication => ?_
              cases publication with
              | none => trivial
              | some publication => exact attempting_demand.bind fun _ _ => trivial
            · exact staying_demand.then fun _ => attempting_deliver
      · refine ⟨.idle, .leaves rfl, ?_⟩
        refine attempting_demand.bind fun role _ => ?_
        have refused : (Program.demand (run.lifecycle = .terminal ∧
            run.terminalReason = some .completed)
            (.runtime "publication requires a completed verification run") : Activity p Unit) =
            Program.raise (.runtime "publication requires a completed verification run") :=
          if_neg completed
        rw [refused]
        trivial

/-! ## Tasks -/

/-- A routine that follows the protocol without an attempt follows it with one. -/
theorem Attempting.anywhere {program : Activity p α} (attempting : Attempting runId .idle program) :
    Attempting runId role program := by
  refine attempting.standIn (fun call reply moved move => ?_) (fun _ _ => trivial)
    fun _ _ => trivial
  cases move with
  | leaves quiet => exact .leaves quiet
  | checks completed => exact .checks completed

/-- A worker within a routine. -/
theorem attempting_runReliably {workflow : EvidenceWorkflow p} :
    Attempting runId role (runReliably workflow runId) := by
  have placed : Program.Follows (attemptProtocol p runId)
      (fun moved report => ∃ worker : WorkerRole p, moved = .idle ∧ worker.Returns report)
      (fun moved _ => ∃ _ : WorkerRole p, moved = .idle ∧ True) .idle
      (runReliably workflow runId) :=
    (runReliably_follows workflow).embed (fun _ => AttemptRole.idle) (fun _ _ assumed => assumed)
      fun _ _ _ _ move => AttemptMove.leaves move.isQuiet
  have idle : Attempting runId .idle (runReliably workflow runId) :=
    placed.mono (fun _ _ _ => trivial) fun _ _ _ => trivial
  exact idle.anywhere

theorem attempting_recordFailure {exception : RaisedException} :
    Attempting runId role (recordFailure runId exception : Activity p Unit) := by
  refine (attempting_perform rfl).bind fun _ run => ?_
  split
  · exact (attempting_perform rfl).bind fun _ _ => trivial
  · trivial

theorem attempting_settle {run : VerificationRun} :
    Attempting runId role (settle runId run : Activity p Unit) := by
  unfold settle
  split
  · exact publish_attempts.bind fun _ _ => trivial
  · refine (attempting_perform rfl).bind fun _ latest => ?_
    split
    · exact (attempting_perform rfl).bind fun _ _ => trivial
    · trivial

theorem attempting_composeAndRun {run : VerificationRun} :
    Attempting runId role (composeAndRun runId run : Activity p Unit) := by
  have composing : ∀ (role : AttemptRole) (contract : p.Contract), Attempting runId role (do
      let _ ← runReliably {
        challenge := .executor
        runnerContract := contract
        installDependencies := true
        investigates := isProductAnalysis run } runId
      return () : Activity p Unit) := fun role contract =>
    attempting_runReliably.bind fun _ _ => trivial
  unfold composeAndRun
  refine (attempting_external rfl).bind fun _ _ => ?_
  split
  · exact (attempting_external rfl).bind composing
  · refine (attempting_external rfl).bind fun _ raw => ?_
    exact attempting_attempt.bind composing

theorem process_attempts (deployment : Deployment) :
    Attempting runId role (process deployment runId : Activity p Unit) := by
  refine (attempting_perform rfl).bind fun _ run => ?_
  refine attempting_demand.bind fun _ _ => ?_
  refine (attempting_perform rfl).bind fun _ evidence => ?_
  cases evidence with
  | some evidence => exact attempting_settle
  | none =>
      have handled : ∀ role, Attempting runId role ((composeAndRun runId run).catching
          fun exception => do
            external .removeTemporaryDirectory ()
            Program.raise exception : Activity p Unit) := fun role =>
        attempting_composeAndRun.catching fun _ _ =>
          (attempting_external rfl).bind fun _ _ => trivial
      have released : ∀ role, Attempting runId role
          (releasing (composeAndRun runId run) (external .removeTemporaryDirectory ()) :
            Activity p Unit) := fun role =>
        (handled role).bind fun _ _ => (attempting_external rfl).bind fun _ _ => trivial
      refine (attempting_external rfl).bind fun role _ => ?_
      exact (released role).bind fun _ _ => attempting_settle

theorem verifyTask_attempts (deployment : Deployment) :
    Attempting runId role (verifyTask deployment runId : Activity p TaskAnswer) := by
  have answering : Attempting runId role (do
      process deployment runId
      return TaskAnswer.completed : Activity p TaskAnswer) :=
    (process_attempts deployment).bind fun _ _ => trivial
  refine answering.catching fun role exception => ?_
  have recording : Attempting runId role (do
      recordFailure runId exception
      return TaskAnswer.terminal : Activity p TaskAnswer) :=
    attempting_recordFailure.bind fun _ _ => trivial
  unfold answerException
  split
  · trivial
  · trivial
  · trivial
  · split
    · trivial
    · exact recording

end Follows

/-! ## Duties -/

namespace Duty

/-- The moves of a duty, seen from its attempt. -/
inductive Tries (duty : Duty p) :
    AttemptRole → (call : ServiceCall p) → ServiceCall.Reply p call → AttemptRole → Prop
  | accepts {role event reply} (is : duty = accept event) :
      Tries duty role (.store (.acceptPullRequest event)) reply role
  | attempts {runId role call reply moved} (about : duty.runId = some runId)
      (move : AttemptMove runId role call reply moved) : Tries duty role call reply moved

/-- The protocol of a duty, seen from its attempt. -/
def attempting (duty : Duty p) : Protocol (ServiceCall.Reply p) AttemptRole where
  Assumes := AnswersOwn
  Move := Tries duty

/-- **Every duty follows this protocol, too.** -/
theorem routine_attempts (duty : Duty p) :
    Program.Follows duty.attempting (fun _ _ => True) (fun _ _ => True) .idle duty.routine := by
  have ofAttempting : ∀ {runId : RunId} {α : Type} {program : Activity p α},
      duty.runId = some runId → Attempting runId .idle program →
      Program.Follows duty.attempting (fun _ _ => True) (fun _ _ => True) .idle program := by
    intro runId α program about attempting
    have placed : Program.Follows duty.attempting (fun moved _ => ∃ role, moved = id role ∧ True)
        (fun moved _ => ∃ role, moved = id role ∧ True) (id .idle) program :=
      Program.Follows.embed id attempting (fun _ _ assumed => assumed)
        fun _ _ _ _ move => Tries.attempts about move
    exact placed.mono (fun _ _ _ => trivial) fun _ _ _ => trivial
  cases duty with
  | accept event =>
      intro reply _
      refine ⟨.idle, .accepts rfl, ?_⟩
      cases reply <;> trivial
  | deliver deployment runId =>
      exact (ofAttempting rfl (verifyTask_attempts deployment)).bind fun _ _ _ => trivial
  | work workflow runId =>
      exact (ofAttempting rfl attempting_runReliably).bind fun _ _ _ => trivial
  | publish runId => exact (ofAttempting rfl publish_attempts).bind fun _ _ _ => trivial

end Duty

end PatchProof
