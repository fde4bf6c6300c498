import PatchProof.Cloud.Task
import PatchProof.Protocol.Publishing

/-!
# What the parts of the service may ask

Everything that runs in the service as one family of routines: acceptances of events,
task deliveries, workers, and publish attempts.  A task keeps what its first read of
the run showed about the installation, and gives up publication only if that read
showed none; a publication moves only after a read that showed the run completed.
-/

set_option autoImplicit false

namespace PatchProof

variable {p : Platform}

/-! ## Moves -/

/-- Where a routine about a run stands: whether its first read showed an installation,
whether a read showed the run completed, and where the worker in it stands. -/
structure TaskRole (p : Platform) where
  snapshot : Option Bool := none
  closed : Bool := false
  worker : WorkerRole p := .entered

/-- The operations by which a publication is kept, giving up apart. -/
def StoreCall.Publishes {Document : Type} (runId : RunId) : StoreCall Document → Prop
  | .getPublication target | .beginPublication target _ | .setCheckRunId target _
  | .recordPublicationError target _ => target = runId
  | .transitionRun target _ transition => target = runId ∧ ∃ state, state ≠ .notApplicable ∧
      transition =
        { publicationState := some state
          requireChange := RunTransition.publication_changes state }
  | _ => False

/-- The transition by which publication is given up. -/
def RunTransition.waiving : RunTransition where
  publicationState := some .notApplicable
  requireChange := RunTransition.publication_changes .notApplicable

/-- Whether a run has been completed. -/
def RunRow.Completed (row : RunRow) : Prop :=
  row.lifecycle = .terminal ∧ row.terminalReason = some .completed

/-- The moves of a routine for one run. -/
inductive TaskMove (runId : RunId) :
    TaskRole p → (call : ServiceCall p) → ServiceCall.Reply p call → TaskRole p → Prop
  | works {role call reply moved} (move : WorkerMove runId role.worker call reply moved) :
      TaskMove runId role call reply { role with worker := moved }
  | asks {role kind request reply} : TaskMove runId role (.external kind request) reply role
  | reads {role reply} : TaskMove runId role (.store (.getRun runId)) reply role
  | fails {role errorCode summary retryable modelUsage rawResponseSha256 reply} :
      TaskMove runId role (.store (.failRun runId errorCode summary retryable modelUsage
        rawResponseSha256)) reply role
  | opens {role} {run : VerificationRun} (unopened : role.snapshot = none) :
      TaskMove runId role (.store (.getRun runId)) (.ok run)
        { role with snapshot := some run.installationId.isSome }
  | sees {role} {run : VerificationRun} (completed : run.toRunRow.Completed) :
      TaskMove runId role (.store (.getRun runId)) (.ok run) { role with closed := true }
  | waives {role version reply} (saw : role.snapshot = some false) :
      TaskMove runId role (.store (.transitionRun runId version .waiving)) reply role
  | publishes {role call reply} (closed : role.closed = true) (publishes : call.Publishes runId) :
      TaskMove runId role (.store call) reply role

/-- The protocol of a routine for one run. -/
def taskProtocol (p : Platform) (runId : RunId) :
    Protocol (ServiceCall.Reply p) (TaskRole p) where
  Assumes := AnswersOwn
  Move := TaskMove runId

section Follows

variable {runId : RunId} {role : TaskRole p} {α β : Type}

/-- From a role on, a routine follows the protocol and returns as stated. -/
abbrev Tasks (runId : RunId) (onReturn : TaskRole p → α → Prop) (role : TaskRole p)
    (program : Activity p α) : Prop :=
  Program.Follows (taskProtocol p runId) onReturn (fun _ _ => True) role program

/-- A worker within a routine. -/
theorem tasks_runReliably (fresh : role.worker = .entered) (workflow : EvidenceWorkflow p) :
    Tasks runId (fun moved _ => moved.snapshot = role.snapshot) role
      (runReliably workflow runId) := by
  let place (worker : WorkerRole p) : TaskRole p := { role with worker := worker }
  have placed : Program.Follows (taskProtocol p runId)
      (fun moved report => ∃ worker, moved = place worker ∧ worker.Returns report)
      (fun moved _ => ∃ worker, moved = place worker ∧ True) (place .entered)
      (runReliably workflow runId) :=
    (runReliably_follows workflow).embed place (fun _ _ assumed => assumed)
      fun _ _ _ _ move => TaskMove.works move
  have same : role = place .entered := by
    cases role
    cases fresh
    rfl
  rw [same]
  exact placed.mono (fun _ _ ⟨_, same, _⟩ => same ▸ rfl) fun _ _ _ => trivial

/-! ## Routines that leave the role -/

/-- Every call is a move that leaves the role. -/
abbrev Stays (runId : RunId) (role : TaskRole p) (program : Activity p α) : Prop :=
  Program.Follows (taskProtocol p runId) (fun moved _ => moved = role) (fun moved _ => moved = role)
    role program

theorem Stays.tasks {onReturn : TaskRole p → α → Prop} {program : Activity p α}
    (stays : Stays runId role program) (returns : ∀ value, onReturn role value) :
    Tasks runId onReturn role program :=
  stays.mono (fun _ value same => same ▸ returns value) fun _ _ _ => trivial

theorem Stays.bind {program : Activity p α} {rest : α → Activity p β}
    (first : Stays runId role program) (second : ∀ value, Stays runId role (rest value)) :
    Stays runId role (program >>= rest) :=
  Program.Follows.bind first fun _ value same => same ▸ second value

/-- The bind rule after a routine that leaves the role. -/
theorem Stays.then {after : TaskRole p → β → Prop} {program : Activity p α}
    {rest : α → Activity p β} (first : Stays runId role program)
    (second : ∀ value, Tasks runId after role (rest value)) :
    Tasks runId after role (program >>= rest) := by
  have tasks : Tasks runId (fun moved _ => moved = role) role program := first.tasks fun _ => rfl
  exact Program.Follows.bind tasks fun _ value same => same ▸ second value

theorem stays_perform {call : StoreCall p.Document}
    (moves : ∀ reply, TaskMove runId role (.store call) reply role) :
    Stays runId role (perform call) := by
  intro reply _
  refine ⟨role, moves reply, ?_⟩
  cases reply <;> rfl

theorem stays_getRun : Stays runId role (perform (.getRun runId)) :=
  stays_perform fun _ => .reads

theorem stays_external {kind : ExternalKind} {request : kind.Request p} :
    Stays runId role (external kind request) := by
  intro reply _
  refine ⟨role, .asks, ?_⟩
  cases reply <;> rfl

theorem stays_attempt {outcome : Except RaisedException α} :
    Stays runId role (attempt outcome) := by
  cases outcome <;> rfl

theorem stays_demand {condition : Prop} [Decidable condition] {exception : RaisedException} :
    Stays runId role (Program.demand condition exception) :=
  .demand (fun _ => rfl) fun _ => rfl

/-! ## Publishing -/

theorem stays_upsertCompleted {repository : RepositoryName} {installationId : Option PositiveInt}
    {payload : GitHubCheckPayload} {known : Option Int} :
    Stays runId role (upsertCompleted repository installationId payload known) :=
  idles_upsertCompleted fun _ _ _ _ => TaskMove.asks

section Closed

variable (closed : role.closed = true)

include closed

theorem stays_keep {call : StoreCall p.Document} (publishes : call.Publishes runId) :
    Stays runId role (perform call) :=
  stays_perform fun _ => .publishes closed publishes

theorem stays_movePublication {state : PublicationState} (kept : state ≠ .notApplicable) :
    Stays runId role (movePublication (p := p) runId state) := by
  refine stays_getRun.bind fun latest => ?_
  have publishes : StoreCall.Publishes runId (.transitionRun runId latest.version
      { publicationState := some state } : StoreCall p.Document) := ⟨rfl, state, kept, rfl⟩
  exact (stays_keep closed publishes).bind fun _ => rfl

theorem stays_withdraw {error : String} {state : PublicationState} {exception : RaisedException}
    (kept : state ≠ .notApplicable) :
    Stays runId role (withdraw runId error state exception : Activity p α) := by
  have publishes : StoreCall.Publishes runId (.recordPublicationError runId error :
      StoreCall p.Document) := rfl
  refine (stays_keep closed publishes).bind fun _ => ?_
  exact (stays_movePublication closed kept).bind fun _ => rfl

theorem stays_announceOrWithdraw {run : VerificationRun} {payload : GitHubCheckPayload}
    {publication : CheckPublication} :
    Stays runId role (announceOrWithdraw runId run payload publication) := by
  have announcing : Stays runId role (announce runId run payload publication) := by
    refine stays_upsertCompleted.bind fun checkRunId => ?_
    exact stays_keep closed (show StoreCall.Publishes runId (.setCheckRunId runId checkRunId) from rfl)
  refine announcing.catching fun moved exception same => ?_
  subst same
  cases exception with
  | checkRetryable message => exact stays_withdraw closed (by decide)
  | checkTerminal message => exact stays_withdraw closed (by decide)
  | _ => rfl

theorem stays_confirmPublished {payload : GitHubCheckPayload} :
    Stays runId role (confirmPublished runId payload : Activity p CheckPublication) := by
  have publishes : StoreCall.Publishes runId (.getPublication runId : StoreCall p.Document) := rfl
  refine (stays_keep closed publishes).bind fun publication => ?_
  cases publication with
  | none => rfl
  | some publication => exact stays_demand.bind fun _ => rfl

theorem stays_deliver {payload : GitHubCheckPayload} :
    Stays runId role (deliver runId payload : Activity p CheckPublication) := by
  have announcing : ∀ (run : VerificationRun) (publication : CheckPublication),
      Stays runId role (do
        let publication ← announceOrWithdraw runId run payload publication
        movePublication runId .published
        return publication : Activity p CheckPublication) := by
    intro run publication
    refine (stays_announceOrWithdraw closed).bind fun publication => ?_
    exact (stays_movePublication closed (by decide)).bind fun _ => rfl
  have begins : StoreCall.Publishes runId (.beginPublication runId (p.payloadSha256 payload).text :
      StoreCall p.Document) := rfl
  refine (stays_keep closed begins).bind fun publication => ?_
  refine stays_getRun.bind fun run => ?_
  dsimp only
  split
  · have retries : StoreCall.Publishes runId (.transitionRun runId run.version
        { publicationState := some .pending } : StoreCall p.Document) :=
      ⟨rfl, .pending, by decide, rfl⟩
    exact (stays_keep closed retries).bind fun run => announcing run publication
  · exact announcing run publication

end Closed

/-- **A publish attempt follows the protocol**: it writes only once it has seen the run
completed. -/
theorem publish_follows :
    Tasks runId (fun _ _ => True) role (publish runId : Activity p CheckPublication) := by
  intro reply _
  cases reply with
  | error exception => exact ⟨role, .reads, trivial⟩
  | ok run =>
      by_cases completed : run.toRunRow.Completed
      · refine ⟨{ role with closed := true }, .sees completed, Stays.tasks ?_ fun _ => trivial⟩
        refine stays_demand.bind fun _ => ?_
        refine stays_demand.bind fun _ => ?_
        refine (stays_perform fun _ => .works .readsEvidence).bind fun evidence => ?_
        cases evidence with
        | none => rfl
        | some evidence =>
            refine stays_attempt.bind fun report => ?_
            split
            · exact stays_confirmPublished rfl
            · exact stays_demand.bind fun _ => stays_deliver rfl
      · refine ⟨role, .reads, Stays.tasks ?_ fun _ => trivial⟩
        refine stays_demand.bind fun _ => ?_
        have refused : (Program.demand (run.lifecycle = .terminal ∧
            run.terminalReason = some .completed)
            (.runtime "publication requires a completed verification run") : Activity p Unit) =
            Program.raise (.runtime "publication requires a completed verification run") :=
          if_neg completed
        rw [refused]
        rfl

/-! ## Tasks -/

theorem tasks_recordFailure {exception : RaisedException} :
    Tasks runId (fun _ _ => True) role (recordFailure runId exception : Activity p Unit) := by
  refine Stays.tasks ?_ fun _ => trivial
  refine stays_getRun.bind fun run => ?_
  split
  · exact (stays_perform fun _ => .fails).bind fun _ => rfl
  · rfl

theorem tasks_finishWithoutGithubCheck (saw : role.snapshot = some false) :
    Tasks runId (fun _ _ => True) role (finishWithoutGithubCheck runId : Activity p Unit) := by
  refine Stays.tasks ?_ fun _ => trivial
  refine stays_getRun.bind fun run => ?_
  split
  · exact (stays_perform fun _ => .waives saw).bind fun _ => rfl
  · rfl

theorem tasks_settle {run : VerificationRun}
    (saw : role.snapshot = some run.installationId.isSome) :
    Tasks runId (fun _ _ => True) role (settle runId run : Activity p Unit) := by
  unfold settle
  split
  · exact publish_follows.bind fun _ _ _ => trivial
  · rename_i absent
    exact tasks_finishWithoutGithubCheck (saw.trans (congrArg some (Bool.eq_false_iff.mpr absent)))

/-- What a routine returns with survives the release. -/
theorem tasks_releasing {body : Activity p α} {release : Activity p Unit}
    {onReturn : TaskRole p → α → Prop} (tasks : Tasks runId onReturn role body)
    (releases : ∀ role, Stays runId role release) :
    Tasks runId onReturn role (releasing body release) := by
  have handled : Tasks runId onReturn role (body.catching fun exception => do
      release
      Program.raise exception) :=
    tasks.catching fun role _ _ => (releases role).then fun _ => trivial
  exact handled.bind fun role _ returned => (releases role).then fun _ => returned

theorem tasks_composeAndRun {run : VerificationRun} (fresh : role.worker = .entered) :
    Tasks runId (fun moved _ => moved.snapshot = role.snapshot) role (composeAndRun runId run) := by
  have composing : ∀ (contract : p.Contract), Tasks runId
      (fun moved _ => moved.snapshot = role.snapshot) role (do
        let _ ← runReliably {
          challenge := .executor
          runnerContract := contract
          installDependencies := true
          investigates := isProductAnalysis run } runId
        return ()) := by
    intro contract
    exact (tasks_runReliably fresh _).bind fun _ _ same => same
  unfold composeAndRun
  refine stays_external.then fun _ => ?_
  split
  · exact stays_external.then composing
  · exact stays_external.then fun raw => stays_attempt.then composing

/-- The first read of a task. -/
theorem tasks_open : Tasks runId (fun moved (run : VerificationRun) =>
    moved = { snapshot := some run.installationId.isSome }) {}
    (perform (.getRun runId) : Activity p VerificationRun) := by
  intro reply _
  cases reply with
  | ok run => exact ⟨{ snapshot := some run.installationId.isSome }, .opens rfl, rfl⟩
  | error exception => exact ⟨{}, .reads, trivial⟩

/-- **Processing follows the protocol.** -/
theorem process_follows (deployment : Deployment) :
    Tasks runId (fun _ _ => True) {} (process deployment runId : Activity p Unit) := by
  refine tasks_open.bind fun moved run opened => ?_
  subst opened
  refine stays_demand.then fun _ => ?_
  refine (stays_perform fun _ => .works .readsEvidence).then fun evidence => ?_
  cases evidence with
  | some evidence => exact tasks_settle rfl
  | none =>
      refine stays_external.then fun _ => ?_
      refine (tasks_releasing (tasks_composeAndRun rfl) fun _ => stays_external).bind ?_
      exact fun _ _ saw => tasks_settle saw

theorem verifyTask_follows (deployment : Deployment) :
    Tasks runId (fun _ _ => True) {} (verifyTask deployment runId : Activity p TaskAnswer) := by
  have answering : Tasks runId (fun _ _ => True) {} (do
      process deployment runId
      return TaskAnswer.completed : Activity p TaskAnswer) :=
    (process_follows deployment).bind fun _ _ _ => trivial
  refine answering.catching fun role exception _ => ?_
  have recording : Tasks runId (fun _ _ => True) role (do
      recordFailure runId exception
      return TaskAnswer.terminal : Activity p TaskAnswer) :=
    tasks_recordFailure.bind fun _ _ _ => trivial
  unfold answerException
  split
  · trivial
  · trivial
  · trivial
  · split
    · trivial
    · exact recording

end Follows

/-! ## Duties -/

/-- What a part of the service does: it accepts an event, delivers a task, computes a
run, or publishes one. -/
inductive Duty (p : Platform) where
  | accept (event : PullRequestEvent)
  | deliver (deployment : Deployment) (runId : RunId)
  | work (workflow : EvidenceWorkflow p) (runId : RunId)
  | publish (runId : RunId)

namespace Duty

def routine : Duty p → Activity p Unit
  | accept event => do
      let _ ← perform (.acceptPullRequest event)
  | deliver deployment runId => do
      let _ ← verifyTask deployment runId
  | work workflow runId => do
      let _ ← runReliably workflow runId
  | publish runId => do
      let _ ← PatchProof.publish runId

/-- The run that a duty is about; an event says itself which runs it is about. -/
def runId : Duty p → Option RunId
  | accept _ => none
  | deliver _ runId | work _ runId | publish runId => some runId

/-- The moves of a duty. -/
inductive Move (duty : Duty p) :
    TaskRole p → (call : ServiceCall p) → ServiceCall.Reply p call → TaskRole p → Prop
  | accepts {role event reply} (is : duty = accept event) :
      Move duty role (.store (.acceptPullRequest event)) reply role
  | tasks {runId role call reply moved} (about : duty.runId = some runId)
      (move : TaskMove runId role call reply moved) : Move duty role call reply moved

/-- The protocol of a duty. -/
def protocol (duty : Duty p) : Protocol (ServiceCall.Reply p) (TaskRole p) where
  Assumes := AnswersOwn
  Move := Move duty

/-- **Every duty follows its protocol.** -/
theorem routine_follows (duty : Duty p) :
    Program.Follows duty.protocol (fun _ _ => True) (fun _ _ => True) {} duty.routine := by
  have ofTasks : ∀ {runId : RunId} {α : Type} {program : Activity p α},
      duty.runId = some runId → Tasks runId (fun _ _ => True) {} program →
      Program.Follows duty.protocol (fun _ _ => True) (fun _ _ => True) {} program := by
    intro runId α program about tasks
    have placed : Program.Follows duty.protocol (fun moved _ => ∃ role, moved = id role ∧ True)
        (fun moved _ => ∃ role, moved = id role ∧ True) (id {}) program :=
      tasks.embed id (fun _ _ assumed => assumed) fun _ _ _ _ move => Move.tasks about move
    exact placed.mono (fun _ _ _ => trivial) fun _ _ _ => trivial
  cases duty with
  | accept event =>
      intro reply _
      refine ⟨{}, .accepts rfl, ?_⟩
      cases reply <;> trivial
  | deliver deployment runId =>
      exact (ofTasks rfl (verifyTask_follows deployment)).bind fun _ _ _ => trivial
  | work workflow runId =>
      have tasks : Tasks runId (fun _ _ => True) {} (runReliably workflow runId) :=
        (tasks_runReliably rfl workflow).mono (fun _ _ _ => trivial) fun _ _ _ => trivial
      exact (ofTasks rfl tasks).bind fun _ _ _ => trivial
  | publish runId => exact (ofTasks rfl publish_follows).bind fun _ _ _ => trivial

end Duty

/-! ## The whole service -/

section Service

variable {ι : Type} [DecidableEq ι]

/-- The service before anything has happened. -/
def startedPool (duties : ι → Duty p) :
    Pool ι (ServiceCall.Reply p) (SqliteStore p.Document) RaisedException Unit where
  shared := .empty
  threads who := (duties who).routine

/-- The service after a schedule. -/
def reachedPool (duties : ι → Duty p) (schedule : List (ι × Moment p)) :
    Pool ι (ServiceCall.Reply p) (SqliteStore p.Document) RaisedException Unit :=
  (startedPool duties).run (service p) schedule

end Service

end PatchProof
