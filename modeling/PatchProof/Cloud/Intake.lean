import PatchProof.Cloud.Webhook
import PatchProof.Storage.Lifecycle

/-!
# Intake

The webhook route in front of a store and a task queue, while other parts of the
service go on using the store and the queue runs its tasks and forgets their names.

Whatever happens in between, a stored run stems from an event that an authentic
request or another caller brought, and a task of the queue belongs to a stored run
(`webhook_intake_sound`).  An answer in the 200s means that the run it shows is
stored as shown and, while it is open, that its task has been created; after any
other outcome the delivery can be repeated, and a repeated delivery resolves to the
run of the first one (`redelivery_hands_over`).
-/

set_option autoImplicit false

namespace PatchProof

open Guard

/-! ## The task queue -/

/-- `run_id.hex`. -/
def RunId.hex (runId : RunId) : String := String.ofList (hexDigits 32 runId.bits.toNat)

/-- The coordinates of the task queue. -/
structure CloudTasksDispatcherSettings where
  projectId : String
  location : String
  queue : String
  targetUrl : String
  serviceAccountEmail : String
  audience : String
  dispatchDeadlineSeconds : Int := 900
  filled : ([projectId, location, queue, targetUrl, serviceAccountEmail, audience].all
    fun value => strip value != "") = true
  secure : "https://".toList.isPrefixOf targetUrl.toList = true ∧
    "https://".toList.isPrefixOf audience.toList = true
  bounded : 15 ≤ dispatchDeadlineSeconds ∧ dispatchDeadlineSeconds ≤ 1800

/-- One task of the queue. -/
structure RunTask where
  name : String
  url : String
  body : String
  serviceAccountEmail : String
  audience : String
  dispatchDeadlineSeconds : Int
  deriving DecidableEq

/-- The task of a run; `queuePath` is the client library's. -/
def runTask (queuePath : String → String → String → String)
    (coordinates : CloudTasksDispatcherSettings) (runId : RunId) : RunTask where
  name := queuePath coordinates.projectId coordinates.location coordinates.queue ++
    "/tasks/run-" ++ runId.hex
  url := coordinates.targetUrl
  body := "\x7b\"run_id\":\"" ++ runId.text ++ "\"\x7d"
  serviceAccountEmail := coordinates.serviceAccountEmail
  audience := coordinates.audience
  dispatchDeadlineSeconds := coordinates.dispatchDeadlineSeconds

/-- The tasks that wait or run, and the names of those that are gone and that the
service does not yet give away again. -/
structure TaskQueue where
  tasks : List RunTask
  retired : List String

/-- What becomes of a request to create a task: it is answered, its answer is lost, or
it never arrives. -/
inductive CreateTaskFate where
  | answered
  | lost
  | undelivered
  deriving DecidableEq

namespace TaskQueue

/-- The name cannot be given to a new task. -/
def Taken (queue : TaskQueue) (name : String) : Prop :=
  name ∈ queue.retired ∨ ∃ task ∈ queue.tasks, task.name = name

instance (queue : TaskQueue) (name : String) : Decidable (queue.Taken name) :=
  inferInstanceAs (Decidable (_ ∨ ∃ task ∈ queue.tasks, task.name = name))

/-- The service's side of a creation. -/
def create (queue : TaskQueue) (task : RunTask) : TaskQueue :=
  if queue.Taken task.name then queue else { queue with tasks := queue.tasks ++ [task] }

/-- `CloudTasksRunDispatcher.dispatch`: whether it returns, and the queue it leaves.
That a task of the name exists is as good an answer as that it has been created. -/
def dispatch (queue : TaskQueue) (task : RunTask) : CreateTaskFate → Bool × TaskQueue
  | .answered => (true, queue.create task)
  | .lost => (false, queue.create task)
  | .undelivered => (false, queue)

/-- A task has run to its end. -/
def finish (queue : TaskQueue) (name : String) : TaskQueue where
  tasks := queue.tasks.filter (·.name ≠ name)
  retired := name :: queue.retired

/-- The name of a task that is gone can be used again. -/
def release (queue : TaskQueue) (name : String) : TaskQueue :=
  { queue with retired := queue.retired.filter (· ≠ name) }

theorem taken_create (queue : TaskQueue) (task : RunTask) :
    (queue.create task).Taken task.name := by
  unfold create
  split
  · assumption
  · exact .inr ⟨task, List.mem_append_right _ (List.mem_singleton_self task), rfl⟩

theorem mem_create {queue : TaskQueue} {task other : RunTask}
    (present : other ∈ (queue.create task).tasks) : other ∈ queue.tasks ∨ other = task := by
  unfold create at present
  split at present
  · exact .inl present
  · simpa using present

theorem mem_dispatch {queue : TaskQueue} {task other : RunTask} {fate : CreateTaskFate}
    (present : other ∈ (queue.dispatch task fate).2.tasks) :
    other ∈ queue.tasks ∨ other = task := by
  cases fate with
  | answered | lost => exact mem_create present
  | undelivered => exact .inl present

theorem taken_of_dispatch {queue : TaskQueue} {task : RunTask} {fate : CreateTaskFate}
    (returned : (queue.dispatch task fate).1 = true) :
    (queue.dispatch task fate).2.Taken task.name := by
  cases fate with
  | answered => exact taken_create queue task
  | lost | undelivered => cases returned

end TaskQueue

/-! ## The route -/

/-- Public acknowledgement outcome for one authenticated delivery. -/
inductive WebhookDisposition where
  | accepted
  | duplicate
  | stale
  | ignored
  deriving DecidableEq

structure WebhookResponse where
  disposition : WebhookDisposition
  detail : String
  runId : Option RunId
  lifecycle : Option RunLifecycle
  revisionState : Option RevisionState
  deriving DecidableEq

/-- A refusal, or an exception of the store that nothing catches. -/
inductive WebhookFailure where
  | http (refusal : HttpException)
  | store (exception : StoreException)
  deriving DecidableEq

def dispatchUnavailable : HttpException :=
  ⟨503, "verification dispatch is temporarily unavailable"⟩

/-- A run that still has work to do for its pull request. -/
def RunRow.Open (row : RunRow) : Prop := row.revisionState = .current ∧ row.lifecycle ≠ .terminal

instance (row : RunRow) : Decidable row.Open := inferInstanceAs (Decidable (_ ∧ _))

/-- A store and a task queue behind the route. -/
structure Intake (Document : Type) where
  store : SqliteStore Document
  queue : TaskQueue

/-- The answer for an accepted event. -/
def acknowledge (acceptance : AcceptanceResult) : Nat × WebhookResponse :=
  let shown (disposition : WebhookDisposition) (detail : String) : WebhookResponse :=
    { disposition, detail
      runId := some acceptance.run.runId
      lifecycle := some acceptance.run.lifecycle
      revisionState := some acceptance.run.revisionState }
  match acceptance.kind with
  | .created => (202, shown .accepted "verification run accepted")
  | .staleCreated =>
      (202, shown .stale "delivery recorded as stale; newer HEAD remains current")
  | .duplicateDelivery | .duplicateRevision =>
      (200, shown .duplicate "delivery resolved to an existing verification run")

/-- What the service around the route is configured with. -/
structure IntakeDeployment (Document : Type) where
  platform : WebhookPlatform
  settings : ControlPlaneSettings
  dispatcher : Option CloudTasksDispatcherSettings
  queuePath : String → String → String → String
  sha256Of : Document → String

/-- What can happen: a webhook request, an operation of another part of the service on
the store, the end of a task, or the release of its name. -/
inductive IntakeStep (Document : Type) where
  | webhook (request : WebhookRequest) (input : StoreInput) (fate : CreateTaskFate)
  | operation (input : StoreInput) (call : StoreCall Document)
  | finished (name : String)
  | released (name : String)

section Route

variable {Document : Type} (deployment : IntakeDeployment Document)

/-- The hand-off of an accepted run: whether the route goes on, and the queue. -/
def handOff (queue : TaskQueue) (run : RunRow) (fate : CreateTaskFate) : Bool × TaskQueue :=
  match deployment.dispatcher with
  | none => (true, queue)
  | some coordinates =>
      if run.Open then queue.dispatch (runTask deployment.queuePath coordinates run.runId) fate
      else (true, queue)

variable [DecidableEq Document]

/-- `github_webhook` once the event is made. -/
def acceptEvent (intake : Intake Document) (event : PullRequestEvent) (input : StoreInput)
    (fate : CreateTaskFate) : Except WebhookFailure (Nat × WebhookResponse) × Intake Document :=
  let accepted := intake.store.perform deployment.sha256Of input (.acceptPullRequest event)
  match accepted.1 with
  | .error exception => (.error (.store exception), { intake with store := accepted.2 })
  | .ok acceptance =>
      let handed := handOff deployment intake.queue acceptance.run fate
      (if handed.1 then .ok (acknowledge acceptance) else .error (.http dispatchUnavailable),
        ⟨accepted.2, handed.2⟩)

/-- `github_webhook`. -/
def githubWebhook (intake : Intake Document) (request : WebhookRequest) (input : StoreInput)
    (fate : CreateTaskFate) : Except WebhookFailure (Nat × WebhookResponse) × Intake Document :=
  match admitRequest deployment.platform deployment.settings request with
  | .error refusal => (.error (.http refusal), intake)
  | .ok (.ignored detail) => (.ok (202, ⟨.ignored, detail, none, none, none⟩), intake)
  | .ok (.event event) => acceptEvent deployment intake event input fate

/-- One step of the service. -/
def intakeStep (intake : Intake Document) : IntakeStep Document → Intake Document
  | .webhook request input fate => (githubWebhook deployment intake request input fate).2
  | .operation input call =>
      { intake with store := (intake.store.perform deployment.sha256Of input call).2 }
  | .finished name => { intake with queue := intake.queue.finish name }
  | .released name => { intake with queue := intake.queue.release name }

/-- Where steps lead. -/
def intakeAfter (intake : Intake Document) (steps : List (IntakeStep Document)) :
    Intake Document :=
  steps.foldl (intakeStep deployment) intake

end Route

section Route

variable {Document : Type} [DecidableEq Document] {deployment : IntakeDeployment Document}
  {intake : Intake Document} {event : PullRequestEvent} {input : StoreInput} {fate : CreateTaskFate}

theorem acceptEvent_of_error {exception : StoreException}
    (raised : (intake.store.perform deployment.sha256Of input (.acceptPullRequest event)).1 =
      .error exception) :
    acceptEvent deployment intake event input fate = (.error (.store exception),
      { intake with store := (intake.store.perform deployment.sha256Of input
        (.acceptPullRequest event)).2 }) := by
  simp only [acceptEvent, raised]

theorem acceptEvent_of_ok {acceptance : AcceptanceResult}
    (returned : (intake.store.perform deployment.sha256Of input (.acceptPullRequest event)).1 =
      .ok acceptance) :
    acceptEvent deployment intake event input fate =
      (if (handOff deployment intake.queue acceptance.run fate).1 then
          .ok (acknowledge acceptance) else .error (.http dispatchUnavailable),
        ⟨(intake.store.perform deployment.sha256Of input (.acceptPullRequest event)).2,
          (handOff deployment intake.queue acceptance.run fate).2⟩) := by
  simp only [acceptEvent, returned]

end Route

def Intake.empty (Document : Type) : Intake Document := ⟨SqliteStore.empty, ⟨[], []⟩⟩

/-! ## What one operation leaves of a row -/

section Rows

variable {Document : Type} {input : StoreInput} {call : StoreCall Document}

/-- A row after an operation continues an earlier one, or an acceptance has made it for
its event. -/
theorem Observed.origin {sha256Of : Document → String} {runId : RunId}
    {reply : Except StoreException call.Result} {before after : RunView Document}
    (observed : Observed sha256Of runId input call reply before after) {row : RunRow}
    (found : after.row = some row) :
    (∃ old, before.row = some old ∧ row.identity = old.identity) ∨
      ∃ event, call = .acceptPullRequest event ∧ row.pullRequest = event.pullRequest ∧
        row.revision = event.revision := by
  cases observed with
  | @accepted event result _ _ change =>
      obtain rfl : _ = some row := found
      generalize before.row = earlier at change ⊢
      cases change with
      | kept => exact .inl ⟨row, rfl, rfl⟩
      | refreshed old => exact .inl ⟨old, rfl, rfl⟩
      | replaced old => exact .inl ⟨old, rfl, rfl⟩
      | created newer => exact .inr ⟨event, rfl, rfl, rfl⟩
  | moved current _ _ wrote =>
      obtain rfl := Option.some.inj found
      exact .inl ⟨_, current, by rw [wrote]; rfl⟩
  | failed current =>
      obtain rfl := Option.some.inj found
      exact .inl ⟨_, current, rfl⟩
  | _ => exact .inl ⟨row, found, rfl⟩

theorem RunRow.pullRequest_of_identity {row old : RunRow} (same : row.identity = old.identity) :
    row.pullRequest = old.pullRequest ∧ row.revision = old.revision := by
  simp only [RunRow.identity, Prod.mk.injEq] at same
  exact ⟨Prod.ext same.2.1 same.2.2.1, Prod.ext same.2.2.2.1 same.2.2.2.2.1⟩

theorem lookup_inserted {ρ κ : Type} {key : ρ → κ} [DecidableEq κ] {table : Table key} {row : ρ}
    (fresh : table.lookup (key row) = none) :
    (table.insert row fresh).lookup (key row) = some row :=
  Table.lookup_of_mem (Table.mem_insert.mpr (.inr rfl))

namespace SqliteStore

variable {store written : SqliteStore Document} {event : PullRequestEvent}
  {result : AcceptanceResult}

/-- The run an acceptance hands out is stored as it is shown. -/
theorem Acceptance.shown (acceptance : Acceptance store event input result written) :
    written.runs.lookup result.run.runId = some result.run := by
  cases acceptance with
  | redelivered run found =>
      obtain ⟨_, _, present⟩ := Option.bind_eq_some_iff.mp found
      exact Table.lookup_of_mem (Table.mem_of_lookup present)
  | kept _ _ _ found => exact (duplicateRevision_eq_some found).1
  | refreshed _ run _ found =>
      exact Table.lookup_replace_self (duplicateRevision_eq_some found).1
  | stale _ _ _ _ unused => exact lookup_inserted unused
  | superseding _ _ _ _ _ _ unused => exact lookup_inserted unused
  | first _ _ unused => exact lookup_inserted unused

/-- The delivery of an accepted event is recorded for the run that is handed out. -/
theorem Acceptance.recorded (acceptance : Acceptance store event input result written) :
    ∃ delivery, written.deliveries.lookup event.deliveryId.text = some delivery ∧
      delivery.runId = result.run.runId := by
  cases acceptance with
  | redelivered run found =>
      obtain ⟨delivery, recorded, present⟩ := Option.bind_eq_some_iff.mp found
      exact ⟨delivery, recorded, (Table.key_of_lookup present).symm⟩
  | kept _ _ _ _ _ _ unknown | refreshed _ _ _ _ _ _ unknown | stale _ _ _ _ _ unknown
  | superseding _ _ _ _ _ _ _ unknown | first _ _ _ unknown =>
      exact ⟨_, lookup_inserted unknown, rfl⟩

/-- A recorded delivery stays recorded. -/
theorem Acceptance.deliveries_kept (acceptance : Acceptance store event input result written)
    {deliveryId : String} {delivery : DeliveryRecord}
    (recorded : store.deliveries.lookup deliveryId = some delivery) :
    written.deliveries.lookup deliveryId = some delivery := by
  have inserted : ∀ (runId : RunId) (unknown : store.deliveries.lookup event.deliveryId.text = none),
      (store.deliveries.insert ⟨event.deliveryId.text, runId, input.now⟩ unknown).lookup
        deliveryId = some delivery := by
    intro runId unknown
    have different : event.deliveryId.text ≠ deliveryId := by
      rintro rfl
      rw [unknown] at recorded
      cases recorded
    rw [Table.lookup_insert, if_neg different, recorded]
  cases acceptance with
  | redelivered => exact recorded
  | kept _ _ _ _ _ _ unknown | refreshed _ _ _ _ _ _ unknown | stale _ _ _ _ _ unknown
  | superseding _ _ _ _ _ _ _ unknown | first _ _ _ unknown => exact inserted _ unknown

variable [DecidableEq Document] {sha256Of : Document → String}

theorem acceptance_of_perform
    (returned : (store.perform sha256Of input (.acceptPullRequest event)).1 = .ok result) :
    Acceptance store event input result
      (store.perform sha256Of input (.acceptPullRequest event)).2 := by
  unfold SqliteStore.perform at returned ⊢
  cases outcome : store.execute sha256Of input (.acceptPullRequest event) with
  | error _ =>
      rw [outcome] at returned
      cases returned
  | ok value =>
      rw [outcome] at returned
      cases returned
      exact acceptPullRequest_cases outcome

/-- An operation that raises leaves the store alone. -/
theorem perform_of_error {exception : StoreException}
    (raised : (store.perform sha256Of input call).1 = .error exception) :
    (store.perform sha256Of input call).2 = store := by
  unfold SqliteStore.perform at raised ⊢
  cases outcome : store.execute sha256Of input call with
  | error _ => rfl
  | ok value =>
      rw [outcome] at raised
      cases raised

/-- No operation forgets a delivery. -/
theorem perform_deliveries_kept {deliveryId : String} {delivery : DeliveryRecord}
    (recorded : store.deliveries.lookup deliveryId = some delivery) :
    (store.perform sha256Of input call).2.deliveries.lookup deliveryId = some delivery := by
  unfold SqliteStore.perform
  cases outcome : store.execute sha256Of input call with
  | error _ => exact recorded
  | ok value =>
      obtain ⟨answer, reached⟩ := value
      suffices kept : reached.deliveries = store.deliveries ∨
          ∃ event, call = .acceptPullRequest event by
        rcases kept with same | ⟨event, rfl⟩
        · exact (congrArg (Table.lookup · deliveryId) same).trans recorded
        · exact (acceptPullRequest_cases outcome).deliveries_kept recorded
      cases call with
      | acceptPullRequest event => exact .inr ⟨event, rfl⟩
      | getRun | listRuns =>
          obtain ⟨_, _, same⟩ := Guard.bind_eq_ok_iff.mp outcome
          cases same
          exact .inl rfl
      | getEvidence | getPublication | getFailure =>
          cases outcome
          exact .inl rfl
      | transitionRun =>
          obtain ⟨_, _, _, _, _, rfl⟩ := transitionRun_eq_ok_iff.mp outcome
          exact .inl rfl
      | saveEvidence =>
          obtain ⟨_, _, ⟨_, _, _, rfl⟩ | ⟨_, _, rfl⟩⟩ := saveEvidence_eq_ok_iff.mp outcome
          · exact .inl rfl
          · exact .inl rfl
      | beginPublication =>
          obtain ⟨_, _, ⟨_, _, _, _, rfl⟩ | ⟨_, _, rfl⟩⟩ := beginPublication_eq_ok_iff.mp outcome
          · exact .inl rfl
          · exact .inl rfl
      | setCheckRunId =>
          obtain ⟨_, _, _, _, _, rfl⟩ := setCheckRunId_eq_ok_iff.mp outcome
          exact .inl rfl
      | recordPublicationError =>
          obtain ⟨_, _, _, rfl⟩ := recordPublicationError_eq_ok_iff.mp outcome
          exact .inl rfl
      | failRun =>
          obtain ⟨_, _, _, ⟨_, rfl⟩ | ⟨_, _, _, rfl⟩⟩ := failRun_eq_ok_iff.mp outcome
          · exact .inl rfl
          · exact .inl rfl

/-- A delivery that is recorded for a stored run resolves to that run. -/
theorem perform_redelivered {delivery : DeliveryRecord} {row : RunRow}
    (recorded : store.deliveries.lookup event.deliveryId.text = some delivery)
    (found : store.runs.lookup delivery.runId = some row)
    (returned : (store.perform sha256Of input (.acceptPullRequest event)).1 = .ok result) :
    result = ⟨.duplicateDelivery, row⟩ := by
  have resolved : store.duplicateDelivery event.deliveryId.text = some row := by
    unfold duplicateDelivery
    rw [recorded]
    exact found
  have acceptance := acceptance_of_perform returned
  generalize (store.perform sha256Of input (.acceptPullRequest event)).2 = written at acceptance
  cases acceptance with
  | redelivered run stored =>
      obtain rfl := Option.some.inj (resolved.symm.trans stored)
      rfl
  | kept _ _ _ _ _ _ unknown | refreshed _ _ _ _ _ _ unknown | stale _ _ _ _ _ unknown
  | superseding _ _ _ _ _ _ _ unknown | first _ _ _ unknown =>
      rw [recorded] at unknown
      cases unknown

end SqliteStore

end Rows

/-! ## What the route keeps -/

section Runs

variable {Document : Type} {deployment : IntakeDeployment Document} {intake : Intake Document}
  {steps : List (IntakeStep Document)}

/-- The event came with one of the steps: in an authentic request, or from another
caller of the store. -/
def Brought (deployment : IntakeDeployment Document) (steps : List (IntakeStep Document))
    (event : PullRequestEvent) : Prop :=
  (∃ request input fate, .webhook request input fate ∈ steps ∧
    Authentic deployment.platform deployment.settings request event) ∨
  ∃ input, .operation input (.acceptPullRequest event) ∈ steps

theorem Brought.mono {event : PullRequestEvent} (brought : Brought deployment steps event)
    (step : IntakeStep Document) : Brought deployment (steps ++ [step]) event := by
  rcases brought with ⟨request, input, fate, mem, authentic⟩ | ⟨input, mem⟩
  · exact .inl ⟨request, input, fate, List.mem_append_left _ mem, authentic⟩
  · exact .inr ⟨input, List.mem_append_left _ mem⟩

/-- What holds of the store and the queue wherever steps lead. -/
structure Intake.Sound (deployment : IntakeDeployment Document)
    (steps : List (IntakeStep Document)) (intake : Intake Document) : Prop where
  reasoned : intake.store.Reasoned
  brought : ∀ {runId row}, intake.store.runs.lookup runId = some row → ∃ event,
    Brought deployment steps event ∧ row.pullRequest = event.pullRequest ∧
      row.revision = event.revision
  queued : ∀ task ∈ intake.queue.tasks, ∃ coordinates runId row,
    deployment.dispatcher = some coordinates ∧ intake.store.runs.lookup runId = some row ∧
      task = runTask deployment.queuePath coordinates runId

namespace Intake.Sound

theorem start : (Intake.empty Document).Sound deployment [] where
  reasoned := SqliteStore.reasoned_empty
  brought := fun found => by cases found
  queued := fun _ present => by cases present

/-- A hand-off adds at most the task of the run it is made for. -/
theorem handOff (sound : intake.Sound deployment steps) {run : RunRow}
    (stored : intake.store.runs.lookup run.runId = some run) (fate : CreateTaskFate) :
    Intake.Sound deployment steps ⟨intake.store, (handOff deployment intake.queue run fate).2⟩ where
  reasoned := sound.reasoned
  brought := sound.brought
  queued := by
    intro task present
    unfold PatchProof.handOff at present
    split at present
    · exact sound.queued task present
    · rename_i coordinates isSet
      split at present
      · rcases TaskQueue.mem_dispatch present with earlier | rfl
        · exact sound.queued task earlier
        · exact ⟨coordinates, run.runId, run, isSet, stored, rfl⟩
      · exact sound.queued task present

variable [DecidableEq Document]

/-- An operation on the store, by whomever, whose event the steps account for. -/
theorem perform (sound : intake.Sound deployment steps) (step : IntakeStep Document)
    (input : StoreInput) (call : StoreCall Document)
    (accounted : ∀ event, call = .acceptPullRequest event →
      Brought deployment (steps ++ [step]) event) :
    Intake.Sound deployment (steps ++ [step])
      { intake with store := (intake.store.perform deployment.sha256Of input call).2 } where
  reasoned := sound.reasoned.perform input call
  brought := by
    intro runId row found
    have observed := intake.store.perform_observed deployment.sha256Of input call runId
    rcases observed.origin found with ⟨old, earlier, same⟩ | ⟨event, isEvent, facts⟩
    · obtain ⟨event, brought, samePull, sameRevision⟩ := sound.brought earlier
      obtain ⟨pull, revision⟩ := RunRow.pullRequest_of_identity same
      exact ⟨event, brought.mono step, pull.trans samePull, revision.trans sameRevision⟩
    · exact ⟨event, accounted event isEvent, facts⟩
  queued := by
    intro task present
    obtain ⟨coordinates, runId, row, isSet, found, same⟩ := sound.queued task present
    have observed := intake.store.perform_observed deployment.sha256Of input call runId
    obtain ⟨later, laterFound, _⟩ := observed.rowStep found (sound.reasoned runId row found)
    exact ⟨coordinates, runId, later, isSet, laterFound, same⟩

theorem webhook (sound : intake.Sound deployment steps) (request : WebhookRequest)
    (input : StoreInput) (fate : CreateTaskFate) :
    Intake.Sound deployment (steps ++ [.webhook request input fate])
      (githubWebhook deployment intake request input fate).2 := by
  have unchanged : Intake.Sound deployment (steps ++ [.webhook request input fate]) intake :=
    ⟨sound.reasoned, fun found => (sound.brought found).imp fun _ facts =>
      ⟨facts.1.mono _, facts.2⟩, sound.queued⟩
  unfold githubWebhook
  split
  · exact unchanged
  · exact unchanged
  · rename_i event admitted
    have accepted := sound.perform (.webhook request input fate) input (.acceptPullRequest event)
      fun other same => by
        cases same
        exact .inl ⟨request, input, fate, List.mem_append_right _ (List.mem_singleton_self _),
          authentic_of_admitRequest admitted⟩
    cases outcome : (intake.store.perform deployment.sha256Of input (.acceptPullRequest event)).1 with
    | error exception =>
        rw [acceptEvent_of_error outcome]
        exact accepted
    | ok acceptance =>
        rw [acceptEvent_of_ok outcome]
        exact accepted.handOff (SqliteStore.acceptance_of_perform outcome).shown fate

theorem step (sound : intake.Sound deployment steps) (step : IntakeStep Document) :
    Intake.Sound deployment (steps ++ [step]) (intakeStep deployment intake step) := by
  cases step with
  | webhook request input fate => exact sound.webhook request input fate
  | operation input call =>
      refine sound.perform _ input call fun event same => ?_
      subst same
      exact .inr ⟨input, List.mem_append_right _ (List.mem_singleton_self _)⟩
  | finished name =>
      exact ⟨sound.reasoned, fun found => (sound.brought found).imp fun _ facts =>
        ⟨facts.1.mono _, facts.2⟩, fun task present =>
          sound.queued task (List.mem_of_mem_filter present)⟩
  | released name =>
      exact ⟨sound.reasoned, fun found => (sound.brought found).imp fun _ facts =>
        ⟨facts.1.mono _, facts.2⟩, sound.queued⟩

theorem reached (deployment : IntakeDeployment Document) (steps : List (IntakeStep Document)) :
    (intakeAfter deployment (Intake.empty Document) steps).Sound deployment steps := by
  induction steps using List.reverseRecOn with
  | nil => exact start
  | append_singleton earlier step ih =>
      unfold intakeAfter at ih ⊢
      rw [List.foldl_concat]
      exact ih.step step

end Intake.Sound

variable [DecidableEq Document]

/-- **Where runs and tasks come from.**  Whatever the service does after an empty start,
as long as its other parts only bring events of allowed repositories: every stored run
is of an allowed repository and compares the revisions of an event that an authentic
request or another part brought, and every task of the queue is the task of a stored
run. -/
theorem webhook_intake_sound (deployment : IntakeDeployment Document)
    (steps : List (IntakeStep Document))
    (elsewhere : ∀ input event, IntakeStep.operation input (.acceptPullRequest event) ∈ steps →
      event.repository ∈ deployment.settings.allowedRepositories) :
    (∀ row ∈ (intakeAfter deployment (Intake.empty Document) steps).store.runs,
      row.repository ∈ deployment.settings.allowedRepositories ∧
      ∃ event, Brought deployment steps event ∧ row.pullRequest = event.pullRequest ∧
        row.revision = event.revision) ∧
    ∀ task ∈ (intakeAfter deployment (Intake.empty Document) steps).queue.tasks,
      ∃ row ∈ (intakeAfter deployment (Intake.empty Document) steps).store.runs,
        ∃ coordinates, deployment.dispatcher = some coordinates ∧
          task = runTask deployment.queuePath coordinates row.runId := by
  have sound := Intake.Sound.reached deployment steps
  refine ⟨fun row present => ?_, fun task present => ?_⟩
  · obtain ⟨event, brought, samePull, sameRevision⟩ := sound.brought (Table.lookup_of_mem present)
    refine ⟨?_, event, brought, samePull, sameRevision⟩
    rw [show row.repository = event.repository from congrArg Prod.fst samePull]
    rcases brought with ⟨request, input, fate, _, authentic⟩ | ⟨input, mem⟩
    · exact authentic.allowed
    · exact elsewhere input event mem
  · obtain ⟨coordinates, runId, row, isSet, found, same⟩ := sound.queued task present
    obtain rfl := Table.key_of_lookup found
    exact ⟨row, Table.mem_of_lookup found, coordinates, isSet, same⟩

end Runs

/-! ## What an answer says -/

section Answers

variable {Document : Type} {deployment : IntakeDeployment Document}

/-- The task of an open run has been created. -/
def HandedOver (deployment : IntakeDeployment Document) (queue : TaskQueue) (row : RunRow) : Prop :=
  row.Open → ∀ coordinates, deployment.dispatcher = some coordinates →
    queue.Taken (runTask deployment.queuePath coordinates row.runId).name

theorem handedOver_of_handOff {queue : TaskQueue} {row : RunRow} {fate : CreateTaskFate}
    (returned : (handOff deployment queue row fate).1 = true) :
    HandedOver deployment (handOff deployment queue row fate).2 row := by
  intro isOpen coordinates isSet
  simp only [handOff, isSet, if_pos isOpen] at returned ⊢
  exact TaskQueue.taken_of_dispatch returned

/-- Only an open run can fail to be handed over. -/
theorem open_of_handOff_failed {queue : TaskQueue} {row : RunRow} {fate : CreateTaskFate}
    (failed : (handOff deployment queue row fate).1 ≠ true) : row.Open ∧ fate ≠ .answered := by
  unfold handOff at failed
  split at failed
  · exact absurd rfl failed
  · split at failed
    · rename_i isOpen
      exact ⟨isOpen, fun answered => by subst answered; exact failed rfl⟩
    · exact absurd rfl failed

theorem runId_acknowledge (acceptance : AcceptanceResult) :
    (acknowledge acceptance).2.runId = some acceptance.run.runId ∧
      (acknowledge acceptance).2.lifecycle = some acceptance.run.lifecycle ∧
      (acknowledge acceptance).2.revisionState = some acceptance.run.revisionState := by
  unfold acknowledge
  cases acceptance.kind <;> exact ⟨rfl, rfl, rfl⟩

theorem statusCode_of_readBoundedBody {maximumBytes : Nat} {contentLength : Option String}
    {chunks : List (List UInt8)} {refusal : HttpException}
    (refused : readBoundedBody maximumBytes contentLength chunks = .error refusal) :
    refusal.statusCode ≠ 503 := by
  have streamed (overflowed : chunks.foldlM (extendBody maximumBytes) [] = .error refusal) :
      refusal.statusCode ≠ 503 := by
    rw [foldlM_extendBody chunks (Nat.zero_le _), extendBody] at overflowed
    split at overflowed
    · cases overflowed
      decide
    · cases overflowed
  cases contentLength with
  | none => exact streamed refused
  | some header =>
      rcases bind_eq_error_iff.mp refused with undeclared | ⟨_, _, overflowed⟩
      · unfold checkDeclaredLength at undeclared
        split at undeclared
        · cases undeclared
          decide
        · simp only [bind_eq_error_iff, require_eq_error_iff] at undeclared
          rcases undeclared with ⟨_, rfl⟩ | ⟨_, _, _, rfl⟩ <;> decide
      · exact streamed overflowed

theorem statusCode_of_admitPayload {settings : ControlPlaneSettings}
    {deliveryId : BoundedText 1 128} {payload : GitHubPullRequestWebhook} {refusal : HttpException}
    (refused : admitPayload settings deliveryId payload = .error refusal) :
    refusal.statusCode ≠ 503 := by
  unfold admitPayload at refused
  split at refused
  · cases refused
  · simp only [bind_eq_error_iff, require_eq_error_iff] at refused
    rcases refused with ⟨_, rfl⟩ | ⟨_, _, ⟨_, rfl⟩ | ⟨_, _, unmade⟩⟩
    · decide
    · decide
    · split at unmade
      · cases unmade
        decide
      · cases unmade

/-- No check before the store answers as a failed hand-off does. -/
theorem statusCode_of_admit {platform : WebhookPlatform} {settings : ControlPlaneSettings}
    {request : WebhookRequest} {refusal : HttpException}
    (refused : admitRequest platform settings request = .error refusal) :
    refusal.statusCode ≠ 503 := by
  simp only [admitRequest, bind_eq_error_iff, require_eq_error_iff] at refused
  rcases refused with unread | ⟨body, _, ⟨_, rfl⟩ | ⟨_, _, unnamed | ⟨deliveryId, _,
    ⟨_, rfl⟩ | ⟨_, _, undecided⟩⟩⟩⟩
  · exact statusCode_of_readBoundedBody unread
  · decide
  · unfold admitDelivery at unnamed
    cases outcome : validateDeliveryId request.delivery with
    | error detail =>
        rw [outcome] at unnamed
        cases unnamed
        exact of_decide_eq_true rfl
    | ok _ =>
        rw [outcome] at unnamed
        cases unnamed
  · decide
  · split at undecided
    · cases undecided
    · split at undecided
      · cases undecided
        decide
      · exact statusCode_of_admitPayload undecided

variable [DecidableEq Document]

/-- **What an answer says.**  In any state: an answer in the 200s that shows a run shows
it as it is stored, and its task has been created if it is open; a refusal either leaves
everything as it was or is the 503 for an open run whose delivery has been recorded; an
exception of the store leaves everything as it was. -/
theorem webhook_answers_honest (deployment : IntakeDeployment Document)
    (intake : Intake Document) (request : WebhookRequest) (input : StoreInput)
    (fate : CreateTaskFate) :
    (∀ code response, (githubWebhook deployment intake request input fate).1 =
        .ok (code, response) →
      ((githubWebhook deployment intake request input fate).2 = intake ∧ response.runId = none) ∨
      ∃ row ∈ (githubWebhook deployment intake request input fate).2.store.runs,
        response.runId = some row.runId ∧ response.lifecycle = some row.lifecycle ∧
        response.revisionState = some row.revisionState ∧
        HandedOver deployment (githubWebhook deployment intake request input fate).2.queue row) ∧
    (∀ refusal, (githubWebhook deployment intake request input fate).1 =
        .error (.http refusal) →
      ((githubWebhook deployment intake request input fate).2 = intake ∧
        refusal.statusCode ≠ 503) ∨
      refusal = dispatchUnavailable ∧ fate ≠ .answered ∧ ∃ event,
        Authentic deployment.platform deployment.settings request event ∧
        ∃ row ∈ (githubWebhook deployment intake request input fate).2.store.runs, row.Open ∧
          ∃ delivery, (githubWebhook deployment intake request input fate).2.store.deliveries.lookup
            event.deliveryId.text = some delivery ∧ delivery.runId = row.runId) ∧
    ∀ exception, (githubWebhook deployment intake request input fate).1 =
        .error (.store exception) →
      (githubWebhook deployment intake request input fate).2 = intake := by
  unfold githubWebhook
  split
  · rename_i refusal refused
    refine ⟨fun _ _ answered => (by cases answered), fun _ same => ?_,
      fun _ same => (by cases same)⟩
    cases same
    exact .inl ⟨rfl, statusCode_of_admit refused⟩
  · refine ⟨fun _ _ answered => ?_, fun _ same => (by cases same), fun _ same => by cases same⟩
    cases answered
    exact .inl ⟨rfl, rfl⟩
  · rename_i event admitted
    cases outcome : (intake.store.perform deployment.sha256Of input (.acceptPullRequest event)).1 with
    | error exception =>
        rw [acceptEvent_of_error outcome, SqliteStore.perform_of_error outcome]
        exact ⟨fun _ _ answered => (by cases answered), fun _ same => (by cases same),
          fun _ _ => rfl⟩
    | ok acceptance =>
        rw [acceptEvent_of_ok outcome]
        have accepted := SqliteStore.acceptance_of_perform outcome
        by_cases handed : (handOff deployment intake.queue acceptance.run fate).1 = true
        · rw [if_pos handed]
          refine ⟨fun code response answered => .inr ?_, fun _ same => (by cases same),
            fun _ same => by cases same⟩
          obtain ⟨sameRun, sameLifecycle, sameRevision⟩ := runId_acknowledge acceptance
          obtain rfl : (acknowledge acceptance).2 = response :=
            congrArg Prod.snd (Except.ok.inj answered)
          exact ⟨acceptance.run, Table.mem_of_lookup accepted.shown, sameRun, sameLifecycle,
            sameRevision, handedOver_of_handOff handed⟩
        · rw [if_neg handed]
          refine ⟨fun _ _ answered => (by cases answered), fun _ same => .inr ?_,
            fun _ same => by cases same⟩
          cases same
          obtain ⟨isOpen, unanswered⟩ := open_of_handOff_failed handed
          exact ⟨rfl, unanswered, event, authentic_of_admitRequest admitted, acceptance.run,
            Table.mem_of_lookup accepted.shown, isOpen, accepted.recorded⟩

/-! ## Repeated deliveries -/

variable (deployment) in
/-- A step neither forgets a delivery nor the run it is recorded for. -/
theorem recorded_step {intake : Intake Document} (reasoned : intake.store.Reasoned)
    (step : IntakeStep Document) {deliveryId : String} {delivery : DeliveryRecord}
    (recorded : intake.store.deliveries.lookup deliveryId = some delivery) {row : RunRow}
    (found : intake.store.runs.lookup delivery.runId = some row) :
    (intakeStep deployment intake step).store.Reasoned ∧
      (intakeStep deployment intake step).store.deliveries.lookup deliveryId = some delivery ∧
      ∃ later, (intakeStep deployment intake step).store.runs.lookup delivery.runId =
        some later := by
  -- Every step leaves the store alone or performs one operation on it.
  suffices performed : (intakeStep deployment intake step).store = intake.store ∨
      ∃ input call, (intakeStep deployment intake step).store =
        (intake.store.perform deployment.sha256Of input call).2 by
    rcases performed with same | ⟨input, call, same⟩
    · rw [same]
      exact ⟨reasoned, recorded, row, found⟩
    · rw [same]
      have observed := intake.store.perform_observed deployment.sha256Of input call delivery.runId
      obtain ⟨later, laterFound, _⟩ := observed.rowStep found (reasoned _ row found)
      exact ⟨reasoned.perform input call, SqliteStore.perform_deliveries_kept recorded, later,
        laterFound⟩
  cases step with
  | operation input call => exact .inr ⟨input, call, rfl⟩
  | finished | released => exact .inl rfl
  | webhook request input fate =>
      simp only [intakeStep]
      unfold githubWebhook
      split
      · exact .inl rfl
      · exact .inl rfl
      · rename_i event _
        refine .inr ⟨input, .acceptPullRequest event, ?_⟩
        cases outcome :
            (intake.store.perform deployment.sha256Of input (.acceptPullRequest event)).1 with
        | error exception => rw [acceptEvent_of_error outcome]
        | ok acceptance => rw [acceptEvent_of_ok outcome]

variable (deployment) in
theorem recorded_after (steps : List (IntakeStep Document)) {intake : Intake Document}
    (reasoned : intake.store.Reasoned) {deliveryId : String} {delivery : DeliveryRecord}
    (recorded : intake.store.deliveries.lookup deliveryId = some delivery) {row : RunRow}
    (found : intake.store.runs.lookup delivery.runId = some row) :
    (intakeAfter deployment intake steps).store.deliveries.lookup deliveryId = some delivery ∧
      ∃ later, (intakeAfter deployment intake steps).store.runs.lookup delivery.runId =
        some later := by
  induction steps generalizing intake row with
  | nil => exact ⟨recorded, row, found⟩
  | cons step rest ih =>
      obtain ⟨keptReasoned, stillRecorded, _, stillFound⟩ :=
        recorded_step deployment reasoned step recorded found
      exact ih keptReasoned stillRecorded stillFound

end Answers

/-! ## A sample delivery -/

/-- The bytes of a delivery that opens a pull request. -/
def openedBody : List UInt8 :=
  ("\x7b\"action\":\"opened\",\"number\":7,\"repository\":\x7b\"full_name\":".toList ++
    "\"octo/service\",\"private\":false\x7d,\"pull_request\":\x7b\"base\":\x7b\"sha\":\"".toList ++
    List.replicate 40 'b' ++ "\"\x7d,\"head\":\x7b\"sha\":\"".toList ++ List.replicate 40 'a' ++
    "\"\x7d,\"updated_at\":\"1970-01-01T00:00:10Z\"\x7d\x7d".toList).map fun c => c.toNat.toUInt8

/-- The fields of those bytes. -/
def openedFields : DecodedWebhook where
  action := "opened"
  number := 7
  fullName := "octo/service"
  isPrivate := false
  baseSha := String.ofList (List.replicate 40 'b')
  headSha := String.ofList (List.replicate 40 'a')
  updatedAt := .aware 10000000
  title := none
  body := none
  installationId := none

/-- Their keyed hash under the secret of the sample deployment. -/
def openedSignature : Sha256 where
  text := "6b45fb0de0fcd91c90b283189aa276ad5f913b6ec528bf2fc1781b9a3c708c67"
  wellFormed := by decide +kernel

def openedRequest : WebhookRequest where
  contentLength := some "257"
  signature := some "sha256=6b45fb0de0fcd91c90b283189aa276ad5f913b6ec528bf2fc1781b9a3c708c67"
  delivery := some "72d3162e-cc78-11e3-81ab-4c9367dc0958"
  eventName := some "pull_request"
  chunks := [openedBody.take 100, openedBody.drop 100]

theorem sampleDispatcher_filled : (["project", "region", "queue", "https://control/tasks/verify",
    "tasks@project", "https://control"].all fun value => strip value != "") = true := by
  decide +kernel

theorem sampleDispatcher_secure :
    "https://".toList.isPrefixOf "https://control/tasks/verify".toList = true ∧
      "https://".toList.isPrefixOf "https://control".toList = true := by
  decide +kernel

def sampleDispatcher : CloudTasksDispatcherSettings where
  projectId := "project"
  location := "region"
  queue := "queue"
  targetUrl := "https://control/tasks/verify"
  serviceAccountEmail := "tasks@project"
  audience := "https://control"
  filled := sampleDispatcher_filled
  secure := sampleDispatcher_secure
  bounded := ⟨by omega, by omega⟩

def sampleDeployment : IntakeDeployment String where
  platform := {
    hmacSha256 := fun _ _ => openedSignature
    decode := fun _ => some openedFields }
  settings := {
    webhookSecret := [115, 101, 99, 114, 101, 116]
    allowedRepositories := [⟨"octo/service", isRepositoryName_octo⟩]
    maxPayloadBytes := 1048576
    wellFormed := ⟨List.cons_ne_nil _ _, List.cons_ne_nil _ _, Nat.succ_pos _⟩ }
  dispatcher := some sampleDispatcher
  queuePath := fun project location queue =>
    "projects/" ++ project ++ "/locations/" ++ location ++ "/queues/" ++ queue
  sha256Of := id

theorem openedDelivery_bounded : 1 ≤ "72d3162e-cc78-11e3-81ab-4c9367dc0958".length ∧
    "72d3162e-cc78-11e3-81ab-4c9367dc0958".length ≤ 128 := by
  decide

theorem openedTitle_bounded : 1 ≤ "Untitled pull request".length ∧
    "Untitled pull request".length ≤ 300 := by
  decide

theorem openedBody_bounded : 0 ≤ "".length ∧ "".length ≤ 8000 := by
  decide

theorem openedAction_bounded : 1 ≤ "opened".length ∧ "opened".length ≤ 64 := by
  decide

def openedEvent : PullRequestEvent where
  deliveryId := ⟨"72d3162e-cc78-11e3-81ab-4c9367dc0958", openedDelivery_bounded⟩
  action := ⟨"opened", openedAction_bounded⟩
  repository := ⟨"octo/service", isRepositoryName_octo⟩
  prNumber := ⟨7, seven_positive⟩
  baseSha := ⟨String.ofList (List.replicate 40 'b'), isGitSha_bs⟩
  headSha := ⟨String.ofList (List.replicate 40 'a'), isGitSha_as⟩
  headUpdatedAt := 10000000
  title := ⟨"Untitled pull request", openedTitle_bounded⟩
  body := ⟨"", openedBody_bounded⟩

theorem admitRequest_opened :
    admitRequest sampleDeployment.platform sampleDeployment.settings openedRequest =
      .ok (.event openedEvent) := by
  decide +kernel

/-- The sample delivery, with a queue that cannot be reached. -/
def openedStep : IntakeStep String := .webhook openedRequest ⟨20, ⟨1⟩⟩ .undelivered

theorem accepted_opened : ((intakeAfter sampleDeployment (Intake.empty String) []).store.perform
    sampleDeployment.sha256Of ⟨20, ⟨1⟩⟩ (.acceptPullRequest openedEvent)).1 =
      .ok ⟨.created, RunRow.created openedEvent ⟨20, ⟨1⟩⟩ none⟩ := rfl

theorem githubWebhook_opened :
    (githubWebhook sampleDeployment (Intake.empty String) openedRequest ⟨20, ⟨1⟩⟩
      .undelivered).1 = .error (.http dispatchUnavailable) := by
  unfold githubWebhook
  rw [admitRequest_opened]
  exact congrArg Prod.fst (acceptEvent_of_ok accepted_opened)

/-- The run of the sample delivery is stored although its task could not be created. -/
theorem webhook_intake_sound_opened :
    (githubWebhook sampleDeployment (Intake.empty String) openedRequest ⟨20, ⟨1⟩⟩
        .undelivered).1 = .error (.http dispatchUnavailable) ∧
      ∀ row ∈ (intakeAfter sampleDeployment (Intake.empty String) [openedStep]).store.runs,
        row.repository ∈ sampleDeployment.settings.allowedRepositories :=
  ⟨githubWebhook_opened, fun row present =>
    ((webhook_intake_sound sampleDeployment [openedStep] fun _ _ mem => by
      simp [openedStep] at mem).1 row present).1⟩

end PatchProof
