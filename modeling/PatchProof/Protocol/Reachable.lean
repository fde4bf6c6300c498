import PatchProof.Protocol.Task
import PatchProof.Storage.Lifecycle

/-!
# Runs the service can reach

What holds of a run wherever a schedule of the service has led.  While a run is not
terminal it has no conclusion, no publication and no failure, and its stored evidence,
if any, is a report; a routine that has seen the run completed finds it completed.

`Underway` is an assertion about a single run.  It is kept by what an acceptance does
to the run, by the moves of the routines about it, and by everything else because
everything else leaves the run alone.
-/

set_option autoImplicit false

namespace PatchProof

variable {p : Platform}

/-! ## Answers of the service -/

/-- What is observed of a run shows that it was answered with its own row. -/
theorem Observed.answersOwn {runId : RunId} {input : StoreInput} {call : StoreCall p.Document}
    {reply : Except StoreException call.Result} {before after : RunView p.Document}
    (observed : Observed p.sha256Of runId input call reply before after)
    (about : call.target = some runId)
    (keyed : ∀ row, before.row = some row → row.runId = runId) :
    AnswersOwn (.store call) reply := by
  cases observed with
  | elsewhere _ different => exact absurd about different
  | loaded found => exact keyed _ found
  | moved found _ _ wrote =>
      have same := keyed _ found
      exact (congrArg RunRow.runId wrote).trans same
  | _ => trivial

theorem answersOwn_service (store : SqliteStore p.Document) (moment : Moment p)
    (call : ServiceCall p) : AnswersOwn call ((service p).answer store moment call).1 := by
  have own : ∀ {call : StoreCall p.Document} {runId : RunId}, call.target = some runId →
      AnswersOwn (.store call) ((service p).answer store moment (.store call)).1 := by
    intro call runId about
    exact (store.perform_observed p.sha256Of moment.storeInput call runId).answersOwn about
      fun row found => Table.key_of_lookup found
  cases call with
  | external kind request => trivial
  | store call =>
      cases call with
      | getRun runId => exact own rfl
      | transitionRun runId version transition => exact own rfl
      | _ => trivial

/-! ## Moves about a run -/

section Moves

variable {runId : RunId} {role moved : TaskRole p}

/-- A routine for a run asks only about that run. -/
theorem TaskMove.target {call : StoreCall p.Document} {reply : Except StoreException call.Result}
    (move : TaskMove runId role (.store call) reply moved) : call.target = some runId := by
  cases move with
  | works worked =>
      generalize role.worker = worker at worked
      cases worked <;> rfl
  | reads | fails | opens | sees | waives => rfl
  | publishes closed publishes =>
      cases call with
      | getPublication target => exact congrArg some publishes
      | beginPublication target payloadSha256 => exact congrArg some publishes
      | setCheckRunId target checkRunId => exact congrArg some publishes
      | recordPublicationError target error => exact congrArg some publishes
      | transitionRun target version transition => exact congrArg some publishes.1
      | _ => exact publishes.elim

/-- The transitions that a routine may request. -/
inductive Requested (role : TaskRole p) : RunTransition → Prop
  | prepares {transition} (prepares : transition.Prepares) : Requested role transition
  | claims : Requested role .claiming
  | completes {report : p.Report} {run} (ready : role.worker = .ready report run) :
      Requested role (.completion report.mechanicalStatus report.claimOutcome)
  | waives (saw : role.snapshot = some false) : Requested role .waiving
  | publishes {state} (closed : role.closed = true) (kept : state ≠ .notApplicable) :
      Requested role { publicationState := some state }

theorem TaskMove.requested {target : RunId} {version : Int} {transition : RunTransition}
    {reply : Except StoreException VerificationRun}
    (move : TaskMove runId role (.store (.transitionRun target version transition)) reply moved) :
    Requested role transition := by
  cases move with
  | works worked =>
      generalize standing : role.worker = worker at worked
      cases worked with
      | prepares busy prepares => exact .prepares prepares
      | claims | claimsNot => exact .claims
      | completes | completesNot => exact .completes standing
  | waives saw => exact .waives saw
  | publishes closed publishes =>
      obtain ⟨_, state, kept, rfl⟩ := publishes
      exact .publishes closed kept

/-- What a routine saves is a report. -/
theorem TaskMove.saves {target : RunId} {documentJson : p.Document} {sha256 : String}
    {reply : Except StoreException (StoredEvidence p.Document)}
    (move : TaskMove runId role (.store (.saveEvidence target documentJson sha256)) reply moved) :
    ∃ report, documentJson = p.encode report ∧ sha256 = (p.reportSha256 report).text := by
  cases move with
  | works worked =>
      generalize role.worker = worker at worked
      cases worked with
      | saves => exact ⟨_, rfl, rfl⟩
      | savesNot => exact ⟨_, rfl, rfl⟩
  | publishes closed publishes => exact publishes.elim

end Moves

/-! ## What one tick does to a run -/

/-- What a call of a routine with a duty does to one run. -/
inductive DutyTick (runId : RunId) (input : StoreInput) (duty : Duty p) (role moved : TaskRole p)
    (before after : RunView p.Document) : (call : ServiceCall p) → ServiceCall.Reply p call → Prop
  | outside {kind request reply} (same : after = before) (snapshot : moved.snapshot = role.snapshot)
      (closed : moved.closed = role.closed) :
      DutyTick runId input duty role moved before after (.external kind request) reply
  | accepts {event reply} (is : duty = .accept event) (stays : moved = role)
      (observed : Observed p.sha256Of runId input (.acceptPullRequest event) reply before after) :
      DutyTick runId input duty role moved before after (.store (.acceptPullRequest event)) reply
  | own {call reply} (about : duty.runId = some runId)
      (observed : Observed p.sha256Of runId input call reply before after)
      (move : TaskMove runId role (.store call) reply moved) :
      DutyTick runId input duty role moved before after (.store call) reply
  | other {target call reply} (about : duty.runId = some target) (different : target ≠ runId)
      (concerns : call.target = some target) (same : after = before) :
      DutyTick runId input duty role moved before after (.store call) reply

/-- **Every call of a duty is such a tick.** -/
theorem Duty.Move.tick {duty : Duty p} {role moved : TaskRole p} {store : SqliteStore p.Document}
    {moment : Moment p} {call : ServiceCall p}
    (move : duty.Move role call ((service p).answer store moment call).1 moved) (runId : RunId) :
    DutyTick runId moment.storeInput duty role moved (store.view runId)
      (((service p).answer store moment call).2.view runId) call
      ((service p).answer store moment call).1 := by
  cases call with
  | external kind request =>
      refine .outside rfl ?_ ?_ <;> cases move with
      | tasks about move => cases move with
        | works => rfl
        | asks => rfl
  | store call =>
      have observed := store.perform_observed p.sha256Of moment.storeInput call runId
      cases move with
      | accepts is => exact .accepts is rfl observed
      | @tasks target _ _ _ _ about move =>
          by_cases same : target = runId
          · subst same
            exact .own about observed move
          · have concerns := move.target
            refine .other about same concerns ?_
            change ((store.perform p.sha256Of moment.storeInput call).2.view runId) = _
            revert observed concerns
            generalize (store.perform p.sha256Of moment.storeInput call).1 = reply
            generalize (store.perform p.sha256Of moment.storeInput call).2.view runId = after
            intro observed concerns
            cases observed with
            | elsewhere => rfl
            | accepted => cases concerns
            | notAccepted => rfl
            | _ => exact absurd (Option.some.inj concerns).symm same

/-! ## Runs that are underway -/

/-- A run before its end is clean. -/
structure RunRow.Clean (row : RunRow) : Prop where
  mechanicalEvidenceStatus : row.mechanicalEvidenceStatus = none
  claimOutcome : row.claimOutcome = none
  publicationState : row.publicationState = .notStarted

/-- What holds of every run that the service can reach. -/
structure Underway (view : RunView p.Document) : Prop where
  absent : view.row = none → view.evidence = none ∧ view.failure = none
  active : ∀ row, view.row = some row → row.lifecycle ≠ .terminal →
    row.Clean ∧ view.failure = none
  written : ∀ stored, view.evidence = some stored → ∃ report,
    stored.documentJson = p.encode report ∧ stored.sha256 = (p.reportSha256 report).text

/-- What a routine that has seen the run completed relies on. -/
def SeenCompleted (view : RunView p.Document) (role : TaskRole p) : Prop :=
  role.closed = true → ∃ row, view.row = some row ∧ row.Completed

section Underway

variable {runId : RunId} {input : StoreInput} {before after : RunView p.Document}

/-- A requested transition keeps a run clean while it is not terminal. -/
theorem Requested.clean {role : TaskRole p} {transition : RunTransition} {row : RunRow} {now : Int}
    (requested : Requested role transition) (permits : Permits row transition now)
    (seen : role.closed = true → row.lifecycle = .terminal)
    (active : row.lifecycle ≠ .terminal → row.Clean)
    (stays : (row.transitioned transition now).lifecycle ≠ .terminal) :
    row.lifecycle ≠ .terminal ∧ (row.transitioned transition now).Clean := by
  have wasActive : row.lifecycle ≠ .terminal := by
    intro terminal
    have allowed := permits.lifecycleAllowed
    rw [terminal] at allowed
    exact stays (List.mem_singleton.mp allowed)
  have clean := active wasActive
  refine ⟨wasActive, ?_⟩
  cases requested with
  | prepares prepares =>
      refine ⟨?_, ?_, ?_⟩
      · simp [RunRow.transitioned, RunRow.withChanges, prepares.mechanicalEvidenceStatus,
          clean.mechanicalEvidenceStatus]
      · simp [RunRow.transitioned, RunRow.withChanges, prepares.claimOutcome, clean.claimOutcome]
      · simp [RunRow.transitioned, RunRow.withChanges, prepares.publicationState,
          clean.publicationState]
  | claims =>
      exact ⟨clean.mechanicalEvidenceStatus, clean.claimOutcome, clean.publicationState⟩
  | completes => exact absurd rfl stays
  | waives =>
      have allowed := permits.publicationAllowed
      rw [clean.publicationState] at allowed
      simp [RunRow.withChanges, RunTransition.waiving, publicationTransitions] at allowed
  | publishes closed => exact absurd (seen closed) wasActive

/-- An acceptance keeps what holds of a run. -/
theorem Underway.accepted (underway : Underway before) {event : PullRequestEvent}
    {reply : Except StoreException AcceptanceResult}
    (observed : Observed p.sha256Of runId input (.acceptPullRequest event) reply before after) :
    Underway after := by
  cases observed with
  | elsewhere => exact underway
  | notAccepted => exact underway
  | accepted change =>
      obtain ⟨row, evidence, publication, failure⟩ := before
      dsimp only at change
      cases change with
      | kept => exact underway
      | refreshed old samePull sameRevision newer =>
          refine ⟨fun absent => absurd absent (Option.some_ne_none _), fun row is stays => ?_, underway.written⟩
          obtain rfl := Option.some.inj is
          obtain ⟨clean, unfailed⟩ := underway.active old rfl stays
          exact ⟨⟨clean.mechanicalEvidenceStatus, clean.claimOutcome, clean.publicationState⟩,
            unfailed⟩
      | replaced old samePull wasCurrent newer =>
          refine ⟨fun absent => absurd absent (Option.some_ne_none _), fun row is stays => ?_, underway.written⟩
          obtain rfl := Option.some.inj is
          exact absurd rfl stays
      | created newer =>
          refine ⟨fun absent => absurd absent (Option.some_ne_none _), fun row is _ => ?_, underway.written⟩
          obtain rfl := Option.some.inj is
          exact ⟨⟨rfl, rfl, rfl⟩, (underway.absent rfl).2⟩

/-- A move of a routine for the run keeps what holds of it. -/
theorem Underway.moved (underway : Underway before) {role moved : TaskRole p}
    {call : StoreCall p.Document} {reply : Except StoreException call.Result}
    (observed : Observed p.sha256Of runId input call reply before after)
    (move : TaskMove runId role (.store call) reply moved) (seen : SeenCompleted before role) :
    Underway after := by
  cases observed with
  | accepted => cases move.target
  | @moved _ _ _ current updated found version permits wrote =>
      rw [wrote]
      refine ⟨fun absent => absurd absent (Option.some_ne_none _), fun row is stays => ?_, underway.written⟩
      obtain rfl := Option.some.inj is
      have terminal : role.closed = true → current.lifecycle = .terminal := by
        intro closed
        obtain ⟨row, found', completed⟩ := seen closed
        obtain rfl := Option.some.inj (found.symm.trans found')
        exact completed.1
      obtain ⟨wasActive, clean⟩ := move.requested.clean permits terminal
        (fun active => (underway.active _ found active).1) stays
      exact ⟨clean, (underway.active _ found wasActive).2⟩
  | saved hashes present fresh =>
      refine ⟨fun absent => ?_, underway.active, fun stored is => ?_⟩
      · obtain ⟨run, found⟩ := present
        rw [found] at absent
        cases absent
      · obtain rfl := Option.some.inj is
        exact move.saves
  | failed found fresh permits =>
      refine ⟨fun absent => absurd absent (Option.some_ne_none _), fun row is stays => ?_, underway.written⟩
      obtain rfl := Option.some.inj is
      exact absurd rfl stays
  | begun | begunAgain | identified | noted =>
      exact ⟨underway.absent, underway.active, underway.written⟩
  | _ => exact underway

/-- A completed run stays completed. -/
theorem RowEvolves.completed {row later : RunRow} (evolves : RowEvolves row later)
    (completed : row.Completed) : later.Completed := by
  refine ⟨?_, ?_⟩
  · have least := evolves.lifecycle
    rw [completed.1] at least
    cases stage : later.lifecycle <;> simp_all [lifecycleOrder]
  · have recorded : row.terminalReason ≠ none := by simp [completed.2]
    exact (evolves.terminalReason recorded).trans completed.2

/-- No call takes a run back from its completion. -/
theorem Observed.completed {call : StoreCall p.Document} {reply : Except StoreException call.Result}
    (observed : Observed p.sha256Of runId input call reply before after) {row : RunRow}
    (found : before.row = some row) (completed : row.Completed) :
    ∃ later, after.row = some later ∧ later.Completed := by
  have reasoned : row.Reasoned := fun active => absurd completed.1 active
  obtain ⟨later, isLater, step⟩ := observed.rowStep found reasoned
  exact ⟨later, isLater, step.evolves.completed completed⟩

theorem SeenCompleted.kept {role : TaskRole p} {call : StoreCall p.Document}
    {reply : Except StoreException call.Result} (seen : SeenCompleted before role)
    (observed : Observed p.sha256Of runId input call reply before after) :
    SeenCompleted after role := by
  intro closed
  obtain ⟨row, found, completed⟩ := seen closed
  exact observed.completed found completed

/-- What a move shows of the run is so. -/
theorem SeenCompleted.moved {role moved : TaskRole p} {call : StoreCall p.Document}
    {reply : Except StoreException call.Result} (seen : SeenCompleted before role)
    (observed : Observed p.sha256Of runId input call reply before after)
    (move : TaskMove runId role (.store call) reply moved) : SeenCompleted after moved := by
  cases move with
  | works | reads | fails | opens => exact seen.kept observed
  | sees completed =>
      intro _
      cases observed with
      | elsewhere _ different => exact absurd rfl different
      | loaded found => exact ⟨_, found, completed⟩
  | waives | publishes => exact seen.kept observed

end Underway

/-! ## Runs whose publication has been started -/

/-- A completed run has had its publication started. -/
def Announced (view : RunView p.Document) : Prop :=
  ∀ row, view.row = some row → row.Completed → row.publicationState ≠ .notStarted

section Announced

variable {runId : RunId} {input : StoreInput} {before after : RunView p.Document}

theorem Announced.accepted (announced : Announced before) {event : PullRequestEvent}
    {reply : Except StoreException AcceptanceResult}
    (observed : Observed p.sha256Of runId input (.acceptPullRequest event) reply before after) :
    Announced after := by
  cases observed with
  | elsewhere => exact announced
  | notAccepted => exact announced
  | accepted change =>
      intro row found completed
      obtain ⟨earlier, evidence, publication, failure⟩ := before
      dsimp only at change found
      subst found
      cases change with
      | kept => exact announced row rfl completed
      | refreshed old => exact announced old rfl completed
      | replaced old =>
          have reason := completed.2
          by_cases terminal : old.lifecycle = .terminal
          · have same : (old.replacedBy input.freshRunId input.now).terminalReason =
                old.terminalReason := if_pos terminal
            exact announced old rfl ⟨terminal, same.symm.trans reason⟩
          · have superseded : (old.replacedBy input.freshRunId input.now).terminalReason =
                some .superseded := if_neg terminal
            rw [superseded] at reason
            cases reason
      | created newer =>
          have reason := completed.2
          cases newer <;> cases reason

/-- Only a completion completes a run. -/
theorem Requested.completes_of_completed {role : TaskRole p} {transition : RunTransition}
    {row : RunRow} {now : Int} (requested : Requested role transition)
    (completed : (row.transitioned transition now).Completed) :
    row.Completed ∨ (row.transitioned transition now).publicationState = .pending := by
  cases requested with
  | prepares prepares =>
      refine .inl ⟨?_, ?_⟩
      · have ended := completed.1
        cases stage : transition.lifecycle with
        | none => simpa [RunRow.transitioned, RunRow.withChanges, stage] using ended
        | some lifecycle =>
            have notTerminal := prepares.lifecycle
            simp only [RunRow.transitioned, RunRow.withChanges, stage, Option.getD_some] at ended
            exact absurd (stage.trans (congrArg some ended)) notTerminal
      · simpa [RunRow.transitioned, RunRow.withChanges, prepares.terminalReason] using completed.2
  | claims => exact .inl completed
  | completes ready => exact .inr rfl
  | waives saw => exact .inl completed
  | publishes closed kept => exact .inl completed

theorem Announced.moved (announced : Announced before) {role moved : TaskRole p}
    {call : StoreCall p.Document} {reply : Except StoreException call.Result}
    (observed : Observed p.sha256Of runId input call reply before after)
    (move : TaskMove runId role (.store call) reply moved) : Announced after := by
  intro row found completed
  cases observed with
  | accepted => cases move.target
  | @moved _ transition _ current updated present version permits wrote =>
      obtain rfl := Option.some.inj found
      rw [wrote] at completed ⊢
      intro unstarted
      rcases move.requested.completes_of_completed completed with was | pending
      · have started := announced _ present was
        have allowed : (current.toRunRow.transitioned transition input.now).publicationState ∈
            publicationTransitions current.publicationState := permits.publicationAllowed
        rw [unstarted] at allowed
        cases state : current.publicationState <;>
          simp_all [publicationTransitions]
      · rw [pending] at unstarted
        cases unstarted
  | failed present fresh permits =>
      obtain rfl := Option.some.inj found
      have reason := completed.2
      cases reason
  | _ => exact announced row found completed

end Announced

/-! ## The whole service -/

section Service

variable {ι : Type} [DecidableEq ι] {duties : ι → Duty p} {runId : RunId}

/-- What holds of a run and of the routines about it. -/
structure UnderwayService (duties : ι → Duty p) (runId : RunId) (store : SqliteStore p.Document)
    (_ : List (PoolEvent ι (ServiceCall.Reply p))) (roles : ι → TaskRole p) : Prop where
  underway : Underway (store.view runId)
  seen : ∀ who, (duties who).runId = some runId → SeenCompleted (store.view runId) (roles who)

/-- A routine that has seen nothing, or seen what is still so. -/
theorem seen_update {roles : ι → TaskRole p} {view : RunView p.Document} {who : ι}
    {moved : TaskRole p} (mover : (duties who).runId = some runId → SeenCompleted view moved)
    (others : ∀ other, (duties other).runId = some runId → SeenCompleted view (roles other)) :
    ∀ other, (duties other).runId = some runId →
      SeenCompleted view (Function.update roles who moved other) := by
  intro other about
  by_cases same : other = who
  · subst same
    rw [Function.update_self]
    exact mover about
  · rw [Function.update_of_ne same]
    exact others other about

theorem underwayService_keeps :
    Pool.Keeps (service p) (fun who => (duties who).protocol)
      (fun (_ : Pool ι (ServiceCall.Reply p) (SqliteStore p.Document) RaisedException Unit)
        _ _ _ => True) (UnderwayService duties runId) where
  assumed _ _ := answersOwn_service _ _ _
  kept := by
    intro pool roles who call moment moved holds _ move
    have tick := Duty.Move.tick move runId
    suffices kept : Underway (((service p).answer pool.shared moment call).2.view runId) ∧
        ∀ other, (duties other).runId = some runId →
          SeenCompleted (((service p).answer pool.shared moment call).2.view runId)
            (Function.update roles who moved other) from ⟨kept.1, kept.2⟩
    revert tick
    generalize ((service p).answer pool.shared moment call).2.view runId = after
    generalize ((service p).answer pool.shared moment call).1 = reply
    intro tick
    cases tick with
    | outside same snapshot closed =>
        subst same
        refine ⟨holds.underway, seen_update (fun about isClosed => ?_) holds.seen⟩
        exact holds.seen who about (closed.symm.trans isClosed)
    | accepts is stays observed =>
        subst stays
        refine ⟨holds.underway.accepted observed, seen_update (fun about => ?_) fun other about => ?_⟩
        · exact (holds.seen who about).kept observed
        · exact (holds.seen other about).kept observed
    | own about observed step =>
        refine ⟨holds.underway.moved observed step (holds.seen who about),
          seen_update (fun about => ?_) fun other about => ?_⟩
        · exact (holds.seen who about).moved observed step
        · exact (holds.seen other about).kept observed
    | other about different concerns same =>
        subst same
        refine ⟨holds.underway, seen_update (fun own => ?_) holds.seen⟩
        exact absurd (Option.some.inj (about.symm.trans own)) different

/-- **Every run that the service reaches is underway or ended as stated.** -/
theorem reachedPool_underway (duties : ι → Duty p) (schedule : List (ι × Moment p))
    (runId : RunId) : Underway ((reachedPool duties schedule).shared.view runId) := by
  have started : Pool.Accounted (fun who => (duties who).protocol) (fun _ _ _ => True)
      (fun _ _ _ => True) (UnderwayService duties runId) (startedPool duties) fun _ => {} := by
    refine ⟨fun who => (duties who).routine_follows, ⟨⟨fun _ => ⟨rfl, rfl⟩, ?_, ?_⟩, ?_⟩⟩
    · intro row absurdity
      cases absurdity
    · intro stored absurdity
      cases absurdity
    · intro who _ absurdity
      cases absurdity
  obtain ⟨roles, accounted⟩ := Pool.run_invariant started underwayService_keeps schedule
    (Pool.along_of_always (fun _ _ _ _ => trivial) _ _)
  exact accounted.holds.underway

theorem announced_keeps :
    Pool.Keeps (service p) (fun who => (duties who).protocol)
      (fun (_ : Pool ι (ServiceCall.Reply p) (SqliteStore p.Document) RaisedException Unit)
        _ _ _ => True) (fun store _ _ => Announced (store.view runId)) where
  assumed _ _ := answersOwn_service _ _ _
  kept := by
    intro pool roles who call moment moved announced _ move
    cases Duty.Move.tick move runId with
    | outside same snapshot closed => exact same ▸ announced
    | accepts is stays observed => exact announced.accepted observed
    | own about observed step => exact announced.moved observed step
    | other about different concerns same => exact same ▸ announced

/-- **Wherever a schedule leads, completed runs have had their publication started.** -/
theorem announced_along (duties : ι → Duty p) (schedule : List (ι × Moment p)) (runId : RunId) :
    Pool.Along (service p)
      (fun pool _ _ _ => Announced (pool.shared.view runId)) (startedPool duties) schedule := by
  have started : Pool.Accounted (fun who => (duties who).protocol) (fun _ _ _ => True)
      (fun _ _ _ => True) (fun store _ _ => Announced (store.view runId)) (startedPool duties)
      fun _ => {} := by
    refine ⟨fun who => (duties who).routine_follows, fun row absurdity => ?_⟩
    cases absurdity
  exact Pool.along_of_invariant started announced_keeps (fun accounted _ _ => accounted.holds)
    schedule (Pool.along_of_always (fun _ _ _ _ => trivial) _ _)

end Service

end PatchProof
