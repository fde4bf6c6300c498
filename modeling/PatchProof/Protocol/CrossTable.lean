import PatchProof.Protocol.Publishing
import PatchProof.Protocol.Reachable

/-!
# The tables of a run agree

Runs, evidence, publications and failures are written in separate transactions by
acceptances, workers and publish attempts, any of which may stop between two writes.
What each of them relies on is a fact about a table that no call takes back: stored
evidence never changes, and a publication keeps its payload and its Check.  So a run is
completed only with the report that is stored, published only with the Check of that
report, and failed exactly when its failure is recorded (`tables_consistent`).
-/

set_option autoImplicit false

namespace PatchProof

variable {p : Platform}

/-! ## Facts about the tables -/

namespace RunView

/-- The stored evidence is this report. -/
def Stores (view : RunView p.Document) (report : p.Report) : Prop :=
  ∃ stored, view.evidence = some stored ∧ p.decode stored.documentJson = .ok report

/-- The publication announces this report. -/
def Announces (view : RunView p.Document) (report : p.Report) : Prop :=
  ∃ publication, view.publication = some publication ∧
    publication.payloadSha256 = (p.payloadSha256 (p.payload report)).text

/-- The publication announces this report by a Check that is known. -/
def Identifies (view : RunView p.Document) (report : p.Report) : Prop :=
  ∃ publication, view.publication = some publication ∧
    publication.payloadSha256 = (p.payloadSha256 (p.payload report)).text ∧
    publication.checkRunId ≠ none

/-- What holds of the rows of one run in the four tables. -/
structure Consistent (view : RunView p.Document) : Prop where
  absent : view.row = none → view.evidence = none ∧ view.publication = none ∧ view.failure = none
  reasoned : ∀ row, view.row = some row → row.Reasoned
  hashed : ∀ stored, view.evidence = some stored → p.sha256Of stored.documentJson = stored.sha256
  completed : ∀ row, view.row = some row → row.Completed → ∃ report, view.Stores report ∧
    row.mechanicalEvidenceStatus = some report.mechanicalStatus ∧
    row.claimOutcome = some report.claimOutcome
  failed : ∀ row, view.row = some row → (row.terminalReason = some .failed ↔ view.failure ≠ none)
  published : ∀ row, view.row = some row → row.publicationState = .published →
    ∃ report, view.Stores report ∧ view.Identifies report

end RunView

section Stable

variable {runId : RunId} {input : StoreInput} {call : StoreCall p.Document}
  {reply : Except StoreException call.Result} {before after : RunView p.Document}
  {report : p.Report}

/-- Stored evidence never changes. -/
theorem Observed.evidence_kept (observed : Observed p.sha256Of runId input call reply before after)
    {stored : StoredEvidence p.Document} (found : before.evidence = some stored) :
    after.evidence = some stored := by
  cases observed with
  | saved hashes present fresh =>
      rw [found] at fresh
      cases fresh
  | _ => exact found

/-- A publication keeps its payload and its Check. -/
theorem Observed.publication_kept
    (observed : Observed p.sha256Of runId input call reply before after) {row : CheckPublication}
    (found : before.publication = some row) : ∃ later, after.publication = some later ∧
      later.payloadSha256 = row.payloadSha256 ∧ (row.checkRunId ≠ none → later.checkRunId ≠ none) := by
  cases observed with
  | begun present fresh =>
      rw [found] at fresh
      cases fresh
  | begunAgain present =>
      obtain rfl := Option.some.inj (found.symm.trans present)
      exact ⟨_, rfl, rfl, id⟩
  | identified present =>
      obtain rfl := Option.some.inj (found.symm.trans present)
      exact ⟨_, rfl, rfl, fun _ => Option.some_ne_none _⟩
  | noted present =>
      obtain rfl := Option.some.inj (found.symm.trans present)
      exact ⟨_, rfl, rfl, id⟩
  | _ => exact ⟨row, found, rfl, id⟩

theorem RunView.Stores.kept (stores : before.Stores report)
    (observed : Observed p.sha256Of runId input call reply before after) : after.Stores report := by
  obtain ⟨stored, found, decodes⟩ := stores
  exact ⟨stored, observed.evidence_kept found, decodes⟩

theorem RunView.Announces.kept (announces : before.Announces report)
    (observed : Observed p.sha256Of runId input call reply before after) :
    after.Announces report := by
  obtain ⟨publication, found, payload⟩ := announces
  obtain ⟨later, isLater, same, _⟩ := observed.publication_kept found
  exact ⟨later, isLater, same.trans payload⟩

theorem RunView.Identifies.kept (identifies : before.Identifies report)
    (observed : Observed p.sha256Of runId input call reply before after) :
    after.Identifies report := by
  obtain ⟨publication, found, payload, known⟩ := identifies
  obtain ⟨later, isLater, same, keeps⟩ := observed.publication_kept found
  exact ⟨later, isLater, same.trans payload, keeps known⟩

/-- What a read of the evidence returns is the stored evidence. -/
theorem Observed.evidence_read {evidence : Option (StoredEvidence p.Document)}
    (observed : Observed p.sha256Of runId input (.getEvidence runId) (.ok evidence) before after) :
    before.evidence = evidence := by
  generalize same : (Except.ok evidence : Except StoreException _) = reply at observed
  cases observed with
  | elsewhere _ different => exact absurd rfl different
  | readEvidence => exact (Except.ok.inj same).symm

end Stable

/-! ## What the parties rely on -/

/-- The report that a worker has saved and is about to complete its run with. -/
def WorkerRole.savedReport : WorkerRole p → Option p.Report
  | .saved report | .ready report _ => some report
  | _ => none

/-- Where a worker or a publish attempt stands. -/
inductive TableRole (p : Platform) where
  | working (role : WorkerRole p)
  | publishing (stage : PublishStage p)

/-- What a party relies on where it stands. -/
def TableRole.Knows (view : RunView p.Document) : TableRole p → Prop
  | .working role => ∀ report, role.savedReport = some report → view.Stores report
  | .publishing .uninformed => True
  | .publishing (.informed report) => view.Stores report
  | .publishing (.begun report) => view.Stores report ∧ view.Announces report
  | .publishing (.identified report) => view.Stores report ∧ view.Identifies report

/-- The moves of a worker or a publish attempt for one run. -/
inductive TableMove (runId : RunId) :
    TableRole p → (call : ServiceCall p) → ServiceCall.Reply p call → TableRole p → Prop
  | works {role call reply moved} (move : WorkerMove runId role call reply moved) :
      TableMove runId (.working role) call reply (.working moved)
  | publishes {stage call reply moved} (move : PublishMove runId stage call reply moved) :
      TableMove runId (.publishing stage) call reply (.publishing moved)

/-- The transitions that a party requests, with what it knows of the run. -/
inductive Requests (view : RunView p.Document) : RunTransition → Prop
  | prepares {transition} (prepares : transition.Prepares) : Requests view transition
  | claims : Requests view .claiming
  | completes {report : p.Report} (stores : view.Stores report) :
      Requests view (.completion report.mechanicalStatus report.claimOutcome)
  | publishes {state} (published : state = .published →
      ∃ report, view.Stores report ∧ view.Identifies report) :
      Requests view { publicationState := some state }

section Moves

variable {runId : RunId} {input : StoreInput} {before after : RunView p.Document}
  {role moved : TableRole p}

theorem TableMove.about {call : StoreCall p.Document} {reply : Except StoreException call.Result}
    (move : TableMove runId role (.store call) reply moved) : call.target = some runId := by
  cases move with
  | works move => cases move <;> rfl
  | publishes move => cases move <;> rfl

theorem TableRole.Knows.kept {call : StoreCall p.Document}
    {reply : Except StoreException call.Result} (knows : role.Knows before)
    (observed : Observed p.sha256Of runId input call reply before after) : role.Knows after := by
  cases role with
  | working worker => exact fun report saved => (knows report saved).kept observed
  | publishing stage =>
      cases stage with
      | uninformed => trivial
      | informed report => exact RunView.Stores.kept knows observed
      | begun report => exact ⟨knows.1.kept observed, knows.2.kept observed⟩
      | identified report => exact ⟨knows.1.kept observed, knows.2.kept observed⟩

/-- Releasing the worktrees leaves what a worker has saved. -/
theorem WorkerRole.savedReport_released (worker : WorkerRole p)
    (reply : Except SurroundingException Unit) :
    (worker.released reply).savedReport = worker.savedReport := by
  cases worker with
  | completed report => cases reply <;> rfl
  | _ => rfl

/-- A call to the surroundings leaves what a party relies on. -/
theorem TableMove.knows_external {kind : ExternalKind} {request : kind.Request p}
    {reply : ServiceCall.Reply p (.external kind request)}
    (move : TableMove runId role (.external kind request) reply moved) (knows : role.Knows before) :
    moved.Knows before := by
  cases move with
  | works move =>
      cases move with
      | asks => exact knows
      | releases =>
          intro report saved
          exact knows report ((WorkerRole.savedReport_released _ _).symm.trans saved)
      | consults => exact knows
  | publishes move =>
      cases move with
      | asks => exact knows

/-- **What a call shows of the tables is so.** -/
theorem TableMove.knows_store {call : StoreCall p.Document}
    {reply : Except StoreException call.Result}
    (move : TableMove runId role (.store call) reply moved)
    (observed : Observed p.sha256Of runId input call reply before after)
    (knows : role.Knows before) : moved.Knows after := by
  have kept := knows.kept observed
  cases move with
  | works move =>
      cases move with
      | recalls | dismisses | rereadsNot | completes | completesNot | claims | fails =>
          intro report absurdity
          cases absurdity
      | saves =>
          rintro _ ⟨⟩
          cases observed with
          | elsewhere _ different => exact absurd rfl different
          | saved => exact ⟨_, rfl, p.decode_encode _⟩
          | savedBefore hashes found sameHash sameText =>
              exact ⟨_, found, sameText ▸ p.decode_encode _⟩
      | _ => exact kept
  | publishes move =>
      cases move with
      | learns decodes => exact ⟨_, observed.evidence_kept observed.evidence_read, decodes⟩
      | begins =>
          refine ⟨kept, ?_⟩
          cases observed with
          | elsewhere _ different => exact absurd rfl different
          | begun => exact ⟨_, rfl, rfl⟩
          | begunAgain found samePayload => exact ⟨_, rfl, samePayload⟩
      | identifies =>
          refine ⟨kept.1, ?_⟩
          cases observed with
          | elsewhere _ different => exact absurd rfl different
          | identified found =>
              obtain ⟨publication, present, payload⟩ := knows.2
              obtain rfl := Option.some.inj (found.symm.trans present)
              exact ⟨_, rfl, payload, Option.some_ne_none _⟩
      | _ => exact kept

/-- What a party requests is covered by what it knows. -/
theorem TableMove.requests {target : RunId} {version : Int} {transition : RunTransition}
    {reply : Except StoreException VerificationRun} {view : RunView p.Document}
    (move : TableMove runId role (.store (.transitionRun target version transition)) reply moved)
    (knows : role.Knows view) : Requests view transition := by
  cases move with
  | works move =>
      cases move with
      | prepares busy prepares => exact .prepares prepares
      | claims | claimsNot => exact .claims
      | completes | completesNot => exact .completes (knows _ rfl)
  | publishes move =>
      cases move with
      | moves unpublished => exact .publishes fun same => absurd same unpublished
      | publishes => exact .publishes fun _ => ⟨_, knows.1, knows.2⟩

end Moves

/-! ## Consistency is kept -/

section Consistent

variable {runId : RunId} {input : StoreInput} {before after : RunView p.Document}

/-- An acceptance keeps the tables consistent. -/
theorem RunView.Consistent.accepted (consistent : before.Consistent) {event : PullRequestEvent}
    {reply : Except StoreException AcceptanceResult}
    (observed : Observed p.sha256Of runId input (.acceptPullRequest event) reply before after) :
    after.Consistent := by
  have reasoned := observed.reasoned consistent.reasoned
  cases observed with
  | elsewhere => exact consistent
  | notAccepted => exact consistent
  | accepted change =>
      obtain ⟨row, evidence, publication, failure⟩ := before
      dsimp only at change
      cases change with
      | kept => exact consistent
      | refreshed old =>
          refine ⟨fun absurdity => absurd absurdity (Option.some_ne_none _), reasoned,
            consistent.hashed, ?_, ?_, ?_⟩ <;> rintro _ ⟨⟩
          · exact consistent.completed old rfl
          · exact consistent.failed old rfl
          · exact consistent.published old rfl
      | replaced old =>
          refine ⟨fun absurdity => absurd absurdity (Option.some_ne_none _), reasoned,
            consistent.hashed, ?_, ?_, ?_⟩ <;> rintro _ ⟨⟩
          · rintro ⟨_, reason⟩
            by_cases terminal : old.lifecycle = .terminal
            · exact consistent.completed old rfl ⟨terminal, (if_pos terminal).symm.trans reason⟩
            · have superseded := (if_neg terminal).symm.trans reason
              cases superseded
          · have failed := consistent.failed old rfl
            by_cases terminal : old.lifecycle = .terminal
            · have same : (old.replacedBy input.freshRunId input.now).terminalReason =
                  old.terminalReason := if_pos terminal
              rw [same]
              exact failed
            · have superseded : (old.replacedBy input.freshRunId input.now).terminalReason =
                  some .superseded := if_neg terminal
              have unreasoned := consistent.reasoned old rfl terminal
              rw [superseded]
              rw [unreasoned] at failed
              simpa using failed
          · exact consistent.published old rfl
      | created newer =>
          obtain ⟨_, _, unfailed⟩ := consistent.absent rfl
          refine ⟨fun absurdity => absurd absurdity (Option.some_ne_none _), reasoned,
            consistent.hashed, ?_, ?_, ?_⟩ <;> rintro _ ⟨⟩
          · rintro ⟨_, reason⟩
            cases newer <;> cases reason
          · dsimp only at unfailed
            cases newer <;> simp [RunRow.created, unfailed]
          · intro published
            cases published

/-- A row after a requested transition is completed with the stored report. -/
theorem Requests.completed {transition : RunTransition} {row : RunRow} {now : Int}
    (requests : Requests before transition)
    (was : row.Completed → ∃ report, before.Stores report ∧
      row.mechanicalEvidenceStatus = some report.mechanicalStatus ∧
      row.claimOutcome = some report.claimOutcome)
    (completed : (row.transitioned transition now).Completed) : ∃ report, before.Stores report ∧
      (row.transitioned transition now).mechanicalEvidenceStatus = some report.mechanicalStatus ∧
      (row.transitioned transition now).claimOutcome = some report.claimOutcome := by
  cases requests with
  | prepares prepares =>
      have wasCompleted : row.Completed := by
        refine ⟨?_, ?_⟩
        · have ended := completed.1
          cases stage : transition.lifecycle with
          | none => simpa [RunRow.transitioned, RunRow.withChanges, stage] using ended
          | some lifecycle =>
              have notTerminal := prepares.lifecycle
              simp only [RunRow.transitioned, RunRow.withChanges, stage, Option.getD_some] at ended
              exact absurd (stage.trans (congrArg some ended)) notTerminal
        · simpa [RunRow.transitioned, RunRow.withChanges, prepares.terminalReason] using completed.2
      obtain ⟨report, stores, mechanical, outcome⟩ := was wasCompleted
      refine ⟨report, stores, ?_, ?_⟩
      · simpa [RunRow.transitioned, RunRow.withChanges, prepares.mechanicalEvidenceStatus]
          using mechanical
      · simpa [RunRow.transitioned, RunRow.withChanges, prepares.claimOutcome] using outcome
  | claims => exact was completed
  | completes stores => exact ⟨_, stores, rfl, rfl⟩
  | publishes => exact was completed

/-- A requested transition neither fails a run nor takes its failure back. -/
theorem Requests.failed {transition : RunTransition} {row : RunRow} {now : Int}
    (requests : Requests before transition) (permits : Permits row transition now) :
    (row.transitioned transition now).terminalReason = some .failed ↔
      row.terminalReason = some .failed := by
  constructor
  · intro failed
    cases requests with
    | prepares prepares =>
        simpa [RunRow.transitioned, RunRow.withChanges, prepares.terminalReason] using failed
    | claims => exact failed
    | completes => cases failed
    | publishes => exact failed
  · intro failed
    exact (permits.reasonImmutable (by simp [failed])).trans failed

/-- A row after a requested transition is published with the Check of the stored report. -/
theorem Requests.published {transition : RunTransition} {row : RunRow} {now : Int}
    (requests : Requests before transition)
    (was : row.publicationState = .published →
      ∃ report, before.Stores report ∧ before.Identifies report)
    (published : (row.transitioned transition now).publicationState = .published) :
    ∃ report, before.Stores report ∧ before.Identifies report := by
  cases requests with
  | prepares prepares =>
      refine was ?_
      simpa [RunRow.transitioned, RunRow.withChanges, prepares.publicationState] using published
  | claims => exact was published
  | completes => cases published
  | publishes known => exact known published

/-- **A call of a party keeps the tables of its run consistent.** -/
theorem RunView.Consistent.moved (consistent : before.Consistent) {role moved : TableRole p}
    {call : StoreCall p.Document} {reply : Except StoreException call.Result}
    (observed : Observed p.sha256Of runId input call reply before after)
    (move : TableMove runId role (.store call) reply moved) (knows : role.Knows before) :
    after.Consistent := by
  have reasoned := observed.reasoned consistent.reasoned
  have stores : ∀ {report : p.Report}, before.Stores report → after.Stores report :=
    fun stores => stores.kept observed
  have identifies : ∀ {report : p.Report}, before.Identifies report → after.Identifies report :=
    fun identifies => identifies.kept observed
  have completed : ∀ row, before.row = some row → row.Completed → ∃ report, after.Stores report ∧
      row.mechanicalEvidenceStatus = some report.mechanicalStatus ∧
      row.claimOutcome = some report.claimOutcome := by
    intro row found was
    obtain ⟨report, isStored, agrees⟩ := consistent.completed row found was
    exact ⟨report, stores isStored, agrees⟩
  have published : ∀ row, before.row = some row → row.publicationState = .published →
      ∃ report, after.Stores report ∧ after.Identifies report := by
    intro row found was
    obtain ⟨report, isStored, isIdentified⟩ := consistent.published row found was
    exact ⟨report, stores isStored, identifies isIdentified⟩
  have present : ∀ {α : Prop}, before.Loadable → before.row = none → α := by
    rintro α ⟨run, found⟩ absent
    rw [found] at absent
    cases absent
  cases observed with
  | accepted => cases move.about
  | moved found version permits wrote =>
      have requests := move.requests knows
      rw [wrote] at reasoned ⊢
      refine ⟨fun absurdity => absurd absurdity (Option.some_ne_none _), reasoned,
        consistent.hashed, ?_, ?_, ?_⟩ <;> rintro _ ⟨⟩
      · exact requests.completed (consistent.completed _ found)
      · exact (requests.failed permits).trans (consistent.failed _ found)
      · exact requests.published (consistent.published _ found)
  | saved hashes isPresent fresh =>
      refine ⟨fun absent => present isPresent absent, reasoned, ?_, completed, consistent.failed,
        published⟩
      rintro _ ⟨⟩
      exact hashes
  | failed found fresh permits =>
      refine ⟨fun absurdity => absurd absurdity (Option.some_ne_none _), reasoned,
        consistent.hashed, ?_, ?_, ?_⟩ <;> rintro _ ⟨⟩
      · rintro ⟨_, reason⟩
        cases reason
      · simp [RunRow.transitioned, RunRow.withChanges, RunTransition.failure]
      · intro published
        exact consistent.published _ found published
  | begun isPresent fresh =>
      exact ⟨fun absent => present isPresent absent, reasoned, consistent.hashed, completed,
        consistent.failed, published⟩
  | begunAgain found =>
      refine ⟨fun absent => ?_, reasoned, consistent.hashed, completed, consistent.failed, published⟩
      rw [(consistent.absent absent).2.1] at found
      cases found
  | identified found =>
      refine ⟨fun absent => ?_, reasoned, consistent.hashed, completed, consistent.failed, published⟩
      rw [(consistent.absent absent).2.1] at found
      cases found
  | noted found =>
      refine ⟨fun absent => ?_, reasoned, consistent.hashed, completed, consistent.failed, published⟩
      rw [(consistent.absent absent).2.1] at found
      cases found
  | _ => exact consistent

end Consistent

/-! ## Parties -/

/-- Who writes the tables: an acceptance of an event, a worker of a run, or a publish
attempt. -/
inductive TableParty (p : Platform) where
  | accept (event : PullRequestEvent)
  | work (workflow : EvidenceWorkflow p) (runId : RunId)
  | publish (runId : RunId)

namespace TableParty

def routine : TableParty p → Activity p Unit
  | accept event => do
      let _ ← perform (.acceptPullRequest event)
  | work workflow runId => do
      let _ ← runReliably workflow runId
  | publish runId => do
      let _ ← PatchProof.publish runId

/-- The run that a party is about; an event says itself which runs it is about. -/
def runId : TableParty p → Option RunId
  | accept _ => none
  | work _ runId | publish runId => some runId

/-- Where a party stands at first. -/
def start : TableParty p → TableRole p
  | work _ _ => .working .entered
  | _ => .publishing .uninformed

/-- The moves of a party. -/
inductive Move (party : TableParty p) :
    TableRole p → (call : ServiceCall p) → ServiceCall.Reply p call → TableRole p → Prop
  | accepts {role event reply} (is : party = accept event) :
      Move party role (.store (.acceptPullRequest event)) reply role
  | acts {runId role call reply moved} (about : party.runId = some runId)
      (move : TableMove runId role call reply moved) : Move party role call reply moved

/-- The protocol of a party. -/
def protocol (party : TableParty p) : Protocol (ServiceCall.Reply p) (TableRole p) where
  Assumes := AnswersOwn
  Move := Move party

/-- **Every party follows its protocol.** -/
theorem routine_follows (party : TableParty p) :
    Program.Follows party.protocol (fun _ _ => True) (fun _ _ => True) party.start
      party.routine := by
  cases party with
  | accept event =>
      intro reply _
      refine ⟨_, .accepts rfl, ?_⟩
      cases reply <;> trivial
  | work workflow runId =>
      have placed : Program.Follows (protocol (work workflow runId)) _ _
          (TableRole.working .entered) (runReliably workflow runId) :=
        (runReliably_follows workflow).embed TableRole.working (fun _ _ assumed => assumed)
          fun _ _ _ _ move => Move.acts rfl (.works move)
      exact Program.Follows.bind (placed.mono (fun _ _ _ => trivial) fun _ _ _ => trivial)
        fun _ _ _ => trivial
  | publish runId =>
      have placed : Program.Follows (protocol (publish runId : TableParty p)) _ _
          (TableRole.publishing .uninformed) (PatchProof.publish runId) :=
        publish_advances.embed TableRole.publishing (fun _ _ assumed => assumed)
          fun _ _ _ _ move => Move.acts rfl (.publishes move)
      exact Program.Follows.bind (placed.mono (fun _ _ _ => trivial) fun _ _ _ => trivial)
        fun _ _ _ => trivial

end TableParty

/-! ## Every interleaving -/

section Interleavings

variable {ι : Type} [DecidableEq ι] {parties : ι → TableParty p} {runId : RunId}

/-- What holds of the tables of a run and of the parties about it. -/
structure TablesAgree (parties : ι → TableParty p) (runId : RunId) (store : SqliteStore p.Document)
    (_ : List (PoolEvent ι (ServiceCall.Reply p))) (roles : ι → TableRole p) : Prop where
  consistent : (store.view runId).Consistent
  knows : ∀ who, (parties who).runId = some runId → (roles who).Knows (store.view runId)

/-- A call about another run leaves the tables of this one. -/
theorem Observed.unchanged {input : StoreInput} {call : StoreCall p.Document}
    {reply : Except StoreException call.Result} {before after : RunView p.Document}
    (observed : Observed p.sha256Of runId input call reply before after) {target : RunId}
    (about : call.target = some target) (different : target ≠ runId) : after = before := by
  cases observed with
  | elsewhere => rfl
  | accepted => cases about
  | notAccepted => rfl
  | _ => exact absurd (Option.some.inj about).symm different

/-- What the party that moved and the others know afterwards. -/
theorem knows_update {roles : ι → TableRole p} {view : RunView p.Document} {who : ι}
    {moved : TableRole p} (mover : (parties who).runId = some runId → moved.Knows view)
    (others : ∀ other, (parties other).runId = some runId → (roles other).Knows view) :
    ∀ other, (parties other).runId = some runId →
      (Function.update roles who moved other).Knows view := by
  intro other about
  by_cases same : other = who
  · subst same
    rw [Function.update_self]
    exact mover about
  · rw [Function.update_of_ne same]
    exact others other about

theorem tablesAgree_keeps :
    Pool.Keeps (service p) (fun who => (parties who).protocol)
      (fun (_ : Pool ι (ServiceCall.Reply p) (SqliteStore p.Document) RaisedException Unit)
        _ _ _ => True) (TablesAgree parties runId) where
  assumed _ _ := answersOwn_service _ _ _
  kept := by
    intro pool roles who call moment moved agree _ move
    cases call with
    | external kind request =>
        refine ⟨agree.consistent, knows_update (fun about => ?_) agree.knows⟩
        cases move with
        | acts _ move => exact move.knows_external (agree.knows who about)
    | store call =>
        have observed := pool.shared.perform_observed p.sha256Of moment.storeInput call runId
        suffices kept : (((service p).answer pool.shared moment (.store call)).2.view
            runId).Consistent ∧ ∀ other, (parties other).runId = some runId →
              (Function.update roles who moved other).Knows
                (((service p).answer pool.shared moment (.store call)).2.view runId) from
          ⟨kept.1, kept.2⟩
        change ((pool.shared.perform p.sha256Of moment.storeInput call).2.view runId).Consistent ∧
          ∀ other, (parties other).runId = some runId → (Function.update roles who moved other).Knows
            ((pool.shared.perform p.sha256Of moment.storeInput call).2.view runId)
        change TableParty.Move (parties who) (roles who) (.store call)
          (pool.shared.perform p.sha256Of moment.storeInput call).1 moved at move
        revert observed move
        generalize (pool.shared.perform p.sha256Of moment.storeInput call).2.view runId = after
        generalize (pool.shared.perform p.sha256Of moment.storeInput call).1 = reply
        intro observed move
        have others : ∀ other, (parties other).runId = some runId → (roles other).Knows after :=
          fun other about => (agree.knows other about).kept observed
        cases move with
        | accepts is =>
            exact ⟨agree.consistent.accepted observed, knows_update (others who) others⟩
        | @acts target _ _ _ _ about move =>
            by_cases same : target = runId
            · subst same
              have knows := agree.knows who about
              exact ⟨agree.consistent.moved observed move knows,
                knows_update (fun _ => move.knows_store observed knows) others⟩
            · obtain rfl := observed.unchanged move.about same
              refine ⟨agree.consistent, knows_update (fun own => ?_) agree.knows⟩
              exact absurd (Option.some.inj (about.symm.trans own)) same

/-- The parties on the empty store. -/
def tablesPool (parties : ι → TableParty p) :
    Pool ι (ServiceCall.Reply p) (SqliteStore p.Document) RaisedException Unit where
  shared := .empty
  threads who := (parties who).routine

/-- Stored evidence is there for the rest of a schedule. -/
theorem evidence_along (pool : Pool ι (ServiceCall.Reply p) (SqliteStore p.Document)
    RaisedException Unit) (schedule : List (ι × Moment p)) {stored : StoredEvidence p.Document}
    (found : (pool.shared.view runId).evidence = some stored) :
    ((pool.run (service p) schedule).shared.view runId).evidence = some stored := by
  induction schedule generalizing pool with
  | nil => exact found
  | cons tick rest ih =>
      refine ih (pool.step (service p) tick) ?_
      cases thread : pool.threads tick.1 with
      | done outcome =>
          rw [Pool.step_of_done (service p) thread]
          exact found
      | ask call next =>
          rw [Pool.step_of_ask (service p) thread]
          cases call with
          | external kind request => exact found
          | store call =>
              exact (pool.shared.perform_observed p.sha256Of tick.2.storeInput call
                runId).evidence_kept found

/-- **Cross-table consistency.**  Wherever acceptances, workers and publish attempts lead
from the empty store: a completed run has stored evidence whose hash is right and whose
conclusions are those of the row; there is a failure record exactly for a failed run; a
published run has a publication with a Check and with the hash of the Check of the stored
evidence; and stored evidence is there unchanged ever after. -/
theorem tables_consistent (parties : ι → TableParty p) (schedule : List (ι × Moment p))
    (runId : RunId) :
    let view := ((tablesPool parties).run (service p) schedule).shared.view runId
    (∀ row, view.row = some row → row.Completed → ∃ stored report, view.evidence = some stored ∧
      p.sha256Of stored.documentJson = stored.sha256 ∧
      p.decode stored.documentJson = .ok report ∧
      row.mechanicalEvidenceStatus = some report.mechanicalStatus ∧
      row.claimOutcome = some report.claimOutcome) ∧
    (view.failure ≠ none ↔ ∃ row, view.row = some row ∧ row.terminalReason = some .failed) ∧
    (∀ row, view.row = some row → row.publicationState = .published →
      ∃ stored report publication, view.evidence = some stored ∧
        p.decode stored.documentJson = .ok report ∧ view.publication = some publication ∧
        publication.checkRunId ≠ none ∧ publication.payloadSha256 =
          (p.payloadSha256 (formatGithubCheck (p.reportSha256 report) report)).text) ∧
    ∀ stored, view.evidence = some stored → ∀ more,
      (((tablesPool parties).run (service p) (schedule ++ more)).shared.view runId).evidence =
        some stored := by
  intro view
  have started : Pool.Accounted (fun who => (parties who).protocol) (fun _ _ _ => True)
      (fun _ _ _ => True) (TablesAgree parties runId) (tablesPool parties)
      fun who => (parties who).start := by
    refine ⟨fun who => (parties who).routine_follows,
      ⟨⟨fun _ => ⟨rfl, rfl, rfl⟩, ?_, ?_, ?_, ?_, ?_⟩, ?_⟩⟩
    · exact fun row absurdity => absurd absurdity (Option.some_ne_none _).symm
    · exact fun stored absurdity => absurd absurdity (Option.some_ne_none _).symm
    · exact fun row absurdity => absurd absurdity (Option.some_ne_none _).symm
    · exact fun row absurdity => absurd absurdity (Option.some_ne_none _).symm
    · exact fun row absurdity => absurd absurdity (Option.some_ne_none _).symm
    · intro who _
      cases party : parties who with
      | work workflow target => exact fun report absurdity => by cases absurdity
      | _ => trivial
  obtain ⟨roles, accounted⟩ := Pool.run_invariant started tablesAgree_keeps schedule
    (Pool.along_of_always (fun _ _ _ _ => trivial) _ _)
  have consistent : view.Consistent := accounted.holds.consistent
  refine ⟨fun row found completed => ?_, ⟨fun failed => ?_, ?_⟩, fun row found published => ?_,
    fun stored found more => ?_⟩
  · obtain ⟨report, ⟨stored, isStored, decodes⟩, agrees⟩ := consistent.completed row found completed
    exact ⟨stored, report, isStored, consistent.hashed stored isStored, decodes, agrees⟩
  · cases found : view.row with
    | none => exact absurd (consistent.absent found).2.2 failed
    | some row => exact ⟨row, rfl, (consistent.failed row found).mpr failed⟩
  · rintro ⟨row, found, reason⟩
    exact (consistent.failed row found).mp reason
  · obtain ⟨report, ⟨stored, isStored, decodes⟩, publication, isPublished, payload, known⟩ :=
      consistent.published row found published
    exact ⟨stored, report, publication, isStored, decodes, isPublished, known, payload⟩
  · rw [Pool.run_append]
    exact evidence_along _ more found

end Interleavings

end PatchProof
