import PatchProof.Protocol.Reachable

/-!
# The obligation to publish

A run for which an accepted event carried a GitHub App installation is owed a Check.
Whether a delivery publishes or gives publication up is decided by what its first read
of the run showed, and what a row says about the installation is what the newest
refresh said.  An acceptance therefore keeps the obligation only if it neither drops
the installation of a run nor brings one to a run too late: without refreshing it, or
after it has been read.

Along schedules whose acceptances all keep it, no run is owed a Check and has given it
up.  A schedule in which an installation arrives with an event that is no newer than
the run shows what happens otherwise.
-/

set_option autoImplicit false

namespace PatchProof

variable {p : Platform} {ι : Type}

/-! ## What is owed -/

/-- Whether an answered call accepted an event with an installation for a run. -/
def carriesInstallation (runId : RunId) (answered : PoolEvent ι (ServiceCall.Reply p)) : Bool :=
  match answered.call, answered.reply with
  | .store (.acceptPullRequest event), .ok result =>
      decide (result.kind ≠ .duplicateDelivery ∧ result.run.runId = runId) &&
        event.installationId.isSome
  | _, _ => false

/-- Whether some answered call has asked for a run. -/
def HasBeenRead (runId : RunId) (history : List (PoolEvent ι (ServiceCall.Reply p))) : Prop :=
  ∃ answered ∈ history, answered.call = .store (.getRun runId)

/-- Whether the row of a run has an installation, when there is one. -/
def RunView.installed {Document : Type} (view : RunView Document) : Option Bool :=
  view.row.map fun row => row.installationId.isSome

/-! ## What an acceptance does to the installation -/

/-- An event resolves to the run of its revision. -/
structure ResolvesTo {Document : Type} (store : SqliteStore Document) (event : PullRequestEvent)
    (run : VerificationRun) : Prop where
  unknown : store.deliveries.lookup event.deliveryId.text = none
  found : store.duplicateRevision event.pullRequest event.revision = some run.toRunRow
  reuses : ∃ current : Option VerificationRun,
    current.map VerificationRun.toRunRow = store.currentRow event.pullRequest ∧
      reusesRevision event current run = true

/-- What an acceptance does to the installation and the publication of one run. -/
inductive InstallationChange {Document : Type} (store : SqliteStore Document)
    (event : PullRequestEvent) (input : StoreInput) (result : AcceptanceResult) (runId : RunId) :
    Option RunRow → Option RunRow → Prop
  | apart {before after} (elsewhere : result.kind = .duplicateDelivery ∨ result.run.runId ≠ runId)
      (same : after.map (fun row => (row.installationId, row.publicationState)) =
        before.map (fun row => (row.installationId, row.publicationState))) :
      InstallationChange store event input result runId before after
  | kept {run : VerificationRun} (resolves : ResolvesTo store event run)
      (key : run.runId = runId) (notNewer : ¬ run.headUpdatedAt < event.headUpdatedAt) :
      InstallationChange store event input result runId (some run.toRunRow) (some run.toRunRow)
  | refreshed {run : VerificationRun} (resolves : ResolvesTo store event run)
      (key : run.runId = runId) (newer : run.headUpdatedAt < event.headUpdatedAt) :
      InstallationChange store event input result runId (some run.toRunRow)
        (some (run.toRunRow.refreshed event input.now))
  | created {newer} :
      InstallationChange store event input result runId none
        (some (RunRow.created event input newer))

/-- A row that is inserted under a fresh identifier. -/
theorem installationChange_insert {Document : Type} {store : SqliteStore Document}
    {event : PullRequestEvent} {input : StoreInput} {kind : AcceptanceKind} {newer : Option RunId}
    {runs : Table RunRow.runId} (runId : RunId)
    (unused : runs.lookup (RunRow.created event input newer).runId = none)
    {before : Option RunRow}
    (same : (runs.lookup runId).map (fun row => (row.installationId, row.publicationState)) =
      before.map (fun row => (row.installationId, row.publicationState))) :
    InstallationChange store event input ⟨kind, RunRow.created event input newer⟩ runId before
      ((runs.insert (RunRow.created event input newer) unused).lookup runId) := by
  rw [Table.lookup_insert]
  split
  · rename_i own
    rw [← own, unused] at same
    obtain rfl : before = none := Option.map_eq_none_iff.mp same.symm
    exact .created
  · rename_i different
    exact .apart (.inr different) same

/-- **Every acceptance is such a change.** -/
theorem SqliteStore.Acceptance.installationChange {Document : Type}
    {store written : SqliteStore Document} {event : PullRequestEvent} {input : StoreInput}
    {result : AcceptanceResult} (acceptance : Acceptance store event input result written)
    (runId : RunId) :
    InstallationChange store event input result runId (store.view runId).row
      (written.view runId).row := by
  cases acceptance with
  | redelivered run found => exact .apart (.inl rfl) rfl
  | kept current run currentFound found reuses notNewer unknown =>
      by_cases own : run.runId = runId
      · have present : store.runs.lookup run.runId = some run.toRunRow :=
          (duplicateRevision_eq_some found).1
        change InstallationChange store event input _ runId (store.runs.lookup runId)
          (store.runs.lookup runId)
        rw [← own, present]
        exact .kept ⟨unknown, found, current, currentFound, reuses⟩ rfl notNewer
      · exact .apart (.inr own) rfl
  | refreshed current run currentFound found reuses newer unknown =>
      have present : store.runs.lookup run.runId = some run.toRunRow :=
        (duplicateRevision_eq_some found).1
      change InstallationChange store event input _ runId (store.runs.lookup runId)
        ((store.runs.replace (run.toRunRow.refreshed event input.now)).lookup runId)
      rw [lookup_replace_of_found (run.toRunRow.refreshed event input.now) present]
      split
      · rename_i own
        rw [← own]
        change InstallationChange store event input _ _ (store.runs.lookup run.runId) _
        rw [present]
        exact .refreshed ⟨unknown, found, current, currentFound, reuses⟩ rfl newer
      · rename_i different
        exact .apart (.inr different) rfl
  | stale newer currentFound notNewer unseen unused unknown =>
      exact installationChange_insert runId unused rfl
  | superseding older duplicate currentFound newer duplicateFound notReused unused unknown =>
      have present : store.runs.lookup older.runId = some older.toRunRow :=
        (currentRow_eq_some currentFound).1
      refine installationChange_insert runId unused ?_
      rw [lookup_replace_of_found (older.toRunRow.replacedBy input.freshRunId input.now) present]
      split
      · rename_i own
        have same : (store.view runId).row = some older.toRunRow := own ▸ present
        rw [same]
        rfl
      · rfl
  | first currentMissing unseen unused unknown =>
      exact installationChange_insert runId unused rfl

/-- What the service answers to an acceptance. -/
theorem answered_acceptance (store : SqliteStore p.Document) (moment : Moment p)
    (event : PullRequestEvent) (runId : RunId) :
    (∃ result, ((service p).answer store moment (.store (.acceptPullRequest event))).1 =
        .ok result ∧
      InstallationChange store event moment.storeInput result runId (store.view runId).row
        (((service p).answer store moment (.store (.acceptPullRequest event))).2.view runId).row) ∨
    ((∃ exception, ((service p).answer store moment (.store (.acceptPullRequest event))).1 =
        .error exception) ∧
      ((service p).answer store moment (.store (.acceptPullRequest event))).2 = store) := by
  cases outcome : store.acceptPullRequest event moment.storeInput with
  | ok value =>
      obtain ⟨result, written⟩ := value
      have answered : (service p).answer store moment (.store (.acceptPullRequest event)) =
          (.ok result, written) := by
        simp only [service, SqliteStore.perform, SqliteStore.execute, outcome]
      rw [answered]
      exact .inl ⟨result, rfl, (SqliteStore.acceptPullRequest_cases outcome).installationChange runId⟩
  | error exception =>
      have answered : (service p).answer store moment (.store (.acceptPullRequest event)) =
          (.error exception, store) := by
        simp only [service, SqliteStore.perform, SqliteStore.execute, outcome]
      rw [answered]
      exact .inr ⟨⟨exception, rfl⟩, rfl⟩

/-! ## Acceptances that keep the obligation -/

/-- An event brings an installation to the run it resolves to in time, and drops none. -/
structure KeepsInstallation (store : SqliteStore p.Document)
    (history : List (PoolEvent ι (ServiceCall.Reply p))) (event : PullRequestEvent) : Prop where
  inTime : ∀ run, ResolvesTo store event run → event.installationId.isSome = true →
    run.installationId.isSome = false →
      run.headUpdatedAt < event.headUpdatedAt ∧ ¬ HasBeenRead run.runId history
  dropsNone : ∀ run, ResolvesTo store event run → event.installationId.isSome = false →
    run.installationId.isSome = true → ¬ run.headUpdatedAt < event.headUpdatedAt

/-- Every acceptance of a tick keeps the obligation. -/
def AcceptsInTime (pool : Pool ι (ServiceCall.Reply p) (SqliteStore p.Document) RaisedException Unit)
    (_ : ι) (call : ServiceCall p) (_ : Moment p) : Prop :=
  ∀ event, call = .store (.acceptPullRequest event) →
    KeepsInstallation pool.shared pool.history event

/-- A run has been read and has no installation. -/
structure ReadWithout (view : RunView p.Document) (runId : RunId)
    (history : List (PoolEvent ι (ServiceCall.Reply p))) : Prop where
  absent : view.installed = some false
  read : HasBeenRead runId history

section Steps

variable {store : SqliteStore p.Document} {history : List (PoolEvent ι (ServiceCall.Reply p))}
  {event : PullRequestEvent} {input : StoreInput} {result : AcceptanceResult} {runId : RunId}
  {before after : RunView p.Document} {who : ι}

theorem HasBeenRead.cons (read : HasBeenRead runId history)
    (answered : PoolEvent ι (ServiceCall.Reply p)) : HasBeenRead runId (answered :: history) := by
  obtain ⟨earlier, mem, asked⟩ := read
  exact ⟨earlier, List.mem_cons_of_mem answered mem, asked⟩

theorem ReadWithout.cons (without : ReadWithout before runId history)
    (same : after.installed = before.installed) (answered : PoolEvent ι (ServiceCall.Reply p)) :
    ReadWithout after runId (answered :: history) :=
  ⟨same.trans without.absent, without.read.cons answered⟩

theorem installed_eq_of_row {row : RunRow} (found : before.row = some row) :
    before.installed = some row.installationId.isSome := by
  rw [RunView.installed, found]
  rfl

theorem installed_eq_of_same (same : after.row.map (fun row =>
      (row.installationId, row.publicationState)) =
        before.row.map (fun row => (row.installationId, row.publicationState))) :
    after.installed = before.installed := by
  have firsts := congrArg (Option.map fun pair => pair.1.isSome) same
  rw [Option.map_map, Option.map_map] at firsts
  exact firsts

/-- An installation is kept by an acceptance that keeps the obligation. -/
theorem InstallationChange.stays
    (change : InstallationChange store event input result runId before.row after.row)
    (keeps : KeepsInstallation store history event) (installed : before.installed = some true) :
    after.installed = some true := by
  obtain ⟨row, evidence, publication, failure⟩ := before
  obtain ⟨row', evidence', publication', failure'⟩ := after
  dsimp only at change
  cases change with
  | apart elsewhere same => exact (installed_eq_of_same same).trans installed
  | kept resolves key notNewer => exact installed
  | @refreshed run resolves key newer =>
      have was : run.installationId.isSome = true := Option.some.inj installed
      cases carried : event.installationId.isSome with
      | true => exact congrArg some carried
      | false => exact absurd newer (keeps.dropsNone run resolves carried was)
  | created => cases installed

/-- An acceptance of an event with an installation leaves the run with one. -/
theorem InstallationChange.brings
    (change : InstallationChange store event input result runId before.row after.row)
    (keeps : KeepsInstallation store history event)
    (own : result.kind ≠ .duplicateDelivery ∧ result.run.runId = runId)
    (carried : event.installationId.isSome = true) : after.installed = some true := by
  obtain ⟨row, evidence, publication, failure⟩ := before
  obtain ⟨row', evidence', publication', failure'⟩ := after
  dsimp only at change
  cases change with
  | apart elsewhere same => exact elsewhere.elim (absurd · own.1) (absurd own.2)
  | @kept run resolves key notNewer =>
      cases installed : run.installationId.isSome with
      | true => exact congrArg some installed
      | false => exact absurd (keeps.inTime run resolves carried installed).1 notNewer
  | refreshed resolves key newer => exact congrArg some carried
  | created => exact congrArg some carried

/-- A run that has been read without an installation gets none. -/
theorem InstallationChange.without
    (change : InstallationChange store event input result runId before.row after.row)
    (keeps : KeepsInstallation store history event) (without : ReadWithout before runId history) :
    after.installed = before.installed := by
  have absent := without.absent
  have read := without.read
  obtain ⟨row, evidence, publication, failure⟩ := before
  obtain ⟨row', evidence', publication', failure'⟩ := after
  dsimp only at change
  cases change with
  | apart elsewhere same => exact installed_eq_of_same same
  | kept resolves key notNewer => rfl
  | @refreshed run resolves key newer =>
      have was : run.installationId.isSome = false := Option.some.inj absent
      cases carried : event.installationId.isSome with
      | true => exact absurd (key ▸ read) (keeps.inTime run resolves carried was).2
      | false => exact congrArg some (carried.trans was.symm)
  | created => cases absent

/-- No acceptance gives up publication. -/
theorem InstallationChange.waivesNot
    (change : InstallationChange store event input result runId before.row after.row)
    {row : RunRow} (found : after.row = some row) (waived : row.publicationState = .notApplicable) :
    ∃ earlier, before.row = some earlier ∧ earlier.publicationState = .notApplicable := by
  generalize before.row = earlier at change
  rw [found] at change
  generalize isRow : some row = later at change
  cases change with
  | apart elsewhere same =>
      subst isRow
      obtain ⟨earlier, rfl, pair⟩ := Option.map_eq_some_iff.mp same.symm
      exact ⟨earlier, rfl, (congrArg Prod.snd pair).trans waived⟩
  | kept resolves key notNewer =>
      obtain rfl := Option.some.inj isRow
      exact ⟨_, rfl, waived⟩
  | refreshed resolves key newer =>
      obtain rfl := Option.some.inj isRow
      exact ⟨_, rfl, waived⟩
  | created =>
      obtain rfl := Option.some.inj isRow
      cases waived

/-- Only acceptances touch the installation. -/
theorem Observed.installed_eq {call : StoreCall p.Document}
    {reply : Except StoreException call.Result}
    (observed : Observed p.sha256Of runId input call reply before after)
    (about : call.target = some runId) : after.installed = before.installed := by
  cases observed with
  | accepted => cases about
  | moved found version permits wrote =>
      rw [installed_eq_of_row found, RunView.installed, wrote]
      rfl
  | failed found fresh permits =>
      rw [installed_eq_of_row found]
      rfl
  | _ => rfl

/-- A routine gives up publication only when its first read showed no installation. -/
theorem TaskMove.waived {role moved : TaskRole p} {call : StoreCall p.Document}
    {reply : Except StoreException call.Result}
    (move : TaskMove runId role (.store call) reply moved)
    (observed : Observed p.sha256Of runId input call reply before after)
    {row : RunRow} (found : after.row = some row) (waived : row.publicationState = .notApplicable) :
    role.snapshot = some false ∨
      ∃ earlier, before.row = some earlier ∧ earlier.publicationState = .notApplicable := by
  cases observed with
  | accepted => cases move.target
  | @moved version transition _ current updated present _ permits wrote =>
      obtain rfl := Option.some.inj found
      rw [wrote] at waived
      have kept : transition.publicationState = none →
          current.publicationState = .notApplicable := by
        intro unasked
        simpa [RunRow.transitioned, RunRow.withChanges, unasked] using waived
      cases move.requested with
      | prepares prepares => exact .inr ⟨_, present, kept prepares.publicationState⟩
      | claims => exact .inr ⟨_, present, kept rfl⟩
      | completes => cases waived
      | waives saw => exact .inl saw
      | publishes closed other => exact absurd waived other
  | failed present fresh permits =>
      obtain rfl := Option.some.inj found
      exact .inr ⟨_, present, waived⟩
  | _ => exact .inr ⟨row, found, waived⟩

/-- A first read that shows no installation is a read, and so it is. -/
theorem TaskMove.snapshot {role moved : TaskRole p} {call : StoreCall p.Document}
    {reply : Except StoreException call.Result}
    (move : TaskMove runId role (.store call) reply moved)
    (observed : Observed p.sha256Of runId input call reply before after)
    (saw : moved.snapshot = some false) :
    role.snapshot = some false ∨ (call = .getRun runId ∧ after.installed = some false) := by
  cases move with
  | opens unopened =>
      cases observed with
      | elsewhere _ different => exact absurd rfl different
      | loaded found => exact .inr ⟨rfl, (installed_eq_of_row found).trans saw⟩
  | works | reads | fails | sees | waives | publishes => exact .inl saw

/-- A call that is no acceptance brings no installation. -/
theorem carriesInstallation_of_target {call : StoreCall p.Document}
    {reply : Except StoreException call.Result} {target : RunId}
    (about : call.target = some target) :
    carriesInstallation runId (⟨who, .store call, reply⟩ : PoolEvent ι (ServiceCall.Reply p)) =
      false := by
  cases call <;> first | rfl | cases about

end Steps

/-! ## The obligation along schedules -/

/-- What holds of a run that may be owed a Check. -/
structure Obliged (duties : ι → Duty p) (runId : RunId) (view : RunView p.Document)
    (history : List (PoolEvent ι (ServiceCall.Reply p))) (roles : ι → TaskRole p) : Prop where
  owed : history.any (carriesInstallation runId) = true → view.installed = some true
  saw : ∀ who, (duties who).runId = some runId → (roles who).snapshot = some false →
    ReadWithout view runId history
  waived : ∀ row, view.row = some row → row.publicationState = .notApplicable →
    ReadWithout view runId history

/-- An acceptance that keeps the obligation keeps what holds of the run. -/
theorem Obliged.accepted {duties : ι → Duty p} {runId : RunId} {before after : RunView p.Document}
    {history : List (PoolEvent ι (ServiceCall.Reply p))} {roles : ι → TaskRole p} {who : ι}
    {store : SqliteStore p.Document} {event : PullRequestEvent} {input : StoreInput}
    {result : AcceptanceResult} (holds : Obliged duties runId before history roles)
    (keeps : KeepsInstallation store history event)
    (change : InstallationChange store event input result runId before.row after.row) :
    Obliged duties runId after (⟨who, .store (.acceptPullRequest event), .ok result⟩ :: history)
      roles where
  owed carried := by
    rw [List.any_cons, Bool.or_eq_true] at carried
    rcases carried with brings | earlier
    · have own := Bool.and_eq_true_iff.mp brings
      exact change.brings keeps (of_decide_eq_true own.1) own.2
    · exact change.stays keeps (holds.owed earlier)
  saw other about saw := by
    have without := holds.saw other about saw
    exact without.cons (change.without keeps without) _
  waived row found waived := by
    obtain ⟨earlier, present, before⟩ := change.waivesNot found waived
    have without := holds.waived earlier present before
    exact without.cons (change.without keeps without) _

section Service

variable [DecidableEq ι] {duties : ι → Duty p} {runId : RunId} {before after : RunView p.Document}
  {history : List (PoolEvent ι (ServiceCall.Reply p))} {roles : ι → TaskRole p} {who : ι}
  {moved : TaskRole p} {answered : PoolEvent ι (ServiceCall.Reply p)}

/-- What the routines have seen, after one of them has moved. -/
theorem saw_update {Without : Prop}
    (mover : (duties who).runId = some runId → moved.snapshot = some false → Without)
    (others : ∀ other, (duties other).runId = some runId → (roles other).snapshot = some false →
      Without) :
    ∀ other, (duties other).runId = some runId →
      (Function.update roles who moved other).snapshot = some false → Without := by
  intro other about
  by_cases same : other = who
  · subst same
    rw [Function.update_self]
    exact mover about
  · rw [Function.update_of_ne same]
    exact others other about

/-- A call that leaves the installation of the run keeps what holds of it. -/
theorem Obliged.goesOn (holds : Obliged duties runId before history roles)
    (same : after.installed = before.installed)
    (bringsNone : carriesInstallation runId answered = false)
    (shows : (duties who).runId = some runId → moved.snapshot = some false →
      (roles who).snapshot = some false ∨
        (answered.call = .store (.getRun runId) ∧ after.installed = some false))
    (waives : ∀ row, after.row = some row → row.publicationState = .notApplicable →
      ((duties who).runId = some runId ∧ (roles who).snapshot = some false) ∨
        ∃ earlier, before.row = some earlier ∧ earlier.publicationState = .notApplicable) :
    Obliged duties runId after (answered :: history) (Function.update roles who moved) where
  owed carried := by
    rw [List.any_cons, bringsNone, Bool.false_or] at carried
    exact same.trans (holds.owed carried)
  saw := by
    refine saw_update (fun about saw => ?_) fun other about saw =>
      (holds.saw other about saw).cons same answered
    rcases shows about saw with before | ⟨asked, absent⟩
    · exact (holds.saw who about before).cons same answered
    · exact ⟨absent, answered, List.mem_cons_self .., asked⟩
  waived row found waived := by
    rcases waives row found waived with ⟨about, saw⟩ | ⟨earlier, present, before⟩
    · exact (holds.saw who about saw).cons same answered
    · exact (holds.waived earlier present before).cons same answered

/-- **One call keeps what holds of an owed run**, when acceptances keep the obligation. -/
theorem obliged_keeps :
    Pool.Keeps (service p) (fun who => (duties who).protocol) AcceptsInTime
      (fun store => Obliged duties runId (store.view runId)) where
  assumed _ _ := answersOwn_service _ _ _
  kept := by
    intro pool roles who call moment moved holds inTime move
    cases Duty.Move.tick move runId with
    | outside same snapshot closed =>
        rw [same]
        exact holds.goesOn rfl rfl (fun _ saw => .inl (snapshot.symm.trans saw))
          fun row found waived => .inr ⟨row, found, waived⟩
    | @accepts event _ is stays observed =>
        have keeps := inTime event rfl
        rw [stays, Function.update_eq_self]
        rcases answered_acceptance pool.shared moment event runId with
          ⟨result, reply, change⟩ | ⟨⟨exception, reply⟩, same⟩
        · rw [reply]
          exact holds.accepted keeps change
        · rw [reply, same]
          let refused : PoolEvent ι (ServiceCall.Reply p) :=
            ⟨who, .store (.acceptPullRequest event), .error exception⟩
          have kept : Obliged duties runId (pool.shared.view runId) (refused :: pool.history)
              (Function.update roles who (roles who)) :=
            holds.goesOn rfl rfl (fun _ saw => .inl saw)
              fun row found waived => .inr ⟨row, found, waived⟩
          rwa [Function.update_eq_self] at kept
    | own about observed step =>
        refine holds.goesOn (observed.installed_eq step.target)
          (carriesInstallation_of_target step.target) (fun _ saw => ?_) fun row found waived => ?_
        · rcases step.snapshot observed saw with before | ⟨rfl, absent⟩
          · exact .inl before
          · exact .inr ⟨rfl, absent⟩
        · exact (step.waived observed found waived).imp_left fun saw => ⟨about, saw⟩
    | other about different concerns same =>
        rw [same]
        refine holds.goesOn rfl (carriesInstallation_of_target concerns) (fun own => ?_)
          fun row found waived => .inr ⟨row, found, waived⟩
        exact absurd (Option.some.inj (about.symm.trans own)) different

/-- **The obligation to publish is kept.**  Along schedules whose acceptances neither
drop an installation nor bring one too late, no run for which an accepted event carried
an installation has given up publication. -/
theorem publication_obligation_kept (duties : ι → Duty p) (schedule : List (ι × Moment p))
    (along : Pool.Along (service p) AcceptsInTime (startedPool duties) schedule) (runId : RunId)
    (carried : (reachedPool duties schedule).history.any (carriesInstallation runId) = true)
    {row : RunRow} (found : ((reachedPool duties schedule).shared.view runId).row = some row) :
    row.publicationState ≠ .notApplicable := by
  have started : Pool.Accounted (fun who => (duties who).protocol) (fun _ _ _ => True)
      (fun _ _ _ => True) (fun store => Obliged duties runId (store.view runId))
      (startedPool duties) fun _ => {} := by
    refine ⟨fun who => (duties who).routine_follows, ⟨?_, ?_, ?_⟩⟩
    · intro absurdity
      cases absurdity
    · intro who _ absurdity
      cases absurdity
    · intro row absurdity
      cases absurdity
  obtain ⟨roles, accounted⟩ := Pool.run_invariant started obliged_keeps schedule along
  intro waived
  have without := accounted.holds.waived row found waived
  have installed := accounted.holds.owed carried
  rw [without.absent] at installed
  cases installed

end Service

/-! ## Installations in time and too late -/

/-- An event that a webhook brings, with an installation. -/
def webhookEvent (deliveryId : String) (headUpdatedAt : Int)
    (bounded : 1 ≤ deliveryId.length ∧ deliveryId.length ≤ 128 := by decide) : PullRequestEvent :=
  { sampleEvent deliveryId 'a' headUpdatedAt isLowerHex_a bounded with
    installationId := some ⟨5, five_positive⟩ }

/-- The event of an analysis request. -/
def analysisEvent (headUpdatedAt : Int) : PullRequestEvent :=
  { sampleEvent "product" 'a' headUpdatedAt isLowerHex_a with
    action := ⟨"patchproof_analyze", analyzeAction_bounded⟩ }

/-- A selection that abstains. -/
def abstainingSelection : ClaimSelection where
  disposition := .insufficientEvidence
  claim := none
  explanation := ⟨"nothing to verify", by decide⟩
  selectedIffClaim := by decide

/-- Time passes, and the agents abstain. -/
def abstainingMoment (now : Int) : Moment samplePlatform where
  now := now
  freshRunId := ⟨1⟩
  answer
    | .createTemporaryDirectory => .ok ()
    | .prepareRepository => .ok ()
    | .preparePullRequest => .ok ()
    | .removeTemporaryDirectory => .ok ()
    | .readCommittedFile => .ok []
    | .committedPaths => .ok []
    | .retrieveContext => .ok ()
    | .selectClaim => .ok ⟨abstainingSelection, sampleUsage, sampleSha256⟩
    | .investigate => .ok (⟨abstainingSelection, sampleUsage, sampleSha256⟩, ())
    | .readClock => .ok (5 : Int)
    | _ => .error (.other "not asked")

/-- An analysis request, a webhook, and the delivery of the run's task. -/
def analyzedThenInstalled : ℕ → Duty samplePlatform
  | 0 => .accept (analysisEvent 10)
  | 1 => .accept (webhookEvent "webhook" 10 deliveryId_webhook)
  | _ => .deliver ⟨[⟨"octo/service", isRepositoryName_octo⟩]⟩ ⟨1⟩

/-- The three follow one another. -/
def oneAfterTheOther : List (ℕ × Moment samplePlatform) :=
  [(0, abstainingMoment 1), (1, abstainingMoment 2)] ++
    (List.range 30).map fun tick => (2, abstainingMoment (tick + 3))

/-- A webhook and then an analysis request that is no newer. -/
def installedThenAnalyzed : ℕ → Duty samplePlatform
  | 0 => .accept (webhookEvent "webhook" 10 deliveryId_webhook)
  | _ => .accept (analysisEvent 10)

/-- An analysis request that is no newer than the webhook leaves the installation. -/
theorem publication_obligation_kept_two :
    ∃ row, ((reachedPool installedThenAnalyzed
        [(0, abstainingMoment 1), (1, abstainingMoment 2)]).shared.view ⟨1⟩).row = some row ∧
      row.publicationState ≠ .notApplicable := by
  let schedule : List (ℕ × Moment samplePlatform) :=
    [(0, abstainingMoment 1), (1, abstainingMoment 2)]
  have along : Pool.Along (service samplePlatform) AcceptsInTime
      (startedPool installedThenAnalyzed) schedule := by
    refine ⟨fun call asks event is => ?_, fun call asks event is => ?_, trivial⟩
    · -- The store is empty, so the first event resolves to no run.
      have none : ∀ run, ¬ ResolvesTo (startedPool installedThenAnalyzed).shared event run := by
        intro run resolves
        cases resolves.found
      exact ⟨fun run resolves => absurd resolves (none run),
        fun run resolves => absurd resolves (none run)⟩
    · subst is
      obtain rfl : event = analysisEvent 10 := by
        have same := Option.some.inj asks
        injection same with same
        injection same with same
        exact same.symm
      refine ⟨fun run resolves carried => absurd carried Bool.false_ne_true,
        fun run resolves _ _ newer => ?_⟩
      have row : RunRow.created (webhookEvent "webhook" 10) ⟨1, ⟨1⟩⟩ none = run.toRunRow :=
        Option.some.inj resolves.found
      rw [← row] at newer
      exact absurd newer (by decide)
  exact ⟨_, rfl, publication_obligation_kept installedThenAnalyzed schedule along ⟨1⟩
    (by decide +kernel) rfl⟩

/-- A webhook that is no newer than the analysis request leaves the run without its
installation, and the run gives up the Check that it owes. -/
theorem obligation_dropped :
    (reachedPool analyzedThenInstalled oneAfterTheOther).history.any
        (carriesInstallation ⟨1⟩) = true ∧
      ((reachedPool analyzedThenInstalled oneAfterTheOther).shared.view ⟨1⟩).row.map
        (fun row => row.publicationState) = some .notApplicable := by
  decide +kernel

end PatchProof
