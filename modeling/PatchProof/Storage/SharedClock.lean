import PatchProof.Storage.DeliveryOrder

/-!
# Rows stay readable, when every clock reading is recent enough

Several processes accept events into one store under a wall clock that does not go
back.  A call reads the clock before it obtains the write transaction, so the
readings that reach the store need not be in order: a run can be replaced with a
reading older than the run itself.  The replacement is written without the model's
validators, and the row can then no longer be loaded.

An acceptance is `Punctual` when the run that it rewrites was not created after the
call's reading of the clock.  As long as every commit is punctual, every row of either store stays
valid, every read of a run returns, and an acceptance fails on an identifier
that is taken and on nothing else.
-/

set_option autoImplicit false

namespace PatchProof

/-! ## Processes and their readings -/

/-- One step of several processes that accept events. -/
inductive AcceptanceStep where
  | elapse (duration : Nat)
  | read (process : Nat) (event : PullRequestEvent) (freshRunId : RunId)
  | commit (process : Nat)

/-- A store, the wall clock, and the calls that have read the clock and not yet
committed. -/
structure AcceptingProcesses (Store : Type) where
  store : Store
  clock : Int
  pending : Nat → Option EventDelivery

namespace AcceptingProcesses

variable {Store : Type}
  (deliver : Store → EventDelivery → Except StoreException AcceptanceResult × Store)

/-- No call is under way. -/
def start (store : Store) (clock : Int) : AcceptingProcesses Store := ⟨store, clock, fun _ => none⟩

/-- The clock moves on, a call reads it, or the transaction of a call commits. -/
def step (state : AcceptingProcesses Store) : AcceptanceStep → AcceptingProcesses Store
  | .elapse duration => { state with clock := state.clock + duration }
  | .read process event freshRunId =>
      { state with pending :=
          Function.update state.pending process (some ⟨event, ⟨state.clock, freshRunId⟩⟩) }
  | .commit process =>
      match state.pending process with
      | some delivery =>
          { state with
            store := (deliver state.store delivery).2
            pending := Function.update state.pending process none }
      | none => state

def run (state : AcceptingProcesses Store) (steps : List AcceptanceStep) :
    AcceptingProcesses Store :=
  steps.foldl (step deliver) state

/-- Whether a step, if it commits a call, meets a condition on the store before it
and the call. -/
def Meets (condition : Store → EventDelivery → Bool) (state : AcceptingProcesses Store) :
    AcceptanceStep → Bool
  | .commit process => (state.pending process).all (condition state.store)
  | _ => true

/-- Whether every commit of a run meets the condition. -/
def AllMeet (condition : Store → EventDelivery → Bool) (state : AcceptingProcesses Store) :
    List AcceptanceStep → Bool
  | [] => true
  | next :: rest => state.Meets condition next && (step deliver state next).AllMeet condition rest

variable {deliver}

/-- What commits that meet the condition keep, whole runs of them keep. -/
theorem run_keeps {condition : Store → EventDelivery → Bool} {kept : Store → Prop}
    (delivered : ∀ {store delivery}, kept store → condition store delivery = true →
      kept (deliver store delivery).2)
    {state : AcceptingProcesses Store} (holds : kept state.store) (steps : List AcceptanceStep)
    (meets : state.AllMeet deliver condition steps = true) :
    kept (state.run deliver steps).store := by
  induction steps generalizing state with
  | nil => exact holds
  | cons next rest ih =>
      obtain ⟨first, later⟩ := Bool.and_eq_true_iff.mp meets
      refine ih ?_ later
      cases next with
      | elapse duration => exact holds
      | read process event freshRunId => exact holds
      | commit process =>
          cases waiting : state.pending process with
          | none => simpa [step, waiting] using holds
          | some delivery =>
              rw [Meets, waiting] at first
              simpa [step, waiting] using delivered holds first

end AcceptingProcesses

/-! ## The run an acceptance rewrites -/

/-- The run that an event rewrites: the run of its revision, if the event is newer
and reuses that run, or the current run, if a newer revision replaces it. -/
def rewrittenRun (event : PullRequestEvent) (current duplicate : Option VerificationRun) :
    Option VerificationRun :=
  let replaced := if isStale event current then none else current
  match duplicate with
  | some run =>
      if reusesRevision event current run then
        if run.headUpdatedAt < event.headUpdatedAt then some run else none
      else replaced
  | none => replaced

/-- A reading of the clock that is not behind the creation of the rewritten run. -/
def recentEnough (delivery : EventDelivery) (current duplicate : Option VerificationRun) : Bool :=
  (rewrittenRun delivery.event current duplicate).all fun run =>
    decide (run.createdAt ≤ delivery.input.now)

theorem createdAt_le_of_refreshed {delivery : EventDelivery} {current : Option VerificationRun}
    {run : VerificationRun} (recent : recentEnough delivery current (some run) = true)
    (reuses : reusesRevision delivery.event current run = true)
    (newer : run.headUpdatedAt < delivery.event.headUpdatedAt) :
    run.createdAt ≤ delivery.input.now := by
  simpa [recentEnough, rewrittenRun, reuses, newer] using recent

theorem createdAt_le_of_replaced {delivery : EventDelivery} {older : VerificationRun}
    {duplicate : Option VerificationRun} (recent : recentEnough delivery (some older) duplicate = true)
    (newer : older.headUpdatedAt < delivery.event.headUpdatedAt)
    (notReused : ∀ run, duplicate = some run →
      reusesRevision delivery.event (some older) run = false) :
    older.createdAt ≤ delivery.input.now := by
  have fresh : isStale delivery.event (some older) = false := decide_eq_false (not_le.mpr newer)
  cases duplicate with
  | none => simpa [recentEnough, rewrittenRun, fresh] using recent
  | some run => simpa [recentEnough, rewrittenRun, fresh, notReused run rfl] using recent

variable {Document : Type}

/-! ## The relational store -/

namespace SqliteStore

variable {store : SqliteStore Document} {delivery : EventDelivery}

/-- Whether the run that a delivery rewrites was created no later than its reading
of the clock. -/
def punctual (store : SqliteStore Document) (delivery : EventDelivery) : Bool :=
  match store.duplicateDelivery delivery.event.deliveryId.text,
      loadRow (store.currentRow delivery.event.pullRequest),
      loadRow (store.duplicateRevision delivery.event.pullRequest delivery.event.revision) with
  | none, .ok current, .ok duplicate => recentEnough delivery current duplicate
  | _, _, _ => true

/-- Every row passes the validators of a run. -/
def AllValid (store : SqliteStore Document) : Prop := ∀ row ∈ store.runs, row.Valid

theorem recentEnough_of_punctual (prompt : store.punctual delivery = true)
    (unknown : store.duplicateDelivery delivery.event.deliveryId.text = none)
    {current duplicate : Option VerificationRun}
    (currentFound : current.map VerificationRun.toRunRow =
      store.currentRow delivery.event.pullRequest)
    (duplicateFound : duplicate.map VerificationRun.toRunRow =
      store.duplicateRevision delivery.event.pullRequest delivery.event.revision) :
    recentEnough delivery current duplicate = true := by
  have currentLoaded := loadRow_eq_ok_iff.mpr currentFound
  have duplicateLoaded := loadRow_eq_ok_iff.mpr duplicateFound
  simpa only [punctual, unknown, currentLoaded, duplicateLoaded] using prompt

theorem duplicateDelivery_eq_none {deliveryId : String}
    (unknown : store.deliveries.lookup deliveryId = none) :
    store.duplicateDelivery deliveryId = none := by
  rw [duplicateDelivery, unknown, Option.bind_none]

theorem mem_insert_created {runs : Table RunRow.runId} {event : PullRequestEvent}
    {input : StoreInput} {newer : Option RunId} {row : RunRow}
    (unused : runs.lookup (RunRow.created event input newer).runId = none)
    (present : row ∈ runs.insert (RunRow.created event input newer) unused) :
    row ∈ runs ∨ row = RunRow.created event input newer :=
  Table.mem_insert.mp present

/-- A punctual acceptance writes valid rows. -/
theorem AllValid.accepted (valid : store.AllValid) (prompt : store.punctual delivery = true)
    {result : AcceptanceResult} {written : SqliteStore Document}
    (acceptance : Acceptance store delivery.event delivery.input result written) :
    written.AllValid := by
  intro row present
  cases acceptance with
  | redelivered run found => exact valid row present
  | kept current run currentFound found reuses notNewer unknown => exact valid row present
  | refreshed current run currentFound found reuses newer unknown =>
      have recent := recentEnough_of_punctual prompt (duplicateDelivery_eq_none unknown)
        currentFound (show (some run).map _ = _ from found.symm)
      rcases Table.mem_replace.mp present with ⟨old, _⟩ | ⟨rfl, _⟩
      · exact valid row old
      · exact RunRow.refreshed_valid run.valid _ (createdAt_le_of_refreshed recent reuses newer)
  | stale newer currentFound notNewer unseen unused unknown =>
      rcases mem_insert_created unused present with old | rfl
      · exact valid row old
      · exact RunRow.created_valid _ _ _
  | superseding older duplicate currentFound newer duplicateFound notReused unused unknown =>
      have recent := recentEnough_of_punctual prompt (duplicateDelivery_eq_none unknown)
        (show (some older).map _ = _ from currentFound.symm) duplicateFound
      rcases mem_insert_created unused present with replaced | rfl
      · rcases Table.mem_replace.mp replaced with ⟨old, _⟩ | ⟨rfl, _⟩
        · exact valid row old
        · exact RunRow.replacedBy_valid older.valid _
            (createdAt_le_of_replaced recent newer notReused)
      · exact RunRow.created_valid _ _ _
  | first currentMissing unseen unused unknown =>
      rcases mem_insert_created unused present with old | rfl
      · exact valid row old
      · exact RunRow.created_valid _ _ _

theorem AllValid.delivered (valid : store.AllValid) (prompt : store.punctual delivery = true) :
    (store.deliver delivery).2.AllValid := by
  unfold deliver
  cases returned : store.acceptPullRequest delivery.event delivery.input with
  | error exception => exact valid
  | ok value => exact valid.accepted prompt (acceptPullRequest_cases returned)

/-! ## Reading a store of valid rows -/

theorem AllValid.listRuns_returns (valid : store.AllValid) (repository : String) (prNumber : Int) :
    ∃ runs, store.listRuns repository prNumber = .ok runs := by
  have sortedValid : ∀ row ∈ (store.runs.rows.filter fun row =>
      decide (row.repository.text = lower repository ∧ row.prNumber.value = prNumber)).insertionSort
        auditOrder, row.Valid :=
    fun row mem => valid row (List.mem_of_mem_filter ((List.mem_insertionSort _).mp mem))
  obtain ⟨runs, loaded, _⟩ := Mirrors.exists_loadRows sortedValid
  exact ⟨runs, loaded⟩

theorem insertRow_eq_error {ρ κ : Type} {key : ρ → κ} [DecidableEq κ] {table : Table key} {row : ρ}
    {exception : StoreException} (raised : insertRow table row = .error exception) :
    exception = .integrity := by
  unfold insertRow at raised
  split at raised
  · cases raised
  · exact (Except.error.inj raised).symm

theorem insertRun_eq_error {table : Table RunRow.runId} {row : RunRow} {exception : StoreException}
    (raised : insertRun table row = .error exception) : exception = .integrity := by
  rcases Guard.bind_eq_error_iff.mp raised with refused | ⟨_, _, taken⟩
  · exact (Guard.require_eq_error_iff.mp refused).2.symm
  · exact insertRow_eq_error taken

theorem acceptNew_eq_error {event : PullRequestEvent} {input : StoreInput}
    {current : Option VerificationRun} {exception : StoreException}
    (raised : store.acceptNew event input current = .error exception) :
    exception = .integrity := by
  rcases Guard.bind_eq_error_iff.mp raised with taken | ⟨_, _, later⟩
  · exact insertRun_eq_error taken
  · rcases Guard.bind_eq_error_iff.mp later with taken | ⟨_, _, returned⟩
    · exact insertRow_eq_error taken
    · cases returned

theorem acceptDuplicate_eq_error {event : PullRequestEvent} {now : Int} {run : VerificationRun}
    (found : store.runs.lookup run.runId = some run.toRunRow)
    (recent : run.headUpdatedAt < event.headUpdatedAt → run.createdAt ≤ now)
    {exception : StoreException} (raised : store.acceptDuplicate event now run = .error exception) :
    exception = .integrity := by
  unfold acceptDuplicate at raised
  by_cases newer : run.headUpdatedAt < event.headUpdatedAt
  · have stored : (store.runs.replace (run.toRunRow.refreshed event now)).lookup run.runId =
        some (run.toRunRow.refreshed event now) := Table.lookup_replace_self found
    have reloaded : ({ store with runs := store.runs.replace (run.toRunRow.refreshed event now) } :
        SqliteStore Document).requireRun run.runId =
          .ok ⟨_, RunRow.refreshed_valid run.valid event (recent newer)⟩ :=
      requireRun_of_lookup stored _
    simp only [if_pos newer, reloaded, Guard.ok_bind] at raised
    rcases Guard.bind_eq_error_iff.mp raised with taken | ⟨_, _, returned⟩
    · exact insertRow_eq_error taken
    · cases returned
  · simp only [if_neg newer, Guard.ok_bind] at raised
    rcases Guard.bind_eq_error_iff.mp raised with taken | ⟨_, _, returned⟩
    · exact insertRow_eq_error taken
    · cases returned

/-- A punctual acceptance fails on an identifier that is taken, never on a stored run. -/
theorem AllValid.acceptance_fails_on_keys (valid : store.AllValid)
    (prompt : store.punctual delivery = true) {exception : StoreException}
    (raised : store.acceptPullRequest delivery.event delivery.input = .error exception) :
    exception = .integrity := by
  unfold acceptPullRequest at raised
  cases known : store.duplicateDelivery delivery.event.deliveryId.text with
  | some row =>
      obtain ⟨_, _, found⟩ := Option.bind_eq_some_iff.mp known
      rw [known] at raised
      simp only [VerificationRun.modelValidate_of_valid (valid row (Table.mem_of_lookup found)),
        Guard.ok_bind, Guard.pure_eq_ok] at raised
      cases raised
  | none =>
      obtain ⟨current, currentLoaded, currentFound⟩ :=
        StoreInvariant.exists_loadRow (store.currentRow delivery.event.pullRequest) fun row found =>
          valid row (Table.mem_of_lookup (currentRow_eq_some found).1)
      obtain ⟨duplicate, duplicateLoaded, duplicateFound⟩ :=
        StoreInvariant.exists_loadRow (store.duplicateRevision delivery.event.pullRequest delivery.event.revision)
          fun row found => valid row (Table.mem_of_lookup (duplicateRevision_eq_some found).1)
      have recent := recentEnough_of_punctual prompt known currentFound duplicateFound
      rw [known] at raised
      simp only [currentLoaded, duplicateLoaded, Guard.ok_bind] at raised
      cases duplicate with
      | none => exact acceptNew_eq_error raised
      | some run =>
          simp only at raised
          split at raised
          · rename_i reuses
            exact acceptDuplicate_eq_error (duplicateRevision_eq_some duplicateFound.symm).1
              (fun newer => createdAt_le_of_refreshed recent reuses newer) raised
          · exact acceptNew_eq_error raised

end SqliteStore

/-! ## The document store -/

namespace FirestoreStore

variable {sha256 : String → String} {store : FirestoreStore Document} {delivery : EventDelivery}

/-- Whether the run that a delivery rewrites was created no later than its reading
of the clock. -/
def punctual (sha256 : String → String) (store : FirestoreStore Document)
    (delivery : EventDelivery) : Bool :=
  match store.deliveries.lookup delivery.event.deliveryId.text,
      store.getPointed store.current (pullKey sha256 delivery.event.pullRequest),
      store.getPointed store.revisions
        (revisionKey sha256 delivery.event.pullRequest delivery.event.revision) with
  | none, .ok current, .ok duplicate => recentEnough delivery current duplicate
  | _, _, _ => true

/-- Every run document is valid, and whatever names a run names a stored one. -/
structure Readable (store : FirestoreStore Document) : Prop where
  valid : ∀ document ∈ store.runs, document.row.Valid
  delivered : ∀ delivery ∈ store.deliveries, ∃ document,
    store.runs.lookup delivery.runId = some document
  current : ∀ pointer ∈ store.current, ∃ document, store.runs.lookup pointer.runId = some document
  revisions : ∀ pointer ∈ store.revisions, ∃ document,
    store.runs.lookup pointer.runId = some document

theorem readable_empty : (empty : FirestoreStore Document).Readable where
  valid := fun _ present => absurd present (Table.not_mem_empty _)
  delivered := fun _ present => absurd present (Table.not_mem_empty _)
  current := fun _ present => absurd present (Table.not_mem_empty _)
  revisions := fun _ present => absurd present (Table.not_mem_empty _)

theorem getRun_eq_ok {runId : RunId} {run : VerificationRun}
    (loaded : store.getRun runId = .ok run) :
    ∃ document, store.runs.lookup runId = some document ∧ run.toRunRow = document.row := by
  unfold getRun at loaded
  cases found : store.runs.lookup runId with
  | none =>
      rw [found] at loaded
      cases loaded
  | some document =>
      rw [found] at loaded
      exact ⟨document, rfl, VerificationRun.modelValidate_eq_ok_iff.mp loaded⟩

theorem getPointed_eq_ok {pointers : Table PointerDocument.key} {key : String}
    {run : VerificationRun} (loaded : store.getPointed pointers key = .ok (some run)) :
    ∃ document, store.runs.lookup run.runId = some document := by
  unfold getPointed at loaded
  split at loaded
  · obtain ⟨other, returned, same⟩ := Guard.bind_eq_ok_iff.mp loaded
    obtain rfl := Option.some.inj (Except.ok.inj same)
    obtain ⟨document, found, sameRow⟩ := getRun_eq_ok returned
    have sameId := (Table.lookup_eq_some_iff.mp found).2
    refine ⟨document, ?_⟩
    rw [sameRow, show document.row.runId = _ from sameId]
    exact found
  · cases loaded

/-! ## Writes that keep a store readable -/

/-- What a write of one run document keeps. -/
structure Grows (runs grown : Table RunDocument.runId) : Prop where
  valid : (∀ document ∈ runs, document.row.Valid) → ∀ document ∈ grown, document.row.Valid
  leads : ∀ {runId document}, runs.lookup runId = some document →
    ∃ later, grown.lookup runId = some later

theorem Grows.refl (runs : Table RunDocument.runId) : Grows runs runs :=
  ⟨fun valid => valid, fun found => ⟨_, found⟩⟩

theorem Grows.trans {runs middle grown : Table RunDocument.runId} (first : Grows runs middle)
    (second : Grows middle grown) : Grows runs grown where
  valid := fun valid => second.valid (first.valid valid)
  leads := fun found => by
    obtain ⟨_, later⟩ := first.leads found
    exact second.leads later

theorem Grows.put (runs : Table RunDocument.runId) {document : RunDocument}
    (valid : document.row.Valid) : Grows runs (runs.put document) where
  valid := fun allValid other present => by
    have found := Table.lookup_of_mem present
    rw [Table.lookup_put] at found
    split at found
    · exact Option.some.inj found ▸ valid
    · exact allValid other (Table.mem_of_lookup found)
  leads := fun {runId _} found => by
    rw [Table.lookup_put]
    split
    · exact ⟨_, rfl⟩
    · exact ⟨_, found⟩

theorem Grows.insert (runs : Table RunDocument.runId) {document : RunDocument}
    (valid : document.row.Valid) (fresh : runs.lookup document.runId = none) :
    Grows runs (runs.insert document fresh) where
  valid := fun allValid other present => by
    rcases Table.mem_insert.mp present with old | rfl
    · exact allValid other old
    · exact valid
  leads := fun {runId _} found => by
    rw [Table.lookup_insert]
    split
    · exact ⟨_, rfl⟩
    · exact ⟨_, found⟩

/-- A collection whose entries lead to runs, after one more entry does. -/
theorem leads_put {ρ κ : Type} {key : ρ → κ} [DecidableEq κ] {target : ρ → RunId}
    {entries : Table key} {runs grown : Table RunDocument.runId} (grows : Grows runs grown)
    (leads : ∀ entry ∈ entries, ∃ document, runs.lookup (target entry) = some document)
    {added : ρ} (addedLeads : ∃ document, grown.lookup (target added) = some document) :
    ∀ entry ∈ entries.put added, ∃ document, grown.lookup (target entry) = some document := by
  intro entry present
  have found := Table.lookup_of_mem present
  rw [Table.lookup_put] at found
  split at found
  · exact Option.some.inj found ▸ addedLeads
  · obtain ⟨_, earlier⟩ := leads entry (Table.mem_of_lookup found)
    exact grows.leads earlier

theorem leads_insert {ρ κ : Type} {key : ρ → κ} [DecidableEq κ] {target : ρ → RunId}
    {entries : Table key} {runs grown : Table RunDocument.runId} (grows : Grows runs grown)
    (leads : ∀ entry ∈ entries, ∃ document, runs.lookup (target entry) = some document)
    {added : ρ} (addedLeads : ∃ document, grown.lookup (target added) = some document)
    (fresh : entries.lookup (key added) = none) :
    ∀ entry ∈ entries.insert added fresh, ∃ document,
      grown.lookup (target entry) = some document := by
  intro entry present
  rcases Table.mem_insert.mp present with old | rfl
  · obtain ⟨_, earlier⟩ := leads entry old
    exact grows.leads earlier
  · exact addedLeads

theorem leads_grow {ρ κ : Type} {key : ρ → κ} [DecidableEq κ] {target : ρ → RunId}
    {entries : Table key} {runs grown : Table RunDocument.runId} (grows : Grows runs grown)
    (leads : ∀ entry ∈ entries, ∃ document, runs.lookup (target entry) = some document) :
    ∀ entry ∈ entries, ∃ document, grown.lookup (target entry) = some document := by
  intro entry present
  obtain ⟨_, earlier⟩ := leads entry present
  exact grows.leads earlier

/-! ## Acceptance keeps the store readable -/

theorem Readable.acceptedDuplicate (readable : store.Readable) {event : PullRequestEvent} {now : Int}
    {run : VerificationRun} (known : ∃ document, store.runs.lookup run.runId = some document)
    (recent : run.headUpdatedAt < event.headUpdatedAt → run.createdAt ≤ now)
    {result : AcceptanceResult} {written : FirestoreStore Document}
    (returned : store.acceptDuplicate sha256 event now run = .ok (result, written)) :
    written.Readable := by
  by_cases newer : run.headUpdatedAt < event.headUpdatedAt
  · simp only [acceptDuplicate, newer, if_true, Guard.bind_eq_ok_iff] at returned
    obtain ⟨deliveries, created, wrote⟩ := returned
    obtain ⟨fresh, rfl⟩ := Mirrors.createDocument_eq_ok_iff.mp created
    cases wrote
    have grows : Grows store.runs (store.runs.put
        (runDocument sha256 (run.toRunRow.refreshed event now))) :=
      .put _ (RunRow.refreshed_valid run.valid event (recent newer))
    obtain ⟨_, found⟩ := known
    exact ⟨grows.valid readable.valid,
      leads_insert grows readable.delivered (grows.leads found) fresh,
      leads_grow grows readable.current, leads_grow grows readable.revisions⟩
  · simp only [acceptDuplicate, newer, if_false, Guard.bind_eq_ok_iff] at returned
    obtain ⟨deliveries, created, wrote⟩ := returned
    obtain ⟨fresh, rfl⟩ := Mirrors.createDocument_eq_ok_iff.mp created
    cases wrote
    exact ⟨readable.valid, leads_insert (.refl _) readable.delivered known fresh,
      readable.current, readable.revisions⟩

/-- A created run and the entries that lead to it keep a store readable. -/
theorem Readable.created (readable : store.Readable) {event : PullRequestEvent} {input : StoreInput}
    {newer : Option RunId} {runs : Table RunDocument.runId} (grows : Grows store.runs runs)
    (unused : runs.lookup (runDocument sha256 (RunRow.created event input newer)).runId = none)
    (fresh : store.deliveries.lookup event.deliveryId.text = none)
    {pointers : Table PointerDocument.key}
    (pointersLead : ∀ pointer ∈ pointers, pointer ∈ store.current ∨
      pointer.runId = input.freshRunId) :
    Readable { store with
      runs := runs.insert (runDocument sha256 (RunRow.created event input newer)) unused
      deliveries := store.deliveries.insert
        ⟨event.deliveryId.text, input.freshRunId, input.now⟩ fresh
      revisions := store.revisions.put
        ⟨revisionKey sha256 event.pullRequest event.revision, input.freshRunId, event.headUpdatedAt⟩
      current := pointers } := by
  have grown := grows.trans (.insert runs (RunRow.created_valid event input newer) unused)
  have leadsNew : ∃ document, (runs.insert (runDocument sha256 (RunRow.created event input newer))
      unused).lookup input.freshRunId = some document :=
    ⟨_, (Table.lookup_insert _).trans (if_pos rfl)⟩
  refine ⟨grown.valid readable.valid, leads_insert grown readable.delivered leadsNew fresh, ?_,
    leads_put grown readable.revisions leadsNew⟩
  intro pointer present
  rcases pointersLead pointer present with old | isNew
  · exact leads_grow grown readable.current pointer old
  · exact isNew ▸ leadsNew

theorem mem_put_pointer {pointers : Table PointerDocument.key} {added pointer : PointerDocument}
    (present : pointer ∈ pointers.put added) : pointer ∈ pointers ∨ pointer.runId = added.runId := by
  have found := Table.lookup_of_mem present
  rw [Table.lookup_put] at found
  split at found
  · exact .inr (congrArg PointerDocument.runId (Option.some.inj found)).symm
  · exact .inl (Table.mem_of_lookup found)

/-- A new run, and the replaced one when there is one, are written valid. -/
theorem Readable.acceptedNew (readable : store.Readable) {event : PullRequestEvent}
    {input : StoreInput} {current : Option VerificationRun}
    (recent : ∀ older, current = some older → isStale event current = false →
      older.createdAt ≤ input.now)
    {result : AcceptanceResult} {written : FirestoreStore Document}
    (returned : store.acceptNew sha256 event input current = .ok (result, written)) :
    written.Readable := by
  cases current with
  | none =>
      simp only [acceptNew, isStale, Bool.false_eq_true, if_false, Guard.bind_eq_ok_iff] at returned
      obtain ⟨runs, createdRun, deliveries, createdDelivery, wrote⟩ := returned
      obtain ⟨unused, rfl⟩ := Mirrors.createDocument_eq_ok_iff.mp createdRun
      obtain ⟨fresh, rfl⟩ := Mirrors.createDocument_eq_ok_iff.mp createdDelivery
      cases wrote
      exact readable.created (.refl _) unused fresh fun _ present => mem_put_pointer present
  | some older =>
      by_cases stale : isStale event (some older) = true
      · simp only [acceptNew, stale, if_true, Guard.bind_eq_ok_iff] at returned
        obtain ⟨runs, createdRun, deliveries, createdDelivery, wrote⟩ := returned
        obtain ⟨unused, rfl⟩ := Mirrors.createDocument_eq_ok_iff.mp createdRun
        obtain ⟨fresh, rfl⟩ := Mirrors.createDocument_eq_ok_iff.mp createdDelivery
        cases wrote
        exact readable.created (.refl _) unused fresh fun _ present => .inl present
      · have replaced : Grows store.runs (store.runs.put
            (runDocument sha256 (older.toRunRow.replacedBy input.freshRunId input.now))) :=
          .put _ (RunRow.replacedBy_valid older.valid input.freshRunId
            (recent older rfl (eq_false_of_ne_true stale)))
        simp only [acceptNew, eq_false_of_ne_true stale, Bool.false_eq_true, if_false,
          Guard.bind_eq_ok_iff] at returned
        obtain ⟨runs, createdRun, deliveries, createdDelivery, wrote⟩ := returned
        obtain ⟨unused, rfl⟩ := Mirrors.createDocument_eq_ok_iff.mp createdRun
        obtain ⟨fresh, rfl⟩ := Mirrors.createDocument_eq_ok_iff.mp createdDelivery
        cases wrote
        exact readable.created replaced unused fresh fun _ present => mem_put_pointer present

theorem recentEnough_of_punctual (prompt : store.punctual sha256 delivery = true)
    (unknown : store.deliveries.lookup delivery.event.deliveryId.text = none)
    {current duplicate : Option VerificationRun}
    (currentLoaded : store.getPointed store.current (pullKey sha256 delivery.event.pullRequest) =
      .ok current)
    (duplicateLoaded : store.getPointed store.revisions
      (revisionKey sha256 delivery.event.pullRequest delivery.event.revision) = .ok duplicate) :
    recentEnough delivery current duplicate = true := by
  simpa only [punctual, unknown, currentLoaded, duplicateLoaded] using prompt

theorem Readable.accepted (readable : store.Readable) (prompt : store.punctual sha256 delivery = true)
    {result : AcceptanceResult} {written : FirestoreStore Document}
    (returned : store.acceptPullRequest sha256 delivery.event delivery.input =
      .ok (result, written)) : written.Readable := by
  unfold acceptPullRequest at returned
  cases known : store.deliveries.lookup delivery.event.deliveryId.text with
  | some record =>
      rw [known] at returned
      obtain ⟨_, _, wrote⟩ := Guard.bind_eq_ok_iff.mp returned
      cases wrote
      exact readable
  | none =>
      rw [known] at returned
      simp only [Guard.bind_eq_ok_iff] at returned
      obtain ⟨current, currentLoaded, duplicate, duplicateLoaded, returned⟩ := returned
      have recent := recentEnough_of_punctual prompt known currentLoaded duplicateLoaded
      have replaced : (∀ run, duplicate = some run →
            reusesRevision delivery.event current run = false) →
          ∀ older, current = some older → isStale delivery.event current = false →
            older.createdAt ≤ delivery.input.now := by
        intro notReused older isOlder fresh
        subst isOlder
        exact createdAt_le_of_replaced recent (not_le.mp (of_decide_eq_false fresh)) notReused
      cases duplicate with
      | none => exact readable.acceptedNew (replaced fun _ absurdity => by cases absurdity) returned
      | some run =>
          simp only at returned
          split at returned
          · rename_i reuses
            exact readable.acceptedDuplicate (getPointed_eq_ok duplicateLoaded)
              (fun newer => createdAt_le_of_refreshed recent reuses newer) returned
          · rename_i refused
            refine readable.acceptedNew (replaced fun other isOther => ?_) returned
            rw [← Option.some.inj isOther]
            exact eq_false_of_ne_true refused

theorem Readable.deliver (readable : store.Readable) (prompt : store.punctual sha256 delivery = true) :
    (FirestoreStore.deliver sha256 store delivery).2.Readable := by
  unfold FirestoreStore.deliver
  cases returned : store.acceptPullRequest sha256 delivery.event delivery.input with
  | error exception => exact readable
  | ok value => exact readable.accepted prompt returned

theorem Readable.getRun_returns (readable : store.Readable) {runId : RunId}
    (known : ∃ document, store.runs.lookup runId = some document) :
    ∃ run, store.getRun runId = .ok run := by
  obtain ⟨document, found⟩ := known
  unfold getRun
  rw [found]
  exact ⟨_, VerificationRun.modelValidate_of_valid (readable.valid document (Table.mem_of_lookup found))⟩

theorem Readable.getPointed_returns (readable : store.Readable) {pointers : Table PointerDocument.key}
    (leads : ∀ pointer ∈ pointers, ∃ document, store.runs.lookup pointer.runId = some document)
    (key : String) : ∃ loaded, store.getPointed pointers key = .ok loaded := by
  unfold getPointed
  cases found : pointers.lookup key with
  | none => exact ⟨none, rfl⟩
  | some pointer =>
      obtain ⟨run, loaded⟩ := readable.getRun_returns (leads pointer (Table.mem_of_lookup found))
      exact ⟨some run, Guard.bind_eq_ok_iff.mpr ⟨run, loaded, rfl⟩⟩

theorem Readable.listRuns_returns (readable : store.Readable) (repository : String)
    (prNumber : Int) : ∃ runs, store.listRuns sha256 repository prNumber = .ok runs := by
  have streamedValid : ∀ row ∈ ((store.runs.rows.filter fun document =>
      decide (document.pullRequestKey =
        sha256 (pullKeyText (lower repository) prNumber))).insertionSort streamOrder).map
          RunDocument.row, row.Valid := by
    intro row mem
    obtain ⟨document, streamed, rfl⟩ := List.mem_map.mp mem
    exact readable.valid document
      (List.mem_of_mem_filter ((List.mem_insertionSort _).mp streamed))
  obtain ⟨runs, loaded, _⟩ := Mirrors.exists_loadRows streamedValid
  exact ⟨_, Guard.bind_eq_ok_iff.mpr ⟨runs, loaded, rfl⟩⟩

theorem createDocument_eq_error {ρ κ : Type} {key : ρ → κ} [DecidableEq κ] {collection : Table key}
    {document : ρ} {exception : StoreException}
    (raised : createDocument collection document = .error exception) :
    exception = .alreadyExists := by
  unfold createDocument at raised
  split at raised
  · cases raised
  · exact (Except.error.inj raised).symm

theorem acceptNew_eq_error {event : PullRequestEvent} {input : StoreInput}
    {current : Option VerificationRun} {exception : StoreException}
    (raised : store.acceptNew sha256 event input current = .error exception) :
    exception = .alreadyExists := by
  rcases Guard.bind_eq_error_iff.mp raised with taken | ⟨_, _, later⟩
  · exact createDocument_eq_error taken
  · rcases Guard.bind_eq_error_iff.mp later with taken | ⟨_, _, returned⟩
    · exact createDocument_eq_error taken
    · cases returned

theorem acceptDuplicate_eq_error {event : PullRequestEvent} {now : Int} {run : VerificationRun}
    {exception : StoreException}
    (raised : store.acceptDuplicate sha256 event now run = .error exception) :
    exception = .alreadyExists := by
  rcases Guard.bind_eq_error_iff.mp raised with taken | ⟨_, _, returned⟩
  · exact createDocument_eq_error taken
  · cases returned

/-- An acceptance fails on an identifier that is taken, never on a stored run. -/
theorem Readable.acceptance_fails_on_keys (readable : store.Readable) {exception : StoreException}
    (raised : store.acceptPullRequest sha256 delivery.event delivery.input = .error exception) :
    exception = .alreadyExists := by
  unfold acceptPullRequest at raised
  cases known : store.deliveries.lookup delivery.event.deliveryId.text with
  | some record =>
      obtain ⟨run, loaded⟩ :=
        readable.getRun_returns (readable.delivered record (Table.mem_of_lookup known))
      rw [known] at raised
      simp only [loaded, Guard.ok_bind, Guard.pure_eq_ok] at raised
      cases raised
  | none =>
      obtain ⟨current, currentLoaded⟩ := readable.getPointed_returns readable.current
        (pullKey sha256 delivery.event.pullRequest)
      obtain ⟨duplicate, duplicateLoaded⟩ := readable.getPointed_returns readable.revisions
        (revisionKey sha256 delivery.event.pullRequest delivery.event.revision)
      rw [known] at raised
      simp only [currentLoaded, duplicateLoaded, Guard.ok_bind] at raised
      cases duplicate with
      | none => exact acceptNew_eq_error raised
      | some run =>
          simp only at raised
          split at raised
          · exact acceptDuplicate_eq_error raised
          · exact acceptNew_eq_error raised

end FirestoreStore

/-! ## Interleaved acceptances -/

open AcceptingProcesses

/-- **Rows stay readable.**  If every commit of a run is punctual, then in the state
it reaches every row of the relational store is valid and is what reading it returns,
listing returns, and a punctual acceptance fails on nothing but a taken identifier; and
the same holds of the document store. -/
theorem rows_stay_readable (Document : Type) (sha256 : String → String) (clock : Int)
    (steps : List AcceptanceStep) :
    ((start (SqliteStore.empty : SqliteStore Document) clock).AllMeet SqliteStore.deliver
        SqliteStore.punctual steps = true →
      let store := ((start (SqliteStore.empty : SqliteStore Document) clock).run
        SqliteStore.deliver steps).store
      (∀ row ∈ store.runs, row.Valid ∧ ∃ run, store.requireRun row.runId = .ok run ∧
        run.toRunRow = row) ∧
      (∀ repository prNumber, ∃ runs, store.listRuns repository prNumber = .ok runs) ∧
      ∀ delivery, store.punctual delivery = true → ∀ exception,
        store.acceptPullRequest delivery.event delivery.input = .error exception →
          exception = .integrity) ∧
    ((start (FirestoreStore.empty : FirestoreStore Document) clock).AllMeet
        (FirestoreStore.deliver sha256) (FirestoreStore.punctual sha256) steps = true →
      let store := ((start (FirestoreStore.empty : FirestoreStore Document) clock).run
        (FirestoreStore.deliver sha256) steps).store
      (∀ document ∈ store.runs, document.row.Valid ∧ ∃ run, store.getRun document.runId = .ok run ∧
        run.toRunRow = document.row) ∧
      (∀ repository prNumber, ∃ runs, store.listRuns sha256 repository prNumber = .ok runs) ∧
      ∀ (delivery : EventDelivery) exception,
        store.acceptPullRequest sha256 delivery.event delivery.input = .error exception →
          exception = .alreadyExists) := by
  constructor
  · intro prompt store
    have valid : store.AllValid :=
      run_keeps (fun holds recent => SqliteStore.AllValid.delivered holds recent)
        (fun _ present => absurd present (Table.not_mem_empty _)) steps prompt
    refine ⟨fun row present => ⟨valid row present, _, SqliteStore.requireRun_of_lookup
      (Table.lookup_of_mem present) (valid row present), rfl⟩, valid.listRuns_returns, ?_⟩
    intro delivery recent exception raised
    exact valid.acceptance_fails_on_keys recent raised
  · intro prompt store
    have readable : store.Readable :=
      run_keeps (fun holds recent => FirestoreStore.Readable.deliver holds recent)
        FirestoreStore.readable_empty steps prompt
    refine ⟨fun document present => ?_, readable.listRuns_returns,
      fun delivery exception raised => readable.acceptance_fails_on_keys raised⟩
    have found := Table.lookup_of_mem present
    obtain ⟨run, loaded⟩ := readable.getRun_returns ⟨_, found⟩
    obtain ⟨other, otherFound, sameRow⟩ := FirestoreStore.getRun_eq_ok loaded
    obtain rfl := Option.some.inj (found.symm.trans otherFound)
    exact ⟨readable.valid document present, run, loaded, sameRow⟩

/-- Two processes: the first reads the clock and commits last, after the second has
read a later time and committed a run. -/
def overtakenReading : List AcceptanceStep :=
  [.read 1 (sampleEvent "newer" 'b' 20 isLowerHex_b) ⟨1⟩, .elapse 1,
    .read 2 (sampleEvent "older" 'a' 10 isLowerHex_a) ⟨2⟩, .commit 2, .commit 1]

/-- The run that the second process created is replaced with the earlier reading, and
can no longer be loaded, listed or redelivered. -/
theorem rows_unreadable_after_overtaken_reading :
    let store := ((start (SqliteStore.empty : SqliteStore String) 1).run
      SqliteStore.deliver overtakenReading).store
    let documents := ((start (FirestoreStore.empty : FirestoreStore String) 1).run
      (FirestoreStore.deliver id) overtakenReading).store
    let message := StoreException.validation "updated timestamp cannot precede creation"
    (∃ row, store.runs.lookup ⟨2⟩ = some row ∧ ¬ row.Valid) ∧
      store.requireRun ⟨2⟩ = .error message ∧
      store.listRuns "octo/service" 7 = .error message ∧
      (store.deliver ⟨sampleEvent "older" 'a' 10, ⟨9, ⟨3⟩⟩⟩).1 = .error message ∧
      (∃ document, documents.runs.lookup ⟨2⟩ = some document ∧ ¬ document.row.Valid) ∧
      documents.getRun ⟨2⟩ = .error message := by
  intro store documents message
  let replaced := (RunRow.created (sampleEvent "older" 'a' 10) ⟨2, ⟨2⟩⟩ none).replacedBy ⟨1⟩ 1
  have invalid : ¬ replaced.Valid := fun valid => absurd valid.notBeforeCreation (by decide)
  refine ⟨⟨replaced, by decide +kernel, invalid⟩, by decide +kernel, by decide +kernel,
    by decide +kernel, ⟨FirestoreStore.runDocument id replaced, by decide +kernel, invalid⟩,
    by decide +kernel⟩

/-- With the readings in the order of the commits, the replaced run stays readable. -/
theorem rows_stay_readable_two :
    let store := ((start (SqliteStore.empty : SqliteStore String) 1).run SqliteStore.deliver
      [.read 2 (sampleEvent "older" 'a' 10) ⟨2⟩, .elapse 1,
        .read 1 (sampleEvent "newer" 'b' 20) ⟨1⟩, .commit 2, .commit 1]).store
    (∀ row ∈ store.runs, row.Valid) ∧
      ∀ repository prNumber, ∃ runs, store.listRuns repository prNumber = .ok runs := by
  intro store
  have readable := (rows_stay_readable String id 1
    [.read 2 (sampleEvent "older" 'a' 10) ⟨2⟩, .elapse 1,
      .read 1 (sampleEvent "newer" 'b' 20) ⟨1⟩, .commit 2, .commit 1]).1 (by decide +kernel)
  exact ⟨fun row present => (readable.1 row present).1, readable.2.1⟩

end PatchProof
