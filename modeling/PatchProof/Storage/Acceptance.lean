import Mathlib.Data.List.Induction
import PatchProof.Storage.Ledger
import PatchProof.Storage.Sqlite

/-!
# Acceptance in the SQLite store

The relational store keeps a ledger: the lineages of its run rows and the runs of
its delivery rows.  Whenever `acceptPullRequest` returns, that ledger has made one
acceptance step, for any clock and any identifiers; when it raises, the
transaction leaves the ledger alone.  The invariants of the ledger therefore hold
after every sequence of events.
-/

set_option autoImplicit false

namespace PatchProof

/-- What acceptance knows about a run, read off its row. -/
def RunRow.lineage (row : RunRow) : Lineage where
  pullRequest := row.pullRequest
  revision := row.revision
  headUpdatedAt := row.headUpdatedAt
  revisionState := row.revisionState
  replacedBy := row.supersededByRunId

namespace SqliteStore

variable {Document : Type} {store written : SqliteStore Document} {event : PullRequestEvent}
  {input : StoreInput} {result : AcceptanceResult}

/-- The ledger the tables hold. -/
def ledger (store : SqliteStore Document) : Ledger where
  lineage runId := (store.runs.lookup runId).map RunRow.lineage
  delivered deliveryId := (store.deliveries.lookup deliveryId).map DeliveryRecord.runId

theorem ledger_empty : (empty : SqliteStore Document).ledger = .blank := rfl

/-! ## What the queries find -/

theorem insertRow_eq_ok_iff {ρ κ : Type} {key : ρ → κ} [DecidableEq κ] {table grown : Table key}
    {row : ρ} : insertRow table row = .ok grown ↔
      ∃ fresh : table.lookup (key row) = none, grown = table.insert row fresh := by
  rw [← Table.insert?_eq_some_iff]
  unfold insertRow
  cases table.insert? row <;> simp

theorem insertRun_eq_ok_iff {table grown : Table RunRow.runId} {row : RunRow} :
    insertRun table row = .ok grown ↔
      (row.revisionState = .current → ∀ other ∈ table.rows,
        other.pullRequest = row.pullRequest → other.revisionState ≠ .current) ∧
      ∃ fresh : table.lookup row.runId = none, grown = table.insert row fresh := by
  rw [insertRun, Guard.require_bind_eq_ok_iff, insertRow_eq_ok_iff]

theorem loadRow_eq_ok_iff {found : Option RunRow} {loaded : Option VerificationRun} :
    loadRow found = .ok loaded ↔ loaded.map VerificationRun.toRunRow = found := by
  cases found with
  | none =>
      cases loaded <;> simp [loadRow]
  | some row =>
      simp only [loadRow, Guard.bind_eq_ok_iff, VerificationRun.modelValidate_eq_ok_iff]
      cases loaded with
      | none => simp
      | some run => simp

theorem requireRun_eq_ok_iff {runId : RunId} {run : VerificationRun} :
    store.requireRun runId = .ok run ↔ store.runs.lookup runId = some run.toRunRow := by
  unfold requireRun
  cases found : store.runs.lookup runId with
  | none => simp
  | some row =>
      rw [VerificationRun.modelValidate_eq_ok_iff, Option.some.injEq, eq_comm]

theorem currentRow_eq_some {pull : RepositoryName × PositiveInt} {row : RunRow}
    (found : store.currentRow pull = some row) :
    store.runs.lookup row.runId = some row ∧ row.pullRequest = pull ∧
      row.revisionState = .current := by
  have satisfies := List.find?_some found
  simp only [decide_eq_true_eq] at satisfies
  exact ⟨Table.lookup_of_mem (List.mem_of_find?_eq_some found), satisfies⟩

theorem currentRow_eq_none {pull : RepositoryName × PositiveInt}
    (missing : store.currentRow pull = none) {row : RunRow} (present : row ∈ store.runs)
    (ofPull : row.pullRequest = pull) : row.revisionState ≠ .current := by
  intro isCurrent
  have rejected := List.find?_eq_none.mp missing row present
  simp [ofPull, isCurrent] at rejected

theorem duplicateRevision_eq_some {pull : RepositoryName × PositiveInt} {revision : GitSha × GitSha} {row : RunRow}
    (found : store.duplicateRevision pull revision = some row) :
    store.runs.lookup row.runId = some row ∧ row.pullRequest = pull ∧ row.revision = revision := by
  have mem := List.mem_of_mem_head? found
  rw [List.mem_insertionSort, List.mem_filter, decide_eq_true_eq] at mem
  exact ⟨Table.lookup_of_mem mem.1, mem.2⟩

theorem duplicateRevision_eq_none {pull : RepositoryName × PositiveInt}
    {revision : GitSha × GitSha} (missing : store.duplicateRevision pull revision = none)
    {row : RunRow} (present : row ∈ store.runs) (ofPull : row.pullRequest = pull) :
    row.revision ≠ revision := by
  intro ofRevision
  have mem : row ∈ (store.runs.rows.filter fun row =>
      decide (row.pullRequest = pull ∧ row.revision = revision)).insertionSort newestFirst := by
    rw [List.mem_insertionSort, List.mem_filter, decide_eq_true_eq]
    exact ⟨present, ofPull, ofRevision⟩
  rw [List.head?_eq_none_iff.mp missing] at mem
  cases mem

instance : Std.Total newestFirst where
  total row other := by
    unfold newestFirst
    omega

instance : IsTrans RunRow newestFirst where
  trans row other third := by
    unfold newestFirst
    omega

/-- The run that the revision query answers with is the newest of its revision. -/
theorem duplicateRevision_newest {pull : RepositoryName × PositiveInt}
    {revision : GitSha × GitSha} {row other : RunRow}
    (found : store.duplicateRevision pull revision = some row) (present : other ∈ store.runs)
    (ofPull : other.pullRequest = pull) (ofRevision : other.revision = revision) :
    other.headUpdatedAt ≤ row.headUpdatedAt := by
  have sorted := List.pairwise_insertionSort newestFirst (store.runs.rows.filter fun row =>
    decide (row.pullRequest = pull ∧ row.revision = revision))
  have mem : other ∈ (store.runs.rows.filter fun row =>
      decide (row.pullRequest = pull ∧ row.revision = revision)).insertionSort newestFirst := by
    rw [List.mem_insertionSort, List.mem_filter, decide_eq_true_eq]
    exact ⟨present, ofPull, ofRevision⟩
  obtain ⟨rest, isHead⟩ := List.head?_eq_some_iff.mp found
  rw [isHead] at sorted mem
  rcases List.mem_cons.mp mem with rfl | later
  · exact le_refl _
  · have before := List.rel_of_pairwise_cons sorted later
    unfold newestFirst at before
    omega

/-! ## What the writes do to the ledger -/

theorem ledger_lineage_eq_some {runId : RunId} {line : Lineage} :
    store.ledger.lineage runId = some line ↔
      ∃ row, store.runs.lookup runId = some row ∧ row.lineage = line := by
  simp [ledger]

theorem isCurrent_iff {pull : RepositoryName × PositiveInt} {runId : RunId} {line : Lineage} :
    store.ledger.IsCurrent pull runId line ↔
      ∃ row, store.runs.lookup runId = some row ∧ row.lineage = line ∧ row.pullRequest = pull ∧
        row.revisionState = .current := by
  constructor
  · rintro ⟨known, ofPull, isCurrent⟩
    obtain ⟨row, found, rfl⟩ := ledger_lineage_eq_some.mp known
    exact ⟨row, found, rfl, ofPull, isCurrent⟩
  · rintro ⟨row, found, rfl, ofPull, isCurrent⟩
    exact ⟨ledger_lineage_eq_some.mpr ⟨row, found, rfl⟩, ofPull, isCurrent⟩

theorem ledger_write {runs : Table RunRow.runId} {row : RunRow}
    (answers : ∀ runId, runs.lookup runId =
      if row.runId = runId then some row else store.runs.lookup runId)
    (deliveries : Table DeliveryRecord.deliveryId) :
    ({ store with runs := runs, deliveries := deliveries } : SqliteStore Document).ledger =
      { store.ledger.write row.runId row.lineage with
        delivered := fun deliveryId => (deliveries.lookup deliveryId).map DeliveryRecord.runId } := by
  have lineages : (fun runId => (runs.lookup runId).map RunRow.lineage) =
      Function.update (fun runId => (store.runs.lookup runId).map RunRow.lineage) row.runId
        (some row.lineage) := by
    funext runId
    rw [answers]
    by_cases same : row.runId = runId
    · subst same
      simp
    · rw [if_neg same, Function.update_of_ne (Ne.symm same)]
  simp only [ledger, Ledger.write, lineages]

theorem lookup_replace_of_found {runs : Table RunRow.runId} (row : RunRow) {old : RunRow}
    (found : runs.lookup row.runId = some old) (runId : RunId) :
    (runs.replace row).lookup runId = if row.runId = runId then some row else runs.lookup runId := by
  rw [Table.lookup_replace]
  split
  · rename_i same
    subst same
    rw [found, Option.map_some]
  · rfl

theorem ledger_replace (row : RunRow) {old : RunRow}
    (found : store.runs.lookup row.runId = some old)
    (deliveries : Table DeliveryRecord.deliveryId) :
    ({ store with runs := store.runs.replace row, deliveries := deliveries } :
        SqliteStore Document).ledger =
      { store.ledger.write row.runId row.lineage with
        delivered := fun deliveryId => (deliveries.lookup deliveryId).map DeliveryRecord.runId } :=
  ledger_write (lookup_replace_of_found row found) deliveries

theorem ledger_insert (store : SqliteStore Document) (row : RunRow)
    (unused : store.runs.lookup row.runId = none)
    (deliveries : Table DeliveryRecord.deliveryId) :
    ({ store with runs := store.runs.insert row unused, deliveries := deliveries } :
        SqliteStore Document).ledger =
      { store.ledger.write row.runId row.lineage with
        delivered := fun deliveryId => (deliveries.lookup deliveryId).map DeliveryRecord.runId } :=
  ledger_write Table.lookup_insert deliveries

theorem delivered_insert {deliveries : Table DeliveryRecord.deliveryId} {deliveryId : String}
    (runId : RunId) (receivedAt : Int) (fresh : deliveries.lookup deliveryId = none) :
    (fun other => ((deliveries.insert ⟨deliveryId, runId, receivedAt⟩ fresh).lookup other).map
      DeliveryRecord.runId) =
    Function.update (fun other => (deliveries.lookup other).map DeliveryRecord.runId)
      deliveryId (some runId) := by
  funext other
  rw [Table.lookup_insert]
  by_cases same : deliveryId = other
  · subst same
    simp
  · rw [if_neg same, Function.update_of_ne (Ne.symm same)]

/-! ## The six ways an acceptance returns -/

/-- What a returning `acceptPullRequest` found and what it wrote. -/
inductive Acceptance (store : SqliteStore Document) (event : PullRequestEvent)
    (input : StoreInput) : AcceptanceResult → SqliteStore Document → Prop
  | redelivered (run : VerificationRun)
      (found : store.duplicateDelivery event.deliveryId.text = some run.toRunRow) :
      Acceptance store event input ⟨.duplicateDelivery, run.toRunRow⟩ store
  | kept (current : Option VerificationRun) (run : VerificationRun)
      (currentFound : current.map VerificationRun.toRunRow = store.currentRow event.pullRequest)
      (found : store.duplicateRevision event.pullRequest event.revision = some run.toRunRow)
      (reuses : reusesRevision event current run = true)
      (notNewer : ¬ run.headUpdatedAt < event.headUpdatedAt)
      (unknown : store.deliveries.lookup event.deliveryId.text = none) :
      Acceptance store event input ⟨.duplicateRevision, run.toRunRow⟩
        { store with deliveries :=
            store.deliveries.insert ⟨event.deliveryId.text, run.runId, input.now⟩ unknown }
  | refreshed (current : Option VerificationRun) (run : VerificationRun)
      (currentFound : current.map VerificationRun.toRunRow = store.currentRow event.pullRequest)
      (found : store.duplicateRevision event.pullRequest event.revision = some run.toRunRow)
      (reuses : reusesRevision event current run = true)
      (newer : run.headUpdatedAt < event.headUpdatedAt)
      (unknown : store.deliveries.lookup event.deliveryId.text = none) :
      Acceptance store event input ⟨.duplicateRevision, run.toRunRow.refreshed event input.now⟩
        { store with
          runs := store.runs.replace (run.toRunRow.refreshed event input.now)
          deliveries :=
            store.deliveries.insert ⟨event.deliveryId.text, run.runId, input.now⟩ unknown }
  | stale (newer : VerificationRun)
      (currentFound : store.currentRow event.pullRequest = some newer.toRunRow)
      (notNewer : event.headUpdatedAt ≤ newer.headUpdatedAt)
      (unseen : store.duplicateRevision event.pullRequest event.revision = none)
      (unused : store.runs.lookup input.freshRunId = none)
      (unknown : store.deliveries.lookup event.deliveryId.text = none) :
      Acceptance store event input ⟨.staleCreated, RunRow.created event input (some newer.runId)⟩
        { store with
          runs := store.runs.insert (RunRow.created event input (some newer.runId)) unused
          deliveries :=
            store.deliveries.insert ⟨event.deliveryId.text, input.freshRunId, input.now⟩ unknown }
  | superseding (older : VerificationRun) (duplicate : Option VerificationRun)
      (currentFound : store.currentRow event.pullRequest = some older.toRunRow)
      (newer : older.headUpdatedAt < event.headUpdatedAt)
      (duplicateFound : duplicate.map VerificationRun.toRunRow =
        store.duplicateRevision event.pullRequest event.revision)
      (notReused : ∀ run, duplicate = some run → reusesRevision event (some older) run = false)
      (unused : (store.runs.replace (older.toRunRow.replacedBy input.freshRunId input.now)).lookup
        input.freshRunId = none)
      (unknown : store.deliveries.lookup event.deliveryId.text = none) :
      Acceptance store event input ⟨.created, RunRow.created event input none⟩
        { store with
          runs := (store.runs.replace
            (older.toRunRow.replacedBy input.freshRunId input.now)).insert
              (RunRow.created event input none) unused
          deliveries :=
            store.deliveries.insert ⟨event.deliveryId.text, input.freshRunId, input.now⟩ unknown }
  | first
      (currentMissing : store.currentRow event.pullRequest = none)
      (unseen : store.duplicateRevision event.pullRequest event.revision = none)
      (unused : store.runs.lookup input.freshRunId = none)
      (unknown : store.deliveries.lookup event.deliveryId.text = none) :
      Acceptance store event input ⟨.created, RunRow.created event input none⟩
        { store with
          runs := store.runs.insert (RunRow.created event input none) unused
          deliveries :=
            store.deliveries.insert ⟨event.deliveryId.text, input.freshRunId, input.now⟩ unknown }

theorem acceptDuplicate_cases {current : Option VerificationRun} {run : VerificationRun}
    (currentFound : current.map VerificationRun.toRunRow = store.currentRow event.pullRequest)
    (found : store.duplicateRevision event.pullRequest event.revision = some run.toRunRow)
    (reuses : reusesRevision event current run = true)
    (returned : store.acceptDuplicate event input.now run = .ok (result, written)) :
    Acceptance store event input result written := by
  unfold acceptDuplicate at returned
  by_cases newer : run.headUpdatedAt < event.headUpdatedAt
  · simp only [if_pos newer, Guard.bind_eq_ok_iff] at returned
    obtain ⟨⟨shown, _⟩, reloaded, deliveries, inserted, wrote⟩ := returned
    obtain rfl : shown = run.toRunRow.refreshed event input.now := by
      have stored : (store.runs.replace (run.toRunRow.refreshed event input.now)).lookup run.runId =
          some (run.toRunRow.refreshed event input.now) :=
        Table.lookup_replace_self (duplicateRevision_eq_some found).1
      exact Option.some.inj ((requireRun_eq_ok_iff.mp reloaded).symm.trans stored)
    obtain ⟨unknown, rfl⟩ := insertRow_eq_ok_iff.mp inserted
    cases wrote
    exact .refreshed current run currentFound found reuses newer unknown
  · simp only [if_neg newer, Guard.ok_bind, Guard.bind_eq_ok_iff] at returned
    obtain ⟨deliveries, inserted, wrote⟩ := returned
    obtain ⟨unknown, rfl⟩ := insertRow_eq_ok_iff.mp inserted
    cases wrote
    exact .kept current run currentFound found reuses newer unknown

theorem acceptNew_cases {current duplicate : Option VerificationRun}
    (currentFound : current.map VerificationRun.toRunRow = store.currentRow event.pullRequest)
    (duplicateFound : duplicate.map VerificationRun.toRunRow =
      store.duplicateRevision event.pullRequest event.revision)
    (notReused : ∀ run, duplicate = some run → reusesRevision event current run = false)
    (returned : store.acceptNew event input current = .ok (result, written)) :
    Acceptance store event input result written := by
  cases current with
  | none =>
      simp only [acceptNew, isStale, Bool.false_eq_true, if_false, Guard.bind_eq_ok_iff] at returned
      obtain ⟨runs, insertedRun, deliveries, insertedDelivery, wrote⟩ := returned
      obtain ⟨_, unused, rfl⟩ := insertRun_eq_ok_iff.mp insertedRun
      obtain ⟨unknown, rfl⟩ := insertRow_eq_ok_iff.mp insertedDelivery
      cases wrote
      -- Without a current run, a known revision would have been reused.
      have unseen : duplicate = none := by
        cases duplicate with
        | none => rfl
        | some known => exact absurd (notReused known rfl) Bool.noConfusion
      subst unseen
      exact .first currentFound.symm duplicateFound.symm unused unknown
  | some run =>
      by_cases notNewer : event.headUpdatedAt ≤ run.headUpdatedAt
      · have stale : isStale event (some run) = true := decide_eq_true notNewer
        simp only [acceptNew, stale, if_true, Option.map_some, Guard.bind_eq_ok_iff] at returned
        obtain ⟨runs, insertedRun, deliveries, insertedDelivery, wrote⟩ := returned
        obtain ⟨_, unused, rfl⟩ := insertRun_eq_ok_iff.mp insertedRun
        obtain ⟨unknown, rfl⟩ := insertRow_eq_ok_iff.mp insertedDelivery
        cases wrote
        -- A known revision would have been reused, since the event is stale.
        have unseen : duplicate = none := by
          cases duplicate with
          | none => rfl
          | some known =>
              have refused := notReused known rfl
              simp [reusesRevision, notNewer] at refused
        subst unseen
        exact .stale run currentFound.symm notNewer duplicateFound.symm unused unknown
      · have stale : isStale event (some run) = false := decide_eq_false notNewer
        simp only [acceptNew, stale, Bool.false_eq_true, if_false, Guard.bind_eq_ok_iff] at returned
        obtain ⟨runs, insertedRun, deliveries, insertedDelivery, wrote⟩ := returned
        obtain ⟨_, unused, rfl⟩ := insertRun_eq_ok_iff.mp insertedRun
        obtain ⟨unknown, rfl⟩ := insertRow_eq_ok_iff.mp insertedDelivery
        cases wrote
        exact .superseding run duplicate currentFound.symm (not_le.mp notNewer) duplicateFound
          notReused unused unknown

/-- **The cases of acceptance.** -/
theorem acceptPullRequest_cases
    (returned : store.acceptPullRequest event input = .ok (result, written)) :
    Acceptance store event input result written := by
  unfold acceptPullRequest at returned
  split at returned
  · rename_i row found
    simp only [Guard.bind_eq_ok_iff, VerificationRun.modelValidate_eq_ok_iff] at returned
    obtain ⟨run, sameRow, wrote⟩ := returned
    cases wrote
    exact .redelivered run (sameRow ▸ found)
  · simp only [Guard.bind_eq_ok_iff, loadRow_eq_ok_iff] at returned
    obtain ⟨current, currentFound, duplicate, duplicateFound, returned⟩ := returned
    cases duplicate with
    | none =>
        exact acceptNew_cases currentFound duplicateFound (fun _ absurdity => by cases absurdity)
          returned
    | some run =>
        simp only at returned
        split at returned
        · rename_i reuses
          exact acceptDuplicate_cases currentFound duplicateFound.symm reuses returned
        · rename_i refused
          refine acceptNew_cases currentFound duplicateFound (fun other isIt => ?_) returned
          rw [← Option.some.inj isIt]
          exact eq_false_of_ne_true refused

/-! ## Acceptance is a ledger step -/

theorem delivered_eq_none (unknown : store.deliveries.lookup event.deliveryId.text = none) :
    store.ledger.delivered event.deliveryId.text = none := by
  simp only [ledger, unknown, Option.map_none]

/-- The run that the revision query answers with is the newest lineage of it. -/
theorem newest_of_duplicateRevision {row : RunRow}
    (found : store.duplicateRevision event.pullRequest event.revision = some row)
    {other : RunId} {line : Lineage} (known : store.ledger.lineage other = some line)
    (ofPull : line.pullRequest = event.pullRequest) (ofRevision : line.revision = event.revision) :
    line.headUpdatedAt ≤ row.lineage.headUpdatedAt := by
  obtain ⟨otherRow, otherFound, rfl⟩ := ledger_lineage_eq_some.mp known
  exact duplicateRevision_newest found (Table.mem_of_lookup otherFound) ofPull ofRevision

/-- The loaded current run of a coherent ledger is the only current one. -/
theorem notOvertaking_of_reuses {current : Option VerificationRun} {run : VerificationRun}
    (coherent : store.ledger.Coherent)
    (currentFound : current.map VerificationRun.toRunRow = store.currentRow event.pullRequest)
    (reuses : reusesRevision event current run = true) {currentId : RunId} {line : Lineage}
    (isCurrent : store.ledger.IsCurrent event.pullRequest currentId line) :
    run.runId = currentId ∨ event.headUpdatedAt ≤ line.headUpdatedAt := by
  obtain ⟨row, found, rfl, ofPull, rowCurrent⟩ := isCurrent_iff.mp isCurrent
  cases current with
  | none => exact absurd rowCurrent (currentRow_eq_none currentFound.symm (Table.mem_of_lookup found) ofPull)
  | some loaded =>
      obtain ⟨loadedFound, loadedPull, loadedCurrent⟩ := currentRow_eq_some currentFound.symm
      have loadedIs : store.ledger.IsCurrent event.pullRequest loaded.runId loaded.toRunRow.lineage :=
        isCurrent_iff.mpr ⟨_, loadedFound, rfl, loadedPull, loadedCurrent⟩
      obtain rfl := coherent.currentUnique loadedIs isCurrent
      obtain rfl := Option.some.inj (loadedFound.symm.trans found)
      simp only [reusesRevision, Bool.or_eq_true, decide_eq_true_eq] at reuses
      exact reuses

/-- **The SQLite store refines the ledger.** -/
theorem Acceptance.refines (acceptance : Acceptance store event input result written)
    (coherent : store.ledger.Coherent) :
    Ledger.Accept store.ledger event input.freshRunId result.kind written.ledger := by
  cases acceptance with
  | redelivered run found =>
      obtain ⟨delivery, known, _⟩ := Option.bind_eq_some_iff.mp found
      refine .redelivered delivery.runId ?_
      simp only [ledger, known, Option.map_some]
  | kept current run currentFound found reuses notNewer unknown =>
      obtain ⟨present, samePull, sameRevision⟩ := duplicateRevision_eq_some found
      have unchanged : store.ledger.refresh run.runId run.toRunRow.lineage event.headUpdatedAt =
          store.ledger := by
        have newest : max run.toRunRow.lineage.headUpdatedAt event.headUpdatedAt =
            run.toRunRow.lineage.headUpdatedAt := max_eq_left (not_lt.mp notNewer)
        have answer : store.ledger.lineage run.runId = some run.toRunRow.lineage :=
          ledger_lineage_eq_some.mpr ⟨_, present, rfl⟩
        simp only [Ledger.refresh, newest, Ledger.write, ← answer, Function.update_eq_self]
      have written : ({ store with
          deliveries :=
            store.deliveries.insert ⟨event.deliveryId.text, run.runId, input.now⟩ unknown } :
          SqliteStore Document).ledger =
          (store.ledger.refresh run.runId run.toRunRow.lineage event.headUpdatedAt).deliver
            event.deliveryId.text run.runId := by
        rw [unchanged]
        simp only [ledger, Ledger.deliver, delivered_insert run.runId input.now unknown]
      rw [written]
      exact .reused run.runId run.toRunRow.lineage (delivered_eq_none unknown)
        (ledger_lineage_eq_some.mpr ⟨_, present, rfl⟩) samePull sameRevision
        (newest_of_duplicateRevision found) fun _ _ => notOvertaking_of_reuses coherent currentFound reuses
  | refreshed current run currentFound found reuses newer unknown =>
      obtain ⟨present, samePull, sameRevision⟩ := duplicateRevision_eq_some found
      have shownLine : (run.toRunRow.refreshed event input.now).lineage = { run.toRunRow.lineage with
          headUpdatedAt := max run.headUpdatedAt event.headUpdatedAt } := by
        rw [max_eq_right (le_of_lt newer)]
        rfl
      have written : ({ store with
          runs := store.runs.replace (run.toRunRow.refreshed event input.now)
          deliveries :=
            store.deliveries.insert ⟨event.deliveryId.text, run.runId, input.now⟩ unknown } :
          SqliteStore Document).ledger =
          (store.ledger.refresh run.runId run.toRunRow.lineage event.headUpdatedAt).deliver
            event.deliveryId.text run.runId := by
        rw [ledger_replace (run.toRunRow.refreshed event input.now) present, delivered_insert,
          shownLine]
        rfl
      rw [written]
      exact .reused run.runId run.toRunRow.lineage (delivered_eq_none unknown)
        (ledger_lineage_eq_some.mpr ⟨_, present, rfl⟩) samePull sameRevision
        (newest_of_duplicateRevision found) fun _ _ => notOvertaking_of_reuses coherent currentFound reuses
  | stale newer currentFound notNewer unseen unused unknown =>
      obtain ⟨present, ofPull, isCurrent⟩ := currentRow_eq_some currentFound
      have written := store.ledger_insert (RunRow.created event input (some newer.runId)) unused
        (store.deliveries.insert ⟨event.deliveryId.text, input.freshRunId, input.now⟩ unknown)
      rw [delivered_insert] at written
      rw [written]
      refine .stale newer.runId newer.toRunRow.lineage (delivered_eq_none unknown)
        (isCurrent_iff.mpr ⟨_, present, rfl, ofPull, isCurrent⟩) notNewer ?_
        (congrArg (Option.map RunRow.lineage) unused)
      intro other line known ofPull
      obtain ⟨row, found, rfl⟩ := ledger_lineage_eq_some.mp known
      exact duplicateRevision_eq_none unseen (Table.mem_of_lookup found) ofPull
  | superseding older duplicate currentFound newer duplicateFound notReused unused unknown =>
      obtain ⟨present, ofPull, isCurrent⟩ := currentRow_eq_some currentFound
      have unusedBefore : store.runs.lookup input.freshRunId = none := by
        have answer := lookup_replace_of_found
          (older.toRunRow.replacedBy input.freshRunId input.now) present input.freshRunId
        rw [unused] at answer
        split at answer
        · cases answer
        · exact answer.symm
      have replaced : ({ store with
          runs := store.runs.replace (older.toRunRow.replacedBy input.freshRunId input.now) } :
          SqliteStore Document).ledger =
          store.ledger.retire older.runId older.toRunRow.lineage input.freshRunId :=
        ledger_replace (older.toRunRow.replacedBy input.freshRunId input.now) present
          store.deliveries
      have written := ledger_insert { store with
          runs := store.runs.replace (older.toRunRow.replacedBy input.freshRunId input.now) }
        (RunRow.created event input none) unused
        (store.deliveries.insert ⟨event.deliveryId.text, input.freshRunId, input.now⟩ unknown)
      rw [replaced, delivered_insert] at written
      rw [written]
      refine .superseding older.runId older.toRunRow.lineage (delivered_eq_none unknown)
        (isCurrent_iff.mpr ⟨_, present, rfl, ofPull, isCurrent⟩) newer
        (congrArg (Option.map RunRow.lineage) unusedBefore)
  | first currentMissing unseen unused unknown =>
      have written := store.ledger_insert (RunRow.created event input none) unused
        (store.deliveries.insert ⟨event.deliveryId.text, input.freshRunId, input.now⟩ unknown)
      rw [delivered_insert] at written
      rw [written]
      refine .first (delivered_eq_none unknown) ?_ (congrArg (Option.map RunRow.lineage) unused)
      intro currentId current isCurrent
      obtain ⟨row, found, _, ofPull, rowCurrent⟩ := isCurrent_iff.mp isCurrent
      exact currentRow_eq_none currentMissing (Table.mem_of_lookup found) ofPull rowCurrent

end SqliteStore

/-! ## Sequences of events -/

/-- One event as it reaches a store, with the clock reading and the fresh
identifier its acceptance may use. -/
structure EventDelivery where
  event : PullRequestEvent
  input : StoreInput

namespace SqliteStore

variable {Document : Type} {store : SqliteStore Document}

/-- Deliver one event: what the caller sees, and the store afterwards. -/
def deliver (store : SqliteStore Document) (delivery : EventDelivery) :
    Except StoreException AcceptanceResult × SqliteStore Document :=
  match store.acceptPullRequest delivery.event delivery.input with
  | .ok (result, written) => (.ok result, written)
  | .error exception => (.error exception, store)

/-- Deliver a sequence of events. -/
def deliverAll (store : SqliteStore Document) (deliveries : List EventDelivery) :
    SqliteStore Document :=
  deliveries.foldl (fun reached delivery => (reached.deliver delivery).2) store

/-- A delivery makes one acceptance step or leaves the store alone. -/
theorem deliver_ledger (coherent : store.ledger.Coherent) (delivery : EventDelivery) :
    (∃ result, (store.deliver delivery).1 = .ok result ∧
      Ledger.Accept store.ledger delivery.event delivery.input.freshRunId result.kind
        (store.deliver delivery).2.ledger) ∨
      ((∃ exception, (store.deliver delivery).1 = .error exception) ∧
        (store.deliver delivery).2 = store) := by
  unfold deliver
  cases returned : store.acceptPullRequest delivery.event delivery.input with
  | error exception => exact .inr ⟨⟨exception, rfl⟩, rfl⟩
  | ok value =>
      obtain ⟨result, written⟩ := value
      exact .inl ⟨result, rfl, (acceptPullRequest_cases returned).refines coherent⟩

theorem deliver_coherent (coherent : store.ledger.Coherent) (delivery : EventDelivery) :
    (store.deliver delivery).2.ledger.Coherent := by
  rcases deliver_ledger coherent delivery with ⟨_, _, accept⟩ | ⟨_, same⟩
  · exact accept.coherent coherent
  · exact same.symm ▸ coherent

theorem deliverAll_coherent (coherent : store.ledger.Coherent) (deliveries : List EventDelivery) :
    (store.deliverAll deliveries).ledger.Coherent := by
  induction deliveries generalizing store with
  | nil => exact coherent
  | cons delivery rest ih => exact ih (deliver_coherent coherent delivery)

theorem deliverAll_append (deliveries more : List EventDelivery) :
    store.deliverAll (deliveries ++ more) = (store.deliverAll deliveries).deliverAll more :=
  List.foldl_append ..

/-- A delivery that resolved to a run of a pull request keeps doing so. -/
theorem deliverAll_resolved (coherent : store.ledger.Coherent) {deliveryId : String} {runId : RunId}
    {line : Lineage} (deliveries : List EventDelivery)
    (resolved : store.ledger.delivered deliveryId = some runId)
    (known : store.ledger.lineage runId = some line) :
    (store.deliverAll deliveries).ledger.delivered deliveryId = some runId ∧
      ∃ kept, (store.deliverAll deliveries).ledger.lineage runId = some kept ∧
        kept.pullRequest = line.pullRequest := by
  induction deliveries generalizing store line with
  | nil => exact ⟨resolved, line, known, rfl⟩
  | cons delivery rest ih =>
      have next := deliver_coherent coherent delivery
      rcases deliver_ledger coherent delivery with ⟨_, _, accept⟩ | ⟨_, same⟩
      · obtain ⟨kept, keptKnown, samePull⟩ := accept.pullRequest_kept known
        have stillResolved : (store.deliver delivery).2.ledger.delivered deliveryId = some runId := by
          rcases accept.delivered_eq deliveryId with ⟨_, before, after⟩ |
            ⟨before, _, _⟩ | ⟨before, _, _⟩
          · exact after.trans (before.symm.trans resolved)
          all_goals exact absurd (before.symm.trans resolved) (Option.some_ne_none _).symm
        obtain ⟨atLast, last, lastKnown, lastPull⟩ := ih next stillResolved keptKnown
        exact ⟨atLast, last, lastKnown, lastPull.trans samePull⟩
      · have unchanged : (store.deliver delivery).2.ledger = store.ledger := by rw [same]
        exact ih next (unchanged ▸ resolved) (unchanged ▸ known)

/-- The delivery at which a store first records a delivery identifier. -/
structure Introduces (store : SqliteStore Document) (earlier : List EventDelivery)
    (delivery : EventDelivery) (deliveryId : String) : Prop where
  unrecorded : (store.deliverAll earlier).deliveries.lookup deliveryId = none
  recorded : (store.deliverAll (earlier ++ [delivery])).deliveries.lookup deliveryId ≠ none

/-- A delivery that introduces an identifier carries it, and resolves it to a run
of its own pull request. -/
theorem Introduces.resolves {earlier : List EventDelivery} {delivery : EventDelivery}
    {deliveryId : String} (introduces : store.Introduces earlier delivery deliveryId)
    (coherent : store.ledger.Coherent) :
    deliveryId = delivery.event.deliveryId.text ∧
      ∃ runId line, (store.deliverAll (earlier ++ [delivery])).ledger.delivered deliveryId =
        some runId ∧ (store.deliverAll (earlier ++ [delivery])).ledger.lineage runId = some line ∧
        line.pullRequest = delivery.event.pullRequest := by
  have unrecorded : (store.deliverAll earlier).ledger.delivered deliveryId = none :=
    congrArg (Option.map DeliveryRecord.runId) introduces.unrecorded
  have recorded := introduces.recorded
  rw [deliverAll_append] at recorded ⊢
  have nowRecorded : ((store.deliverAll earlier).deliver delivery).2.ledger.delivered deliveryId ≠
      none := fun missing => recorded (Option.map_eq_none_iff.mp missing)
  rcases deliver_ledger (deliverAll_coherent coherent earlier) delivery with ⟨_, _, accept⟩ | ⟨_, same⟩
  · rcases accept.delivered_eq deliveryId with ⟨_, before, _⟩ | ⟨_, _, after⟩ |
      ⟨_, isIt, resolution⟩
    · exact absurd (unrecorded.symm.trans before) (Option.some_ne_none _).symm
    · exact absurd after nowRecorded
    · exact ⟨isIt, resolution⟩
  · rw [same] at nowRecorded
    exact absurd unrecorded nowRecorded

/-- Every recorded delivery identifier was introduced by some delivery. -/
theorem exists_introduces {deliveries : List EventDelivery} {deliveryId : String}
    (unrecorded : store.deliveries.lookup deliveryId = none)
    (recorded : (store.deliverAll deliveries).deliveries.lookup deliveryId ≠ none) :
    ∃ earlier delivery later, deliveries = earlier ++ delivery :: later ∧
      store.Introduces earlier delivery deliveryId := by
  induction deliveries using List.reverseRecOn with
  | nil => exact absurd unrecorded recorded
  | append_singleton earlier delivery ih =>
      by_cases before : (store.deliverAll earlier).deliveries.lookup deliveryId = none
      · exact ⟨earlier, delivery, [], rfl, before, recorded⟩
      · obtain ⟨first, introducing, later, rfl, introduces⟩ := ih before
        exact ⟨first, introducing, later ++ [delivery], by simp, introduces⟩

/-! ## Following replacements -/

/-- The run that replaced a run, if one did. -/
def replacement (store : SqliteStore Document) (runId : RunId) : Option RunId :=
  (store.runs.lookup runId).bind RunRow.supersededByRunId

/-- Follow `superseded_by_run_id` a number of times. -/
def follow (store : SqliteStore Document) : Nat → RunId → Option RunId
  | 0, runId => some runId
  | steps + 1, runId => (store.replacement runId).bind (store.follow steps)

theorem exists_follow {runId target : RunId}
    (path : Relation.ReflTransGen store.ledger.Replaces runId target) :
    ∃ steps, store.follow steps runId = some target := by
  induction path using Relation.ReflTransGen.head_induction_on with
  | refl => exact ⟨0, rfl⟩
  | head replaces _ ih =>
      obtain ⟨line, known, replacedBy⟩ := replaces
      obtain ⟨row, found, rfl⟩ := ledger_lineage_eq_some.mp known
      obtain ⟨steps, reached⟩ := ih
      refine ⟨steps + 1, ?_⟩
      have next : row.supersededByRunId = some _ := replacedBy
      simp only [follow, replacement, found, Option.bind_some, next, reached]

/-! ## The acceptance invariant -/

/-- A coherent store has one current run for each pull request with runs; no run of
it is newer, and replacements lead to it. -/
theorem settled_of_coherent (coherent : store.ledger.Coherent) {row : RunRow}
    (present : row ∈ store.runs) :
    ∃ current ∈ store.runs, current.pullRequest = row.pullRequest ∧
      current.revisionState = .current ∧
      (∀ other ∈ store.runs, other.pullRequest = row.pullRequest →
        (other.revisionState = .current → other = current) ∧
        other.headUpdatedAt ≤ current.headUpdatedAt ∧
        ∃ steps, store.follow steps other.runId = some current.runId) := by
  have lineOf : ∀ {other : RunRow}, other ∈ store.runs →
      store.ledger.lineage other.runId = some other.lineage := fun mem =>
    ledger_lineage_eq_some.mpr ⟨_, Table.lookup_of_mem mem, rfl⟩
  obtain ⟨currentId, line, isCurrent, _, _⟩ := coherent.settled (lineOf present)
  obtain ⟨current, found, rfl, ofPull, rowCurrent⟩ := isCurrent_iff.mp isCurrent
  obtain rfl := Table.key_of_lookup found
  refine ⟨current, Table.mem_of_lookup found, ofPull, rowCurrent, fun other mem samePull => ?_⟩
  obtain ⟨path, below⟩ := coherent.leads (lineOf mem) samePull isCurrent
  refine ⟨fun otherCurrent => ?_, below, exists_follow path⟩
  have sameId : other.runId = current.runId :=
    coherent.currentUnique (isCurrent_iff.mpr
      ⟨other, Table.lookup_of_mem mem, rfl, samePull, otherCurrent⟩) isCurrent
  exact Table.eq_of_key_eq mem (Table.mem_of_lookup found) sameId

/-- **The run-store acceptance invariant.**  After every sequence of events, each
pull request with runs has exactly one current run, the newest, which every run of
it leads to; and each recorded delivery names exactly one run, of the pull request
of the event that introduced it. -/
theorem acceptance_invariant (deliveries : List EventDelivery) :
    let store := (empty : SqliteStore Document).deliverAll deliveries
    (∀ pull, (∃ row ∈ store.runs, row.pullRequest = pull) →
      ∃ current ∈ store.runs, current.pullRequest = pull ∧ current.revisionState = .current ∧
        ∀ row ∈ store.runs, row.pullRequest = pull →
          (row.revisionState = .current → row = current) ∧
          row.headUpdatedAt ≤ current.headUpdatedAt ∧
          ∃ steps, store.follow steps row.runId = some current.runId) ∧
    (∀ record ∈ store.deliveries,
      (∀ other ∈ store.deliveries, other.deliveryId = record.deliveryId → other = record) ∧
      (∃ earlier delivery later, deliveries = earlier ++ delivery :: later ∧
        (empty : SqliteStore Document).Introduces earlier delivery record.deliveryId) ∧
      ∃ row ∈ store.runs, row.runId = record.runId ∧
        (∀ other ∈ store.runs, other.runId = record.runId → other = row) ∧
        ∀ earlier delivery later, deliveries = earlier ++ delivery :: later →
          (empty : SqliteStore Document).Introduces earlier delivery record.deliveryId →
          delivery.event.deliveryId.text = record.deliveryId ∧
          row.pullRequest = delivery.event.pullRequest) := by
  intro store
  have start : (empty : SqliteStore Document).ledger.Coherent := Ledger.blank_coherent
  have coherent := deliverAll_coherent start deliveries
  refine ⟨?_, fun record recordPresent => ⟨?_, ?_, ?_⟩⟩
  · rintro pull ⟨row, present, rfl⟩
    exact settled_of_coherent coherent present
  · exact fun other otherPresent same => Table.eq_of_key_eq otherPresent recordPresent same
  · refine exists_introduces rfl ?_
    rw [Table.lookup_of_mem recordPresent]
    exact Option.some_ne_none _
  · have resolved : ((empty : SqliteStore Document).deliverAll deliveries).ledger.delivered
        record.deliveryId = some record.runId :=
      congrArg (Option.map DeliveryRecord.runId) (Table.lookup_of_mem recordPresent)
    obtain ⟨line, known⟩ := coherent.deliveredKnown resolved
    obtain ⟨row, found, rfl⟩ := ledger_lineage_eq_some.mp known
    refine ⟨row, Table.mem_of_lookup found, Table.key_of_lookup found, ?_, ?_⟩
    · intro other otherPresent same
      exact Table.eq_of_key_eq otherPresent (Table.mem_of_lookup found)
        (same.trans (Table.key_of_lookup found).symm)
    · rintro earlier delivery later rfl introduces
      obtain ⟨carries, runId, introduced, introducedTo, introducedLine, ofPull⟩ :=
        introduces.resolves start
      have split : earlier ++ delivery :: later = (earlier ++ [delivery]) ++ later := by simp
      rw [split, deliverAll_append] at resolved known
      obtain ⟨atLast, kept, keptKnown, keptPull⟩ := deliverAll_resolved
        (deliverAll_coherent start _) later introducedTo introducedLine
      obtain rfl := Option.some.inj (atLast.symm.trans resolved)
      obtain rfl := Option.some.inj (keptKnown.symm.trans known)
      exact ⟨carries.symm, keptPull.trans ofPull⟩

end SqliteStore

end PatchProof
