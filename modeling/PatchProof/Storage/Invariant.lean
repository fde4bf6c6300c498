import PatchProof.Storage.Operations

/-!
# The invariant of a store fed by one clock

When clock readings do not decrease and fresh identifiers are fresh, every row of
the store is valid and not newer than the clock, the ledger is coherent and
ordered, and failure records belong to runs.  Every operation keeps this, and under
it acceptance always returns.
-/

set_option autoImplicit false

namespace PatchProof

/-! ## Rows that stay valid -/

theorem RunRow.refreshed_valid {row : RunRow} {now : Int} (valid : row.Valid)
    (event : PullRequestEvent) (later : row.createdAt ≤ now) : (row.refreshed event now).Valid where
  versionPositive := Int.le_trans valid.versionPositive (Int.le_of_lt (Int.lt_succ _))
  terminalHasReason := valid.terminalHasReason
  reasonOnlyTerminal := valid.reasonOnlyTerminal
  currentNotReplaced := valid.currentNotReplaced
  supersededReplaced := valid.supersededReplaced
  notBeforeCreation := later

theorem RunRow.replacedBy_valid {row : RunRow} {now : Int} (valid : row.Valid)
    (replacement : RunId) (later : row.createdAt ≤ now) : (row.replacedBy replacement now).Valid where
  versionPositive := Int.le_trans valid.versionPositive (Int.le_of_lt (Int.lt_succ _))
  terminalHasReason := fun _ => by
    simp only [RunRow.replacedBy]
    split
    · exact valid.terminalHasReason ‹_›
    · exact Option.some_ne_none _
  reasonOnlyTerminal := fun absurdity => absurd rfl absurdity
  currentNotReplaced := fun absurdity => by cases absurdity
  supersededReplaced := fun _ => Option.some_ne_none _
  notBeforeCreation := later

/-! ## What an acceptance does to one row -/

/-- How an acceptance may change the row of one run. -/
inductive RowChange (event : PullRequestEvent) (input : StoreInput) :
    Option RunRow → Option RunRow → Prop
  | kept (row : Option RunRow) : RowChange event input row row
  | refreshed (row : RunRow) (samePull : row.pullRequest = event.pullRequest)
      (sameRevision : row.revision = event.revision)
      (newer : row.headUpdatedAt < event.headUpdatedAt) :
      RowChange event input (some row) (some (row.refreshed event input.now))
  | replaced (row : RunRow) (samePull : row.pullRequest = event.pullRequest)
      (wasCurrent : row.revisionState = .current)
      (newer : row.headUpdatedAt < event.headUpdatedAt) :
      RowChange event input (some row) (some (row.replacedBy input.freshRunId input.now))
  | created (newer : Option RunId) :
      RowChange event input none (some (RunRow.created event input newer))

namespace SqliteStore

variable {Document : Type} {store written : SqliteStore Document} {event : PullRequestEvent}
  {input : StoreInput} {result : AcceptanceResult}

theorem lookup_insert_cases {runs : Table RunRow.runId} (row : RunRow)
    (unused : runs.lookup row.runId = none) (runId : RunId) :
    (runs.insert row unused).lookup runId = runs.lookup runId ∨
      (runs.lookup runId = none ∧ (runs.insert row unused).lookup runId = some row) := by
  rw [Table.lookup_insert]
  split
  · rename_i same
    subst same
    exact .inr ⟨unused, rfl⟩
  · exact .inl rfl

/-- **An acceptance changes rows only in these ways.** -/
theorem Acceptance.rowChange (acceptance : Acceptance store event input result written)
    (runId : RunId) :
    RowChange event input (store.runs.lookup runId) (written.runs.lookup runId) := by
  cases acceptance with
  | redelivered run found => exact .kept _
  | kept current run currentFound found reuses notNewer unknown => exact .kept _
  | refreshed current run currentFound found reuses newer unknown =>
      obtain ⟨present, samePull, sameRevision⟩ := duplicateRevision_eq_some found
      show RowChange event input _
        ((store.runs.replace (run.toRunRow.refreshed event input.now)).lookup runId)
      rw [lookup_replace_of_found (run.toRunRow.refreshed event input.now) present]
      split
      · rename_i same
        subst same
        show RowChange event input (store.runs.lookup run.runId) _
        rw [present]
        exact .refreshed _ samePull sameRevision newer
      · exact .kept _
  | stale newer currentFound notNewer unseen unused unknown =>
      show RowChange event input _
        ((store.runs.insert (RunRow.created event input (some newer.runId)) unused).lookup runId)
      rcases lookup_insert_cases (RunRow.created event input (some newer.runId)) unused runId
        with same | ⟨missing, added⟩
      · rw [same]
        exact .kept _
      · rw [missing, added]
        exact .created _
  | superseding older duplicate currentFound newer duplicateFound notReused unused unknown =>
      obtain ⟨present, samePull, wasCurrent⟩ := currentRow_eq_some currentFound
      have replaced := lookup_replace_of_found
        (older.toRunRow.replacedBy input.freshRunId input.now) present runId
      show RowChange event input _ (((store.runs.replace
        (older.toRunRow.replacedBy input.freshRunId input.now)).insert
          (RunRow.created event input none) unused).lookup runId)
      rcases lookup_insert_cases (RunRow.created event input none) unused runId
        with same | ⟨missing, added⟩
      · rw [same, replaced]
        split
        · rename_i same
          subst same
          show RowChange event input (store.runs.lookup older.runId) _
          rw [present]
          exact .replaced _ samePull wasCurrent newer
        · exact .kept _
      · rw [missing] at replaced
        split at replaced
        · cases replaced
        · rw [← replaced, added]
          exact .created _
  | first currentMissing unseen unused unknown =>
      show RowChange event input _
        ((store.runs.insert (RunRow.created event input none) unused).lookup runId)
      rcases lookup_insert_cases (RunRow.created event input none) unused runId
        with same | ⟨missing, added⟩
      · rw [same]
        exact .kept _
      · rw [missing, added]
        exact .created _

/-- An acceptance writes runs and deliveries only. -/
theorem Acceptance.frame (acceptance : Acceptance store event input result written) :
    written.evidence = store.evidence ∧ written.publications = store.publications ∧
      written.failures = store.failures := by
  cases acceptance <;> exact ⟨rfl, rfl, rfl⟩

end SqliteStore

/-! ## The invariant -/

/-- A store whose rows are valid, timely and identified by used identifiers. -/
structure StoreInvariant {Document : Type} (store : SqliteStore Document) (clock : Int)
    (used : Set RunId) : Prop where
  coherent : store.ledger.Coherent
  ordered : store.ledger.Ordered
  valid : ∀ {row}, row ∈ store.runs → row.Valid
  timely : ∀ {row}, row ∈ store.runs → row.updatedAt ≤ clock
  identified : ∀ {row}, row ∈ store.runs → row.runId ∈ used
  failureKnown : ∀ {runId failure}, store.failures.lookup runId = some failure →
    ∃ row, store.runs.lookup runId = some row

namespace StoreInvariant

variable {Document : Type} {store written : SqliteStore Document} {clock : Int}
  {used : Set RunId} {event : PullRequestEvent} {input : StoreInput}

open SqliteStore

theorem empty (clock : Int) : StoreInvariant (SqliteStore.empty : SqliteStore Document) clock ∅ where
  coherent := Ledger.blank_coherent
  ordered := Ledger.blank_ordered
  valid := fun present => absurd present (Table.not_mem_empty _)
  timely := fun present => absurd present (Table.not_mem_empty _)
  identified := fun present => absurd present (Table.not_mem_empty _)
  failureKnown := fun found => by cases found

/-- The clock may go forward and more identifiers be used. -/
theorem mono {later : Int} {more : Set RunId} (invariant : StoreInvariant store clock used)
    (forward : clock ≤ later) (grows : used ⊆ more) : StoreInvariant store later more where
  coherent := invariant.coherent
  ordered := invariant.ordered
  valid := invariant.valid
  timely := fun present => Int.le_trans (invariant.timely present) forward
  identified := fun present => grows (invariant.identified present)
  failureKnown := invariant.failureKnown

theorem runOf (invariant : StoreInvariant store clock used) {runId : RunId} {row : RunRow}
    (found : store.runs.lookup runId = some row) :
    ∃ run : VerificationRun, run.toRunRow = row ∧ store.requireRun runId = .ok run :=
  ⟨⟨row, invariant.valid (Table.mem_of_lookup found)⟩, rfl,
    requireRun_of_lookup found (invariant.valid (Table.mem_of_lookup found))⟩

/-! ## Operations keep the invariant -/

/-- A replaced row that keeps its lineage changes nothing in the ledger. -/
theorem ledger_replace_of_lineage (row : RunRow) {old : RunRow}
    (found : store.runs.lookup row.runId = some old) (same : row.lineage = old.lineage) :
    ({ store with runs := store.runs.replace row } : SqliteStore Document).ledger = store.ledger := by
  have written := ledger_replace row found store.deliveries
  have answer : store.ledger.lineage row.runId = some old.lineage :=
    ledger_lineage_eq_some.mpr ⟨old, found, rfl⟩
  refine written.trans ?_
  simp only [Ledger.write, same, ← answer, Function.update_eq_self]
  rfl

/-- Moving a run keeps the invariant. -/
theorem moved (invariant : StoreInvariant store clock used) {current : VerificationRun}
    {transition : RunTransition} (forward : clock ≤ input.now)
    (found : store.runs.lookup current.runId = some current.toRunRow)
    (permits : Permits current.toRunRow transition input.now)
    {failures : Table RunFailureRecord.runId}
    (failuresKnown : ∀ {runId failure}, failures.lookup runId = some failure →
      runId = current.runId ∨ store.failures.lookup runId = some failure) :
    StoreInvariant ({ store with
      runs := store.runs.replace (current.toRunRow.transitioned transition input.now)
      failures := failures } : SqliteStore Document) input.now used := by
  have sameLedger : ({ store with
      runs := store.runs.replace (current.toRunRow.transitioned transition input.now)
      failures := failures } : SqliteStore Document).ledger = store.ledger :=
    ledger_replace_of_lineage (current.toRunRow.transitioned transition input.now) found rfl
  refine ⟨sameLedger ▸ invariant.coherent, sameLedger ▸ invariant.ordered, ?_, ?_, ?_, ?_⟩
  · intro row present
    rcases Table.mem_replace.mp present with ⟨old, _⟩ | ⟨rfl, _⟩
    · exact invariant.valid old
    · exact permits.transitioned_valid current.valid
  · intro row present
    rcases Table.mem_replace.mp present with ⟨old, _⟩ | ⟨rfl, _⟩
    · exact Int.le_trans (invariant.timely old) forward
    · exact Int.le_refl _
  · intro row present
    rcases Table.mem_replace.mp present with ⟨old, _⟩ | ⟨rfl, _⟩
    · exact invariant.identified old
    · have present : current.runId ∈ used := invariant.identified (Table.mem_of_lookup found)
      exact present
  · intro runId failure recorded
    show ∃ row, (store.runs.replace (current.toRunRow.transitioned transition input.now)).lookup
      runId = some row
    rw [lookup_replace_of_found (current.toRunRow.transitioned transition input.now) found]
    split
    · exact ⟨_, rfl⟩
    · rename_i different
      rcases failuresKnown recorded with same | earlier
      · exact absurd same.symm different
      · exact invariant.failureKnown earlier

/-- A stored run was created before any clock reading that is still to come. -/
theorem createdBefore (invariant : StoreInvariant store clock used) {row : RunRow}
    (present : row ∈ store.runs) {now : Int} (forward : clock ≤ now) : row.createdAt ≤ now :=
  Int.le_trans (invariant.valid present).notBeforeCreation
    (Int.le_trans (invariant.timely present) forward)

/-- Accepting an event keeps the invariant. -/
theorem accepted (invariant : StoreInvariant store clock used) (forward : clock ≤ input.now)
    {result : AcceptanceResult} (acceptance : Acceptance store event input result written) :
    StoreInvariant written input.now (insert input.freshRunId used) := by
  have accept := acceptance.refines invariant.coherent
  have changed : ∀ {row}, row ∈ written.runs → ∃ before,
      RowChange event input before (some row) ∧ store.runs.lookup row.runId = before := by
    intro row present
    have change := acceptance.rowChange row.runId
    rw [Table.lookup_of_mem present] at change
    exact ⟨_, change, rfl⟩
  refine ⟨accept.coherent invariant.coherent, accept.ordered invariant.coherent invariant.ordered,
    ?_, ?_, ?_, ?_⟩
  · intro row present
    obtain ⟨before, change, found⟩ := changed present
    cases change with
    | kept => exact invariant.valid (Table.mem_of_lookup found)
    | refreshed old _ _ _ =>
        have oldPresent := Table.mem_of_lookup found
        exact RunRow.refreshed_valid (invariant.valid oldPresent) event
          (invariant.createdBefore oldPresent forward)
    | replaced old _ _ _ =>
        have oldPresent := Table.mem_of_lookup found
        exact RunRow.replacedBy_valid (invariant.valid oldPresent) _
          (invariant.createdBefore oldPresent forward)
    | created newer => exact RunRow.created_valid event input newer
  · intro row present
    obtain ⟨before, change, found⟩ := changed present
    cases change with
    | kept => exact Int.le_trans (invariant.timely (Table.mem_of_lookup found)) forward
    | refreshed | replaced | created => exact Int.le_refl _
  · intro row present
    obtain ⟨before, change, found⟩ := changed present
    cases change with
    | kept => exact Set.mem_insert_of_mem _ (invariant.identified (Table.mem_of_lookup found))
    | refreshed old _ _ _ | replaced old _ _ _ =>
        have known : old.runId ∈ used := invariant.identified (Table.mem_of_lookup found)
        exact Set.mem_insert_of_mem _ known
    | created newer => exact Set.mem_insert _ _
  · intro runId failure recorded
    rw [acceptance.frame.2.2] at recorded
    obtain ⟨row, found⟩ := invariant.failureKnown recorded
    have change := acceptance.rowChange runId
    rw [found] at change
    generalize written.runs.lookup runId = after at change
    cases change with
    | kept | refreshed | replaced => exact ⟨_, rfl⟩

/-- Operations on evidence and publications keep the invariant. -/
theorem of_runs_eq (invariant : StoreInvariant store clock used) (forward : clock ≤ input.now)
    (sameRuns : written.runs = store.runs) (sameDeliveries : written.deliveries = store.deliveries)
    (sameFailures : written.failures = store.failures) :
    StoreInvariant written input.now used := by
  have sameLedger : written.ledger = store.ledger := by
    simp only [ledger, sameRuns, sameDeliveries]
  refine ⟨sameLedger ▸ invariant.coherent, sameLedger ▸ invariant.ordered, ?_, ?_, ?_, ?_⟩
  · rw [sameRuns]
    exact invariant.valid
  · rw [sameRuns]
    exact fun present => Int.le_trans (invariant.timely present) forward
  · rw [sameRuns]
    exact invariant.identified
  · rw [sameRuns, sameFailures]
    exact invariant.failureKnown

/-- **Every operation keeps the invariant**, whether it returns or raises. -/
theorem perform [DecidableEq Document] {sha256Of : Document → String}
    (invariant : StoreInvariant store clock used) (forward : clock ≤ input.now)
    (call : StoreCall Document) :
    StoreInvariant (store.perform sha256Of input call).2 input.now
      (used ∪ {runId | runId ∈ call.drawn input}) := by
  have rest : ∀ {reached : SqliteStore Document}, StoreInvariant reached input.now used →
      StoreInvariant reached input.now (used ∪ {runId | runId ∈ call.drawn input}) :=
    fun reached => reached.mono (Int.le_refl _) Set.subset_union_left
  have raised : StoreInvariant store input.now (used ∪ {runId | runId ∈ call.drawn input}) :=
    invariant.mono forward Set.subset_union_left
  unfold SqliteStore.perform
  cases outcome : store.execute sha256Of input call with
  | error exception => exact raised
  | ok value =>
      obtain ⟨result, written⟩ := value
      cases call with
      | acceptPullRequest event =>
          refine (invariant.accepted forward (acceptPullRequest_cases outcome)).mono
            (Int.le_refl _) ?_
          exact Set.insert_subset (Set.mem_union_right _ (List.mem_singleton.mpr rfl))
            Set.subset_union_left
      | getRun runId =>
          obtain ⟨_, _, same⟩ := Guard.bind_eq_ok_iff.mp outcome
          cases same
          exact raised
      | listRuns repository prNumber =>
          obtain ⟨_, _, same⟩ := Guard.bind_eq_ok_iff.mp outcome
          cases same
          exact raised
      | transitionRun runId expectedVersion transition =>
          obtain ⟨current, found, _, permits, row, rfl⟩ := transitionRun_eq_ok_iff.mp outcome
          obtain rfl := Table.key_of_lookup found
          rw [row]
          exact rest (invariant.moved forward found permits fun recorded => .inr recorded)
      | saveEvidence runId documentJson sha256 =>
          obtain ⟨_, _, ⟨_, _, _, rfl⟩ | ⟨_, _, rfl⟩⟩ := saveEvidence_eq_ok_iff.mp outcome
          · exact raised
          · exact rest (invariant.of_runs_eq forward rfl rfl rfl)
      | getEvidence runId =>
          cases outcome
          exact raised
      | beginPublication runId payloadSha256 =>
          obtain ⟨_, _, ⟨_, _, _, _, rfl⟩ | ⟨_, _, rfl⟩⟩ := beginPublication_eq_ok_iff.mp outcome
          · exact rest (invariant.of_runs_eq forward rfl rfl rfl)
          · exact rest (invariant.of_runs_eq forward rfl rfl rfl)
      | getPublication runId =>
          cases outcome
          exact raised
      | setCheckRunId runId checkRunId =>
          obtain ⟨_, _, _, _, _, rfl⟩ := setCheckRunId_eq_ok_iff.mp outcome
          exact rest (invariant.of_runs_eq forward rfl rfl rfl)
      | recordPublicationError runId error =>
          obtain ⟨_, _, _, rfl⟩ := recordPublicationError_eq_ok_iff.mp outcome
          exact rest (invariant.of_runs_eq forward rfl rfl rfl)
      | failRun runId errorCode summary retryable modelUsage rawResponseSha256 =>
          obtain ⟨_, current, found, ⟨_, rfl⟩ | ⟨fresh, failed, permits, rfl⟩⟩ :=
            failRun_eq_ok_iff.mp outcome
          · exact raised
          · obtain rfl := Table.key_of_lookup found
            refine rest (invariant.moved forward found permits fun {other failure} recorded => ?_)
            rw [Table.lookup_insert] at recorded
            split at recorded
            · rename_i same
              rw [failed] at same
              exact .inl same.symm
            · exact .inr recorded
      | getFailure runId =>
          cases outcome
          exact raised

/-! ## Acceptance returns -/

theorem exists_loadRow (found : Option RunRow) (valid : ∀ row, found = some row → row.Valid) :
    ∃ loaded, loadRow found = .ok loaded ∧ loaded.map VerificationRun.toRunRow = found := by
  cases found with
  | none => exact ⟨none, rfl, rfl⟩
  | some row => exact ⟨_, loadRow_of_valid (valid row rfl), rfl⟩

theorem acceptDuplicate_returns (invariant : StoreInvariant store clock used)
    (forward : clock ≤ input.now) {run : VerificationRun}
    (found : store.runs.lookup run.runId = some run.toRunRow)
    (unknown : store.deliveries.lookup event.deliveryId.text = none) :
    ∃ value, store.acceptDuplicate event input.now run = .ok value := by
  unfold acceptDuplicate
  by_cases newer : run.headUpdatedAt < event.headUpdatedAt
  · have stored : (store.runs.replace (run.toRunRow.refreshed event input.now)).lookup run.runId =
        some (run.toRunRow.refreshed event input.now) := Table.lookup_replace_self found
    have valid : (run.toRunRow.refreshed event input.now).Valid :=
      RunRow.refreshed_valid run.valid event
        (invariant.createdBefore (Table.mem_of_lookup found) forward)
    have reloaded : ({ store with
        runs := store.runs.replace (run.toRunRow.refreshed event input.now) } :
        SqliteStore Document).requireRun run.runId = .ok ⟨_, valid⟩ :=
      requireRun_of_lookup stored valid
    simp only [if_pos newer, reloaded, Guard.ok_bind]
    exact ⟨_, Guard.bind_eq_ok_iff.mpr ⟨_, insertRow_of_fresh unknown, rfl⟩⟩
  · simp only [if_neg newer, Guard.ok_bind]
    exact ⟨_, Guard.bind_eq_ok_iff.mpr ⟨_, insertRow_of_fresh unknown, rfl⟩⟩

theorem acceptNew_returns (coherent : store.ledger.Coherent)
    (fresh : store.runs.lookup input.freshRunId = none) {current : Option VerificationRun}
    (currentFound : current.map VerificationRun.toRunRow = store.currentRow event.pullRequest)
    (unknown : store.deliveries.lookup event.deliveryId.text = none) :
    ∃ value, store.acceptNew event input current = .ok value := by
  cases current with
  | none =>
      have inserted := insertRun_of_fresh (RunRow.created event input none)
        (fun _ other present ofPull => currentRow_eq_none currentFound.symm present ofPull) fresh
      simp only [acceptNew, isStale, Bool.false_eq_true, if_false]
      exact ⟨_, Guard.bind_eq_ok_iff.mpr ⟨_, inserted, Guard.bind_eq_ok_iff.mpr
        ⟨_, insertRow_of_fresh unknown, rfl⟩⟩⟩
  | some older =>
      obtain ⟨present, samePull, wasCurrent⟩ := currentRow_eq_some currentFound.symm
      by_cases notNewer : event.headUpdatedAt ≤ older.headUpdatedAt
      · have stale : isStale event (some older) = true := decide_eq_true notNewer
        have inserted := insertRun_of_fresh (RunRow.created event input (some older.runId))
          (fun absurdity => by cases absurdity) fresh
        simp only [acceptNew, stale, if_true, Option.map_some]
        exact ⟨_, Guard.bind_eq_ok_iff.mpr ⟨_, inserted, Guard.bind_eq_ok_iff.mpr
          ⟨_, insertRow_of_fresh unknown, rfl⟩⟩⟩
      · have stale : isStale event (some older) = false := decide_eq_false notNewer
        have different : older.runId ≠ input.freshRunId := by
          intro same
          rw [same, fresh] at present
          cases present
        have stillFresh : (store.runs.replace
            (older.toRunRow.replacedBy input.freshRunId input.now)).lookup input.freshRunId =
            none := by
          rw [Table.lookup_replace_ne _ (older.toRunRow.replacedBy input.freshRunId input.now)
            different]
          exact fresh
        -- Only the replaced run was current.
        have noCurrent : ∀ other ∈ (store.runs.replace
            (older.toRunRow.replacedBy input.freshRunId input.now)).rows,
            other.pullRequest = event.pullRequest → other.revisionState ≠ .current := by
          intro other mem ofPull otherCurrent
          rcases Table.mem_replace.mp mem with ⟨oldMem, notOlder⟩ | ⟨rfl, _⟩
          · exact notOlder (coherent.currentUnique
              (isCurrent_iff.mpr ⟨other, Table.lookup_of_mem oldMem, rfl, ofPull, otherCurrent⟩)
              (isCurrent_iff.mpr ⟨_, present, rfl, samePull, wasCurrent⟩))
          · cases otherCurrent
        have inserted := insertRun_of_fresh (RunRow.created event input none)
          (fun _ => noCurrent) stillFresh
        simp only [acceptNew, stale, Bool.false_eq_true, if_false]
        exact ⟨_, Guard.bind_eq_ok_iff.mpr ⟨_, inserted, Guard.bind_eq_ok_iff.mpr
          ⟨_, insertRow_of_fresh unknown, rfl⟩⟩⟩

/-- **Acceptance returns**, when the clock is not behind and the fresh identifier is
fresh. -/
theorem acceptPullRequest_returns (invariant : StoreInvariant store clock used)
    (event : PullRequestEvent)
    (forward : clock ≤ input.now) (unused : input.freshRunId ∉ used) :
    ∃ value, store.acceptPullRequest event input = .ok value := by
  unfold acceptPullRequest
  cases redelivery : store.duplicateDelivery event.deliveryId.text with
  | some row =>
      obtain ⟨delivery, _, found⟩ := Option.bind_eq_some_iff.mp redelivery
      have valid := invariant.valid (Table.mem_of_lookup found)
      exact ⟨_, Guard.bind_eq_ok_iff.mpr ⟨_, VerificationRun.modelValidate_of_valid valid, rfl⟩⟩
  | none =>
      have unknown : store.deliveries.lookup event.deliveryId.text = none := by
        cases known : store.deliveries.lookup event.deliveryId.text with
        | none => rfl
        | some delivery =>
            obtain ⟨line, lineKnown⟩ := invariant.coherent.deliveredKnown
              (congrArg (Option.map DeliveryRecord.runId) known)
            obtain ⟨row, found, _⟩ := ledger_lineage_eq_some.mp lineKnown
            rw [duplicateDelivery, known, Option.bind_some, found] at redelivery
            cases redelivery
      obtain ⟨current, currentLoaded, currentFound⟩ :=
        exists_loadRow (store.currentRow event.pullRequest) fun row found =>
          invariant.valid (Table.mem_of_lookup (currentRow_eq_some found).1)
      obtain ⟨duplicate, duplicateLoaded, duplicateFound⟩ :=
        exists_loadRow (store.duplicateRevision event.pullRequest event.revision)
          fun row found => invariant.valid (Table.mem_of_lookup (duplicateRevision_eq_some found).1)
      have fresh : store.runs.lookup input.freshRunId = none :=
        Table.lookup_eq_none_iff.mpr fun row present same =>
          unused (same ▸ invariant.identified present)
      simp only [currentLoaded, duplicateLoaded, Guard.ok_bind]
      cases duplicate with
      | none => exact acceptNew_returns invariant.coherent fresh currentFound unknown
      | some run =>
          simp only
          split
          · exact invariant.acceptDuplicate_returns forward
              (duplicateRevision_eq_some duplicateFound.symm).1 unknown
          · exact acceptNew_returns invariant.coherent fresh currentFound unknown

end StoreInvariant

end PatchProof
