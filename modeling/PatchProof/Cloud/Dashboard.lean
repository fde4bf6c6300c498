import PatchProof.Storage.RecentRuns
import PatchProof.Worker.Service

/-!
# The runs of the dashboard

`snapshot` starts from the featured runs and goes through the most recent ones, newest
first.  It adds a run that is not there yet and then looks whether there are enough.

The look comes after the adding, so featured runs that already fill the page get one more
run behind them unless the newest run is one of them.  With fewer featured runs than the
page holds, and with the newest run among them, the page has the featured runs in their
configured order and then the newest other runs; otherwise it has one run too many, which
the response model refuses when the page holds eight.

The dashboard reads the relational store.  What is copied from the report of a run is
carried as one value.
-/

set_option autoImplicit false

namespace PatchProof

variable {p : Platform}

/-! ## Projections -/

/-- A sanitized terminal failure. -/
structure DashboardFailure where
  phase : RunPhase
  errorCode : String
  summary : String
  retryable : Bool
  deriving DecidableEq

/-- Public, read-only projection of one run. -/
structure DashboardRun (Report : Type) where
  runId : RunId
  status : String
  repository : RepositoryName
  prNumber : PositiveInt
  prUrl : String
  title : BoundedText 1 300
  eventAction : String
  lifecycle : RunLifecycle
  phase : RunPhase
  terminalReason : Option TerminalReason
  publicationState : PublicationState
  revisionState : RevisionState
  baseSha : GitSha
  headSha : GitSha
  createdAt : List Char
  updatedAt : List Char
  report : Option Report
  evidenceSha256 : Option String
  evidenceHashVerified : Bool
  checkRunId : Option Int
  checkUrl : Option String
  publicationAttempts : Nat
  publicationRetries : Nat
  publicationLastError : Option String
  failure : Option DashboardFailure

/-- The complete response. -/
structure DashboardSnapshot (Report : Type) where
  runs : BoundedList 8 (DashboardRun Report)

/-- `_progress_status`. -/
def progressStatus (run : VerificationRun) (report : Option p.Report)
    (failure : Option RunFailureRecord) : String :=
  if failure.isSome then "FAILED"
  else match run.lifecycle with
    | .terminal => match report with
        | some report => if report.claim = none then "ABSTAINED" else "COMPLETE"
        | none => "COMPLETE"
    | .accepted => "ACCEPTED"
    | .queued => "QUEUED"
    | .running => match run.phase with
        | .context => "PREPARING_CONTEXT"
        | .claim => "SELECTING_CLAIM"
        | .testGeneration => "GENERATING_CANDIDATE"
        | .baseExecution => "RUNNING_BASE_HEAD"
        | .headExecution => "RUNNING_BASE_HEAD"
        | .assessment => "ASSESSING_SEMANTICS"
        | .publication => "FINALIZING"

/-- An operation of the store as it raises here. -/
def raisingStore {α : Type} (outcome : Except StoreException α) : Except RaisedException α :=
  outcome.mapError .store

theorem raisingStore_eq_ok_iff {α : Type} {outcome : Except StoreException α} {value : α} :
    raisingStore outcome = .ok value ↔ outcome = .ok value := by
  cases outcome <;> simp [raisingStore, Except.mapError]

/-- The report that the stored evidence of a run holds. -/
def featuredReport (run : VerificationRun) :
    Option (StoredEvidence p.Document) → Except RaisedException (Option p.Report)
  | none => .ok none
  | some stored => do
      Guard.require (p.sha256Of stored.documentJson = stored.sha256)
        (.runtime "featured evidence hash does not match stored JSON")
      let report ← p.decode stored.documentJson
      Guard.require (report.runId = run.runId ∧ report.repository = run.repository ∧
          report.prNumber = run.prNumber ∧ report.baseSha = run.baseSha ∧
          report.headSha = run.headSha)
        (.runtime "featured evidence identity differs from durable run")
      return some report

/-- `project_run`. -/
def projectRun (store : SqliteStore p.Document) (runId : RunId) :
    Except RaisedException (DashboardRun p.Report) := do
  let run ← raisingStore (store.requireRun runId)
  let stored := store.evidence.lookup runId
  let publication := store.publications.lookup runId
  let failure := store.failures.lookup runId
  let report ← featuredReport run stored
  let checkRunId := publication.bind CheckPublication.checkRunId
  return {
    runId := run.runId
    status := progressStatus run report failure
    repository := run.repository
    prNumber := run.prNumber
    prUrl := "https://github.com/" ++ run.repository.text ++ "/pull/" ++ toString run.prNumber.value
    title := run.title
    eventAction := run.eventAction
    lifecycle := run.lifecycle
    phase := run.phase
    terminalReason := run.terminalReason
    publicationState := run.publicationState
    revisionState := run.revisionState
    baseSha := run.baseSha
    headSha := run.headSha
    createdAt := isoformat run.createdAt
    updatedAt := isoformat run.updatedAt
    report := report
    evidenceSha256 := stored.map StoredEvidence.sha256
    evidenceHashVerified := stored.isSome
    checkRunId := checkRunId
    checkUrl := match checkRunId with
      | some identifier =>
          if identifier = 0 then none
          else some ("https://github.com/" ++ run.repository.text ++ "/runs/" ++ toString identifier)
      | none => none
    publicationAttempts := (publication.map CheckPublication.attemptCount).getD 0
    publicationRetries := (publication.map fun row => row.attemptCount - 1).getD 0
    publicationLastError := publication.bind CheckPublication.lastError
    failure := failure.map fun row => ⟨row.phase, row.errorCode, row.summary, row.retryable⟩ }

/-- A projected run is the run that was asked for. -/
theorem projectRun_runId {store : SqliteStore p.Document} {runId : RunId}
    {run : DashboardRun p.Report} (projected : projectRun store runId = .ok run) :
    run.runId = runId := by
  unfold projectRun at projected
  obtain ⟨loaded, found, projected⟩ := Guard.bind_eq_ok_iff.mp projected
  obtain ⟨report, -, projected⟩ := Guard.bind_eq_ok_iff.mp projected
  obtain rfl := Except.ok.inj projected
  have row := SqliteStore.requireRun_eq_ok_iff.mp (raisingStore_eq_ok_iff.mp found)
  have same : loaded.runId = runId := Table.key_of_lookup row
  exact same

/-! ## The snapshot -/

/-- Featured runs and the size of the page, as the provider accepts them. -/
structure StoreDashboardSnapshotProvider where
  runIds : List RunId := []
  maxRuns : Nat := 8
  featuredBounded : runIds.length ≤ 8
  featuredUnique : runIds.Nodup
  limitBounded : 1 ≤ maxRuns ∧ maxRuns ≤ 8
  featuredWithin : runIds.length ≤ maxRuns

/-- The loop over the recent runs. -/
def addRecent (maxRuns : Nat) : List RunId → List RunId → List RunId
  | runIds, [] => runIds
  | runIds, recent :: rest =>
      let grown := if recent ∈ runIds then runIds else runIds ++ [recent]
      if maxRuns ≤ grown.length then grown else addRecent maxRuns grown rest

/-- `snapshot`. -/
def StoreDashboardSnapshotProvider.snapshot (provider : StoreDashboardSnapshotProvider)
    (store : SqliteStore p.Document) : Except RaisedException (DashboardSnapshot p.Report) := do
  let recent ← raisingStore (store.listRecentRuns provider.maxRuns)
  let runIds := addRecent provider.maxRuns provider.runIds (recent.map fun run => run.runId)
  let runs ← runIds.mapM (projectRun store)
  return ⟨← BoundedList.check 8 runs⟩

/-! ## Adding the recent runs -/

section Adding

variable {maxRuns : Nat}

/-- While the page is not full, the first recent runs that are not there yet are added. -/
theorem addRecent_of_room {runIds recent : List RunId} (room : runIds.length < maxRuns)
    (unique : recent.Nodup) : addRecent maxRuns runIds recent =
      runIds ++ (recent.filter (· ∉ runIds)).take (maxRuns - runIds.length) := by
  induction recent generalizing runIds with
  | nil => simp [addRecent]
  | cons first rest ih =>
      obtain ⟨isNew, uniqueRest⟩ := List.nodup_cons.mp unique
      unfold addRecent
      by_cases present : first ∈ runIds
      · have left : ¬ maxRuns ≤ runIds.length := Nat.not_le.mpr room
        simp only [if_pos present, if_neg left]
        rw [ih room uniqueRest, List.filter_cons_of_neg (by simpa using present)]
      · have kept : (first :: rest).filter (· ∉ runIds) = first :: rest.filter (· ∉ runIds) :=
          List.filter_cons_of_pos (by simpa using present)
        obtain ⟨more, isMore⟩ : ∃ more, maxRuns - runIds.length = more + 1 :=
          ⟨maxRuns - runIds.length - 1, by omega⟩
        rw [kept, isMore, List.take_succ_cons]
        simp only [if_neg present, List.length_append, List.length_singleton]
        split
        · have none : more = 0 := by omega
          simp [none]
        · have length : (runIds ++ [first]).length = runIds.length + 1 := by simp
          have grown : (runIds ++ [first]).length < maxRuns := by omega
          have same : rest.filter (· ∉ runIds ++ [first]) = rest.filter (· ∉ runIds) := by
            refine List.filter_congr fun run mem => ?_
            have different : run ≠ first := fun is => isNew (is ▸ mem)
            simp [different]
          have count : maxRuns - (runIds.length + 1) = more := by omega
          rw [ih grown uniqueRest, same, List.append_assoc, length, count]
          rfl

/-- A full page gets one more run unless the newest is there. -/
theorem addRecent_of_full {runIds : List RunId} {first : RunId} {rest : List RunId}
    (full : maxRuns ≤ runIds.length) : addRecent maxRuns runIds (first :: rest) =
      if first ∈ runIds then runIds else runIds ++ [first] := by
  unfold addRecent
  split
  · exact if_pos full
  · refine if_pos ?_
    rw [List.length_append]
    omega

end Adding

/-- Among the first of a list that hold few others, the wanted ones come in order. -/
theorem filter_take_take {α : Type} (wanted : α → Bool) {items : List α} {most few : Nat}
    (others : ((items.take most).filter fun item => !wanted item).length ≤ few) :
    ((items.take most).filter wanted).take (most - few) = (items.filter wanted).take (most - few) := by
  have split : items.filter wanted =
      (items.take most).filter wanted ++ (items.drop most).filter wanted := by
    rw [← List.filter_append, List.take_append_drop]
  rw [split, List.take_append]
  by_cases short : items.length ≤ most
  · simp [List.drop_eq_nil_of_le short]
  · have counted := List.length_eq_length_filter_add (l := items.take most) wanted
    rw [List.length_take, Nat.min_eq_left (by omega)] at counted
    have none : most - few - ((items.take most).filter wanted).length = 0 := by omega
    rw [none, List.take_zero, List.append_nil]

/-! ## What the page shows -/

/-- The rows of the other runs. -/
def otherRows (featured : List RunId) (rows : List RunRow) : List RunRow :=
  rows.filter fun row => row.runId ∉ featured

/-- A page: at most so many runs, none twice, the featured ones in their order and then
the newest others. -/
structure ShowsSelection (provider : StoreDashboardSnapshotProvider) (rows : List RunRow)
    (shown : List RunId) : Prop where
  most : shown.length ≤ provider.maxRuns
  once : shown.Nodup
  selected : ∃ others : List RunRow, shown = provider.runIds ++ others.map RunRow.runId ∧
    NewestFirst (otherRows provider.runIds rows) (provider.maxRuns - provider.runIds.length) others

/-- There is room behind the featured runs, or the newest run is one of them. -/
def HasRoom (provider : StoreDashboardSnapshotProvider) (rows : List RunRow) : Prop :=
  provider.runIds.length < provider.maxRuns ∨ ∃ newest ∈ rows, newest.runId ∈ provider.runIds ∧
    ∀ other ∈ rows, recentOrder isoformat newest other

section Page

variable {provider : StoreDashboardSnapshotProvider} {rows : List RunRow}

/-- The rows in the order in which they are listed. -/
abbrev listingOrder (rows : List RunRow) : List RunRow := rows.insertionSort (recentOrder isoformat)

theorem listingOrder_unique (unique : (rows.map RunRow.runId).Nodup) :
    ((listingOrder rows).map RunRow.runId).Nodup :=
  ((List.perm_insertionSort _ rows).map _).nodup_iff.mpr unique

/-- Recent runs that are featured are at most as many as the featured ones. -/
theorem featured_among_le (unique : (rows.map RunRow.runId).Nodup) (most : Nat) :
    (((listingOrder rows).take most).filter fun row => !decide (row.runId ∉ provider.runIds)).length ≤
      provider.runIds.length := by
  have nodup : (((((listingOrder rows).take most).filter
      fun row => !decide (row.runId ∉ provider.runIds))).map RunRow.runId).Nodup :=
    ((List.filter_sublist.trans (List.take_sublist _ _)).map _).nodup (listingOrder_unique unique)
  have within : (((((listingOrder rows).take most).filter
      fun row => !decide (row.runId ∉ provider.runIds))).map RunRow.runId) ⊆ provider.runIds := by
    intro runId mem
    obtain ⟨row, isAmong, rfl⟩ := List.mem_map.mp mem
    simpa using (List.mem_filter.mp isAmong).2
  have count := (List.subperm_of_subset nodup within).length_le
  rwa [List.length_map] at count

/-- The first of the others in the order of the listing are the newest others. -/
theorem newestFirst_otherRows (readings : ∀ row ∈ rows, IsReading row.createdAt)
    (featured : List RunId) (few : Nat) : NewestFirst (otherRows featured rows) few
      (((listingOrder rows).filter fun row => row.runId ∉ featured).take few) := by
  have whole : recentRows isoformat rows rows.length = listingOrder rows := by
    refine List.take_of_length_le ?_
    rw [List.length_insertionSort]
  have newest : NewestFirst rows rows.length (recentRows isoformat rows rows.length) :=
    newestFirst_isoformat readings
  rw [whole] at newest
  exact newestFirst_take ((List.perm_insertionSort _ rows).filter _)
    (newest.ordered.sublist List.filter_sublist)

/-- The page that is computed when there is room. -/
theorem addRecent_shows (readings : ∀ row ∈ rows, IsReading row.createdAt)
    (unique : (rows.map RunRow.runId).Nodup)
    (room : provider.runIds.length < provider.maxRuns) :
    ShowsSelection provider rows (addRecent provider.maxRuns provider.runIds
      ((recentRows isoformat rows provider.maxRuns).map RunRow.runId)) := by
  have recentUnique : ((recentRows isoformat rows provider.maxRuns).map RunRow.runId).Nodup :=
    ((List.take_sublist _ _).map _).nodup (listingOrder_unique unique)
  rw [addRecent_of_room room recentUnique, List.filter_map, ← List.map_take]
  have others := filter_take_take (fun row : RunRow => decide (row.runId ∉ provider.runIds))
    (featured_among_le unique provider.maxRuns)
  have shown : (((recentRows isoformat rows provider.maxRuns).filter
      ((fun runId => decide (runId ∉ provider.runIds)) ∘ RunRow.runId)).take
        (provider.maxRuns - provider.runIds.length)) =
      ((listingOrder rows).filter fun row => decide (row.runId ∉ provider.runIds)).take
        (provider.maxRuns - provider.runIds.length) := others
  rw [shown]
  have newest := newestFirst_otherRows readings provider.runIds
    (provider.maxRuns - provider.runIds.length)
  refine ⟨?_, ?_, _, rfl, newest⟩
  · have count := newest.count
    rw [List.length_append, List.length_map, count]
    have within := provider.featuredWithin
    omega
  · have sublist := (List.take_sublist (provider.maxRuns - provider.runIds.length)
      ((listingOrder rows).filter fun row => decide (row.runId ∉ provider.runIds))).trans
        List.filter_sublist
    refine List.Nodup.append provider.featuredUnique ?_ ?_
    · exact (sublist.map _).nodup (listingOrder_unique unique)
    · intro runId isFeatured isOther
      obtain ⟨row, mem, rfl⟩ := List.mem_map.mp isOther
      have notFeatured := (List.mem_filter.mp (List.mem_of_mem_take mem)).2
      simp only [decide_eq_true_eq] at notFeatured
      exact notFeatured isFeatured

/-- A full page shows the selection only if the newest run is featured. -/
theorem addRecent_shows_iff (readings : ∀ row ∈ rows, IsReading row.createdAt)
    (unique : (rows.map RunRow.runId).Nodup)
    (stored : ∀ runId ∈ provider.runIds, ∃ row ∈ rows, row.runId = runId) :
    ShowsSelection provider rows (addRecent provider.maxRuns provider.runIds
      ((recentRows isoformat rows provider.maxRuns).map RunRow.runId)) ↔
      HasRoom provider rows := by
  by_cases room : provider.runIds.length < provider.maxRuns
  · exact ⟨fun _ => .inl room, fun _ => addRecent_shows readings unique room⟩
  · have full : provider.maxRuns ≤ provider.runIds.length := Nat.not_lt.mp room
    have least := provider.limitBounded.1
    have within := provider.featuredWithin
    obtain ⟨newest, rest, order⟩ : ∃ newest rest, listingOrder rows = newest :: rest := by
      cases order : listingOrder rows with
      | cons newest rest => exact ⟨newest, rest, rfl⟩
      | nil =>
          obtain ⟨featured, isFeatured⟩ : ∃ featured, featured ∈ provider.runIds :=
            List.exists_mem_of_length_pos (by omega)
          obtain ⟨row, mem, -⟩ := stored featured isFeatured
          have listed : row ∈ listingOrder rows := (List.mem_insertionSort _).mpr mem
          rw [order] at listed
          cases listed
    obtain ⟨more, isMore⟩ : ∃ more, provider.maxRuns = more + 1 := ⟨provider.maxRuns - 1, by omega⟩
    have recent : (recentRows isoformat rows provider.maxRuns).map RunRow.runId =
        newest.runId :: (rest.take more).map RunRow.runId := by
      have taken : recentRows isoformat rows provider.maxRuns =
          (listingOrder rows).take provider.maxRuns := rfl
      rw [taken, order, isMore, List.take_succ_cons, List.map_cons]
    have newestMem : newest ∈ rows := by
      have listed : newest ∈ listingOrder rows := by
        rw [order]
        exact List.mem_cons_self
      exact (List.mem_insertionSort (recentOrder isoformat)).mp listed
    have leads : ∀ other ∈ rows, recentOrder isoformat newest other := by
      intro other mem
      have sorted : (listingOrder rows).Pairwise (recentOrder isoformat) :=
        List.pairwise_insertionSort (recentOrder isoformat) rows
      rw [order, List.pairwise_cons] at sorted
      have listed : other ∈ listingOrder rows := (List.mem_insertionSort _).mpr mem
      rw [order] at listed
      rcases List.mem_cons.mp listed with rfl | later
      · exact (Std.Total.total other other).elim id id
      · exact sorted.1 other later
    rw [recent, addRecent_of_full full]
    constructor
    · intro shows
      by_cases featured : newest.runId ∈ provider.runIds
      · exact .inr ⟨newest, newestMem, featured, leads⟩
      · have most := shows.most
        rw [if_neg featured, List.length_append, List.length_singleton] at most
        omega
    · rintro (roomy | ⟨first, firstMem, featured, isFirst⟩)
      · exact absurd roomy room
      · have same : first = newest := recentOrder_settled unique first firstMem newest newestMem
          (isFirst newest newestMem) (leads first firstMem)
        rw [if_pos (same ▸ featured)]
        have none : provider.maxRuns - provider.runIds.length = 0 := by omega
        refine ⟨within, provider.featuredUnique, [], by simp, ?_⟩
        have nothing := newestFirst_otherRows readings provider.runIds 0
        rw [none]
        exact nothing

end Page

/-! ## Snapshots -/

section Snapshot

variable {provider : StoreDashboardSnapshotProvider} {store : SqliteStore p.Document}

theorem mem_addRecent {maxRuns : Nat} {runId : RunId} {runIds recent : List RunId}
    (mem : runId ∈ addRecent maxRuns runIds recent) : runId ∈ runIds ∨ runId ∈ recent := by
  induction recent generalizing runIds with
  | nil => exact .inl mem
  | cons first rest ih =>
      have grown : ∀ {runId}, runId ∈ (if first ∈ runIds then runIds else runIds ++ [first]) →
          runId ∈ runIds ∨ runId ∈ first :: rest := by
        intro runId mem
        split at mem
        · exact .inl mem
        · rcases List.mem_append.mp mem with inFront | isFirst
          · exact .inl inFront
          · exact .inr (List.mem_singleton.mp isFirst ▸ List.mem_cons_self)
      unfold addRecent at mem
      dsimp only at mem
      generalize (if first ∈ runIds then runIds else runIds ++ [first]) = longer at grown mem
      split at mem
      · exact grown mem
      · rcases ih mem with inLonger | later
        · exact grown inLonger
        · exact .inr (List.mem_cons_of_mem _ later)

/-- Runs that all project are projected in their order. -/
theorem mapM_projectRun {runIds : List RunId}
    (projects : ∀ runId ∈ runIds, ∃ run, projectRun store runId = .ok run) :
    ∃ runs, runIds.mapM (projectRun store) = .ok runs ∧ runs.map DashboardRun.runId = runIds := by
  induction runIds with
  | nil => exact ⟨[], rfl, rfl⟩
  | cons runId rest ih =>
      obtain ⟨run, projected⟩ := projects runId List.mem_cons_self
      obtain ⟨runs, others, same⟩ := ih fun other mem => projects other (List.mem_cons_of_mem _ mem)
      refine ⟨run :: runs, ?_, ?_⟩
      · rw [List.mapM_cons, projected, Guard.ok_bind, others]
        rfl
      · rw [List.map_cons, same, projectRun_runId projected]

/-- A run that projects is valid. -/
theorem valid_of_projectRun {row : RunRow} (mem : row ∈ store.runs.rows)
    (projects : ∃ run, projectRun store row.runId = .ok run) : row.Valid := by
  obtain ⟨run, projected⟩ := projects
  unfold projectRun at projected
  obtain ⟨loaded, found, -⟩ := Guard.bind_eq_ok_iff.mp projected
  have isRow := SqliteStore.requireRun_eq_ok_iff.mp (raisingStore_eq_ok_iff.mp found)
  rw [Table.lookup_of_mem mem] at isRow
  exact Option.some.inj isRow ▸ loaded.valid

end Snapshot

/-! ## A page that is full -/

/-- Two runs in the store of the sample platform, the second accepted a minute later. -/
def twoRuns : SqliteStore samplePlatform.Document :=
  let first := SqliteStore.empty.perform (fun _ => "") ⟨sampleMoment, ⟨1⟩⟩
    (.acceptPullRequest (sampleEvent "first" 'a' 10 isLowerHex_a deliveryId_first))
  (first.2.perform (fun _ => "") ⟨sampleMoment + 60000000, ⟨2⟩⟩
    (.acceptPullRequest (sampleEvent "second" 'b' 20 isLowerHex_b deliveryId_second))).2

/-- A page of two that features the older run. -/
def pageOfTwo : StoreDashboardSnapshotProvider where
  runIds := [⟨1⟩]
  maxRuns := 2
  featuredBounded := by decide
  featuredUnique := by decide
  limitBounded := by decide
  featuredWithin := by decide

/-- A page of one that features the older run. -/
def pageOfOne : StoreDashboardSnapshotProvider where
  runIds := [⟨1⟩]
  maxRuns := 1
  featuredBounded := by decide
  featuredUnique := by decide
  limitBounded := by decide
  featuredWithin := by decide

end PatchProof
