import Mathlib.Data.List.Pairwise
import PatchProof.Library.Ranking
import PatchProof.Library.Timestamps
import PatchProof.Storage.Firestore
import PatchProof.Storage.Operations

/-!
# The newest runs

Both stores list recent runs by the text of their creation, latest text first, and stop
after a limit.  The relational store writes a moment with its offset, which begins with a
plus; the document store writes it with a Z.  A fraction of a second is written only when
there is one, and its point lies between the plus and the Z in the order of characters.

So the relational listing has the newest runs in order.  The document listing does
not when a run of a whole second is listed that shares its second with a run that has a
fraction: it is put before that newer run, and may push it out.

Moments are counted from the beginning of the year 1, and a reading of the clock is a
moment before the end of the year 9999.  A row that fails its validators raises when it
is listed, which the conditions below say apart.
-/

set_option autoImplicit false

namespace PatchProof

open Timestamps

/-! ## Moments as text -/

/-- A moment that a `datetime` can hold. -/
structure IsReading (moment : Int) : Prop where
  notNegative : 0 ≤ moment
  within : moment < allInstants

instance (moment : Int) : Decidable (IsReading moment) :=
  decidable_of_iff (0 ≤ moment ∧ moment < allInstants)
    ⟨fun both => ⟨both.1, both.2⟩, fun reading => ⟨reading.notNegative, reading.within⟩⟩

/-- `datetime.isoformat` in UTC. -/
def isoformat (moment : Int) : List Char :=
  instantText ['+', '0', '0', ':', '0', '0'] moment.toNat

/-- A moment in the JSON of a model. -/
def jsonDatetime (moment : Int) : List Char := instantText ['Z'] moment.toNat

/-- Whether a moment is a whole second. -/
def isWholeSecond (moment : Int) : Bool := moment % 1000000 == 0

theorem isoformat_lt_iff {moment later : Int} (reading : IsReading moment)
    (laterReading : IsReading later) : isoformat moment < isoformat later ↔ moment < later := by
  obtain ⟨positive, within⟩ := reading
  obtain ⟨laterPositive, laterWithin⟩ := laterReading
  unfold isoformat
  rw [instantText_lt_iff_of_before _ (by decide) (by omega) (by omega)]
  omega

theorem jsonDatetime_lt_iff {moment later : Int} (reading : IsReading moment)
    (laterReading : IsReading later) : jsonDatetime moment < jsonDatetime later ↔
      wholeLast moment.toNat < wholeLast later.toNat := by
  obtain ⟨positive, within⟩ := reading
  obtain ⟨laterPositive, laterWithin⟩ := laterReading
  exact instantText_lt_iff_of_after _ (by decide) (by omega) (by omega)

/-! ## Listing -/

/-- `ORDER BY created_at DESC, run_id DESC`, with the creation written as stated. -/
def recentOrder (written : Int → List Char) (row other : RunRow) : Prop :=
  written other.createdAt < written row.createdAt ∨
    (written other.createdAt = written row.createdAt ∧
      other.runId.bits.toNat ≤ row.runId.bits.toNat)

instance (written : Int → List Char) : DecidableRel (recentOrder written) := fun row other => by
  unfold recentOrder
  infer_instance

/-- The rows that a query for the most recent runs finds. -/
def recentRows (written : Int → List Char) (rows : List RunRow) (limit : Nat) : List RunRow :=
  (rows.insertionSort (recentOrder written)).take limit

variable {Document : Type}

/-- `SqliteVerificationRunStore.list_recent_runs`. -/
def SqliteStore.listRecentRuns (store : SqliteStore Document) (limit : Int) :
    Except StoreException (List VerificationRun) := do
  Guard.require (1 ≤ limit ∧ limit ≤ 8) (.value "recent run limit must be between one and eight")
  SqliteStore.loadRows (recentRows isoformat store.runs.rows limit.toNat)

/-- The rows of the run documents. -/
def FirestoreStore.runRows (store : FirestoreStore Document) : List RunRow :=
  store.runs.rows.map RunDocument.row

/-- `FirestoreVerificationRunStore.list_recent_runs`; documents of one moment are streamed
by descending identifier, as the order of the query descends. -/
def FirestoreStore.listRecentRuns (store : FirestoreStore Document) (limit : Int) :
    Except StoreException (List VerificationRun) := do
  Guard.require (1 ≤ limit ∧ limit ≤ 8) (.value "recent run limit must be between one and eight")
  SqliteStore.loadRows (recentRows jsonDatetime store.runRows limit.toNat)

/-! ## The newest of a list -/

/-- As many rows as asked for, if there are, the newest ones, newest first. -/
structure NewestFirst (rows : List RunRow) (limit : Nat) (listed : List RunRow) : Prop where
  stored : listed.Subperm rows
  count : listed.length = min limit rows.length
  ordered : listed.Pairwise fun row other => other.createdAt ≤ row.createdAt
  newest : ∀ row ∈ rows, row ∉ listed → ∀ other ∈ listed, row.createdAt ≤ other.createdAt

/-- A listing returns the newest runs of these rows. -/
def ListsNewest (rows : List RunRow) (limit : Nat)
    (outcome : Except StoreException (List VerificationRun)) : Prop :=
  ∃ runs, outcome = .ok runs ∧ NewestFirst rows limit (runs.map VerificationRun.toRunRow)

/-- Every row with fewer than so many rows before it in the listing passes the validators. -/
def ListsReadable (written : Int → List Char) (rows : List RunRow) (limit : Nat) : Prop :=
  ∀ row ∈ rows, Ranking.before (recentOrder written) rows row < limit → row.Valid

section Order

variable {written : Int → List Char} {rows : List RunRow} {limit : Nat}

instance : Std.Total (recentOrder written) where
  total row other := by
    by_cases before : written other.createdAt < written row.createdAt
    · exact .inl (.inl before)
    · by_cases after : written row.createdAt < written other.createdAt
      · exact .inr (.inl after)
      · have same : written other.createdAt = written row.createdAt :=
          List.le_antisymm (List.not_lt.mp after) (List.not_lt.mp before)
        rcases Nat.le_total other.runId.bits.toNat row.runId.bits.toNat with less | more
        · exact .inl (.inr ⟨same, less⟩)
        · exact .inr (.inr ⟨same.symm, more⟩)

instance : IsTrans RunRow (recentOrder written) where
  trans first second third := by
    rintro (earlier | ⟨same, order⟩) (later | ⟨laterSame, laterOrder⟩)
    · exact .inl (List.lt_trans later earlier)
    · exact .inl (laterSame ▸ earlier)
    · exact .inl (same ▸ later)
    · exact .inr ⟨laterSame.trans same, laterOrder.trans order⟩

/-- Rows with identifiers of their own are never tied. -/
theorem recentOrder_settled (unique : (rows.map RunRow.runId).Nodup) : ∀ first ∈ rows,
    ∀ second ∈ rows, recentOrder written first second → recentOrder written second first →
      first = second := by
  intro first inFirst second inSecond before after
  have same : first.runId = second.runId := by
    refine RunId.ext_bits (BitVec.eq_of_toNat_eq ?_)
    rcases before with less | ⟨tied, order⟩
    · rcases after with more | ⟨tied, -⟩
      · exact absurd (List.lt_trans less more) (List.lt_irrefl _)
      · rw [tied] at less
        exact absurd less (List.lt_irrefl _)
    · rcases after with more | ⟨-, back⟩
      · rw [tied] at more
        exact absurd more (List.lt_irrefl _)
      · exact Nat.le_antisymm back order
  exact List.inj_on_of_nodup_map unique inFirst inSecond same

theorem recentRows_subperm : (recentRows written rows limit).Subperm rows :=
  (List.take_sublist _ _).subperm.trans (List.perm_insertionSort _ rows).subperm

theorem length_recentRows : (recentRows written rows limit).length = min limit rows.length := by
  rw [recentRows, List.length_take, List.length_insertionSort]

theorem recentRows_pairwise : (recentRows written rows limit).Pairwise (recentOrder written) :=
  (List.pairwise_insertionSort _ rows).take

/-- What is not listed stands behind everything that is. -/
theorem recentOrder_of_not_listed {row other : RunRow} (mem : row ∈ rows)
    (left : row ∉ recentRows written rows limit) (listed : other ∈ recentRows written rows limit) :
    recentOrder written other row := by
  have sorted := List.pairwise_insertionSort (recentOrder written) rows
  rw [← List.take_append_drop limit (rows.insertionSort _), List.pairwise_append] at sorted
  have inSorted : row ∈ (rows.insertionSort (recentOrder written)).take limit ++
      (rows.insertionSort (recentOrder written)).drop limit := by
    rw [List.take_append_drop]
    exact (List.mem_insertionSort _).mpr mem
  exact sorted.2.2 other listed row ((List.mem_append.mp inSorted).resolve_left left)

/-- Rows are the newest when no listed row stands before a newer one. -/
theorem newestFirst_of_order (later : ∀ row ∈ recentRows written rows limit, ∀ other ∈ rows,
    recentOrder written row other → other.createdAt ≤ row.createdAt) :
    NewestFirst rows limit (recentRows written rows limit) := by
  refine ⟨recentRows_subperm, length_recentRows, ?_, fun row mem left other listed => ?_⟩
  · exact recentRows_pairwise.imp_of_mem fun isListed otherListed order =>
      later _ isListed _ (recentRows_subperm.subset otherListed) order
  · exact later other listed row mem (recentOrder_of_not_listed mem left listed)

/-- The first rows of an order from new to old are the newest. -/
theorem newestFirst_take {sorted : List RunRow} (perm : sorted.Perm rows)
    (descends : sorted.Pairwise fun row other => other.createdAt ≤ row.createdAt) :
    NewestFirst rows limit (sorted.take limit) := by
  refine ⟨(List.take_sublist _ _).subperm.trans perm.subperm, ?_, descends.take, ?_⟩
  · rw [List.length_take, perm.length_eq]
  · intro row mem left other listed
    rw [← List.take_append_drop limit sorted, List.pairwise_append] at descends
    have inSorted : row ∈ sorted.take limit ++ sorted.drop limit := by
      rw [List.take_append_drop]
      exact perm.mem_iff.mpr mem
    exact descends.2.2 other listed row ((List.mem_append.mp inSorted).resolve_left left)

/-- **A listing returns the newest runs exactly when its rows are readable and they are the
newest.** -/
theorem listsNewest_loadRows_iff (unique : (rows.map RunRow.runId).Nodup) :
    ListsNewest rows limit (SqliteStore.loadRows (recentRows written rows limit)) ↔
      ListsReadable written rows limit ∧ NewestFirst rows limit (recentRows written rows limit) := by
  have listed : ∀ row ∈ rows, (row ∈ recentRows written rows limit ↔
      Ranking.before (recentOrder written) rows row < limit) := fun row mem =>
    Ranking.mem_take_insertionSort (recentOrder_settled unique) mem limit
  have loads : ∀ listing : List RunRow, (∀ row ∈ listing, row.Valid) →
      ∃ runs : List VerificationRun, runs.map VerificationRun.toRunRow = listing := by
    intro listing valid
    exact ⟨listing.attach.map fun row => ⟨row.1, valid row.1 row.2⟩, by simp⟩
  constructor
  · rintro ⟨runs, loaded, newest⟩
    have same := SqliteStore.loadRows_eq_ok_iff.mp loaded
    refine ⟨fun row mem few => ?_, same ▸ newest⟩
    have isListed := (listed row mem).mpr few
    rw [← same] at isListed
    obtain ⟨run, -, rfl⟩ := List.mem_map.mp isListed
    exact run.valid
  · rintro ⟨readable, newest⟩
    obtain ⟨runs, same⟩ := loads (recentRows written rows limit) fun row isListed => by
      have mem := recentRows_subperm.subset isListed
      exact readable row mem ((listed row mem).mp isListed)
    exact ⟨runs, SqliteStore.loadRows_eq_ok_iff.mpr same, same ▸ newest⟩

end Order

/-! ## The relational listing -/

section Listings

variable {rows : List RunRow} {limit : Nat}

/-- **The order of the offset texts is the order of creation.** -/
theorem newestFirst_isoformat (readings : ∀ row ∈ rows, IsReading row.createdAt) :
    NewestFirst rows limit (recentRows isoformat rows limit) := by
  refine newestFirst_of_order fun row listed other mem order => ?_
  have notBefore : ¬ isoformat row.createdAt < isoformat other.createdAt := by
    rcases order with less | ⟨tied, -⟩
    · exact fun more => List.lt_irrefl _ (List.lt_trans less more)
    · rw [tied]
      exact List.lt_irrefl _
  rw [isoformat_lt_iff (readings row (recentRows_subperm.subset listed)) (readings other mem)]
    at notBefore
  exact Int.not_lt.mp notBefore

/-! ## The document listing -/

/-- A run of a whole second, and one of the same second with a fraction. -/
def SharesSecond (whole fractional : RunRow) : Prop :=
  whole.createdAt / 1000000 = fractional.createdAt / 1000000 ∧
    isWholeSecond whole.createdAt = true ∧ isWholeSecond fractional.createdAt = false

instance (whole fractional : RunRow) : Decidable (SharesSecond whole fractional) := by
  unfold SharesSecond
  infer_instance

/-- The runs that are listed before a run of a whole second: those of later seconds, and
those of the same moment with a greater identifier. -/
def listedBefore (rows : List RunRow) (whole : RunRow) : Nat :=
  rows.countP fun row => whole.createdAt / 1000000 < row.createdAt / 1000000 ∨
    (row.createdAt = whole.createdAt ∧ whole.runId.bits.toNat < row.runId.bits.toNat)

/-- Runs of whole seconds that share it with a later run are beyond the limit. -/
def WholeSecondsBeyond (rows : List RunRow) (limit : Nat) : Prop :=
  ∀ whole ∈ rows, ∀ fractional ∈ rows, SharesSecond whole fractional →
    limit ≤ listedBefore rows whole

/-- The texts order moments as they are, except within a second that a whole one shares. -/
theorem jsonDatetime_lt_iff_lt {row other : RunRow} (reading : IsReading row.createdAt)
    (otherReading : IsReading other.createdAt) :
    jsonDatetime row.createdAt < jsonDatetime other.createdAt ↔
      (row.createdAt < other.createdAt ∧ ¬ SharesSecond row other) ∨ SharesSecond other row := by
  have counts : ∀ {moment : Int}, 0 ≤ moment → (moment.toNat % microsPerSecond = 0 ↔
      isWholeSecond moment = true) := by
    intro moment positive
    simp only [isWholeSecond, beq_iff_eq, microsPerSecond]
    omega
  rw [jsonDatetime_lt_iff reading otherReading]
  have positive := reading.notNegative
  have otherPositive := otherReading.notNegative
  unfold SharesSecond
  by_cases whole : row.createdAt.toNat % microsPerSecond = 0
  · rw [wholeLast_of_whole whole, (counts positive).mp whole]
    by_cases otherWhole : other.createdAt.toNat % microsPerSecond = 0
    · rw [wholeLast_of_whole otherWhole, (counts otherPositive).mp otherWhole]
      unfold microsPerSecond at *
      simp only [Bool.true_eq_false, and_false, not_false_eq_true, and_true, or_false]
      omega
    · rw [wholeLast_of_fraction otherWhole,
        Bool.eq_false_iff.mpr (mt (counts otherPositive).mpr otherWhole)]
      unfold microsPerSecond at *
      simp only [Bool.false_eq_true, and_false, false_and, and_true, or_false]
      omega
  · rw [wholeLast_of_fraction whole, Bool.eq_false_iff.mpr (mt (counts positive).mpr whole)]
    by_cases otherWhole : other.createdAt.toNat % microsPerSecond = 0
    · rw [wholeLast_of_whole otherWhole, (counts otherPositive).mp otherWhole]
      unfold microsPerSecond at *
      simp only [Bool.false_eq_true, and_false, false_and, not_false_eq_true, and_true]
      omega
    · rw [wholeLast_of_fraction otherWhole,
        Bool.eq_false_iff.mpr (mt (counts otherPositive).mpr otherWhole)]
      unfold microsPerSecond at *
      simp only [Bool.false_eq_true, and_false, not_false_eq_true, and_true, or_false]
      omega

theorem jsonDatetime_eq_iff {row other : RunRow} (reading : IsReading row.createdAt)
    (otherReading : IsReading other.createdAt) :
    jsonDatetime row.createdAt = jsonDatetime other.createdAt ↔
      row.createdAt = other.createdAt := by
  refine ⟨fun same => ?_, fun same => congrArg jsonDatetime same⟩
  have notBefore : ¬ jsonDatetime row.createdAt < jsonDatetime other.createdAt := by
    rw [same]
    exact List.lt_irrefl _
  have notAfter : ¬ jsonDatetime other.createdAt < jsonDatetime row.createdAt := by
    rw [same]
    exact List.lt_irrefl _
  rw [jsonDatetime_lt_iff_lt reading otherReading] at notBefore
  rw [jsonDatetime_lt_iff_lt otherReading reading] at notAfter
  by_contra different
  rcases Int.lt_or_gt_of_ne different with less | more
  · exact notBefore (.inl ⟨less, fun shares => notAfter (.inr shares)⟩)
  · exact notAfter (.inl ⟨more, fun shares => notBefore (.inr shares)⟩)

/-- What stands before a run of a whole second in the listing. -/
theorem before_eq_listedBefore (readings : ∀ row ∈ rows, IsReading row.createdAt) {whole : RunRow}
    (mem : whole ∈ rows) (isWhole : isWholeSecond whole.createdAt = true) :
    Ranking.before (recentOrder jsonDatetime) rows whole = listedBefore rows whole := by
  refine List.countP_congr fun row rowMem => ?_
  have reading := readings row rowMem
  have wholeReading := readings whole mem
  simp only [decide_eq_true_eq, recentOrder, jsonDatetime_lt_iff_lt reading wholeReading,
    jsonDatetime_lt_iff_lt wholeReading reading, jsonDatetime_eq_iff reading wholeReading,
    jsonDatetime_eq_iff wholeReading reading, SharesSecond, isWholeSecond, beq_iff_eq,
    beq_eq_false_iff_ne] at isWhole ⊢
  omega

/-- Two rows stand in the document listing as they were created, one way or the other. -/
def StandInOrder (row other : RunRow) : Prop :=
  (other.createdAt ≤ row.createdAt ∧ recentOrder jsonDatetime row other) ∨
    (row.createdAt ≤ other.createdAt ∧ recentOrder jsonDatetime other row)

instance : Std.Symm StandInOrder := ⟨fun _ _ => Or.symm⟩

/-- **The document listing has the newest runs in order exactly when no run of a whole
second is listed that shares it with a later run.** -/
theorem newestFirst_jsonDatetime_iff (readings : ∀ row ∈ rows, IsReading row.createdAt)
    (unique : (rows.map RunRow.runId).Nodup) :
    NewestFirst rows limit (recentRows jsonDatetime rows limit) ↔ WholeSecondsBeyond rows limit := by
  have listed : ∀ {whole : RunRow}, whole ∈ rows → isWholeSecond whole.createdAt = true →
      (whole ∈ recentRows jsonDatetime rows limit ↔ listedBefore rows whole < limit) := by
    intro whole mem isWhole
    rw [← before_eq_listedBefore readings mem isWhole]
    exact Ranking.mem_take_insertionSort (recentOrder_settled unique) mem limit
  constructor
  · intro newest whole wholeMem fractional fractionalMem shares
    by_contra few
    have isListed := (listed wholeMem shares.2.1).mpr (Nat.not_le.mp few)
    have older : whole.createdAt < fractional.createdAt := by
      obtain ⟨same, isWhole, isFractional⟩ := shares
      simp only [isWholeSecond, beq_iff_eq, beq_eq_false_iff_ne] at isWhole isFractional
      omega
    by_cases both : fractional ∈ recentRows jsonDatetime rows limit
    · -- Two listed rows stand in the order of the query and in that of their creation.
      have ordered : (recentRows jsonDatetime rows limit).Pairwise StandInOrder :=
        (newest.ordered.and recentRows_pairwise).imp fun holds => .inl holds
      have different : whole ≠ fractional := fun same => by
        rw [same] at older
        exact Int.lt_irrefl _ older
      have related := ordered.forall isListed both different
      rcases related with ⟨order, -⟩ | ⟨-, less | ⟨tied, -⟩⟩
      · omega
      · rw [jsonDatetime_lt_iff_lt (readings whole wholeMem) (readings fractional fractionalMem)]
          at less
        rcases less with ⟨-, alone⟩ | ⟨-, isWhole, -⟩
        · exact alone shares
        · rw [shares.2.2] at isWhole
          cases isWhole
      · rw [jsonDatetime_eq_iff (readings whole wholeMem) (readings fractional fractionalMem)]
          at tied
        omega
    · exact absurd (newest.newest fractional fractionalMem both whole isListed) (by omega)
  · intro beyond
    refine newestFirst_of_order fun row isListed other mem order => ?_
    have rowMem := recentRows_subperm.subset isListed
    rcases order with less | ⟨tied, -⟩
    · rw [jsonDatetime_lt_iff_lt (readings other mem) (readings row rowMem)] at less
      rcases less with ⟨before, -⟩ | shares
      · exact before.le
      · have few := (listed rowMem shares.2.1).mp isListed
        exact absurd (beyond row rowMem other mem shares) (Nat.not_le.mpr few)
    · exact ((jsonDatetime_eq_iff (readings other mem) (readings row rowMem)).mp tied).le

end Listings

/-! ## Both stores -/

section Stores

variable {Document : Type}

theorem guarded_listing {limit : Int} (admissible : 1 ≤ limit ∧ limit ≤ 8)
    {listing : Except StoreException (List VerificationRun)} :
    (do
      Guard.require (1 ≤ limit ∧ limit ≤ 8)
        (.value "recent run limit must be between one and eight")
      listing) = listing := by
  rw [Guard.require_of_holds admissible]
  rfl

theorem FirestoreStore.runRows_unique (store : FirestoreStore Document) :
    (store.runRows.map RunRow.runId).Nodup := by
  rw [FirestoreStore.runRows, List.map_map]
  exact store.runs.unique

/-- **The relational store lists the newest runs whenever it can load them; the document
store does so exactly when no run of a whole second is listed that shares it with a later
run.** -/
theorem recent_runs_newest_iff (sqlite : SqliteStore Document)
    (firestore : FirestoreStore Document) (limit : Int) (admissible : 1 ≤ limit ∧ limit ≤ 8)
    (readings : ∀ row ∈ sqlite.runs.rows, IsReading row.createdAt)
    (documentReadings : ∀ row ∈ firestore.runRows, IsReading row.createdAt) :
    (ListsNewest sqlite.runs.rows limit.toNat (sqlite.listRecentRuns limit) ↔
      ListsReadable isoformat sqlite.runs.rows limit.toNat) ∧
    (ListsNewest firestore.runRows limit.toNat (firestore.listRecentRuns limit) ↔
      ListsReadable jsonDatetime firestore.runRows limit.toNat ∧
        WholeSecondsBeyond firestore.runRows limit.toNat) := by
  constructor
  · rw [SqliteStore.listRecentRuns, guarded_listing admissible,
      listsNewest_loadRows_iff sqlite.runs.unique]
    exact and_iff_left (newestFirst_isoformat readings)
  · rw [FirestoreStore.listRecentRuns, guarded_listing admissible,
      listsNewest_loadRows_iff firestore.runRows_unique,
      newestFirst_jsonDatetime_iff documentReadings firestore.runRows_unique]

end Stores

/-! ## Two runs of one second -/

/-- A whole second. -/
def sampleMoment : Int := 63900000000000000

/-- Two revisions of a pull request, the first accepted at a whole second and the second
half a second later. -/
def halfASecondApart : FirestoreStore Unit :=
  let first := FirestoreStore.empty.perform (fun _ => "") id ⟨sampleMoment, ⟨1⟩⟩
    (.acceptPullRequest (sampleEvent "first" 'a' 10 isLowerHex_a deliveryId_first))
  (first.2.perform (fun _ => "") id ⟨sampleMoment + 500000, ⟨2⟩⟩
    (.acceptPullRequest (sampleEvent "second" 'b' 20 isLowerHex_b deliveryId_second))).2

/-- The same in the relational store. -/
def halfASecondApartRows : SqliteStore Unit :=
  let first := SqliteStore.empty.perform (fun _ => "") ⟨sampleMoment, ⟨1⟩⟩
    (.acceptPullRequest (sampleEvent "first" 'a' 10 isLowerHex_a deliveryId_first))
  (first.2.perform (fun _ => "") ⟨sampleMoment + 500000, ⟨2⟩⟩
    (.acceptPullRequest (sampleEvent "second" 'b' 20 isLowerHex_b deliveryId_second))).2

theorem recent_runs_newest_iff_two :
    (ListsNewest halfASecondApartRows.runs.rows 2 (halfASecondApartRows.listRecentRuns 2) ↔
      ListsReadable isoformat halfASecondApartRows.runs.rows 2) ∧
    (ListsNewest halfASecondApart.runRows 2 (halfASecondApart.listRecentRuns 2) ↔
      ListsReadable jsonDatetime halfASecondApart.runRows 2 ∧
        WholeSecondsBeyond halfASecondApart.runRows 2) :=
  recent_runs_newest_iff halfASecondApartRows halfASecondApart 2 (by decide) (by decide +kernel)
    (by decide +kernel)

/-- The documents are listed with the older run first. -/
theorem older_run_listed_first :
    (halfASecondApart.listRecentRuns 2).toOption.map (fun runs => runs.map fun run =>
        run.createdAt) = some [sampleMoment, sampleMoment + 500000] ∧
      ¬ ListsNewest halfASecondApart.runRows 2 (halfASecondApart.listRecentRuns 2) := by
  have listed : (halfASecondApart.listRecentRuns 2).toOption.map (fun runs => runs.map fun run =>
      run.createdAt) = some [sampleMoment, sampleMoment + 500000] := by decide +kernel
  refine ⟨listed, ?_⟩
  rintro ⟨runs, returned, newest⟩
  have moments : runs.map (fun run => run.createdAt) =
      [sampleMoment, sampleMoment + 500000] := by
    rw [returned] at listed
    exact Option.some.inj listed
  have ordered : (runs.map fun run => run.createdAt).Pairwise fun moment other =>
      other ≤ moment := List.pairwise_map.mpr (List.pairwise_map.mp newest.ordered)
  rw [moments] at ordered
  exact absurd ordered (by decide)

end PatchProof
