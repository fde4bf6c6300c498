import Mathlib.Data.List.Perm.Basic
import PatchProof.Storage.Firestore
import PatchProof.Storage.Invariant

/-!
# The two stores agree

The document store mirrors the relational one: the same rows in the same order,
equal tables otherwise, and two pointer collections that answer what the
relational store asks of its run table.  The current pointer of a pull request
leads to the run that is current in the ledger, and the pointer of a revision to
its latest run.  From mirrored stores every operation yields the same reply and
mirrored stores again, so the stores agree along every sequence of operations fed
the same clock and the same fresh identifiers.

The digest may be any function that tells the key texts of the sequence apart.
-/

set_option autoImplicit false

namespace PatchProof

open SqliteStore

/-! ## Key texts -/

def pullText (pull : RepositoryName × PositiveInt) : String :=
  pullKeyText pull.1.text pull.2.value

def revisionText (pull : RepositoryName × PositiveInt) (revision : GitSha × GitSha) : String :=
  revisionKeyText pull.1.text pull.2.value revision

theorem pullText_injective {pull other : RepositoryName × PositiveInt}
    (same : pullText pull = pullText other) : pull = other := by
  obtain ⟨names, numbers⟩ := pullKeyText_inj same
  rw [lower_repositoryName, lower_repositoryName] at names
  exact Prod.ext (RepositoryName.ext_text names) (PositiveInt.ext_value numbers)

theorem revisionText_injective {pull other : RepositoryName × PositiveInt}
    {revision otherRevision : GitSha × GitSha}
    (same : revisionText pull revision = revisionText other otherRevision) :
    pull = other ∧ revision = otherRevision := by
  obtain ⟨pulls, revisions⟩ := revisionKeyText_inj same
  exact ⟨pullText_injective pulls, revisions⟩

/-- The texts whose digests an operation may use as document keys. -/
def StoreCall.keyTexts {Document : Type} : StoreCall Document → List String
  | .acceptPullRequest event =>
      [pullText event.pullRequest, revisionText event.pullRequest event.revision]
  | .listRuns repository prNumber => [pullKeyText (lower repository) prNumber]
  | _ => []

/-! ## Mirrored stores -/

section Mirrors

variable {Document : Type} (sha256 : String → String) (texts : Set String)

/-- The document store holds what the relational one holds, and its pointers lead
where the relational queries do. -/
structure Mirrors (sqlite : SqliteStore Document) (firestore : FirestoreStore Document) : Prop where
  runs : firestore.runs.rows = sqlite.runs.rows.map (FirestoreStore.runDocument sha256)
  deliveries : firestore.deliveries = sqlite.deliveries
  evidence : firestore.evidence = sqlite.evidence
  publications : firestore.publications = sqlite.publications
  failures : firestore.failures = sqlite.failures
  keyed : ∀ {row}, row ∈ sqlite.runs → pullText row.pullRequest ∈ texts
  current : ∀ {pull}, pullText pull ∈ texts → ∀ runId,
    (firestore.current.lookup (FirestoreStore.pullKey sha256 pull)).map PointerDocument.runId =
      some runId ↔ sqlite.ledger.CurrentId pull runId
  revisions : ∀ {pull revision}, revisionText pull revision ∈ texts → ∀ runId,
    (firestore.revisions.lookup (FirestoreStore.revisionKey sha256 pull revision)).map
      PointerDocument.runId = some runId ↔ sqlite.ledger.LatestId pull revision runId

/-- Two outcomes agree when they carry equal results and mirrored stores, or
exceptions of one class. -/
def OutcomeAgrees {Result : Type}
    (outcome : Except StoreException (Result × SqliteStore Document))
    (other : Except StoreException (Result × FirestoreStore Document)) : Prop :=
  Guard.Related (fun answer other => answer.1 = other.1 ∧ Mirrors sha256 texts answer.2 other.2)
    (fun exception other => exception.exceptionClass = other.exceptionClass) outcome other

end Mirrors

section Outcomes

variable {Document Result Middle : Type} {sha256 : String → String} {texts : Set String}
  {exception other : StoreException}

theorem OutcomeAgrees.raised (same : exception.exceptionClass = other.exceptionClass) :
    OutcomeAgrees sha256 texts
      (.error exception : Except StoreException (Result × SqliteStore Document)) (.error other) :=
  Guard.Related.raised same

theorem OutcomeAgrees.returned {result : Result} {sqlite : SqliteStore Document}
    {firestore : FirestoreStore Document} (mirrors : Mirrors sha256 texts sqlite firestore) :
    OutcomeAgrees sha256 texts (.ok (result, sqlite)) (.ok (result, firestore)) :=
  Guard.Related.returned ⟨rfl, mirrors⟩

/-- A first step that both stores share. -/
theorem OutcomeAgrees.bind {first : Except StoreException Middle}
    {rest : Middle → Except StoreException (Result × SqliteStore Document)}
    {otherRest : Middle → Except StoreException (Result × FirestoreStore Document)}
    (agrees : ∀ middle, first = .ok middle →
      OutcomeAgrees sha256 texts (rest middle) (otherRest middle)) :
    OutcomeAgrees sha256 texts (first >>= rest) (first >>= otherRest) := by
  refine Guard.Related.bind ?_ agrees
  exact fun _ => rfl

/-- A check that both stores make, with exceptions of one class. -/
theorem OutcomeAgrees.require {condition otherCondition : Prop} [Decidable condition]
    [Decidable otherCondition]
    {rest : Unit → Except StoreException (Result × SqliteStore Document)}
    {otherRest : Unit → Except StoreException (Result × FirestoreStore Document)}
    (same : condition ↔ otherCondition) (sameClass : exception.exceptionClass = other.exceptionClass)
    (agrees : condition → OutcomeAgrees sha256 texts (rest ()) (otherRest ())) :
    OutcomeAgrees sha256 texts (Guard.require condition exception >>= rest)
      (Guard.require otherCondition other >>= otherRest) :=
  Guard.Related.require same sameClass agrees

end Outcomes

namespace Mirrors

variable {Document : Type} {sha256 : String → String} {texts : Set String}
  {sqlite : SqliteStore Document} {firestore : FirestoreStore Document} {clock : Int}
  {used : Set RunId} {event : PullRequestEvent} {input : StoreInput}

theorem empty : Mirrors sha256 texts (SqliteStore.empty : SqliteStore Document)
    FirestoreStore.empty where
  runs := rfl
  deliveries := rfl
  evidence := rfl
  publications := rfl
  failures := rfl
  keyed := fun present => absurd present (Table.not_mem_empty _)
  current := fun _ runId => by
    constructor
    · intro absurdity
      cases absurdity
    · rintro ⟨_, known, _⟩
      cases known
  revisions := fun _ runId => by
    constructor
    · intro absurdity
      cases absurdity
    · rintro ⟨_, ⟨_, known, _⟩, _⟩
      cases known

/-! ## Reads -/

theorem lookup_documents {runs : Table RunRow.runId} {documents : Table RunDocument.runId}
    (same : documents.rows = runs.rows.map (FirestoreStore.runDocument sha256)) (runId : RunId) :
    documents.lookup runId = (runs.lookup runId).map (FirestoreStore.runDocument sha256) := by
  simp only [Table.lookup, same, List.find?_map]
  rfl

theorem lookup_runs (mirrors : Mirrors sha256 texts sqlite firestore) (runId : RunId) :
    firestore.runs.lookup runId =
      (sqlite.runs.lookup runId).map (FirestoreStore.runDocument sha256) :=
  lookup_documents mirrors.runs runId

theorem getRun_eq (mirrors : Mirrors sha256 texts sqlite firestore) (runId : RunId) :
    firestore.getRun runId = sqlite.requireRun runId := by
  rw [FirestoreStore.getRun, requireRun, mirrors.lookup_runs]
  cases sqlite.runs.lookup runId <;> rfl

/-- A pointer collection that leads where a query does loads what the query loads. -/
theorem getPointed_eq (mirrors : Mirrors sha256 texts sqlite firestore)
    {pointers : Table PointerDocument.key} {key : String} {found : Option RunRow}
    (present : ∀ row, found = some row → sqlite.runs.lookup row.runId = some row)
    (leads : (pointers.lookup key).map PointerDocument.runId = found.map RunRow.runId) :
    firestore.getPointed pointers key = loadRow found := by
  unfold FirestoreStore.getPointed
  cases pointer : pointers.lookup key with
  | none =>
      rw [pointer] at leads
      rw [Option.map_eq_none_iff.mp leads.symm]
      rfl
  | some document =>
      rw [pointer] at leads
      obtain ⟨row, rfl, sameId⟩ := Option.map_eq_some_iff.mp leads.symm
      show (do return some (← firestore.getRun document.runId)) = loadRow (some row)
      rw [mirrors.getRun_eq, ← sameId, requireRun, present row rfl]
      rfl

theorem currentRow_iff (coherent : sqlite.ledger.Coherent)
    (pull : RepositoryName × PositiveInt) (runId : RunId) :
    (sqlite.currentRow pull).map RunRow.runId = some runId ↔ sqlite.ledger.CurrentId pull runId := by
  constructor
  · intro found
    obtain ⟨row, isRow, rfl⟩ := Option.map_eq_some_iff.mp found
    obtain ⟨present, ofPull, isCurrent⟩ := currentRow_eq_some isRow
    exact ⟨_, isCurrent_iff.mpr ⟨row, present, rfl, ofPull, isCurrent⟩⟩
  · rintro ⟨line, isCurrent⟩
    obtain ⟨row, found, _, ofPull, rowCurrent⟩ := isCurrent_iff.mp isCurrent
    cases query : sqlite.currentRow pull with
    | none =>
        exact absurd rowCurrent (currentRow_eq_none query (Table.mem_of_lookup found) ofPull)
    | some other =>
        obtain ⟨present, otherPull, otherCurrent⟩ := currentRow_eq_some query
        have otherIs := isCurrent_iff.mpr ⟨other, present, rfl, otherPull, otherCurrent⟩
        rw [Option.map_some, coherent.currentUnique otherIs isCurrent]

theorem duplicateRevision_iff (ordered : sqlite.ledger.Ordered)
    (pull : RepositoryName × PositiveInt) (revision : GitSha × GitSha) (runId : RunId) :
    (sqlite.duplicateRevision pull revision).map RunRow.runId = some runId ↔
      sqlite.ledger.LatestId pull revision runId := by
  have latest : ∀ {row}, sqlite.duplicateRevision pull revision = some row →
      sqlite.ledger.LatestId pull revision row.runId := by
    intro row found
    obtain ⟨present, rfl, rfl⟩ := duplicateRevision_eq_some found
    have known : sqlite.ledger.lineage row.runId = some row.lineage :=
      ledger_lineage_eq_some.mpr ⟨row, present, rfl⟩
    refine ordered.latestId_of_newest known fun known ofPull ofRevision => ?_
    obtain ⟨other, otherFound, rfl⟩ := ledger_lineage_eq_some.mp known
    exact duplicateRevision_newest found (Table.mem_of_lookup otherFound) ofPull ofRevision
  constructor
  · intro found
    obtain ⟨row, isRow, rfl⟩ := Option.map_eq_some_iff.mp found
    exact latest isRow
  · intro isLatest
    cases query : sqlite.duplicateRevision pull revision with
    | none =>
        obtain ⟨_, ⟨line, known, ofPull, ofRevision, _⟩, _⟩ := isLatest
        obtain ⟨row, found, rfl⟩ := ledger_lineage_eq_some.mp known
        exact absurd ofRevision (duplicateRevision_eq_none query (Table.mem_of_lookup found) ofPull)
    | some row => rw [Option.map_some, (latest query).unique isLatest]

/-- The current pointer answers the query for the current run. -/
theorem getCurrent_eq (mirrors : Mirrors sha256 texts sqlite firestore)
    (coherent : sqlite.ledger.Coherent) {pull : RepositoryName × PositiveInt}
    (known : pullText pull ∈ texts) :
    firestore.getPointed firestore.current (FirestoreStore.pullKey sha256 pull) =
      loadRow (sqlite.currentRow pull) :=
  mirrors.getPointed_eq (fun _ found => (currentRow_eq_some found).1)
    (Option.ext fun runId =>
      (mirrors.current known runId).trans (currentRow_iff coherent pull runId).symm)

/-- The revision pointer answers the query for the newest run of a revision. -/
theorem getRevision_eq (mirrors : Mirrors sha256 texts sqlite firestore)
    (ordered : sqlite.ledger.Ordered) {pull : RepositoryName × PositiveInt}
    {revision : GitSha × GitSha} (known : revisionText pull revision ∈ texts) :
    firestore.getPointed firestore.revisions (FirestoreStore.revisionKey sha256 pull revision) =
      loadRow (sqlite.duplicateRevision pull revision) :=
  mirrors.getPointed_eq (fun _ found => (duplicateRevision_eq_some found).1)
    (Option.ext fun runId =>
      (mirrors.revisions known runId).trans (duplicateRevision_iff ordered pull revision runId).symm)

/-! ## Writes of one run -/

/-- Replacing a row in one table mirrors putting its document in the other. -/
theorem replace_runs (mirrors : Mirrors sha256 texts sqlite firestore) (row : RunRow) {old : RunRow}
    (found : sqlite.runs.lookup row.runId = some old) :
    (firestore.runs.put (FirestoreStore.runDocument sha256 row)).rows =
      (sqlite.runs.replace row).rows.map (FirestoreStore.runDocument sha256) := by
  have foundDocument : firestore.runs.lookup (FirestoreStore.runDocument sha256 row).runId =
      some (FirestoreStore.runDocument sha256 old) := by
    rw [mirrors.lookup_runs]
    exact congrArg (Option.map _) found
  rw [Table.put_of_found foundDocument]
  simp only [Table.replace, mirrors.runs, List.map_map]
  refine List.map_congr_left fun other _ => ?_
  exact (apply_ite (FirestoreStore.runDocument sha256) (other.runId = row.runId) row other).symm

/-- Adding a run document mirrors inserting the row. -/
theorem insert_runs {runs : Table RunRow.runId} {documents : Table RunDocument.runId}
    (same : documents.rows = runs.rows.map (FirestoreStore.runDocument sha256)) {row : RunRow}
    (unused : runs.lookup row.runId = none) :
    ∃ grown, FirestoreStore.createDocument documents (FirestoreStore.runDocument sha256 row) =
        .ok grown ∧
      grown.rows = (runs.insert row unused).rows.map (FirestoreStore.runDocument sha256) := by
  have fresh : documents.lookup (FirestoreStore.runDocument sha256 row).runId = none := by
    rw [lookup_documents same]
    exact Option.map_eq_none_iff.mpr unused
  refine ⟨documents.insert _ fresh, ?_, ?_⟩
  · rw [FirestoreStore.createDocument, Table.insert?, dif_pos fresh]
  · simp only [Table.insert, same, List.map_append, List.map_singleton]

theorem createDocument_eq_ok_iff {ρ κ : Type} {key : ρ → κ} [DecidableEq κ]
    {collection grown : Table key} {document : ρ} :
    FirestoreStore.createDocument collection document = .ok grown ↔
      ∃ fresh : collection.lookup (key document) = none,
        grown = collection.insert document fresh := by
  rw [← Table.insert?_eq_some_iff]
  unfold FirestoreStore.createDocument
  cases collection.insert? document <;> simp

theorem createDocument_of_fresh {ρ κ : Type} {key : ρ → κ} [DecidableEq κ] {collection : Table key}
    {document : ρ} (fresh : collection.lookup (key document) = none) :
    FirestoreStore.createDocument collection document = .ok (collection.insert document fresh) :=
  createDocument_eq_ok_iff.mpr ⟨fresh, rfl⟩

/-- A document that is new to both stores is inserted by both. -/
theorem inserted {ρ κ Result : Type} {key : ρ → κ} [DecidableEq κ] {table : Table key} {row : ρ}
    {wanted : κ} (missing : table.lookup wanted = none) (sameKey : key row = wanted)
    {rest : Table key → Except StoreException (Result × SqliteStore Document)}
    {otherRest : Table key → Except StoreException (Result × FirestoreStore Document)}
    (agrees : ∀ fresh, OutcomeAgrees sha256 texts (rest (table.insert row fresh))
      (otherRest (table.insert row fresh))) :
    OutcomeAgrees sha256 texts (insertRow table row >>= rest)
      (FirestoreStore.createDocument table row >>= otherRest) := by
  subst sameKey
  rw [insertRow_of_fresh missing, createDocument_of_fresh missing]
  exact agrees missing

/-- Stores stay mirrored when one run is rewritten with its lineage kept. -/
theorem rewritten (mirrors : Mirrors sha256 texts sqlite firestore) (row : RunRow) {old : RunRow}
    (found : sqlite.runs.lookup row.runId = some old) (same : row.lineage = old.lineage)
    {failures otherFailures : Table RunFailureRecord.runId} (sameFailures : otherFailures = failures) :
    Mirrors sha256 texts
      { sqlite with runs := sqlite.runs.replace row, failures := failures }
      { firestore with
        runs := firestore.runs.put (FirestoreStore.runDocument sha256 row)
        failures := otherFailures } := by
  have sameLedger : ({ sqlite with runs := sqlite.runs.replace row, failures := failures } :
      SqliteStore Document).ledger = sqlite.ledger :=
    StoreInvariant.ledger_replace_of_lineage row found same
  refine ⟨mirrors.replace_runs row found, mirrors.deliveries, mirrors.evidence, mirrors.publications,
    sameFailures, ?_, ?_, ?_⟩
  · intro other present
    rcases Table.mem_replace.mp present with ⟨kept, _⟩ | ⟨rfl, _⟩
    · exact mirrors.keyed kept
    · have samePull : other.pullRequest = old.pullRequest := congrArg Lineage.pullRequest same
      exact samePull ▸ mirrors.keyed (Table.mem_of_lookup found)
  · rw [sameLedger]
    exact mirrors.current
  · rw [sameLedger]
    exact mirrors.revisions

/-! ## Operations on one run -/

theorem transitionRun_agrees (mirrors : Mirrors sha256 texts sqlite firestore) (now : Int)
    (runId : RunId) (expectedVersion : Int) (transition : RunTransition) :
    OutcomeAgrees sha256 texts (sqlite.transitionRun now runId expectedVersion transition)
      (firestore.transitionRun sha256 now runId expectedVersion transition) := by
  unfold transitionRun FirestoreStore.transitionRun
  rw [mirrors.getRun_eq]
  refine .bind fun current loaded => ?_
  refine .require Iff.rfl rfl fun _ => ?_
  refine .bind fun updated moved => ?_
  obtain ⟨_, row⟩ := applyRunTransition_eq_ok_iff.mp moved
  have found := requireRun_eq_ok_iff.mp loaded
  obtain rfl := Table.key_of_lookup found
  have sameId : updated.runId = current.runId := by rw [row]; rfl
  exact .returned (mirrors.rewritten updated.toRunRow (sameId ▸ found) (by rw [row]; rfl)
    mirrors.failures)

theorem failRun_agrees (mirrors : Mirrors sha256 texts sqlite firestore)
    (invariant : StoreInvariant sqlite clock used) (now : Int) (runId : RunId)
    (errorCode summary : String) (retryable : Bool) (modelUsage : Option ModelUsage)
    (rawResponseSha256 : Option String) :
    OutcomeAgrees sha256 texts
      (sqlite.failRun now runId errorCode summary retryable modelUsage rawResponseSha256)
      (firestore.failRun sha256 now runId errorCode summary retryable modelUsage
        rawResponseSha256) := by
  unfold failRun FirestoreStore.failRun
  refine .require Iff.rfl rfl fun _ => ?_
  refine .require Iff.rfl rfl fun _ => ?_
  refine .require Iff.rfl rfl fun _ => ?_
  rw [mirrors.failures, mirrors.getRun_eq]
  cases recorded : sqlite.failures.lookup runId with
  | some prior =>
      -- The relational store loads the run first, which is there and valid.
      obtain ⟨row, found⟩ := invariant.failureKnown recorded
      obtain ⟨run, _, loaded⟩ := invariant.runOf found
      rw [loaded]
      exact .returned mirrors
  | none =>
      refine .bind fun current loaded => ?_
      refine .bind fun updated moved => ?_
      obtain ⟨_, row⟩ := applyRunTransition_eq_ok_iff.mp moved
      have found := requireRun_eq_ok_iff.mp loaded
      obtain rfl := Table.key_of_lookup found
      have sameId : updated.runId = current.runId := by rw [row]; rfl
      refine inserted recorded rfl fun fresh => ?_
      exact .returned (mirrors.rewritten updated.toRunRow (sameId ▸ found) (by rw [row]; rfl) rfl)

/-! ## Accepting events -/

/-- The key texts of an event. -/
structure KnownEvent (texts : Set String) (event : PullRequestEvent) : Prop where
  pull : pullText event.pullRequest ∈ texts
  revision : revisionText event.pullRequest event.revision ∈ texts

/-- A rewritten or new row keeps its pull request or has the event's. -/
theorem pullRequest_of_rowChange {before : Option RunRow} {row : RunRow}
    (change : RowChange event input before (some row)) :
    (∃ old, before = some old ∧ row.pullRequest = old.pullRequest) ∨
      row.pullRequest = event.pullRequest := by
  cases change with
  | kept => exact .inl ⟨row, rfl, rfl⟩
  | refreshed old _ _ _ => exact .inl ⟨old, rfl, rfl⟩
  | replaced old _ _ _ => exact .inl ⟨old, rfl, rfl⟩
  | created newer => exact .inr rfl

/-- **Pointers after an acceptance.**  Stores are mirrored after an acceptance once
their rows are and the pointers were moved exactly for a created run. -/
theorem accepted {written : SqliteStore Document} {result : AcceptanceResult}
    {grown : FirestoreStore Document} (mirrors : Mirrors sha256 texts sqlite firestore)
    (coherent : sqlite.ledger.Coherent) (ordered : sqlite.ledger.Ordered) (injective : Set.InjOn sha256 texts)
    (known : KnownEvent texts event)
    (acceptance : Acceptance sqlite event input result written)
    (runs : grown.runs.rows = written.runs.rows.map (FirestoreStore.runDocument sha256))
    (deliveries : grown.deliveries = written.deliveries)
    (rest : grown.evidence = firestore.evidence ∧ grown.publications = firestore.publications ∧
      grown.failures = firestore.failures)
    (current : ∀ key, (grown.current.lookup key).map PointerDocument.runId =
      if result.kind = .created ∧ key = FirestoreStore.pullKey sha256 event.pullRequest
      then some input.freshRunId else (firestore.current.lookup key).map PointerDocument.runId)
    (revisions : ∀ key, (grown.revisions.lookup key).map PointerDocument.runId =
      if (result.kind = .created ∨ result.kind = .staleCreated) ∧
        key = FirestoreStore.revisionKey sha256 event.pullRequest event.revision
      then some input.freshRunId else (firestore.revisions.lookup key).map PointerDocument.runId) :
    Mirrors sha256 texts written grown := by
  have accept := acceptance.refines coherent
  obtain ⟨sameEvidence, samePublications, sameFailures⟩ := acceptance.frame
  refine ⟨runs, deliveries, ?_, ?_, ?_, ?_, ?_, ?_⟩
  · rw [rest.1, mirrors.evidence, sameEvidence]
  · rw [rest.2.1, mirrors.publications, samePublications]
  · rw [rest.2.2, mirrors.failures, sameFailures]
  · intro row present
    have change := acceptance.rowChange row.runId
    rw [Table.lookup_of_mem present] at change
    rcases pullRequest_of_rowChange change with ⟨old, found, samePull⟩ | samePull
    · exact samePull ▸ mirrors.keyed (Table.mem_of_lookup found)
    · exact samePull ▸ known.pull
  · intro pull knownPull runId
    have sameKey : FirestoreStore.pullKey sha256 pull =
        FirestoreStore.pullKey sha256 event.pullRequest ↔ pull = event.pullRequest :=
      ⟨fun same => pullText_injective (injective knownPull known.pull same), fun same => by rw [same]⟩
    rw [current, accept.currentId_iff coherent]
    simp only [sameKey]
    split
    · rw [Option.some.injEq, eq_comm]
    · exact mirrors.current knownPull runId
  · intro pull revision knownRevision runId
    have sameKey : FirestoreStore.revisionKey sha256 pull revision =
        FirestoreStore.revisionKey sha256 event.pullRequest event.revision ↔
        pull = event.pullRequest ∧ revision = event.revision := by
      constructor
      · exact fun same => revisionText_injective (injective knownRevision known.revision same)
      · rintro ⟨rfl, rfl⟩
        rfl
    rw [revisions, accept.latestId_iff coherent ordered]
    simp only [sameKey]
    split
    · rw [Option.some.injEq, eq_comm]
    · exact mirrors.revisions knownRevision runId

/-- An event of a revision whose run is reused. -/
theorem acceptPullRequest_of_reused (mirrors : Mirrors sha256 texts sqlite firestore)
    (coherent : sqlite.ledger.Coherent) (ordered : sqlite.ledger.Ordered) (known : KnownEvent texts event)
    (unknown : sqlite.deliveries.lookup event.deliveryId.text = none)
    {current : Option VerificationRun} {run : VerificationRun}
    (currentFound : current.map VerificationRun.toRunRow = sqlite.currentRow event.pullRequest)
    (found : sqlite.duplicateRevision event.pullRequest event.revision = some run.toRunRow)
    (reuses : reusesRevision event current run = true) :
    firestore.acceptPullRequest sha256 event input =
      firestore.acceptDuplicate sha256 event input.now run := by
  have loaded : loadRow (some run.toRunRow) = .ok (some run) := loadRow_eq_ok_iff.mpr rfl
  rw [FirestoreStore.acceptPullRequest, mirrors.deliveries, unknown]
  simp only [mirrors.getCurrent_eq coherent known.pull,
    mirrors.getRevision_eq ordered known.revision, loadRow_eq_ok_iff.mpr currentFound, found,
    loaded, Guard.ok_bind, reuses, if_true]

/-- An event that gets a run of its own. -/
theorem acceptPullRequest_of_new (mirrors : Mirrors sha256 texts sqlite firestore)
    (coherent : sqlite.ledger.Coherent) (ordered : sqlite.ledger.Ordered) (known : KnownEvent texts event)
    (unknown : sqlite.deliveries.lookup event.deliveryId.text = none)
    {current duplicate : Option VerificationRun}
    (currentFound : current.map VerificationRun.toRunRow = sqlite.currentRow event.pullRequest)
    (duplicateFound : duplicate.map VerificationRun.toRunRow =
      sqlite.duplicateRevision event.pullRequest event.revision)
    (notReused : ∀ run, duplicate = some run → reusesRevision event current run = false) :
    firestore.acceptPullRequest sha256 event input =
      firestore.acceptNew sha256 event input current := by
  rw [FirestoreStore.acceptPullRequest, mirrors.deliveries, unknown]
  simp only [mirrors.getCurrent_eq coherent known.pull,
    mirrors.getRevision_eq ordered known.revision, loadRow_eq_ok_iff.mpr currentFound,
    loadRow_eq_ok_iff.mpr duplicateFound, Guard.ok_bind]
  cases duplicate with
  | none => rfl
  | some run => simp only [notReused run rfl, Bool.false_eq_true, if_false]

/-- A reused run in the document store. -/
theorem acceptDuplicate_eq {run : VerificationRun} {shown : RunRow}
    (isShown : shown = if run.headUpdatedAt < event.headUpdatedAt
      then run.toRunRow.refreshed event input.now else run.toRunRow)
    (fresh : firestore.deliveries.lookup event.deliveryId.text = none) :
    firestore.acceptDuplicate sha256 event input.now run =
      .ok (⟨.duplicateRevision, shown⟩, { firestore with
        runs := if run.headUpdatedAt < event.headUpdatedAt
          then firestore.runs.put (FirestoreStore.runDocument sha256 shown) else firestore.runs
        deliveries := firestore.deliveries.insert
          (DeliveryRecord.mk event.deliveryId.text shown.runId input.now) fresh }) := by
  subst isShown
  unfold FirestoreStore.acceptDuplicate
  exact Guard.bind_eq_ok_iff.mpr ⟨_, createDocument_of_fresh fresh, rfl⟩

/-- **A new run in both stores.**  When the rows before the insertion are mirrored,
the document store creates the same run and its pointers follow. -/
theorem created (mirrors : Mirrors sha256 texts sqlite firestore)
    (coherent : sqlite.ledger.Coherent) (ordered : sqlite.ledger.Ordered) (injective : Set.InjOn sha256 texts)
    (known : KnownEvent texts event) (current duplicate : Option VerificationRun)
    (currentFound : current.map VerificationRun.toRunRow = sqlite.currentRow event.pullRequest)
    (duplicateFound : duplicate.map VerificationRun.toRunRow =
      sqlite.duplicateRevision event.pullRequest event.revision)
    (notReused : ∀ run, duplicate = some run → reusesRevision event current run = false)
    {runs : Table RunRow.runId}
    (replaced : (match current with
      | some run => if isStale event current then firestore.runs
          else firestore.runs.put (FirestoreStore.runDocument sha256
            (run.toRunRow.replacedBy input.freshRunId input.now))
      | none => firestore.runs).rows = runs.rows.map (FirestoreStore.runDocument sha256))
    {newer : Option RunId}
    (isNewer : (if isStale event current then current.map fun run => run.runId else none) = newer)
    {kind : AcceptanceKind}
    (isKind : (if isStale event current then AcceptanceKind.staleCreated else .created) = kind)
    (unused : runs.lookup (RunRow.created event input newer).runId = none)
    (unknown : sqlite.deliveries.lookup event.deliveryId.text = none)
    (acceptance : Acceptance sqlite event input ⟨kind, RunRow.created event input newer⟩
      { sqlite with
        runs := runs.insert (RunRow.created event input newer) unused
        deliveries := sqlite.deliveries.insert
          (DeliveryRecord.mk event.deliveryId.text input.freshRunId input.now) unknown }) :
    ∃ grown, firestore.acceptPullRequest sha256 event input =
        .ok (⟨kind, RunRow.created event input newer⟩, grown) ∧
      Mirrors sha256 texts { sqlite with
        runs := runs.insert (RunRow.created event input newer) unused
        deliveries := sqlite.deliveries.insert
          (DeliveryRecord.mk event.deliveryId.text input.freshRunId input.now) unknown } grown := by
  have fresh : firestore.deliveries.lookup event.deliveryId.text = none :=
    mirrors.deliveries ▸ unknown
  obtain ⟨documents, documentCreated, mirrored⟩ := insert_runs replaced unused
  refine ⟨{ firestore with
    runs := documents
    deliveries := firestore.deliveries.insert
      (DeliveryRecord.mk event.deliveryId.text input.freshRunId input.now) fresh
    revisions := firestore.revisions.put (PointerDocument.mk
      (FirestoreStore.revisionKey sha256 event.pullRequest event.revision) input.freshRunId
        event.headUpdatedAt)
    current := if isStale event current then firestore.current
      else firestore.current.put (PointerDocument.mk
        (FirestoreStore.pullKey sha256 event.pullRequest) input.freshRunId input.now) }, ?_, ?_⟩
  · rw [mirrors.acceptPullRequest_of_new coherent ordered known unknown currentFound duplicateFound notReused]
    subst isNewer isKind
    unfold FirestoreStore.acceptNew
    exact Guard.bind_eq_ok_iff.mpr ⟨_, documentCreated,
      Guard.bind_eq_ok_iff.mpr ⟨_, createDocument_of_fresh fresh, rfl⟩⟩
  · refine mirrors.accepted coherent ordered injective known acceptance mirrored
      (Table.insert_congr mirrors.deliveries fresh unknown) ⟨rfl, rfl, rfl⟩ (fun key => ?_)
      fun key => ?_
    · subst isKind
      cases isStale event current with
      | true => simp
      | false =>
          simp only [Bool.false_eq_true, if_false, Table.lookup_put, true_and]
          by_cases same : key = FirestoreStore.pullKey sha256 event.pullRequest
          · rw [if_pos same.symm, if_pos same, Option.map_some]
          · rw [if_neg (Ne.symm same), if_neg same]
    · have isCreated : kind = .created ∨ kind = .staleCreated := by
        subst isKind
        cases isStale event current <;> simp
      simp only [Table.lookup_put, isCreated, true_and]
      by_cases same : key = FirestoreStore.revisionKey sha256 event.pullRequest event.revision
      · rw [if_pos same.symm, if_pos same, Option.map_some]
      · rw [if_neg (Ne.symm same), if_neg same]

/-- **Mirrored stores accept an event alike.** -/
theorem acceptance_mirrored {written : SqliteStore Document} {result : AcceptanceResult}
    (mirrors : Mirrors sha256 texts sqlite firestore)
    (coherent : sqlite.ledger.Coherent) (ordered : sqlite.ledger.Ordered) (injective : Set.InjOn sha256 texts)
    (known : KnownEvent texts event)
    (acceptance : Acceptance sqlite event input result written) :
    ∃ grown, firestore.acceptPullRequest sha256 event input = .ok (result, grown) ∧
      Mirrors sha256 texts written grown := by
  have reached := acceptance
  cases acceptance with
  | redelivered run found =>
      obtain ⟨delivery, isKnown, present⟩ := Option.bind_eq_some_iff.mp found
      refine ⟨firestore, ?_, mirrors⟩
      rw [FirestoreStore.acceptPullRequest, mirrors.deliveries, isKnown]
      simp only [mirrors.getRun_eq, requireRun_eq_ok_iff.mpr present, Guard.ok_bind,
        Guard.pure_eq_ok]
  | kept current run currentFound found reuses notNewer unknown =>
      have fresh : firestore.deliveries.lookup event.deliveryId.text = none :=
        mirrors.deliveries ▸ unknown
      refine ⟨_, (mirrors.acceptPullRequest_of_reused coherent ordered known unknown currentFound found
        reuses).trans (acceptDuplicate_eq (if_neg notNewer).symm fresh), ?_⟩
      refine mirrors.accepted coherent ordered injective known reached ?_
        (Table.insert_congr mirrors.deliveries fresh unknown) ⟨rfl, rfl, rfl⟩
        (fun _ => (if_neg (by simp)).symm) fun _ => (if_neg (by simp)).symm
      rw [if_neg notNewer]
      exact mirrors.runs
  | refreshed current run currentFound found reuses newer unknown =>
      have fresh : firestore.deliveries.lookup event.deliveryId.text = none :=
        mirrors.deliveries ▸ unknown
      refine ⟨_, (mirrors.acceptPullRequest_of_reused coherent ordered known unknown currentFound
        found reuses).trans (acceptDuplicate_eq (if_pos newer).symm fresh), ?_⟩
      refine mirrors.accepted coherent ordered injective known reached ?_
        (Table.insert_congr mirrors.deliveries fresh unknown) ⟨rfl, rfl, rfl⟩
        (fun _ => (if_neg (by simp)).symm) fun _ => (if_neg (by simp)).symm
      rw [if_pos newer]
      exact mirrors.replace_runs _ (duplicateRevision_eq_some found).1
  | stale newer currentFound notNewer unseen fresh unknown =>
      have stale : isStale event (some newer) = true := decide_eq_true notNewer
      refine mirrors.created coherent ordered injective known (some newer) none currentFound.symm
        unseen.symm (fun _ absurdity => by cases absurdity) ?_ (by simp [stale]) (by simp [stale])
        fresh unknown reached
      simp only [stale, if_true]
      exact mirrors.runs
  | superseding older duplicate currentFound newer duplicateFound notReused fresh unknown =>
      have stale : isStale event (some older) = false := decide_eq_false (not_le.mpr newer)
      refine mirrors.created coherent ordered injective known (some older) duplicate
        currentFound.symm duplicateFound notReused ?_ (by simp [stale]) (by simp [stale]) fresh
        unknown reached
      simp only [stale, Bool.false_eq_true, if_false]
      exact mirrors.replace_runs _ (currentRow_eq_some currentFound).1
  | first currentMissing unseen fresh unknown =>
      exact mirrors.created coherent ordered injective known none none currentMissing.symm
        unseen.symm (fun _ absurdity => by cases absurdity) mirrors.runs rfl rfl fresh unknown reached

/-- What a returning acceptance of the document store found, in terms of the
mirrored tables. -/
theorem exists_acceptance {result : AcceptanceResult} {grown : FirestoreStore Document}
    (mirrors : Mirrors sha256 texts sqlite firestore)
    (coherent : sqlite.ledger.Coherent) (ordered : sqlite.ledger.Ordered)
    (known : KnownEvent texts event)
    (returned : firestore.acceptPullRequest sha256 event input = .ok (result, grown)) :
    ∃ answer written, Acceptance sqlite event input answer written := by
  unfold FirestoreStore.acceptPullRequest at returned
  rw [mirrors.deliveries] at returned
  cases unknown : sqlite.deliveries.lookup event.deliveryId.text with
  | some delivery =>
      simp only [unknown, mirrors.getRun_eq, Guard.bind_eq_ok_iff, requireRun_eq_ok_iff] at returned
      obtain ⟨run, present, _⟩ := returned
      refine ⟨_, _, .redelivered run ?_⟩
      rw [duplicateDelivery, unknown, Option.bind_some, present]
  | none =>
      simp only [unknown, mirrors.getCurrent_eq coherent known.pull,
        mirrors.getRevision_eq ordered known.revision, Guard.bind_eq_ok_iff,
        loadRow_eq_ok_iff] at returned
      obtain ⟨current, currentFound, duplicate, duplicateFound, returned⟩ := returned
      have created : (∀ run, duplicate = some run → reusesRevision event current run = false) →
          firestore.acceptNew sha256 event input current = .ok (result, grown) →
          ∃ answer written, Acceptance sqlite event input answer written := by
        intro notReused wasNew
        simp only [FirestoreStore.acceptNew, Guard.bind_eq_ok_iff, createDocument_eq_ok_iff] at wasNew
        obtain ⟨_, ⟨unused, _⟩, _⟩ := wasNew
        cases current with
        | none =>
            have unseen : duplicate = none := by
              cases duplicate with
              | none => rfl
              | some known => exact absurd (notReused known rfl) Bool.noConfusion
            subst unseen
            rw [lookup_documents mirrors.runs, Option.map_eq_none_iff] at unused
            exact ⟨_, _, .first currentFound.symm duplicateFound.symm unused unknown⟩
        | some older =>
            by_cases notNewer : event.headUpdatedAt ≤ older.headUpdatedAt
            · have stale : isStale event (some older) = true := decide_eq_true notNewer
              have unseen : duplicate = none := by
                cases duplicate with
                | none => rfl
                | some known =>
                    have refused := notReused known rfl
                    simp [reusesRevision, notNewer] at refused
              subst unseen
              simp only [stale, if_true] at unused
              rw [lookup_documents mirrors.runs, Option.map_eq_none_iff] at unused
              exact ⟨_, _, .stale older currentFound.symm notNewer duplicateFound.symm unused unknown⟩
            · have stale : isStale event (some older) = false := decide_eq_false notNewer
              have replaced := mirrors.replace_runs
                (older.toRunRow.replacedBy input.freshRunId input.now)
                (currentRow_eq_some currentFound.symm).1
              simp only [stale, Bool.false_eq_true, if_false] at unused
              rw [lookup_documents replaced, Option.map_eq_none_iff] at unused
              exact ⟨_, _, .superseding older duplicate currentFound.symm (not_le.mp notNewer)
                duplicateFound notReused unused unknown⟩
      cases duplicate with
      | none => exact created (fun _ absurdity => by cases absurdity) returned
      | some run =>
          by_cases reuses : reusesRevision event current run = true
          · by_cases newer : run.headUpdatedAt < event.headUpdatedAt
            · exact ⟨_, _, .refreshed current run currentFound duplicateFound.symm reuses newer
                unknown⟩
            · exact ⟨_, _, .kept current run currentFound duplicateFound.symm reuses newer unknown⟩
          · simp only [reuses] at returned
            refine created (fun other isIt => ?_) returned
            rw [← Option.some.inj isIt]
            exact eq_false_of_ne_true reuses

/-- **A returning acceptance of the document store is one of the mirrored tables.** -/
theorem acceptance_of_returned {result : AcceptanceResult} {grown : FirestoreStore Document}
    (mirrors : Mirrors sha256 texts sqlite firestore)
    (coherent : sqlite.ledger.Coherent) (ordered : sqlite.ledger.Ordered)
    (injective : Set.InjOn sha256 texts) (known : KnownEvent texts event)
    (returned : firestore.acceptPullRequest sha256 event input = .ok (result, grown)) :
    ∃ written, Acceptance sqlite event input result written ∧
      Mirrors sha256 texts written grown := by
  obtain ⟨answer, written, acceptance⟩ := mirrors.exists_acceptance coherent ordered known returned
  obtain ⟨other, mirrored, otherMirrors⟩ :=
    mirrors.acceptance_mirrored coherent ordered injective known acceptance
  cases returned.symm.trans mirrored
  exact ⟨written, acceptance, otherMirrors⟩

theorem acceptPullRequest_agrees (mirrors : Mirrors sha256 texts sqlite firestore)
    (invariant : StoreInvariant sqlite clock used) (injective : Set.InjOn sha256 texts)
    (known : KnownEvent texts event) (forward : clock ≤ input.now)
    (unused : input.freshRunId ∉ used) :
    OutcomeAgrees sha256 texts (sqlite.acceptPullRequest event input)
      (firestore.acceptPullRequest sha256 event input) := by
  obtain ⟨⟨result, written⟩, returned⟩ := invariant.acceptPullRequest_returns event forward unused
  obtain ⟨grown, mirrored, grownMirrors⟩ :=
    mirrors.acceptance_mirrored invariant.coherent invariant.ordered injective known
      (acceptPullRequest_cases returned)
  rw [returned, mirrored]
  exact .returned grownMirrors

/-! ## Histories -/

/-- The rows of one pull request, in both stores. -/
theorem filter_pull_eq (mirrors : Mirrors sha256 texts sqlite firestore)
    (injective : Set.InjOn sha256 texts) {repository : String} {prNumber : Int}
    (known : pullKeyText (lower repository) prNumber ∈ texts) :
    (firestore.runs.rows.filter fun document => decide (document.pullRequestKey =
        sha256 (pullKeyText (lower repository) prNumber))).map RunDocument.row =
      sqlite.runs.rows.filter fun row =>
        decide (row.repository.text = lower repository ∧ row.prNumber.value = prNumber) := by
  rw [mirrors.runs, List.filter_map, List.map_map]
  have rowOf : RunDocument.row ∘ FirestoreStore.runDocument sha256 = id := rfl
  rw [rowOf, List.map_id]
  refine List.filter_congr fun row present => ?_
  refine decide_eq_decide.mpr ⟨?_, ?_⟩
  · intro sameKey
    obtain ⟨names, numbers⟩ := pullKeyText_inj (injective (mirrors.keyed present) known sameKey)
    rw [lower_idem] at names
    exact ⟨(lower_repositoryName row.repository).symm.trans names, numbers⟩
  · rintro ⟨names, numbers⟩
    show sha256 (pullKeyText row.repository.text row.prNumber.value) = _
    rw [names, numbers]

theorem auditOrder_antisymm {row other : RunRow} (before : auditOrder row other)
    (after : auditOrder other row) : row.runId = other.runId := by
  unfold auditOrder at before after
  have bits : row.runId.bits.toNat = other.runId.bits.toNat := by omega
  exact RunId.ext_bits (BitVec.eq_of_toNat_eq bits)

instance : Std.Total auditOrder where
  total row other := by
    unfold auditOrder
    omega

instance : IsTrans RunRow auditOrder where
  trans row other third := by
    unfold auditOrder
    omega

/-- The runs of a list of valid rows. -/
theorem exists_loadRows {rows : List RunRow} (valid : ∀ row ∈ rows, row.Valid) :
    ∃ runs, loadRows rows = .ok runs ∧ runs.map VerificationRun.toRunRow = rows := by
  induction rows with
  | nil => exact ⟨[], rfl, rfl⟩
  | cons row rest ih =>
      obtain ⟨later, _, sameRest⟩ := ih fun other mem => valid other (List.mem_cons_of_mem _ mem)
      have same : (⟨row, valid row (List.mem_cons_self ..)⟩ :: later).map
          VerificationRun.toRunRow = row :: rest := by rw [List.map_cons, sameRest]
      exact ⟨_, loadRows_eq_ok_iff.mpr same, same⟩

/-- The audit order sorts stored rows in one way only. -/
theorem auditSorted_unique {rows other : List RunRow} (fromStore : ∀ row ∈ rows, row ∈ sqlite.runs)
    (same : other.Perm rows) : other.insertionSort auditOrder = rows.insertionSort auditOrder := by
  refine List.Perm.eq_of_pairwise ?_ (List.pairwise_insertionSort auditOrder other)
    (List.pairwise_insertionSort auditOrder rows)
    ((List.perm_insertionSort _ _).trans (same.trans (List.perm_insertionSort _ _).symm))
  intro row later mem laterMem before after
  rw [List.mem_insertionSort] at mem laterMem
  exact Table.eq_of_key_eq (fromStore row (same.subset mem)) (fromStore later laterMem)
    (auditOrder_antisymm before after)

theorem listRuns_eq (mirrors : Mirrors sha256 texts sqlite firestore)
    (invariant : StoreInvariant sqlite clock used) (injective : Set.InjOn sha256 texts)
    {repository : String} {prNumber : Int}
    (known : pullKeyText (lower repository) prNumber ∈ texts) :
    firestore.listRuns sha256 repository prNumber = sqlite.listRuns repository prNumber := by
  have sameRows := mirrors.filter_pull_eq injective known
  have fromStore : ∀ row ∈ sqlite.runs.rows.filter (fun row =>
      decide (row.repository.text = lower repository ∧ row.prNumber.value = prNumber)),
      row ∈ sqlite.runs := fun row => List.mem_of_mem_filter
  unfold FirestoreStore.listRuns listRuns
  revert sameRows fromStore
  generalize (sqlite.runs.rows.filter fun row =>
    decide (row.repository.text = lower repository ∧ row.prNumber.value = prNumber)) = rows
  generalize (firestore.runs.rows.filter fun document => decide (document.pullRequestKey =
    sha256 (pullKeyText (lower repository) prNumber))) = documents
  intro sameRows fromStore
  have streamed : ((documents.insertionSort FirestoreStore.streamOrder).map RunDocument.row).Perm
      rows := sameRows ▸ (List.perm_insertionSort _ _).map _
  obtain ⟨sorted, sortedLoaded, sortedRows⟩ := exists_loadRows
    fun row (mem : row ∈ rows.insertionSort auditOrder) =>
      invariant.valid (fromStore row ((List.mem_insertionSort _).mp mem))
  obtain ⟨runs, runsLoaded, runRows⟩ := exists_loadRows
    fun row (mem : row ∈ (documents.insertionSort FirestoreStore.streamOrder).map
      RunDocument.row) => invariant.valid (fromStore row (streamed.subset mem))
  simp only [sortedLoaded, runsLoaded, Guard.ok_bind, Guard.pure_eq_ok]
  refine congrArg Except.ok (List.map_injective_iff.mpr (fun _ _ => VerificationRun.ext_row) ?_)
  rw [sortedRows, ← auditSorted_unique fromStore streamed, ← runRows]
  exact List.map_insertionSort _ _ _ _ fun _ _ _ _ => Iff.rfl

/-! ## Evidence and publication -/

theorem saveEvidence_agrees [DecidableEq Document] {sha256Of : Document → String}
    (mirrors : Mirrors sha256 texts sqlite firestore) (now : Int) (runId : RunId)
    (documentJson : Document) (documentSha256 : String) :
    OutcomeAgrees sha256 texts
      (sqlite.saveEvidence sha256Of now runId documentJson documentSha256)
      (firestore.saveEvidence sha256Of now runId documentJson documentSha256) := by
  unfold saveEvidence FirestoreStore.saveEvidence
  refine .require Iff.rfl rfl fun _ => ?_
  rw [mirrors.getRun_eq, mirrors.evidence]
  refine .bind fun current loaded => ?_
  cases stored : sqlite.evidence.lookup runId with
  | some prior =>
      refine .require Iff.rfl rfl fun _ => ?_
      exact .returned mirrors
  | none =>
      refine inserted stored rfl fun fresh => ?_
      exact .returned { mirrors with evidence := rfl }

/-- Stores stay mirrored when a publication is rewritten. -/
theorem republished (mirrors : Mirrors sha256 texts sqlite firestore)
    (publication : CheckPublication) {old : CheckPublication}
    (found : sqlite.publications.lookup publication.runId = some old) :
    Mirrors sha256 texts
      { sqlite with publications := sqlite.publications.replace publication }
      { firestore with publications := sqlite.publications.put publication } where
  __ := mirrors
  publications := Table.put_of_found found

theorem beginPublication_agrees (mirrors : Mirrors sha256 texts sqlite firestore) (now : Int)
    (runId : RunId) (payloadSha256 : String) :
    OutcomeAgrees sha256 texts (sqlite.beginPublication now runId payloadSha256)
      (firestore.beginPublication now runId payloadSha256) := by
  unfold beginPublication FirestoreStore.beginPublication
  refine .require Iff.rfl rfl fun _ => ?_
  rw [mirrors.getRun_eq, mirrors.publications]
  refine .bind fun current loaded => ?_
  cases started : sqlite.publications.lookup runId with
  | some row =>
      refine .require Iff.rfl rfl fun samePayload => ?_
      obtain rfl := Table.key_of_lookup started
      obtain rfl := samePayload
      exact .returned (mirrors.republished _ started)
  | none =>
      refine inserted started rfl fun fresh => ?_
      exact .returned { mirrors with publications := rfl }

theorem setCheckRunId_agrees (mirrors : Mirrors sha256 texts sqlite firestore) (now : Int)
    (runId : RunId) (checkRunId : Int) :
    OutcomeAgrees sha256 texts (sqlite.setCheckRunId now runId checkRunId)
      (firestore.setCheckRunId now runId checkRunId) := by
  unfold setCheckRunId FirestoreStore.setCheckRunId
  refine .require Iff.rfl rfl fun _ => ?_
  rw [FirestoreStore.updatePublication, mirrors.publications, requirePublication]
  cases started : sqlite.publications.lookup runId with
  | none => exact .raised rfl
  | some row =>
      simp only [Guard.ok_bind]
      refine .require ?_ rfl fun _ => ?_
      · cases row.checkRunId <;> simp
      · obtain rfl := Table.key_of_lookup started
        exact .returned (mirrors.republished _ started)

theorem recordPublicationError_agrees (mirrors : Mirrors sha256 texts sqlite firestore) (now : Int)
    (runId : RunId) (error : String) :
    OutcomeAgrees sha256 texts (sqlite.recordPublicationError now runId error)
      (firestore.recordPublicationError now runId error) := by
  unfold recordPublicationError FirestoreStore.recordPublicationError
  rw [FirestoreStore.updatePublication, mirrors.publications, requirePublication]
  cases started : sqlite.publications.lookup runId with
  | none => exact .raised rfl
  | some row =>
      simp only [Guard.ok_bind]
      rw [Guard.require_of_holds (fun absurdity => absurd rfl absurdity)]
      obtain rfl := Table.key_of_lookup started
      exact .returned (mirrors.republished _ started)

/-! ## One operation -/

variable [DecidableEq Document] (sha256Of : Document → String)

/-- **Every operation agrees** on mirrored stores: equal results or exceptions of one
class, and mirrored stores again. -/
theorem execute_agrees (mirrors : Mirrors sha256 texts sqlite firestore)
    (invariant : StoreInvariant sqlite clock used) (injective : Set.InjOn sha256 texts)
    (forward : clock ≤ input.now) (call : StoreCall Document)
    (known : ∀ text ∈ call.keyTexts, text ∈ texts)
    (unused : ∀ runId ∈ call.drawn input, runId ∉ used) :
    OutcomeAgrees sha256 texts (sqlite.execute sha256Of input call)
      (firestore.execute sha256Of sha256 input call) := by
  cases call with
  | acceptPullRequest event =>
      have knownEvent : KnownEvent texts event :=
        ⟨known _ (List.mem_cons_self ..), known _ (List.mem_cons_of_mem _ (List.mem_cons_self ..))⟩
      exact mirrors.acceptPullRequest_agrees invariant injective knownEvent forward
        (unused _ (List.mem_cons_self ..))
  | getRun runId =>
      show OutcomeAgrees sha256 texts (sqlite.requireRun runId >>= _) (firestore.getRun runId >>= _)
      rw [mirrors.getRun_eq]
      exact .bind fun run _ => .returned mirrors
  | listRuns repository prNumber =>
      show OutcomeAgrees sha256 texts (sqlite.listRuns repository prNumber >>= _)
        (firestore.listRuns sha256 repository prNumber >>= _)
      rw [mirrors.listRuns_eq invariant injective (known _ (List.mem_cons_self ..))]
      exact .bind fun runs _ => .returned mirrors
  | transitionRun runId expectedVersion transition =>
      exact mirrors.transitionRun_agrees input.now runId expectedVersion transition
  | saveEvidence runId documentJson documentSha256 =>
      exact mirrors.saveEvidence_agrees input.now runId documentJson documentSha256
  | getEvidence runId =>
      show OutcomeAgrees sha256 texts (.ok (sqlite.evidence.lookup runId, sqlite))
        (.ok (firestore.evidence.lookup runId, firestore))
      rw [mirrors.evidence]
      exact .returned mirrors
  | beginPublication runId payloadSha256 =>
      exact mirrors.beginPublication_agrees input.now runId payloadSha256
  | getPublication runId =>
      show OutcomeAgrees sha256 texts (.ok (sqlite.publications.lookup runId, sqlite))
        (.ok (firestore.publications.lookup runId, firestore))
      rw [mirrors.publications]
      exact .returned mirrors
  | setCheckRunId runId checkRunId =>
      exact mirrors.setCheckRunId_agrees input.now runId checkRunId
  | recordPublicationError runId error =>
      exact mirrors.recordPublicationError_agrees input.now runId error
  | failRun runId errorCode summary retryable modelUsage rawResponseSha256 =>
      exact mirrors.failRun_agrees invariant input.now runId errorCode summary retryable modelUsage
        rawResponseSha256
  | getFailure runId =>
      show OutcomeAgrees sha256 texts (.ok (sqlite.failures.lookup runId, sqlite))
        (.ok (firestore.failures.lookup runId, firestore))
      rw [mirrors.failures]
      exact .returned mirrors

end Mirrors

/-! ## Sequences of operations -/

section Sequences

variable {Document : Type} [DecidableEq Document] (sha256Of : Document → String)
  (sha256 : String → String)

/-- Two replies agree: equal results, or exceptions of one class. -/
def RepliesAgree {Result : Type} (reply other : Except StoreException Result) : Prop :=
  Guard.Related Eq (fun exception other => exception.exceptionClass = other.exceptionClass)
    reply other

/-- The two stores reply alike at every step of a sequence of operations. -/
def StoresAgree : SqliteStore Document → FirestoreStore Document →
    List (StoreCall Document × StoreInput) → Prop
  | _, _, [] => True
  | sqlite, firestore, (call, input) :: rest =>
      RepliesAgree (sqlite.perform sha256Of input call).1
        (firestore.perform sha256Of sha256 input call).1 ∧
      StoresAgree (sqlite.perform sha256Of input call).2
        (firestore.perform sha256Of sha256 input call).2 rest

variable {sha256Of sha256} {texts : Set String} {sqlite : SqliteStore Document}
  {firestore : FirestoreStore Document}

/-- One performed operation: agreeing replies and mirrored stores. -/
theorem Mirrors.perform_agrees {clock : Int} {used : Set RunId} {input : StoreInput}
    (mirrors : Mirrors sha256 texts sqlite firestore) (sha256Of : Document → String)
    (invariant : StoreInvariant sqlite clock used) (injective : Set.InjOn sha256 texts)
    (forward : clock ≤ input.now) (call : StoreCall Document)
    (known : ∀ text ∈ call.keyTexts, text ∈ texts)
    (unused : ∀ runId ∈ call.drawn input, runId ∉ used) :
    RepliesAgree (sqlite.perform sha256Of input call).1
        (firestore.perform sha256Of sha256 input call).1 ∧
      Mirrors sha256 texts (sqlite.perform sha256Of input call).2
        (firestore.perform sha256Of sha256 input call).2 := by
  have agrees := mirrors.execute_agrees sha256Of invariant injective forward call known unused
  unfold SqliteStore.perform FirestoreStore.perform
  generalize sqlite.execute sha256Of input call = outcome at agrees
  generalize firestore.execute sha256Of sha256 input call = other at agrees
  cases agrees with
  | returned related => exact ⟨.returned related.1, related.2⟩
  | raised related => exact ⟨.raised related, mirrors⟩

/-- Mirrored stores agree along a sequence whose clock does not go back and whose
fresh identifiers are fresh. -/
theorem Mirrors.agree {clock : Int} {used : Set RunId}
    (mirrors : Mirrors sha256 texts sqlite firestore)
    (invariant : StoreInvariant sqlite clock used) (injective : Set.InjOn sha256 texts)
    (calls : List (StoreCall Document × StoreInput))
    (forward : ∀ step ∈ calls, clock ≤ step.2.now)
    (monotone : calls.Pairwise fun step later => step.2.now ≤ later.2.now)
    (known : ∀ step ∈ calls, ∀ text ∈ step.1.keyTexts, text ∈ texts)
    (unused : ∀ step ∈ calls, ∀ runId ∈ step.1.drawn step.2, runId ∉ used)
    (distinct : (calls.flatMap fun step => step.1.drawn step.2).Nodup) :
    StoresAgree sha256Of sha256 sqlite firestore calls := by
  induction calls generalizing sqlite firestore clock used with
  | nil => trivial
  | cons step rest ih =>
      obtain ⟨call, input⟩ := step
      have first : clock ≤ input.now := forward _ (List.mem_cons_self ..)
      obtain ⟨replies, next⟩ := mirrors.perform_agrees sha256Of invariant injective first
        call (known _ (List.mem_cons_self ..)) (unused _ (List.mem_cons_self ..))
      obtain ⟨earlier, later⟩ := List.pairwise_cons.mp monotone
      rw [List.flatMap_cons, List.nodup_append] at distinct
      refine ⟨replies, ih next (invariant.perform first call) earlier later
        (fun other mem => known other (List.mem_cons_of_mem _ mem)) ?_ distinct.2.1⟩
      rintro other mem runId drawn (before | now)
      · exact unused other (List.mem_cons_of_mem _ mem) runId drawn before
      · exact distinct.2.2 runId now runId (List.mem_flatMap.mpr ⟨other, mem, drawn⟩) rfl

end Sequences

end PatchProof
