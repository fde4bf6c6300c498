import PatchProof.Storage.Acceptance

/-!
# When the operations of the SQLite store return

One equivalence for each operation that writes: it returns exactly under the
stated conditions, and then with the stated result and store.  Everything later
about runs of the store is proved from these and not from the definitions.
-/

set_option autoImplicit false

namespace PatchProof

namespace SqliteStore

variable {Document : Type} {store written : SqliteStore Document} {now : Int} {runId : RunId}

/-- An insert whose key is new returns. -/
theorem insertRow_of_fresh {ρ κ : Type} {key : ρ → κ} [DecidableEq κ] {table : Table key} {row : ρ}
    (fresh : table.lookup (key row) = none) : insertRow table row = .ok (table.insert row fresh) :=
  insertRow_eq_ok_iff.mpr ⟨fresh, rfl⟩

theorem insertRun_of_fresh {table : Table RunRow.runId} (row : RunRow)
    (unique : row.revisionState = .current → ∀ other ∈ table.rows,
      other.pullRequest = row.pullRequest → other.revisionState ≠ .current)
    (fresh : table.lookup row.runId = none) :
    insertRun table row = .ok (table.insert row fresh) :=
  insertRun_eq_ok_iff.mpr ⟨unique, fresh, rfl⟩

/-! ## Moving runs -/

theorem transitionRun_eq_ok_iff {expectedVersion : Int} {transition : RunTransition}
    {updated : VerificationRun} :
    store.transitionRun now runId expectedVersion transition = .ok (updated, written) ↔
      ∃ current : VerificationRun, store.runs.lookup runId = some current.toRunRow ∧
        current.version = expectedVersion ∧ Permits current.toRunRow transition now ∧
        updated.toRunRow = current.toRunRow.transitioned transition now ∧
        written = { store with runs := store.runs.replace updated.toRunRow } := by
  simp only [transitionRun, Guard.bind_eq_ok_iff, requireRun_eq_ok_iff, Guard.require_eq_ok_iff,
    applyRunTransition_eq_ok_iff]
  constructor
  · rintro ⟨current, found, _, version, moved, ⟨permits, row⟩, wrote⟩
    cases wrote
    exact ⟨current, found, version, permits, row, rfl⟩
  · rintro ⟨current, found, version, permits, row, rfl⟩
    exact ⟨current, found, (), version, updated, ⟨permits, row⟩, rfl⟩

/-- What the arguments of `failRun` must look like. -/
structure FailureArguments (errorCode summary : String) (rawResponseSha256 : Option String) :
    Prop where
  code : isErrorCode errorCode = true
  summary : boundedSummary summary ≠ ""
  hash : rawResponseSha256.all isSha256 = true

theorem failRun_eq_ok_iff {errorCode summary : String} {retryable : Bool}
    {modelUsage : Option ModelUsage} {rawResponseSha256 : Option String}
    {failure : RunFailureRecord} :
    store.failRun now runId errorCode summary retryable modelUsage rawResponseSha256 =
        .ok (failure, written) ↔
      FailureArguments errorCode summary rawResponseSha256 ∧
      ∃ current : VerificationRun, store.runs.lookup runId = some current.toRunRow ∧
        ((store.failures.lookup runId = some failure ∧ written = store) ∨
         ∃ fresh : store.failures.lookup failure.runId = none,
          failure = ⟨runId, current.phase, errorCode, boundedSummary summary, retryable, now,
            modelUsage, rawResponseSha256⟩ ∧
          Permits current.toRunRow .failure now ∧
          written = { store with
            runs := store.runs.replace (current.toRunRow.transitioned .failure now)
            failures := store.failures.insert failure fresh }) := by
  simp only [failRun, Guard.require_bind_eq_ok_iff]
  simp only [Guard.bind_eq_ok_iff, requireRun_eq_ok_iff]
  constructor
  · rintro ⟨code, bounded, hash, current, found, returned⟩
    refine ⟨⟨code, bounded, hash⟩, current, found, ?_⟩
    cases prior : store.failures.lookup runId with
    | some recorded =>
        rw [prior] at returned
        cases returned
        exact .inl ⟨rfl, rfl⟩
    | none =>
        simp only [prior, Guard.bind_eq_ok_iff, applyRunTransition_eq_ok_iff,
          insertRow_eq_ok_iff] at returned
        obtain ⟨updated, ⟨permits, row⟩, failures, ⟨_, rfl⟩, wrote⟩ := returned
        cases wrote
        exact .inr ⟨prior, rfl, permits, by rw [row]⟩
  · rintro ⟨⟨code, bounded, hash⟩, current, found, outcome⟩
    refine ⟨code, bounded, hash, current, found, ?_⟩
    rcases outcome with ⟨prior, rfl⟩ | ⟨fresh, rfl, permits, rfl⟩
    · rw [prior]
      rfl
    · have missing : store.failures.lookup runId = none := fresh
      simp only [missing, applyRunTransition_of_permits permits, Guard.ok_bind]
      exact Guard.bind_eq_ok_iff.mpr ⟨_, insertRow_of_fresh fresh, rfl⟩

/-! ## Evidence and publication -/

theorem saveEvidence_eq_ok_iff [DecidableEq Document] {sha256Of : Document → String}
    {documentJson : Document} {sha256 : String} {row : StoredEvidence Document} :
    store.saveEvidence sha256Of now runId documentJson sha256 = .ok (row, written) ↔
      sha256Of documentJson = sha256 ∧
      (∃ current : VerificationRun, store.runs.lookup runId = some current.toRunRow) ∧
      ((store.evidence.lookup runId = some row ∧ row.sha256 = sha256 ∧
          row.documentJson = documentJson ∧ written = store) ∨
       ∃ fresh : store.evidence.lookup row.runId = none,
        row = ⟨runId, documentJson, sha256, now⟩ ∧
        written = { store with evidence := store.evidence.insert row fresh }) := by
  simp only [saveEvidence, Guard.require_bind_eq_ok_iff]
  simp only [Guard.bind_eq_ok_iff, requireRun_eq_ok_iff]
  constructor
  · rintro ⟨hashes, current, found, returned⟩
    refine ⟨hashes, ⟨current, found⟩, ?_⟩
    cases prior : store.evidence.lookup runId with
    | some stored =>
        simp only [prior, Guard.require_bind_eq_ok_iff] at returned
        obtain ⟨⟨sameHash, sameText⟩, wrote⟩ := returned
        cases wrote
        exact .inl ⟨rfl, sameHash, sameText, rfl⟩
    | none =>
        simp only [prior, Guard.bind_eq_ok_iff, insertRow_eq_ok_iff] at returned
        obtain ⟨evidence, ⟨_, rfl⟩, wrote⟩ := returned
        cases wrote
        exact .inr ⟨prior, rfl, rfl⟩
  · rintro ⟨hashes, ⟨current, found⟩, outcome⟩
    refine ⟨hashes, current, found, ?_⟩
    rcases outcome with ⟨prior, sameHash, sameText, rfl⟩ | ⟨fresh, rfl, rfl⟩
    · simp only [prior, Guard.require_bind_eq_ok_iff]
      exact ⟨⟨sameHash, sameText⟩, rfl⟩
    · have missing : store.evidence.lookup runId = none := fresh
      simp only [missing]
      exact Guard.bind_eq_ok_iff.mpr ⟨_, insertRow_of_fresh fresh, rfl⟩

/-- Saving what is stored already is no conflict. -/
theorem saveEvidence_no_conflict [DecidableEq Document] {sha256Of : Document → String}
    {documentJson : Document} {sha256 : String}
    (same : ∀ row, store.evidence.lookup runId = some row →
      row.sha256 = sha256 ∧ row.documentJson = documentJson) (message : String) :
    store.saveEvidence sha256Of now runId documentJson sha256 ≠
      .error (.storedEvidenceConflict message) := by
  intro conflict
  simp only [saveEvidence, Guard.bind_eq_error_iff, Guard.require_eq_error_iff] at conflict
  rcases conflict with ⟨_, mismatch⟩ | ⟨_, _, missing | ⟨current, _, conflict⟩⟩
  · cases mismatch
  · unfold requireRun at missing
    split at missing
    · obtain ⟨_, invalid⟩ := VerificationRun.modelValidate_raises missing
      cases invalid
    · cases missing
  · split at conflict
    · rename_i row found
      simp only [Guard.bind_eq_error_iff, Guard.require_eq_error_iff] at conflict
      rcases conflict with ⟨different, _⟩ | ⟨_, _, returned⟩
      · exact different (same row found)
      · cases returned
    · simp only [Guard.bind_eq_error_iff] at conflict
      rcases conflict with taken | ⟨_, _, returned⟩
      · unfold insertRow at taken
        split at taken <;> cases taken
      · cases returned

theorem beginPublication_eq_ok_iff {payloadSha256 : String} {publication : CheckPublication} :
    store.beginPublication now runId payloadSha256 = .ok (publication, written) ↔
      isSha256 payloadSha256 = true ∧
      (∃ current : VerificationRun, store.runs.lookup runId = some current.toRunRow) ∧
      ((∃ row, store.publications.lookup runId = some row ∧ row.payloadSha256 = payloadSha256 ∧
          publication = { row with
            attemptCount := row.attemptCount + 1, lastError := none, updatedAt := now } ∧
          written = { store with publications := store.publications.replace publication }) ∨
       ∃ fresh : store.publications.lookup publication.runId = none,
        publication = ⟨runId, payloadSha256, none, 1, none, now⟩ ∧
        written = { store with publications := store.publications.insert publication fresh }) := by
  simp only [beginPublication, Guard.require_bind_eq_ok_iff]
  simp only [Guard.bind_eq_ok_iff, requireRun_eq_ok_iff]
  constructor
  · rintro ⟨hash, current, found, returned⟩
    refine ⟨hash, ⟨current, found⟩, ?_⟩
    cases prior : store.publications.lookup runId with
    | some row =>
        simp only [prior, Guard.require_bind_eq_ok_iff] at returned
        obtain ⟨samePayload, wrote⟩ := returned
        cases wrote
        exact .inl ⟨row, rfl, samePayload, rfl, rfl⟩
    | none =>
        simp only [prior, Guard.bind_eq_ok_iff, insertRow_eq_ok_iff] at returned
        obtain ⟨publications, ⟨_, rfl⟩, wrote⟩ := returned
        cases wrote
        exact .inr ⟨prior, rfl, rfl⟩
  · rintro ⟨hash, ⟨current, found⟩, outcome⟩
    refine ⟨hash, current, found, ?_⟩
    rcases outcome with ⟨row, prior, samePayload, rfl, rfl⟩ | ⟨fresh, rfl, rfl⟩
    · simp only [prior, Guard.require_bind_eq_ok_iff]
      exact ⟨samePayload, rfl⟩
    · have missing : store.publications.lookup runId = none := fresh
      simp only [missing]
      exact Guard.bind_eq_ok_iff.mpr ⟨_, insertRow_of_fresh fresh, rfl⟩

theorem requirePublication_eq_ok_iff {row : CheckPublication} :
    store.requirePublication runId = .ok row ↔ store.publications.lookup runId = some row := by
  unfold requirePublication
  cases store.publications.lookup runId <;> simp

theorem setCheckRunId_eq_ok_iff {checkRunId : Int} {publication : CheckPublication} :
    store.setCheckRunId now runId checkRunId = .ok (publication, written) ↔
      0 < checkRunId ∧ ∃ row, store.publications.lookup runId = some row ∧
        (row.checkRunId = none ∨ row.checkRunId = some checkRunId) ∧
        publication = { row with checkRunId := some checkRunId, updatedAt := now } ∧
        written = { store with publications := store.publications.replace publication } := by
  simp only [setCheckRunId, Guard.require_bind_eq_ok_iff]
  simp only [Guard.bind_eq_ok_iff, requirePublication_eq_ok_iff, Guard.require_eq_ok_iff]
  constructor
  · rintro ⟨positive, row, found, _, unidentified, wrote⟩
    cases wrote
    exact ⟨positive, row, found, unidentified, rfl, rfl⟩
  · rintro ⟨positive, row, found, unidentified, rfl, rfl⟩
    exact ⟨positive, row, found, (), unidentified, rfl⟩

theorem recordPublicationError_eq_ok_iff {error : String} {publication : CheckPublication} :
    store.recordPublicationError now runId error = .ok (publication, written) ↔
      ∃ row, store.publications.lookup runId = some row ∧
        publication = { row with
          lastError := some (boundedPublicationError error), updatedAt := now } ∧
        written = { store with publications := store.publications.replace publication } := by
  simp only [recordPublicationError, Guard.bind_eq_ok_iff, requirePublication_eq_ok_iff]
  constructor
  · rintro ⟨row, found, wrote⟩
    cases wrote
    exact ⟨row, found, rfl, rfl⟩
  · rintro ⟨row, found, rfl, rfl⟩
    exact ⟨row, found, rfl⟩

/-! ## Reads leave the store alone -/

theorem requireRun_of_lookup {row : RunRow} (found : store.runs.lookup runId = some row)
    (valid : row.Valid) : store.requireRun runId = .ok ⟨row, valid⟩ :=
  requireRun_eq_ok_iff.mpr found

theorem loadRow_of_valid {row : RunRow} (valid : row.Valid) :
    loadRow (some row) = .ok (some ⟨row, valid⟩) :=
  loadRow_eq_ok_iff.mpr rfl

theorem loadRows_eq_ok_iff {rows : List RunRow} {runs : List VerificationRun} :
    loadRows rows = .ok runs ↔ runs.map VerificationRun.toRunRow = rows := by
  induction rows generalizing runs with
  | nil => cases runs <;> simp [loadRows]
  | cons row rest ih =>
      simp only [loadRows, Guard.bind_eq_ok_iff, VerificationRun.modelValidate_eq_ok_iff, ih]
      cases runs with
      | nil => simp
      | cons run later => simp

end SqliteStore

end PatchProof
