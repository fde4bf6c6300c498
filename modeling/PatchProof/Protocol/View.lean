import PatchProof.Storage.Invariant

/-!
# One run of the store

What the store holds about a single run, and what each operation does to it.  The
operations of other runs leave it alone, an acceptance changes its row in one of the
ways of `RowChange`, and every other operation either writes what its name says or
is refused for a stated reason.  `perform_observed` says so in one statement, and
nothing later looks at a table again.
-/

set_option autoImplicit false

namespace PatchProof

/-- The rows of one run in the four tables that are keyed by runs. -/
structure RunView (Document : Type) where
  row : Option RunRow
  evidence : Option (StoredEvidence Document)
  publication : Option CheckPublication
  failure : Option RunFailureRecord

/-- The run an operation is about. -/
def StoreCall.target {Document : Type} : StoreCall Document → Option RunId
  | .acceptPullRequest _ | .listRuns _ _ => none
  | .getRun runId | .transitionRun runId _ _ | .saveEvidence runId _ _ | .getEvidence runId
  | .beginPublication runId _ | .getPublication runId | .setCheckRunId runId _
  | .recordPublicationError runId _ | .failRun runId _ _ _ _ _ | .getFailure runId => some runId

/-- A publication that is attempted again. -/
def CheckPublication.retried (row : CheckPublication) (now : Int) : CheckPublication :=
  { row with attemptCount := row.attemptCount + 1, lastError := none, updatedAt := now }

/-- A publication whose Check is known. -/
def CheckPublication.identified (row : CheckPublication) (checkRunId now : Int) :
    CheckPublication :=
  { row with checkRunId := some checkRunId, updatedAt := now }

/-- A publication whose last attempt failed. -/
def CheckPublication.noted (row : CheckPublication) (error : String) (now : Int) :
    CheckPublication :=
  { row with lastError := some (boundedPublicationError error), updatedAt := now }

variable {Document : Type}

/-- Whether the view holds a row that can be loaded. -/
def RunView.Loadable (view : RunView Document) : Prop :=
  ∃ run : VerificationRun, view.row = some run.toRunRow

/-- What one operation does to one run. -/
inductive Observed (sha256Of : Document → String) (runId : RunId) (input : StoreInput) :
    (call : StoreCall Document) → Except StoreException call.Result →
      RunView Document → RunView Document → Prop
  | elsewhere {call reply view} (notAcceptance : ∀ event, call ≠ .acceptPullRequest event)
      (different : call.target ≠ some runId) :
      Observed sha256Of runId input call reply view view
  | accepted {event result view row} (change : RowChange event input view.row row) :
      Observed sha256Of runId input (.acceptPullRequest event) (.ok result) view
        { view with row := row }
  | notAccepted {event exception view} :
      Observed sha256Of runId input (.acceptPullRequest event) (.error exception) view view
  | loaded {run view} (found : view.row = some run.toRunRow) :
      Observed sha256Of runId input (.getRun runId) (.ok run) view view
  | notLoaded {exception view} (missing : ¬ view.Loadable) :
      Observed sha256Of runId input (.getRun runId) (.error exception) view view
  | moved {expectedVersion transition view} {current updated : VerificationRun}
      (found : view.row = some current.toRunRow) (version : current.version = expectedVersion)
      (permits : Permits current.toRunRow transition input.now)
      (wrote : updated.toRunRow = current.toRunRow.transitioned transition input.now) :
      Observed sha256Of runId input (.transitionRun runId expectedVersion transition) (.ok updated)
        view { view with row := some updated.toRunRow }
  | notMoved {expectedVersion transition exception view}
      (refused : ∀ current : VerificationRun, view.row = some current.toRunRow →
        current.version = expectedVersion → ¬ Permits current.toRunRow transition input.now) :
      Observed sha256Of runId input (.transitionRun runId expectedVersion transition)
        (.error exception) view view
  | saved {documentJson sha256 view} (hashes : sha256Of documentJson = sha256)
      (present : view.Loadable) (fresh : view.evidence = none) :
      Observed sha256Of runId input (.saveEvidence runId documentJson sha256)
        (.ok ⟨runId, documentJson, sha256, input.now⟩) view
        { view with evidence := some ⟨runId, documentJson, sha256, input.now⟩ }
  | savedBefore {documentJson sha256 view row} (hashes : sha256Of documentJson = sha256)
      (found : view.evidence = some row) (sameHash : row.sha256 = sha256)
      (sameText : row.documentJson = documentJson) :
      Observed sha256Of runId input (.saveEvidence runId documentJson sha256) (.ok row) view view
  | notSaved {documentJson sha256 exception view}
      (refused : sha256Of documentJson = sha256 → view.Loadable → ∃ row,
        view.evidence = some row ∧ ¬ (row.sha256 = sha256 ∧ row.documentJson = documentJson)) :
      Observed sha256Of runId input (.saveEvidence runId documentJson sha256) (.error exception)
        view view
  | readEvidence {view} :
      Observed sha256Of runId input (.getEvidence runId) (.ok view.evidence) view view
  | begun {payloadSha256 view} (present : view.Loadable) (fresh : view.publication = none) :
      Observed sha256Of runId input (.beginPublication runId payloadSha256)
        (.ok ⟨runId, payloadSha256, none, 1, none, input.now⟩) view
        { view with publication := some ⟨runId, payloadSha256, none, 1, none, input.now⟩ }
  | begunAgain {payloadSha256 view} {row : CheckPublication} (found : view.publication = some row)
      (samePayload : row.payloadSha256 = payloadSha256) :
      Observed sha256Of runId input (.beginPublication runId payloadSha256)
        (.ok (row.retried input.now)) view
        { view with publication := some (row.retried input.now) }
  | notBegun {payloadSha256 exception view}
      (refused : isSha256 payloadSha256 = true → view.Loadable → ∃ row : CheckPublication,
        view.publication = some row ∧ row.payloadSha256 ≠ payloadSha256) :
      Observed sha256Of runId input (.beginPublication runId payloadSha256) (.error exception)
        view view
  | readPublication {view} :
      Observed sha256Of runId input (.getPublication runId) (.ok view.publication) view view
  | identified {checkRunId view} {row : CheckPublication} (found : view.publication = some row)
      (unidentified : row.checkRunId = none ∨ row.checkRunId = some checkRunId) :
      Observed sha256Of runId input (.setCheckRunId runId checkRunId)
        (.ok (row.identified checkRunId input.now)) view
        { view with publication := some (row.identified checkRunId input.now) }
  | notIdentified {checkRunId exception view}
      (refused : 0 < checkRunId → ∀ row : CheckPublication, view.publication = some row →
        ¬ (row.checkRunId = none ∨ row.checkRunId = some checkRunId)) :
      Observed sha256Of runId input (.setCheckRunId runId checkRunId) (.error exception) view view
  | noted {error view} {row : CheckPublication} (found : view.publication = some row) :
      Observed sha256Of runId input (.recordPublicationError runId error)
        (.ok (row.noted error input.now)) view
        { view with publication := some (row.noted error input.now) }
  | notNoted {error exception view} (missing : view.publication = none) :
      Observed sha256Of runId input (.recordPublicationError runId error) (.error exception)
        view view
  | failed {errorCode summary retryable modelUsage rawResponseSha256 view}
      {current : VerificationRun} {failure : RunFailureRecord}
      (found : view.row = some current.toRunRow) (fresh : view.failure = none)
      (permits : Permits current.toRunRow .failure input.now) :
      Observed sha256Of runId input
        (.failRun runId errorCode summary retryable modelUsage rawResponseSha256) (.ok failure) view
        { view with
          row := some (current.toRunRow.transitioned .failure input.now)
          failure := some failure }
  | failedBefore {errorCode summary retryable modelUsage rawResponseSha256 view}
      {failure : RunFailureRecord} (found : view.failure = some failure) :
      Observed sha256Of runId input
        (.failRun runId errorCode summary retryable modelUsage rawResponseSha256) (.ok failure)
        view view
  | notFailed {errorCode summary retryable modelUsage rawResponseSha256 exception view}
      (refused : SqliteStore.FailureArguments errorCode summary rawResponseSha256 →
        ∀ current : VerificationRun, view.row = some current.toRunRow →
          ¬ Permits current.toRunRow .failure input.now) :
      Observed sha256Of runId input
        (.failRun runId errorCode summary retryable modelUsage rawResponseSha256)
        (.error exception) view view
  | readFailure {view} :
      Observed sha256Of runId input (.getFailure runId) (.ok view.failure) view view

namespace SqliteStore

variable {store : SqliteStore Document}

/-- What the store holds about one run. -/
def view (store : SqliteStore Document) (runId : RunId) : RunView Document where
  row := store.runs.lookup runId
  evidence := store.evidence.lookup runId
  publication := store.publications.lookup runId
  failure := store.failures.lookup runId

theorem view_ext {view other : RunView Document} (sameRow : view.row = other.row)
    (sameEvidence : view.evidence = other.evidence)
    (samePublication : view.publication = other.publication)
    (sameFailure : view.failure = other.failure) : view = other := by
  cases view
  cases other
  cases sameRow
  cases sameEvidence
  cases samePublication
  cases sameFailure
  rfl

/-- A run is loaded exactly when its row is there and valid. -/
theorem loadable_iff {runId : RunId} :
    (store.view runId).Loadable ↔ ∃ run, store.requireRun runId = .ok run := by
  simp only [RunView.Loadable, view, requireRun_eq_ok_iff]

/-- The view of a run whose row has been replaced. -/
theorem view_replace_row {runId other : RunId} {row old : RunRow} (key : row.runId = runId)
    (found : store.runs.lookup runId = some old) :
    ({ store with runs := store.runs.replace row } : SqliteStore Document).view other =
      if runId = other then { store.view other with row := some row } else store.view other := by
  subst key
  have replaced := lookup_replace_of_found row found other
  split
  · rename_i same
    rw [if_pos same] at replaced
    exact view_ext replaced rfl rfl rfl
  · rename_i different
    rw [if_neg different] at replaced
    exact view_ext replaced rfl rfl rfl

/-- What is observed of an operation about the run itself, or of another run. -/
theorem observed_of_target {sha256Of : Document → String} {input : StoreInput} {runId target : RunId}
    {call : StoreCall Document} {reply : Except StoreException call.Result}
    {written : SqliteStore Document} (about : call.target = some target)
    (own : Observed sha256Of target input call reply (store.view target) (written.view target))
    (others : ∀ other, other ≠ target → written.view other = store.view other) :
    Observed sha256Of runId input call reply (store.view runId) (written.view runId) := by
  by_cases same : runId = target
  · subst same
    exact own
  · rw [others runId same]
    refine .elsewhere (fun event isAcceptance => ?_) ?_
    · rw [isAcceptance] at about
      cases about
    · rw [about]
      exact fun absurdity => same (Option.some.inj absurdity).symm

section Operations

variable {sha256Of : Document → String} {input : StoreInput}

theorem transitionRun_observed {target : RunId} {expectedVersion : Int}
    {transition : RunTransition} {updated : VerificationRun} {written : SqliteStore Document}
    (returned : store.transitionRun input.now target expectedVersion transition =
      .ok (updated, written)) (runId : RunId) :
    Observed sha256Of runId input (.transitionRun target expectedVersion transition) (.ok updated)
      (store.view runId) (written.view runId) := by
  obtain ⟨current, found, version, permits, wrote, rfl⟩ := transitionRun_eq_ok_iff.mp returned
  have currentKey : current.runId = target := Table.key_of_lookup found
  have key : updated.runId = target := (congrArg RunRow.runId wrote).trans currentKey
  refine observed_of_target rfl ?_ fun other different => ?_
  · rw [view_replace_row key found, if_pos rfl]
    exact .moved found version permits wrote
  · rw [view_replace_row key found, if_neg (Ne.symm different)]

theorem transitionRun_refused {target : RunId} {expectedVersion : Int} {transition : RunTransition}
    {exception : StoreException}
    (raised : store.transitionRun input.now target expectedVersion transition =
      .error exception) :
    ∀ current : VerificationRun, (store.view target).row = some current.toRunRow →
      current.version = expectedVersion → ¬ Permits current.toRunRow transition input.now := by
  intro current found version permits
  have returned := transitionRun_eq_ok_iff.mpr ⟨current, found, version, permits,
    (rfl : (⟨_, permits.transitioned_valid current.valid⟩ : VerificationRun).toRunRow = _), rfl⟩
  rw [returned] at raised
  cases raised

theorem failRun_observed {target : RunId} {errorCode summary : String} {retryable : Bool}
    {modelUsage : Option ModelUsage} {rawResponseSha256 : Option String}
    {failure : RunFailureRecord} {written : SqliteStore Document}
    (returned : store.failRun input.now target errorCode summary retryable modelUsage
      rawResponseSha256 = .ok (failure, written)) (runId : RunId) :
    Observed sha256Of runId input
      (.failRun target errorCode summary retryable modelUsage rawResponseSha256) (.ok failure)
      (store.view runId) (written.view runId) := by
  obtain ⟨_, current, found, outcome⟩ := failRun_eq_ok_iff.mp returned
  rcases outcome with ⟨prior, rfl⟩ | ⟨fresh, recorded, permits, rfl⟩
  · exact observed_of_target rfl (.failedBefore prior) fun _ _ => rfl
  · have currentKey : current.runId = target := Table.key_of_lookup found
    have key : (current.toRunRow.transitioned .failure input.now).runId = target := currentKey
    have about : failure.runId = target := congrArg RunFailureRecord.runId recorded
    have rowOf := lookup_replace_of_found (current.toRunRow.transitioned .failure input.now)
      (key.symm ▸ found)
    have failureOf : ∀ other, (store.failures.insert failure fresh).lookup other =
        if failure.runId = other then some failure else store.failures.lookup other :=
      fun other => Table.lookup_insert other
    rw [key] at rowOf
    rw [about] at failureOf
    refine observed_of_target rfl ?_ fun other different => ?_
    · have written : ({ store with
          runs := store.runs.replace (current.toRunRow.transitioned .failure input.now)
          failures := store.failures.insert failure fresh } : SqliteStore Document).view target =
          { store.view target with
            row := some (current.toRunRow.transitioned .failure input.now)
            failure := some failure } :=
        view_ext ((rowOf target).trans (if_pos rfl)) rfl rfl ((failureOf target).trans (if_pos rfl))
      rw [written]
      exact .failed found (about ▸ fresh) permits
    · exact view_ext ((rowOf other).trans (if_neg (Ne.symm different))) rfl rfl
        ((failureOf other).trans (if_neg (Ne.symm different)))

theorem failRun_refused {target : RunId} {errorCode summary : String} {retryable : Bool}
    {modelUsage : Option ModelUsage} {rawResponseSha256 : Option String}
    {exception : StoreException}
    (raised : store.failRun input.now target errorCode summary retryable modelUsage
      rawResponseSha256 = .error exception) :
    FailureArguments errorCode summary rawResponseSha256 →
      ∀ current : VerificationRun, (store.view target).row = some current.toRunRow →
        ¬ Permits current.toRunRow .failure input.now := by
  intro arguments current found permits
  have returns : ∃ value, store.failRun input.now target errorCode summary retryable modelUsage
      rawResponseSha256 = .ok value := by
    cases prior : store.failures.lookup target with
    | some failure =>
        exact ⟨(failure, store), failRun_eq_ok_iff.mpr
          ⟨arguments, current, found, .inl ⟨prior, rfl⟩⟩⟩
    | none =>
        exact ⟨(_, _), failRun_eq_ok_iff.mpr ⟨arguments, current, found,
          .inr ⟨prior, rfl, permits, rfl⟩⟩⟩
  obtain ⟨value, returned⟩ := returns
  rw [returned] at raised
  cases raised

theorem saveEvidence_observed [DecidableEq Document] {target : RunId} {documentJson : Document}
    {sha256 : String} {row : StoredEvidence Document} {written : SqliteStore Document}
    (returned : store.saveEvidence sha256Of input.now target documentJson sha256 =
      .ok (row, written)) (runId : RunId) :
    Observed sha256Of runId input (.saveEvidence target documentJson sha256) (.ok row)
      (store.view runId) (written.view runId) := by
  obtain ⟨hashes, present, outcome⟩ := saveEvidence_eq_ok_iff.mp returned
  rcases outcome with ⟨prior, sameHash, sameText, rfl⟩ | ⟨fresh, rfl, rfl⟩
  · exact observed_of_target rfl (.savedBefore hashes prior sameHash sameText) fun _ _ => rfl
  · have lookups : ∀ other, (store.evidence.insert
        ⟨target, documentJson, sha256, input.now⟩ fresh).lookup other =
          if target = other then some ⟨target, documentJson, sha256, input.now⟩
          else store.evidence.lookup other := fun other => Table.lookup_insert other
    refine observed_of_target rfl ?_ fun other different => ?_
    · have view : ({ store with
          evidence := store.evidence.insert ⟨target, documentJson, sha256, input.now⟩ fresh } :
            SqliteStore Document).view target =
          { store.view target with
            evidence := some ⟨target, documentJson, sha256, input.now⟩ } :=
        view_ext rfl ((lookups target).trans (if_pos rfl)) rfl rfl
      rw [view]
      exact .saved hashes present fresh
    · exact view_ext rfl ((lookups other).trans (if_neg (Ne.symm different))) rfl rfl

theorem saveEvidence_refused [DecidableEq Document] {target : RunId} {documentJson : Document}
    {sha256 : String} {exception : StoreException}
    (raised : store.saveEvidence sha256Of input.now target documentJson sha256 =
      .error exception) :
    sha256Of documentJson = sha256 → (store.view target).Loadable → ∃ row,
      (store.view target).evidence = some row ∧
        ¬ (row.sha256 = sha256 ∧ row.documentJson = documentJson) := by
  intro hashes present
  by_contra accepted
  have returns : ∃ value, store.saveEvidence sha256Of input.now target documentJson sha256 =
      .ok value := by
    cases prior : store.evidence.lookup target with
    | some row =>
        have same : row.sha256 = sha256 ∧ row.documentJson = documentJson := by
          by_contra differs
          exact accepted ⟨row, prior, differs⟩
        exact ⟨(row, store), saveEvidence_eq_ok_iff.mpr
          ⟨hashes, present, .inl ⟨prior, same.1, same.2, rfl⟩⟩⟩
    | none =>
        exact ⟨(_, _), saveEvidence_eq_ok_iff.mpr ⟨hashes, present, .inr ⟨prior, rfl, rfl⟩⟩⟩
  obtain ⟨value, returned⟩ := returns
  rw [returned] at raised
  cases raised

/-- The view of a run whose publication row has been replaced. -/
theorem view_replace_publication {target other : RunId} {row old : CheckPublication}
    (key : row.runId = target) (found : store.publications.lookup target = some old) :
    ({ store with publications := store.publications.replace row } : SqliteStore Document).view
        other =
      if target = other then { store.view other with publication := some row }
      else store.view other := by
  subst key
  split
  · rename_i same
    subst same
    exact view_ext rfl rfl (Table.lookup_replace_self found) rfl
  · rename_i different
    exact view_ext rfl rfl (Table.lookup_replace_ne _ row different) rfl

/-- What is observed of an operation that replaces a publication row. -/
theorem observed_of_replaced {target : RunId} (row : CheckPublication) {old : CheckPublication}
    {call : StoreCall Document} {reply : Except StoreException call.Result}
    (about : call.target = some target) (key : row.runId = target)
    (found : store.publications.lookup target = some old)
    (own : Observed sha256Of target input call reply (store.view target)
      { store.view target with publication := some row }) (runId : RunId) :
    Observed sha256Of runId input call reply (store.view runId)
      (({ store with publications := store.publications.replace row } :
        SqliteStore Document).view runId) := by
  refine observed_of_target about ?_ fun other different => ?_
  · rw [view_replace_publication key found, if_pos rfl]
    exact own
  · rw [view_replace_publication key found, if_neg (Ne.symm different)]

theorem beginPublication_observed {target : RunId} {payloadSha256 : String}
    {publication : CheckPublication} {written : SqliteStore Document}
    (returned : store.beginPublication input.now target payloadSha256 =
      .ok (publication, written)) (runId : RunId) :
    Observed sha256Of runId input (.beginPublication target payloadSha256) (.ok publication)
      (store.view runId) (written.view runId) := by
  obtain ⟨_, present, outcome⟩ := beginPublication_eq_ok_iff.mp returned
  rcases outcome with ⟨row, found, same, rfl, rfl⟩ | ⟨fresh, rfl, rfl⟩
  · have key : row.runId = target := Table.key_of_lookup found
    exact observed_of_replaced (row.retried input.now) rfl key found (.begunAgain found same) runId
  · have lookups : ∀ other, (store.publications.insert
        ⟨target, payloadSha256, none, 1, none, input.now⟩ fresh).lookup other =
          if target = other then some ⟨target, payloadSha256, none, 1, none, input.now⟩
          else store.publications.lookup other := fun other => Table.lookup_insert other
    refine observed_of_target rfl ?_ fun other different => ?_
    · have view : ({ store with
          publications := store.publications.insert
            ⟨target, payloadSha256, none, 1, none, input.now⟩ fresh } :
            SqliteStore Document).view target =
          { store.view target with
            publication := some ⟨target, payloadSha256, none, 1, none, input.now⟩ } :=
        view_ext rfl rfl ((lookups target).trans (if_pos rfl)) rfl
      rw [view]
      exact .begun present fresh
    · exact view_ext rfl rfl ((lookups other).trans (if_neg (Ne.symm different))) rfl

theorem beginPublication_refused {target : RunId} {payloadSha256 : String}
    {exception : StoreException}
    (raised : store.beginPublication input.now target payloadSha256 = .error exception) :
    isSha256 payloadSha256 = true → (store.view target).Loadable → ∃ row : CheckPublication,
      (store.view target).publication = some row ∧ row.payloadSha256 ≠ payloadSha256 := by
  intro hash present
  by_contra accepted
  have returns : ∃ value, store.beginPublication input.now target payloadSha256 = .ok value := by
    cases prior : store.publications.lookup target with
    | some row =>
        have same : row.payloadSha256 = payloadSha256 := by
          by_contra differs
          exact accepted ⟨row, prior, differs⟩
        exact ⟨(_, _), beginPublication_eq_ok_iff.mpr
          ⟨hash, present, .inl ⟨row, prior, same, rfl, rfl⟩⟩⟩
    | none =>
        exact ⟨(_, _), beginPublication_eq_ok_iff.mpr ⟨hash, present, .inr ⟨prior, rfl, rfl⟩⟩⟩
  obtain ⟨value, returned⟩ := returns
  rw [returned] at raised
  cases raised

theorem setCheckRunId_refused {target : RunId} {checkRunId : Int} {exception : StoreException}
    (raised : store.setCheckRunId input.now target checkRunId = .error exception) :
    0 < checkRunId → ∀ row : CheckPublication, (store.view target).publication = some row →
      ¬ (row.checkRunId = none ∨ row.checkRunId = some checkRunId) := by
  intro positive row found unidentified
  have returned : store.setCheckRunId input.now target checkRunId =
      .ok (row.identified checkRunId input.now, _) :=
    setCheckRunId_eq_ok_iff.mpr ⟨positive, row, found, unidentified, rfl, rfl⟩
  rw [returned] at raised
  cases raised

theorem recordPublicationError_refused {target : RunId} {error : String}
    {exception : StoreException}
    (raised : store.recordPublicationError input.now target error = .error exception) :
    (store.view target).publication = none := by
  cases found : store.publications.lookup target with
  | none => exact found
  | some row =>
      have returned : store.recordPublicationError input.now target error =
          .ok (row.noted error input.now, _) :=
        recordPublicationError_eq_ok_iff.mpr ⟨row, found, rfl, rfl⟩
      rw [returned] at raised
      cases raised

/-- What an acceptance does to one run. -/
theorem acceptPullRequest_observed {event : PullRequestEvent} {result : AcceptanceResult}
    {written : SqliteStore Document}
    (returned : store.acceptPullRequest event input = .ok (result, written)) (runId : RunId) :
    Observed sha256Of runId input (.acceptPullRequest event) (.ok result) (store.view runId)
      (written.view runId) := by
  have acceptance := acceptPullRequest_cases returned
  obtain ⟨sameEvidence, samePublications, sameFailures⟩ := acceptance.frame
  have view : written.view runId =
      { store.view runId with row := written.runs.lookup runId } := by
    refine view_ext rfl ?_ ?_ ?_
    · exact congrArg (fun table => table.lookup runId) sameEvidence
    · exact congrArg (fun table => table.lookup runId) samePublications
    · exact congrArg (fun table => table.lookup runId) sameFailures
  rw [view]
  exact .accepted (acceptance.rowChange runId)

/-- **What one operation does to one run.** -/
theorem perform_observed [DecidableEq Document] (store : SqliteStore Document)
    (sha256Of : Document → String) (input : StoreInput) (call : StoreCall Document)
    (runId : RunId) :
    Observed sha256Of runId input call (store.perform sha256Of input call).1 (store.view runId)
      ((store.perform sha256Of input call).2.view runId) := by
  unfold SqliteStore.perform
  cases outcome : store.execute sha256Of input call with
  | ok value =>
      obtain ⟨result, written⟩ := value
      cases call with
      | acceptPullRequest event => exact acceptPullRequest_observed outcome runId
      | getRun target =>
          obtain ⟨run, found, same⟩ := Guard.bind_eq_ok_iff.mp outcome
          cases same
          exact observed_of_target rfl (.loaded (requireRun_eq_ok_iff.mp found)) fun _ _ => rfl
      | listRuns repository prNumber =>
          obtain ⟨runs, found, same⟩ := Guard.bind_eq_ok_iff.mp outcome
          cases same
          exact .elsewhere (fun _ absurdity => by cases absurdity) (Option.some_ne_none runId).symm
      | transitionRun target expectedVersion transition =>
          exact transitionRun_observed outcome runId
      | saveEvidence target documentJson sha256 => exact saveEvidence_observed outcome runId
      | getEvidence target =>
          cases outcome
          have read : Observed sha256Of target input (.getEvidence target)
              (.ok (store.view target).evidence) (store.view target) (store.view target) :=
            .readEvidence
          exact observed_of_target rfl read fun _ _ => rfl
      | beginPublication target payloadSha256 => exact beginPublication_observed outcome runId
      | getPublication target =>
          cases outcome
          have read : Observed sha256Of target input (.getPublication target)
              (.ok (store.view target).publication) (store.view target) (store.view target) :=
            .readPublication
          exact observed_of_target rfl read fun _ _ => rfl
      | setCheckRunId target checkRunId =>
          obtain ⟨_, row, found, unidentified, rfl, rfl⟩ := setCheckRunId_eq_ok_iff.mp outcome
          have key : row.runId = target := Table.key_of_lookup found
          exact observed_of_replaced (row.identified checkRunId input.now) rfl key found
            (.identified found unidentified) runId
      | recordPublicationError target error =>
          obtain ⟨row, found, rfl, rfl⟩ := recordPublicationError_eq_ok_iff.mp outcome
          have key : row.runId = target := Table.key_of_lookup found
          exact observed_of_replaced (row.noted error input.now) rfl key found (.noted found) runId
      | failRun target errorCode summary retryable modelUsage rawResponseSha256 =>
          exact failRun_observed outcome runId
      | getFailure target =>
          cases outcome
          have read : Observed sha256Of target input (.getFailure target)
              (.ok (store.view target).failure) (store.view target) (store.view target) :=
            .readFailure
          exact observed_of_target rfl read fun _ _ => rfl
  | error exception =>
      cases call with
      | acceptPullRequest event => exact .notAccepted
      | getRun target =>
          refine observed_of_target rfl (.notLoaded fun loadable => ?_) fun _ _ => rfl
          obtain ⟨run, found⟩ := loadable_iff.mp loadable
          simp only [execute, found, Guard.ok_bind] at outcome
          cases outcome
      | listRuns repository prNumber =>
          exact .elsewhere (fun _ absurdity => by cases absurdity) (Option.some_ne_none runId).symm
      | transitionRun target expectedVersion transition =>
          exact observed_of_target rfl (.notMoved (transitionRun_refused outcome)) fun _ _ => rfl
      | saveEvidence target documentJson sha256 =>
          exact observed_of_target rfl (.notSaved (saveEvidence_refused outcome)) fun _ _ => rfl
      | getEvidence target => cases outcome
      | beginPublication target payloadSha256 =>
          exact observed_of_target rfl (.notBegun (beginPublication_refused outcome)) fun _ _ => rfl
      | getPublication target => cases outcome
      | setCheckRunId target checkRunId =>
          exact observed_of_target rfl (.notIdentified (setCheckRunId_refused outcome))
            fun _ _ => rfl
      | recordPublicationError target error =>
          exact observed_of_target rfl (.notNoted (recordPublicationError_refused outcome))
            fun _ _ => rfl
      | failRun target errorCode summary retryable modelUsage rawResponseSha256 =>
          exact observed_of_target rfl (.notFailed (failRun_refused outcome)) fun _ _ => rfl
      | getFailure target => cases outcome

end Operations

end SqliteStore

end PatchProof
