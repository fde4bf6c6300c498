import PatchProof.Storage.DeliveryOrder

/-!
# Analyzing a pull request on demand

The route `/api/analyze` after its body has been parsed: the allow-list, the pull
request as the resolver reports it, the event that is accepted for it, and the run
whose identifier the caller gets.  The delivery identifier of the event is a digest
of the revision, so a second request for a revision is a redelivery of the first.

Over a sequence of requests for one pull request this answers with the current run
exactly as long as the pull request never returns to a revision that it has left
(`analyze_returns_live_iff`).
-/

set_option autoImplicit false

namespace PatchProof

/-! ## Resolved pull requests -/

/-- Canonical repository and number obtained from a validated URL. -/
structure ParsedPullRequest where
  repository : RepositoryName
  number : PositiveInt
  deriving DecidableEq

/-- Pull request facts resolved by the server.  The URL is the one its identity
determines, which is what the model's validator asks of it. -/
structure ResolvedPullRequest where
  repository : RepositoryName
  number : PositiveInt
  baseSha : GitSha
  headSha : GitSha
  title : BoundedText 1 300
  body : BoundedText 0 8000
  updatedAt : Int
  wellFormed : baseSha.text.length = 40 ∧ headSha.text.length = 40 ∧ baseSha ≠ headSha
  deriving DecidableEq

namespace ResolvedPullRequest

def url (resolved : ResolvedPullRequest) : String :=
  "https://github.com/" ++ resolved.repository.text ++ "/pull/" ++ toString resolved.number.value

def pullRequest (resolved : ResolvedPullRequest) : RepositoryName × PositiveInt :=
  (resolved.repository, resolved.number)

def revision (resolved : ResolvedPullRequest) : GitSha × GitSha :=
  (resolved.baseSha, resolved.headSha)

/-- The text under the delivery identifier. -/
def identity (resolved : ResolvedPullRequest) : String :=
  resolved.repository.text ++ ":" ++ toString resolved.number.value ++ ":" ++
    resolved.baseSha.text ++ ":" ++ resolved.headSha.text

end ResolvedPullRequest

theorem colon_notMem_gitSha (sha : GitSha) : ':' ∉ sha.text.toList := by
  intro mem
  have wellFormed := sha.wellFormed
  simp only [isGitSha, Bool.and_eq_true, List.all_eq_true] at wellFormed
  have hex := wellFormed.2 _ mem
  revert hex
  decide

/-- The identity text tells the revisions apart. -/
theorem ResolvedPullRequest.revision_of_identity_eq {resolved other : ResolvedPullRequest}
    (same : resolved.identity = other.identity) : resolved.revision = other.revision := by
  obtain ⟨fronts, heads⟩ := append_text_inj rfl (colon_notMem_gitSha resolved.headSha)
    (colon_notMem_gitSha other.headSha) same
  obtain ⟨_, bases⟩ := append_text_inj rfl (colon_notMem_gitSha resolved.baseSha)
    (colon_notMem_gitSha other.baseSha) fronts
  exact Prod.ext (GitSha.ext_text bases) (GitSha.ext_text heads)

/-! ## The route -/

/-- The settings the route reads. -/
structure AnalyzeSettings where
  allowedRepositories : List RepositoryName
  controlUrl : String

/-- Why the resolver gave no pull request. -/
inductive ResolutionFailure where
  | upstream
  | unsafeToResolve
  deriving DecidableEq

/-- One request: what its URL names, what the resolver answers, whether the task
queue takes a task at this moment, and what the store may draw. -/
structure AnalyzeRequest where
  parsed : ParsedPullRequest
  resolution : Except ResolutionFailure ResolvedPullRequest
  dispatches : Bool
  input : StoreInput

/-- Fast acknowledgement for one durable asynchronous cloud run. -/
structure AnalyzeResponse where
  runId : RunId
  status : String
  prUrl : String
  dashboardUrl : String
  resultUrl : String
  deriving DecidableEq

/-- A refusal with its status code and detail, or an exception that nothing catches. -/
inductive AnalyzeFailure where
  | http (status : Nat) (detail : String)
  | store (exception : StoreException)
  deriving DecidableEq

section Route

variable (digest : String → Sha256)

/-- The delivery identifier of a resolved revision. -/
def productDeliveryId (resolved : ResolvedPullRequest) : BoundedText 1 128 where
  text := "product-" ++ (digest resolved.identity).text
  bounded := by
    have sized : (digest resolved.identity).text.length = 64 := by
      have wellFormed := (digest resolved.identity).wellFormed
      simp only [isSha256, Bool.and_eq_true, beq_iff_eq] at wellFormed
      exact wellFormed.1
    rw [String.length_append, sized]
    decide

/-- The event that is accepted for a resolved pull request. -/
def analyzeEvent (resolved : ResolvedPullRequest) : PullRequestEvent where
  deliveryId := productDeliveryId digest resolved
  action := ⟨"patchproof_analyze", by decide⟩
  repository := resolved.repository
  prNumber := resolved.number
  baseSha := resolved.baseSha
  headSha := resolved.headSha
  headUpdatedAt := resolved.updatedAt
  title := resolved.title
  body := resolved.body
  installationId := none

variable {Store : Type}
  (deliver : Store → EventDelivery → Except StoreException AcceptanceResult × Store)
  (settings : AnalyzeSettings)

/-- Accept one resolved pull request and hand its run to the task queue. -/
def analyze (store : Store) (request : AnalyzeRequest) :
    Except AnalyzeFailure AnalyzeResponse × Store :=
  if request.parsed.repository ∉ settings.allowedRepositories then
    (.error (.http 403
      "REPOSITORY_NOT_ALLOWED: repository is not enabled for this deployment"), store)
  else match request.resolution with
    | .error .upstream =>
        (.error (.http 503 ("PR_RESOLUTION_UPSTREAM_FAILED: GitHub pull-request resolution " ++
          "is temporarily unavailable")), store)
    | .error .unsafeToResolve =>
        (.error (.http 422
          "PR_RESOLUTION_FAILED: GitHub pull request could not be resolved safely"), store)
    | .ok resolved =>
        if resolved.repository ≠ request.parsed.repository ∨
            resolved.number ≠ request.parsed.number then
          (.error (.http 502 "PR_RESOLUTION_FAILED: identity mismatch"), store)
        else
          let accepted := deliver store ⟨analyzeEvent digest resolved, request.input⟩
          match accepted.1 with
          | .error exception => (.error (.store exception), accepted.2)
          | .ok acceptance =>
              let run := acceptance.run
              if run.revisionState = .current ∧ run.lifecycle ≠ .terminal ∧
                  request.dispatches = false then
                (.error (.http 503 "Verification dispatch is temporarily unavailable."), accepted.2)
              else
                (.ok {
                  runId := run.runId
                  status := run.lifecycle.value
                  prUrl := resolved.url
                  dashboardUrl := settings.controlUrl ++ "/dashboard?run=" ++ run.runId.text
                  resultUrl := settings.controlUrl ++ "/api/runs/" ++ run.runId.text }, accepted.2)

end Route

/-! ## Sequences of served requests -/

/-- A request that is served: the resolver answers with this pull request, and the
task queue is available. -/
structure ServedRequest where
  resolved : ResolvedPullRequest
  input : StoreInput

def ServedRequest.request (served : ServedRequest) : AnalyzeRequest where
  parsed := ⟨served.resolved.repository, served.resolved.number⟩
  resolution := .ok served.resolved
  dispatches := true
  input := served.input

def ServedRequest.delivery (digest : String → Sha256) (served : ServedRequest) : EventDelivery :=
  ⟨analyzeEvent digest served.resolved, served.input⟩

section Served

variable (digest : String → Sha256) {Store : Type}
  (deliver : Store → EventDelivery → Except StoreException AcceptanceResult × Store)
  (rowsOf : Store → List RunRow) (settings : AnalyzeSettings)

/-- The request is answered with the current run of the pull request, and that run
compares exactly the resolved revisions. -/
def ReturnsLive (store : Store) (served : ServedRequest) : Prop :=
  ∃ response, (analyze digest deliver settings store served.request).1 = .ok response ∧
    ∃ row ∈ rowsOf (analyze digest deliver settings store served.request).2,
      row.runId = response.runId ∧ row.pullRequest = served.resolved.pullRequest ∧
      row.revision = served.resolved.revision ∧ row.revisionState = .current

/-- Every request of a sequence is answered with the current run. -/
def AllReturnLive (store : Store) : List ServedRequest → Prop
  | [] => True
  | served :: rest => ReturnsLive digest deliver rowsOf settings store served ∧
      AllReturnLive (analyze digest deliver settings store served.request).2 rest

/-- A pull request that never returns: each request resolves to the revision of the
request before it or to one that no earlier request resolved to. -/
def NeverReturnsAfter (earlier : List ServedRequest) : List ServedRequest → Prop
  | [] => True
  | served :: rest =>
      (∀ other ∈ earlier, other.resolved.revision = served.resolved.revision →
        ∀ last ∈ earlier.getLast?, last.resolved.revision = served.resolved.revision) ∧
      NeverReturnsAfter (earlier ++ [served]) rest

instance decidableNeverReturnsAfter :
    ∀ earlier requests, Decidable (NeverReturnsAfter earlier requests)
  | _, [] => .isTrue trivial
  | earlier, served :: rest =>
      have := decidableNeverReturnsAfter (earlier ++ [served]) rest
      inferInstanceAs (Decidable (_ ∧ _))

variable {digest deliver rowsOf settings} {store : Store} {served : ServedRequest}

/-- A served request of an allowed repository is answered from its acceptance. -/
theorem analyze_served (allowed : served.resolved.repository ∈ settings.allowedRepositories) :
    (analyze digest deliver settings store served.request).2 =
        (deliver store (served.delivery digest)).2 ∧
      ((∃ exception, (deliver store (served.delivery digest)).1 = .error exception ∧
          (analyze digest deliver settings store served.request).1 = .error (.store exception)) ∨
        ∃ result response, (deliver store (served.delivery digest)).1 = .ok result ∧
          (analyze digest deliver settings store served.request).1 = .ok response ∧
          response.runId = result.run.runId) := by
  unfold analyze
  rw [if_neg (by simpa [ServedRequest.request] using allowed)]
  simp only [ServedRequest.request, ne_eq, not_true_eq_false, or_self, if_false]
  cases outcome : (deliver store (served.delivery digest)).1 with
  | error exception =>
      have sameOutcome : (deliver store ⟨analyzeEvent digest served.resolved, served.input⟩).1 =
          .error exception := outcome
      rw [sameOutcome]
      exact ⟨rfl, .inl ⟨exception, rfl, rfl⟩⟩
  | ok result =>
      have sameOutcome : (deliver store ⟨analyzeEvent digest served.resolved, served.input⟩).1 =
          .ok result := outcome
      rw [sameOutcome]
      simp only [Bool.true_eq_false, and_false, if_false]
      exact ⟨rfl, .inr ⟨result, _, rfl, rfl, rfl⟩⟩

/-- The request returns live exactly when its acceptance does. -/
theorem returnsLive_iff (allowed : served.resolved.repository ∈ settings.allowedRepositories) :
    ReturnsLive digest deliver rowsOf settings store served ↔
      ∃ result, (deliver store (served.delivery digest)).1 = .ok result ∧
        ∃ row ∈ rowsOf (deliver store (served.delivery digest)).2,
          row.runId = result.run.runId ∧ row.pullRequest = served.resolved.pullRequest ∧
          row.revision = served.resolved.revision ∧ row.revisionState = .current := by
  obtain ⟨sameStore, ⟨exception, raised, refused⟩ | ⟨result, response, accepted, answered, sameRun⟩⟩ :=
    (analyze_served allowed :
      (analyze digest deliver settings store served.request).2 = _ ∧ _)
  · constructor
    · rintro ⟨response, answered, _⟩
      rw [refused] at answered
      cases answered
    · rintro ⟨result, accepted, _⟩
      rw [raised] at accepted
      cases accepted
  · unfold ReturnsLive
    rw [sameStore, accepted, answered]
    constructor
    · rintro ⟨_, same, row, present, rowId, facts⟩
      cases same
      exact ⟨result, rfl, row, present, rowId.trans sameRun, facts⟩
    · rintro ⟨_, same, row, present, rowId, facts⟩
      cases same
      exact ⟨response, rfl, row, present, rowId.trans sameRun.symm, facts⟩

end Served

/-! ## What a sequence of served requests leaves behind -/

section History

variable {Document : Type} {digest : String → Sha256} {pull : RepositoryName × PositiveInt}
  {earlier : List ServedRequest} {store : SqliteStore Document} {served : ServedRequest}

open SqliteStore

/-- The store after a sequence of served requests without a return: its rows and
deliveries are those of the requests, and the last one is shown by a valid current run. -/
structure Answered (digest : String → Sha256) (pull : RepositoryName × PositiveInt)
    (earlier : List ServedRequest) (store : SqliteStore Document) : Prop where
  coherent : store.ledger.Coherent
  recorded : ∀ other ∈ earlier, ∃ row,
    store.duplicateDelivery (productDeliveryId digest other.resolved).text = some row ∧
      row.revision = other.resolved.revision
  known : ∀ deliveryId delivery, store.deliveries.lookup deliveryId = some delivery →
    ∃ other ∈ earlier, (productDeliveryId digest other.resolved).text = deliveryId
  rows : ∀ row ∈ store.runs, row.pullRequest = pull ∧
    ∃ other ∈ earlier, row.revision = other.resolved.revision ∧
      row.headUpdatedAt = other.resolved.updatedAt
  identified : ∀ row ∈ store.runs, ∃ other ∈ earlier, row.runId = other.input.freshRunId
  shown : ∀ last ∈ earlier.getLast?, ∃ row,
    store.duplicateDelivery (productDeliveryId digest last.resolved).text = some row ∧
      row.revisionState = .current ∧ row.Valid

theorem Answered.empty : Answered digest pull [] (SqliteStore.empty : SqliteStore Document) where
  coherent := Ledger.blank_coherent
  recorded := fun _ absurdity => by cases absurdity
  known := fun _ _ found => by cases found
  rows := fun _ present => absurd present (Table.not_mem_empty _)
  identified := fun _ present => absurd present (Table.not_mem_empty _)
  shown := fun _ absurdity => by cases absurdity

theorem mem_of_duplicateDelivery {deliveryId : String} {row : RunRow}
    (found : store.duplicateDelivery deliveryId = some row) : row ∈ store.runs := by
  obtain ⟨_, _, present⟩ := Option.bind_eq_some_iff.mp found
  exact Table.mem_of_lookup present

/-- One pull request and one revision make one delivery identifier. -/
theorem productDeliveryId_congr {resolved other : ResolvedPullRequest}
    (samePull : resolved.pullRequest = other.pullRequest)
    (sameRevision : resolved.revision = other.revision) :
    productDeliveryId digest resolved = productDeliveryId digest other := by
  have repository : resolved.repository = other.repository := congrArg Prod.fst samePull
  have number : resolved.number = other.number := congrArg Prod.snd samePull
  have base : resolved.baseSha = other.baseSha := congrArg Prod.fst sameRevision
  have head : resolved.headSha = other.headSha := congrArg Prod.snd sameRevision
  simp only [productDeliveryId, ResolvedPullRequest.identity, repository, number, base, head]

theorem revision_of_productDeliveryId_eq {resolved other : ResolvedPullRequest}
    {texts : Set String} (collisionFree : Set.InjOn digest texts)
    (mem : resolved.identity ∈ texts) (otherMem : other.identity ∈ texts)
    (same : (productDeliveryId digest resolved).text = (productDeliveryId digest other).text) :
    resolved.revision = other.revision := by
  have lists := congrArg String.toList same
  simp only [productDeliveryId, String.toList_append] at lists
  have texts := String.toList_injective (List.append_cancel_left lists)
  have digests : digest resolved.identity = digest other.identity := by
    cases left : digest resolved.identity
    cases right : digest other.identity
    simp only [left, right] at texts
    subst texts
    rfl
  exact ResolvedPullRequest.revision_of_identity_eq (collisionFree mem otherMem digests)

/-! ## A request for a revision that was seen before -/

/-- The acceptance of a revision that was seen before: it is loaded, or it raises. -/
theorem deliver_seen {row : RunRow}
    (found : store.duplicateDelivery (productDeliveryId digest served.resolved).text = some row) :
    (store.deliver (served.delivery digest)).2 = store ∧
      ∀ result, (store.deliver (served.delivery digest)).1 = .ok result ↔
        row.Valid ∧ result = ⟨.duplicateDelivery, row⟩ := by
  have foundEvent : store.duplicateDelivery
      (served.delivery digest).event.deliveryId.text = some row := found
  unfold SqliteStore.deliver acceptPullRequest
  rw [foundEvent]
  by_cases valid : row.Valid
  · simp only [VerificationRun.modelValidate_of_valid valid, Guard.ok_bind, Guard.pure_eq_ok,
      Except.ok.injEq, true_and]
    intro result
    rw [eq_comm]
    exact (and_iff_right valid).symm
  · cases loaded : VerificationRun.modelValidate row with
    | ok run =>
        have sameRow := VerificationRun.modelValidate_eq_ok_iff.mp loaded
        exact absurd (sameRow ▸ run.valid) valid
    | error exception =>
        simp only [loaded, Guard.error_bind, true_and]
        intro result
        constructor
        · intro absurdity
          cases absurdity
        · rintro ⟨isValid, _⟩
          exact absurd isValid valid

/-- A request for the revision of the last one is answered with its run. -/
theorem Answered.repeated (answered : Answered digest pull earlier store)
    (samePull : ∀ other ∈ earlier, other.resolved.pullRequest = served.resolved.pullRequest)
    {last : ServedRequest} (isLast : last ∈ earlier.getLast?)
    (sameRevision : last.resolved.revision = served.resolved.revision) :
    Answered digest pull (earlier ++ [served]) (store.deliver (served.delivery digest)).2 ∧
      ∃ result, (store.deliver (served.delivery digest)).1 = .ok result ∧
        ∃ row ∈ (store.deliver (served.delivery digest)).2.runs.rows,
          row.runId = result.run.runId ∧ row.pullRequest = pull ∧
          row.revision = served.resolved.revision ∧ row.revisionState = .current := by
  have lastMem : last ∈ earlier := List.mem_of_getLast? isLast
  have sameId : productDeliveryId digest last.resolved = productDeliveryId digest served.resolved :=
    productDeliveryId_congr (samePull last lastMem) sameRevision
  obtain ⟨row, found, isCurrent, valid⟩ := answered.shown last isLast
  obtain ⟨other, otherFound, revision⟩ := answered.recorded last lastMem
  obtain rfl := Option.some.inj (found.symm.trans otherFound)
  rw [sameId] at found
  obtain ⟨sameStore, returned⟩ := deliver_seen found
  have present := mem_of_duplicateDelivery found
  rw [sameStore]
  refine ⟨⟨answered.coherent, ?_, ?_, ?_, ?_, ?_⟩, _, (returned _).mpr ⟨valid, rfl⟩, row, present,
    rfl, (answered.rows row present).1, revision.trans sameRevision, isCurrent⟩
  · intro request mem
    rcases List.mem_append.mp mem with old | new
    · exact answered.recorded request old
    · obtain rfl := List.mem_singleton.mp new
      exact ⟨row, found, revision.trans sameRevision⟩
  · intro deliveryId delivery isKnown
    obtain ⟨request, mem, same⟩ := answered.known deliveryId delivery isKnown
    exact ⟨request, List.mem_append_left _ mem, same⟩
  · intro stored storedMem
    obtain ⟨ofPull, request, mem, facts⟩ := answered.rows stored storedMem
    exact ⟨ofPull, request, List.mem_append_left _ mem, facts⟩
  · intro stored storedMem
    obtain ⟨request, mem, same⟩ := answered.identified stored storedMem
    exact ⟨request, List.mem_append_left _ mem, same⟩
  · intro request isServed
    rw [List.getLast?_concat] at isServed
    obtain rfl := Option.some.inj isServed
    exact ⟨row, found, isCurrent, valid⟩

/-- A request for an earlier revision that was left is not answered with a current run. -/
theorem Answered.not_live_of_return (answered : Answered digest pull earlier store)
    (samePull : ∀ other ∈ earlier, other.resolved.pullRequest = served.resolved.pullRequest)
    {other last : ServedRequest} (otherMem : other ∈ earlier)
    (sameRevision : other.resolved.revision = served.resolved.revision)
    (isLast : last ∈ earlier.getLast?)
    (left : last.resolved.revision ≠ served.resolved.revision) :
    ¬ ∃ result, (store.deliver (served.delivery digest)).1 = .ok result ∧
        ∃ row ∈ (store.deliver (served.delivery digest)).2.runs.rows,
          row.runId = result.run.runId ∧ row.pullRequest = pull ∧
          row.revision = served.resolved.revision ∧ row.revisionState = .current := by
  rintro ⟨result, accepted, row, present, sameRun, ofPull, revision, isCurrent⟩
  have sameId : productDeliveryId digest other.resolved =
      productDeliveryId digest served.resolved :=
    productDeliveryId_congr (samePull other otherMem) sameRevision
  obtain ⟨recorded, found, _⟩ := answered.recorded other otherMem
  rw [sameId] at found
  obtain ⟨sameStore, _⟩ := deliver_seen found
  rw [sameStore] at present
  obtain ⟨newest, shown, newestCurrent, _⟩ := answered.shown last isLast
  obtain ⟨again, againFound, newestRevision⟩ :=
    answered.recorded last (List.mem_of_getLast? isLast)
  obtain rfl := Option.some.inj (shown.symm.trans againFound)
  have newestMem := mem_of_duplicateDelivery shown
  -- Only one run is current, and the last request is shown by it.
  have sameCurrent := answered.coherent.currentUnique
    (isCurrent_iff.mpr ⟨row, Table.lookup_of_mem present, rfl, ofPull, isCurrent⟩)
    (isCurrent_iff.mpr ⟨newest, Table.lookup_of_mem newestMem, rfl,
      (answered.rows newest newestMem).1, newestCurrent⟩)
  obtain rfl := Table.eq_of_key_eq present newestMem sameCurrent
  exact left (newestRevision.symm.trans revision)

/-! ## A request for a revision that is new -/

theorem lookup_insert_created (event : PullRequestEvent) (input : StoreInput) (newer : Option RunId)
    {runs : Table RunRow.runId}
    (unused : runs.lookup (RunRow.created event input newer).runId = none) :
    (runs.insert (RunRow.created event input newer) unused).lookup input.freshRunId =
      some (RunRow.created event input newer) :=
  (Table.lookup_insert _).trans (if_pos rfl)

theorem lookup_insert_delivery {deliveries : Table DeliveryRecord.deliveryId}
    (record : DeliveryRecord) (unrecorded : deliveries.lookup record.deliveryId = none)
    (deliveryId : String) :
    (deliveries.insert record unrecorded).lookup deliveryId =
      if record.deliveryId = deliveryId then some record else deliveries.lookup deliveryId :=
  Table.lookup_insert deliveryId

/-- What the acceptance of a new revision that overtakes the current one writes. -/
theorem created_of_new {event : PullRequestEvent} {input : StoreInput} {result : AcceptanceResult}
    {written : SqliteStore Document} (acceptance : Acceptance store event input result written)
    (unknown : store.duplicateDelivery event.deliveryId.text = none)
    (unseen : store.duplicateRevision event.pullRequest event.revision = none)
    (overtakes : ∀ row, store.currentRow event.pullRequest = some row →
      row.headUpdatedAt < event.headUpdatedAt) :
    result.run = RunRow.created event input none ∧
      written.runs.lookup input.freshRunId = some (RunRow.created event input none) ∧
      ∀ deliveryId, written.deliveries.lookup deliveryId =
        if event.deliveryId.text = deliveryId then
          some ⟨event.deliveryId.text, input.freshRunId, input.now⟩
        else store.deliveries.lookup deliveryId := by
  cases acceptance with
  | redelivered run found =>
      rw [unknown] at found
      cases found
  | kept current run currentFound found reuses notNewer unrecorded =>
      rw [unseen] at found
      cases found
  | refreshed current run currentFound found reuses newer unrecorded =>
      rw [unseen] at found
      cases found
  | stale newer currentFound notNewer _ unused unrecorded =>
      exact absurd (overtakes _ currentFound) (not_lt.mpr notNewer)
  | superseding older duplicate currentFound newer duplicateFound notReused unused unrecorded =>
      exact ⟨rfl, lookup_insert_created event input none unused,
        lookup_insert_delivery ⟨event.deliveryId.text, input.freshRunId, input.now⟩ unrecorded⟩
  | first currentMissing _ unused unrecorded =>
      exact ⟨rfl, lookup_insert_created event input none unused,
        lookup_insert_delivery ⟨event.deliveryId.text, input.freshRunId, input.now⟩ unrecorded⟩

/-- A row that an acceptance changes keeps its revision. -/
theorem RowChange.revision_kept {event : PullRequestEvent} {input : StoreInput} {row : RunRow}
    {after : Option RunRow} (change : RowChange event input (some row) after) :
    ∃ later, after = some later ∧ later.revision = row.revision := by
  cases change with
  | kept => exact ⟨row, rfl, rfl⟩
  | refreshed => exact ⟨_, rfl, rfl⟩
  | replaced => exact ⟨_, rfl, rfl⟩

/-- Where a row comes from: the store before, or the event. -/
theorem RowChange.origin {event : PullRequestEvent} {input : StoreInput} {row : RunRow}
    {before : Option RunRow} (change : RowChange event input before (some row)) :
    (∃ old, before = some old ∧ row.pullRequest = old.pullRequest ∧ row.revision = old.revision ∧
        (row.headUpdatedAt = old.headUpdatedAt ∨ row.headUpdatedAt = event.headUpdatedAt ∧
          row.revision = event.revision)) ∨
      (before = none ∧ row.pullRequest = event.pullRequest ∧ row.revision = event.revision ∧
        row.headUpdatedAt = event.headUpdatedAt ∧ row.runId = input.freshRunId) := by
  cases change with
  | kept => exact .inl ⟨row, rfl, rfl, rfl, .inl rfl⟩
  | refreshed old samePull sameRevision => exact .inl ⟨old, rfl, rfl, rfl, .inr ⟨rfl, sameRevision⟩⟩
  | replaced old => exact .inl ⟨old, rfl, rfl, rfl, .inl rfl⟩
  | created newer => exact .inr ⟨rfl, rfl, rfl, rfl, rfl⟩

/-- A request for a revision that no earlier request resolved to is answered with a
run of its own, which is current. -/
theorem Answered.fresh (answered : Answered digest pull earlier store)
    (ofPull : served.resolved.pullRequest = pull)
    (newer : ∀ other ∈ earlier, other.resolved.updatedAt < served.resolved.updatedAt)
    (freshId : ∀ other ∈ earlier, other.input.freshRunId ≠ served.input.freshRunId)
    (newId : ∀ other ∈ earlier, (productDeliveryId digest other.resolved).text ≠
      (productDeliveryId digest served.resolved).text)
    (newRevision : ∀ other ∈ earlier, other.resolved.revision ≠ served.resolved.revision) :
    Answered digest pull (earlier ++ [served]) (store.deliver (served.delivery digest)).2 ∧
      ∃ result, (store.deliver (served.delivery digest)).1 = .ok result ∧
        ∃ row ∈ (store.deliver (served.delivery digest)).2.runs.rows,
          row.runId = result.run.runId ∧ row.pullRequest = pull ∧
          row.revision = served.resolved.revision ∧ row.revisionState = .current := by
  have unrecorded : store.deliveries.lookup (productDeliveryId digest served.resolved).text =
      none := by
    cases found : store.deliveries.lookup (productDeliveryId digest served.resolved).text with
    | none => rfl
    | some delivery =>
        obtain ⟨other, mem, same⟩ := answered.known _ _ found
        exact absurd same (newId other mem)
  have unknown : store.duplicateDelivery (productDeliveryId digest served.resolved).text = none := by
    rw [duplicateDelivery, unrecorded, Option.bind_none]
  have unseen : store.duplicateRevision served.resolved.pullRequest served.resolved.revision =
      none := by
    cases found : store.duplicateRevision served.resolved.pullRequest served.resolved.revision with
    | none => rfl
    | some row =>
        obtain ⟨present, _, revision⟩ := duplicateRevision_eq_some found
        obtain ⟨_, other, mem, ofOther, _⟩ := answered.rows row (Table.mem_of_lookup present)
        exact absurd (ofOther.symm.trans revision) (newRevision other mem)
  have unused : store.runs.lookup served.input.freshRunId = none := by
    cases found : store.runs.lookup served.input.freshRunId with
    | none => rfl
    | some row =>
        obtain ⟨other, mem, same⟩ := answered.identified row (Table.mem_of_lookup found)
        exact absurd (same.symm.trans (Table.key_of_lookup found)) (freshId other mem)
  have overtakes : ∀ row, store.currentRow served.resolved.pullRequest = some row →
      row.headUpdatedAt < served.resolved.updatedAt := by
    intro row found
    obtain ⟨_, other, mem, _, head⟩ :=
      answered.rows row (Table.mem_of_lookup (currentRow_eq_some found).1)
    rw [head]
    exact newer other mem
  have currentValid : ∀ row, store.currentRow served.resolved.pullRequest = some row →
      row.Valid := by
    intro row found
    obtain ⟨present, rowPull, isCurrent⟩ := currentRow_eq_some found
    obtain ⟨other, mem, _⟩ := answered.identified row (Table.mem_of_lookup present)
    obtain ⟨last, isLast⟩ : ∃ last, earlier.getLast? = some last :=
      ⟨_, List.getLast?_eq_some_getLast (List.ne_nil_of_mem mem)⟩
    obtain ⟨shown, shownFound, shownCurrent, valid⟩ := answered.shown last isLast
    have shownMem := mem_of_duplicateDelivery shownFound
    have same := answered.coherent.currentUnique
      (isCurrent_iff.mpr ⟨row, present, rfl, rowPull, isCurrent⟩)
      (isCurrent_iff.mpr ⟨shown, Table.lookup_of_mem shownMem, rfl,
        (answered.rows shown shownMem).1.trans ofPull.symm, shownCurrent⟩)
    exact Table.eq_of_key_eq (Table.mem_of_lookup present) shownMem same ▸ valid
  -- The acceptance loads the current run, finds no run of the revision, and creates one.
  obtain ⟨result, written, returned⟩ : ∃ result written, store.acceptPullRequest
      (analyzeEvent digest served.resolved) served.input = .ok (result, written) := by
    obtain ⟨current, currentLoaded, currentFound⟩ := StoreInvariant.exists_loadRow
      (store.currentRow served.resolved.pullRequest) currentValid
    obtain ⟨⟨result, written⟩, created⟩ : ∃ value, store.acceptNew
        (analyzeEvent digest served.resolved) served.input current = .ok value :=
      StoreInvariant.acceptNew_returns answered.coherent unused currentFound unrecorded
    refine ⟨result, written, ?_⟩
    unfold acceptPullRequest
    rw [show store.duplicateDelivery (analyzeEvent digest served.resolved).deliveryId.text = none
      from unknown, show loadRow (store.currentRow
        (analyzeEvent digest served.resolved).pullRequest) = .ok current from currentLoaded,
      show store.duplicateRevision (analyzeEvent digest served.resolved).pullRequest
        (analyzeEvent digest served.resolved).revision = none from unseen]
    exact created
  have acceptance := acceptPullRequest_cases returned
  obtain ⟨sameRun, stored, deliveries⟩ := created_of_new acceptance unknown unseen overtakes
  have delivered : store.deliver (served.delivery digest) = (.ok result, written) := by
    unfold SqliteStore.deliver ServedRequest.delivery
    rw [returned]
  have shownNow : written.duplicateDelivery (productDeliveryId digest served.resolved).text =
      some (RunRow.created (analyzeEvent digest served.resolved) served.input none) := by
    rw [duplicateDelivery, deliveries]
    exact (congrArg (Option.bind · _) (if_pos rfl)).trans stored
  rw [delivered]
  refine ⟨⟨(acceptance.refines answered.coherent).coherent answered.coherent, ?_, ?_, ?_, ?_, ?_⟩,
    result, rfl, _, Table.mem_of_lookup stored, congrArg RunRow.runId sameRun.symm, ofPull, rfl, rfl⟩
  · intro request mem
    rcases List.mem_append.mp mem with old | new
    · obtain ⟨row, found, revision⟩ := answered.recorded request old
      obtain ⟨delivery, isKnown, present⟩ := Option.bind_eq_some_iff.mp found
      have change := acceptance.rowChange delivery.runId
      rw [present] at change
      obtain ⟨later, laterFound, kept⟩ := change.revision_kept
      have unchanged : written.deliveries.lookup (productDeliveryId digest request.resolved).text =
          some delivery :=
        (deliveries _).trans ((if_neg (Ne.symm (newId request old))).trans isKnown)
      refine ⟨later, ?_, kept.trans revision⟩
      rw [duplicateDelivery, unchanged, Option.bind_some, laterFound]
    · obtain rfl := List.mem_singleton.mp new
      exact ⟨_, shownNow, rfl⟩
  · intro deliveryId delivery isKnown
    rw [deliveries] at isKnown
    split at isKnown
    · rename_i same
      exact ⟨served, List.mem_append_right _ (List.mem_singleton_self _), same⟩
    · obtain ⟨request, mem, same⟩ := answered.known deliveryId delivery isKnown
      exact ⟨request, List.mem_append_left _ mem, same⟩
  · intro row present
    have change := acceptance.rowChange row.runId
    rw [Table.lookup_of_mem present] at change
    rcases change.origin with ⟨old, found, samePull, sameRevision, head⟩ |
      ⟨_, samePull, sameRevision, head, _⟩
    · obtain ⟨oldPull, request, mem, revision, oldHead⟩ :=
        answered.rows old (Table.mem_of_lookup found)
      refine ⟨samePull.trans oldPull, ?_⟩
      rcases head with kept | ⟨refreshed, ofEvent⟩
      · exact ⟨request, List.mem_append_left _ mem, sameRevision.trans revision,
          kept.trans oldHead⟩
      · exact ⟨served, List.mem_append_right _ (List.mem_singleton_self _), ofEvent, refreshed⟩
    · exact ⟨samePull.trans ofPull, served, List.mem_append_right _ (List.mem_singleton_self _),
        sameRevision, head⟩
  · intro row present
    have change := acceptance.rowChange row.runId
    rw [Table.lookup_of_mem present] at change
    rcases change.origin with ⟨old, found, _⟩ | ⟨_, _, _, _, freshRow⟩
    · obtain ⟨request, mem, same⟩ := answered.identified old (Table.mem_of_lookup found)
      exact ⟨request, List.mem_append_left _ mem, (Table.key_of_lookup found).symm.trans same⟩
    · exact ⟨served, List.mem_append_right _ (List.mem_singleton_self _), freshRow⟩
  · intro request isServed
    rw [List.getLast?_concat] at isServed
    obtain rfl := Option.some.inj isServed
    exact ⟨_, shownNow, rfl, RunRow.created_valid _ _ _⟩

/-! ## The document store answers alike -/

/-- A mirrored document store answers alike a delivery that is a redelivery or that
the relational store accepts. -/
theorem deliver_mirrored {sha256 : String → String} {texts : Set String}
    {firestore : FirestoreStore Document} (mirrors : Mirrors sha256 texts store firestore)
    (coherent : store.ledger.Coherent) (ordered : store.ledger.Ordered)
    (injective : Set.InjOn sha256 texts) {delivery : EventDelivery}
    (known : Mirrors.KnownEvent texts delivery.event)
    (answers : (∃ row, store.duplicateDelivery delivery.event.deliveryId.text = some row) ∨
      ∃ result, (store.deliver delivery).1 = .ok result) :
    (∀ result, (FirestoreStore.deliver sha256 firestore delivery).1 = .ok result ↔
      (store.deliver delivery).1 = .ok result) ∧
    Mirrors sha256 texts (store.deliver delivery).2
      (FirestoreStore.deliver sha256 firestore delivery).2 ∧
    (store.deliver delivery).2.ledger.Ordered := by
  unfold SqliteStore.deliver FirestoreStore.deliver at *
  cases returned : store.acceptPullRequest delivery.event delivery.input with
  | ok value =>
      obtain ⟨result, written⟩ := value
      have acceptance := acceptPullRequest_cases returned
      obtain ⟨grown, mirrored, grownMirrors⟩ :=
        mirrors.acceptance_mirrored coherent ordered injective known acceptance
      rw [mirrored]
      exact ⟨fun _ => Iff.rfl, grownMirrors, (acceptance.refines coherent).ordered coherent ordered⟩
  | error exception =>
      rw [returned] at answers
      obtain ⟨row, found⟩ : ∃ row,
          store.duplicateDelivery delivery.event.deliveryId.text = some row := by
        rcases answers with seen | ⟨_, absurdity⟩
        · exact seen
        · cases absurdity
      obtain ⟨record, recorded, present⟩ := Option.bind_eq_some_iff.mp found
      -- Both stores load the run of the recorded delivery.
      have loaded : firestore.getRun record.runId = VerificationRun.modelValidate row := by
        rw [mirrors.getRun_eq, requireRun, present]
      have raised : firestore.acceptPullRequest sha256 delivery.event delivery.input =
          .error exception := by
        rw [acceptPullRequest, found] at returned
        rw [FirestoreStore.acceptPullRequest, mirrors.deliveries, recorded]
        simp only [loaded]
        cases checked : VerificationRun.modelValidate row with
        | ok run =>
            simp only [checked] at returned
            cases returned
        | error other =>
            simp only [checked] at returned
            cases returned
            rfl
      rw [raised]
      refine ⟨fun result => ⟨fun absurdity => ?_, fun absurdity => ?_⟩, mirrors, ordered⟩
      · cases absurdity
      · cases absurdity

/-! ## Whole sequences -/

/-- What a request must be for a sequence to go on: of the pull request, with texts
that the digest tells apart. -/
structure Covered (digest : String → Sha256) (texts : Set String)
    (pull : RepositoryName × PositiveInt) (served : ServedRequest) : Prop where
  ofPull : served.resolved.pullRequest = pull
  identity : served.resolved.identity ∈ texts
  known : Mirrors.KnownEvent texts (analyzeEvent digest served.resolved)

theorem Answered.allReturnLive_iff (answered : Answered digest pull earlier store)
    {settings : AnalyzeSettings} (allowed : pull.1 ∈ settings.allowedRepositories)
    {rest : List ServedRequest} {texts : Set String} (collisionFree : Set.InjOn digest texts)
    (injective : Set.InjOn (fun text => (digest text).text) texts)
    (covered : ∀ served ∈ earlier ++ rest, Covered digest texts pull served)
    (increasing : (earlier ++ rest).Pairwise fun served later =>
      served.resolved.updatedAt < later.resolved.updatedAt)
    (freshIds : (earlier ++ rest).Pairwise fun served later =>
      served.input.freshRunId ≠ later.input.freshRunId)
    {firestore : FirestoreStore Document} (ordered : store.ledger.Ordered)
    (mirrors : Mirrors (fun text => (digest text).text) texts store firestore) :
    (AllReturnLive digest SqliteStore.deliver (fun store => store.runs.rows) settings store rest ↔
      NeverReturnsAfter earlier rest) ∧
    (AllReturnLive digest (FirestoreStore.deliver fun text => (digest text).text)
      (fun store => store.runs.rows.map RunDocument.row) settings firestore rest ↔
      NeverReturnsAfter earlier rest) := by
  induction rest generalizing earlier store firestore with
  | nil => exact ⟨Iff.rfl, Iff.rfl⟩
  | cons served rest ih =>
      have servedCovered := covered served (List.mem_append_right _ (List.mem_cons_self ..))
      have servedPull := servedCovered.ofPull
      have known : Mirrors.KnownEvent _ (served.delivery digest).event := servedCovered.known
      have isAllowed : served.resolved.repository ∈ settings.allowedRepositories := by
        have repository : served.resolved.repository = pull.1 := congrArg Prod.fst servedPull
        rw [repository]
        exact allowed
      have samePull : ∀ other ∈ earlier, other.resolved.pullRequest =
          served.resolved.pullRequest := fun other mem =>
        (covered other (List.mem_append_left _ mem)).ofPull.trans servedPull.symm
      have sameStore : (analyze digest SqliteStore.deliver settings store served.request).2 =
          (store.deliver (served.delivery digest)).2 := (analyze_served isAllowed).1
      have sameDocuments : (analyze digest (FirestoreStore.deliver fun text => (digest text).text)
          settings firestore served.request).2 = (FirestoreStore.deliver
            (fun text => (digest text).text) firestore (served.delivery digest)).2 :=
        (analyze_served isAllowed).1
      have split : earlier ++ served :: rest = (earlier ++ [served]) ++ rest := by simp
      rw [split] at covered increasing freshIds
      simp only [AllReturnLive, NeverReturnsAfter, returnsLive_iff isAllowed, sameStore,
        sameDocuments, servedPull]
      by_cases returns : ∃ other ∈ earlier, other.resolved.revision = served.resolved.revision ∧
          ∃ last ∈ earlier.getLast?, last.resolved.revision ≠ served.resolved.revision
      · obtain ⟨other, mem, sameRevision, last, isLast, left⟩ := returns
        have notLive := answered.not_live_of_return samePull mem sameRevision isLast left
        have notNever : ¬ ∀ other ∈ earlier,
            other.resolved.revision = served.resolved.revision →
              ∀ last ∈ earlier.getLast?, last.resolved.revision = served.resolved.revision :=
          fun never => left (never other mem sameRevision last isLast)
        obtain ⟨row, found, _⟩ := answered.recorded other mem
        rw [productDeliveryId_congr (samePull other mem) sameRevision] at found
        obtain ⟨sameReplies, after, _⟩ := deliver_mirrored mirrors answered.coherent ordered
          injective known (.inl ⟨row, found⟩)
        simp only [sameReplies, rows_of_mirrors after]
        exact ⟨iff_of_false (fun live => notLive live.1) (fun never => notNever never.1),
          iff_of_false (fun live => notLive live.1) (fun never => notNever never.1)⟩
      · have never : ∀ other ∈ earlier, other.resolved.revision = served.resolved.revision →
            ∀ last ∈ earlier.getLast?, last.resolved.revision = served.resolved.revision := by
          intro other mem sameRevision last isLast
          by_contra left
          exact returns ⟨other, mem, sameRevision, last, isLast, left⟩
        have live : Answered digest pull (earlier ++ [served])
              (store.deliver (served.delivery digest)).2 ∧
            ∃ result, (store.deliver (served.delivery digest)).1 = .ok result ∧
              ∃ row ∈ (store.deliver (served.delivery digest)).2.runs.rows,
                row.runId = result.run.runId ∧ row.pullRequest = pull ∧
                row.revision = served.resolved.revision ∧ row.revisionState = .current := by
          by_cases seen : ∃ last ∈ earlier.getLast?,
              last.resolved.revision = served.resolved.revision
          · obtain ⟨last, isLast, sameRevision⟩ := seen
            exact answered.repeated samePull isLast sameRevision
          · have newRevision : ∀ other ∈ earlier,
                other.resolved.revision ≠ served.resolved.revision := by
              intro other mem same
              have isLast := List.getLast?_eq_some_getLast (List.ne_nil_of_mem mem)
              exact seen ⟨_, isLast, never other mem same _ isLast⟩
            refine answered.fresh servedPull ?_ ?_ ?_ newRevision
            · intro other mem
              exact (List.pairwise_append.mp (List.pairwise_append.mp increasing).1).2.2 other mem
                served (List.mem_singleton_self _)
            · intro other mem
              exact (List.pairwise_append.mp (List.pairwise_append.mp freshIds).1).2.2 other mem
                served (List.mem_singleton_self _)
            · intro other mem same
              exact newRevision other mem (revision_of_productDeliveryId_eq collisionFree
                (covered other (by simp [mem])).identity servedCovered.identity same)
        obtain ⟨result, returned, _⟩ := live.2
        obtain ⟨sameReplies, after, orderedAfter⟩ := deliver_mirrored mirrors answered.coherent
          ordered injective known (.inr ⟨result, returned⟩)
        have later := ih live.1 covered increasing freshIds orderedAfter after
        simp only [sameReplies, rows_of_mirrors after]
        exact ⟨⟨fun all => ⟨never, later.1.mp all.2⟩, fun all => ⟨live.2, later.1.mpr all.2⟩⟩,
          ⟨fun all => ⟨never, later.2.mp all.2⟩, fun all => ⟨live.2, later.2.mpr all.2⟩⟩⟩

/-- The texts under the digests of a sequence of requests. -/
def digestTexts (served : List ServedRequest) : Set String :=
  {text | ∃ request ∈ served, text = request.resolved.identity ∨
    text = pullText request.resolved.pullRequest ∨
    text = revisionText request.resolved.pullRequest request.resolved.revision}

/-- **When an analyzed run is live.**  Over a sequence of served requests for one pull
request with increasing timestamps, every request is answered with the current run of
exactly its revisions if and only if the pull request never returns to a revision it
has left; this holds of both stores. -/
theorem analyze_returns_live_iff (Document : Type) (settings : AnalyzeSettings)
    (digest : String → Sha256) (pull : RepositoryName × PositiveInt)
    (allowed : pull.1 ∈ settings.allowedRepositories) (requests : List ServedRequest)
    (ofPull : ∀ served ∈ requests, served.resolved.pullRequest = pull)
    (increasing : requests.Pairwise fun served later =>
      served.resolved.updatedAt < later.resolved.updatedAt)
    (freshIds : (requests.map fun served => served.input.freshRunId).Nodup)
    (collisionFree : Set.InjOn digest (digestTexts requests)) :
    (AllReturnLive digest SqliteStore.deliver (fun store => store.runs.rows) settings
      (SqliteStore.empty : SqliteStore Document) requests ↔ NeverReturnsAfter [] requests) ∧
    (AllReturnLive digest (FirestoreStore.deliver fun text => (digest text).text)
      (fun store => store.runs.rows.map RunDocument.row) settings
      (FirestoreStore.empty : FirestoreStore Document) requests ↔
        NeverReturnsAfter [] requests) := by
  have injective : Set.InjOn (fun text => (digest text).text) (digestTexts requests) := by
    intro text mem other otherMem same
    refine collisionFree mem otherMem ?_
    cases left : digest text
    cases right : digest other
    simp only [left, right] at same
    subst same
    rfl
  refine Answered.empty.allReturnLive_iff allowed collisionFree injective ?_ increasing ?_
    Ledger.blank_ordered .empty
  · intro served mem
    exact ⟨ofPull served mem, ⟨served, mem, .inl rfl⟩, ⟨served, mem, .inr (.inl rfl)⟩,
      ⟨served, mem, .inr (.inr rfl)⟩⟩
  · exact List.pairwise_map.mp freshIds

end History

/-! ## A pull request that returns -/

theorem isLowerHex_digitChar (digit : Fin 16) : isLowerHex (Nat.digitChar digit) = true := by
  revert digit
  decide

/-- A digest for evaluating the definitions: it keeps the separator and the last
character of a text. -/
def sampleDigest (text : String) : Sha256 where
  text := String.ofList (Nat.digitChar ((text.toList.getD 12 '0').toNat % 16) ::
    Nat.digitChar ((text.toList.getLastD '0').toNat % 16) :: List.replicate 62 '0')
  wellFormed := by
    have hex : ∀ number, isLowerHex (Nat.digitChar (number % 16)) = true := fun number =>
      isLowerHex_digitChar ⟨number % 16, Nat.mod_lt _ (by decide)⟩
    simp only [isSha256, String.toList_ofList, List.all_cons, hex, Bool.true_and]
    rfl

theorem emptyBody_bounded : 0 ≤ "".length ∧ "".length ≤ 8000 := by
  decide

/-- A pull request at one of its revisions, for evaluating the definitions. -/
def sampleResolved (head : Char) (updatedAt : Int)
    (isHex : isLowerHex head = true ∧ head ≠ '0' := by decide) : ResolvedPullRequest where
  repository := ⟨"octo/service", isRepositoryName_octo⟩
  number := ⟨7, seven_positive⟩
  baseSha := sampleSha '0' isLowerHex_zero
  headSha := sampleSha head isHex.1
  title := ⟨"Change", by decide⟩
  body := ⟨"", emptyBody_bounded⟩
  updatedAt := updatedAt
  wellFormed := by
    refine ⟨by decide, by simp [sampleSha], fun same => ?_⟩
    have texts := congrArg (fun sha => sha.text.toList.head?) same
    simp only [sampleSha, String.toList_ofList, List.replicate_succ, List.head?_cons,
      Option.some.injEq] at texts
    exact isHex.2 texts.symm

def sampleSettings : AnalyzeSettings := ⟨[⟨"octo/service", isRepositoryName_octo⟩], "https://control"⟩

/-- The pull request leaves its first revision and comes back to it. -/
def returningRequests : List ServedRequest :=
  [⟨sampleResolved 'a' 10, 1, ⟨1⟩⟩, ⟨sampleResolved 'b' 20, 2, ⟨2⟩⟩,
    ⟨sampleResolved 'a' 30, 3, ⟨3⟩⟩]

/-- The request that returns is answered with the superseded run of the first. -/
theorem returning_request_not_live :
    (returningRequests.Pairwise fun served later =>
      served.resolved.updatedAt < later.resolved.updatedAt) ∧
    ¬ AllReturnLive sampleDigest SqliteStore.deliver (fun store => store.runs.rows) sampleSettings
      (SqliteStore.empty : SqliteStore String) returningRequests ∧
    ¬ AllReturnLive sampleDigest (FirestoreStore.deliver fun text => (sampleDigest text).text)
      (fun store => store.runs.rows.map RunDocument.row) sampleSettings
      (FirestoreStore.empty : FirestoreStore String) returningRequests := by
  have notLive : ∀ {Store : Type}
      {deliver : Store → EventDelivery → Except StoreException AcceptanceResult × Store}
      {rowsOf : Store → List RunRow} {store : Store} {served : ServedRequest},
      (analyze sampleDigest deliver sampleSettings store served.request).1.map
          AnalyzeResponse.runId = .ok ⟨1⟩ →
        (∀ row ∈ rowsOf (analyze sampleDigest deliver sampleSettings store served.request).2,
          row.runId = ⟨1⟩ → row.revisionState ≠ .current) →
        ¬ ReturnsLive sampleDigest deliver rowsOf sampleSettings store served := by
    rintro Store deliver rowsOf store served answers superseded
      ⟨response, answered, row, present, sameRun, _, _, isCurrent⟩
    rw [answered] at answers
    exact superseded row present (sameRun.trans (Except.ok.inj answers)) isCurrent
  refine ⟨by decide, fun all => ?_, fun all => ?_⟩
  · exact notLive (by decide +kernel) (by decide +kernel) all.2.2.1
  · exact notLive (by decide +kernel) (by decide +kernel) all.2.2.1

/-- Two revisions, the second of them requested twice. -/
theorem analyze_returns_live_three :
    AllReturnLive sampleDigest SqliteStore.deliver (fun store => store.runs.rows) sampleSettings
      (SqliteStore.empty : SqliteStore String)
      [⟨sampleResolved 'a' 10, 1, ⟨1⟩⟩, ⟨sampleResolved 'b' 20, 2, ⟨2⟩⟩,
        ⟨sampleResolved 'b' 30, 3, ⟨3⟩⟩] := by
  have texts : (digestTexts [⟨sampleResolved 'a' 10, 1, ⟨1⟩⟩, ⟨sampleResolved 'b' 20, 2, ⟨2⟩⟩,
      ⟨sampleResolved 'b' 30, 3, ⟨3⟩⟩]) ⊆ {text | text ∈
        [(sampleResolved 'a' 10).identity, (sampleResolved 'b' 20).identity,
          pullText (sampleResolved 'a' 10).pullRequest,
          revisionText (sampleResolved 'a' 10).pullRequest (sampleResolved 'a' 10).revision,
          revisionText (sampleResolved 'b' 20).pullRequest (sampleResolved 'b' 20).revision]} := by
    rintro text ⟨request, mem, isText⟩
    simp only [List.mem_cons, List.not_mem_nil, or_false] at mem
    rcases mem with rfl | rfl | rfl <;> rcases isText with rfl | rfl | rfl <;> decide +kernel
  refine (analyze_returns_live_iff String sampleSettings sampleDigest
    ((sampleResolved 'a' 10).pullRequest) (by decide) _ (by decide) (by decide) (by decide)
    (Set.InjOn.mono texts ?_)).1.mpr (by decide +kernel)
  intro text mem other otherMem same
  exact List.inj_on_of_nodup_map (by decide +kernel) mem otherMem same

end PatchProof
