import PatchProof.Storage.Agreement

/-!
# The order of deliveries does not matter

Both stores move their ledger by acceptances only, so one argument serves both: an
`Acceptor` is anything that delivers events and has such a ledger.  Whatever the
order of the deliveries and however often they are repeated, the current run of a
pull request shows the newest of the events that were accepted.  With a clock that
does not go back and fresh identifiers every event is accepted.
-/

set_option autoImplicit false

namespace PatchProof

/-! ## Acceptors -/

/-- A store that accepts events by ledger steps. -/
structure Acceptor (State : Type) where
  deliver : State → EventDelivery → Except StoreException AcceptanceResult × State
  models : State → Ledger → Prop
  allowed : EventDelivery → Prop
  refines : ∀ {state ledger delivery}, models state ledger → ledger.Coherent → ledger.Ordered →
    allowed delivery →
    (∃ result grown, (deliver state delivery).1 = .ok result ∧
      Ledger.Accept ledger delivery.event delivery.input.freshRunId result.kind grown ∧
      models (deliver state delivery).2 grown) ∨
    ((∃ exception, (deliver state delivery).1 = .error exception) ∧
      models (deliver state delivery).2 ledger)

namespace Acceptor

variable {State : Type} (acceptor : Acceptor State)

/-- Deliver a sequence of events. -/
def deliverAll (state : State) (deliveries : List EventDelivery) : State :=
  deliveries.foldl (fun reached delivery => (acceptor.deliver reached delivery).2) state

/-- The events of the deliveries that returned. -/
def acceptedEvents (state : State) : List EventDelivery → Set PullRequestEvent
  | [] => ∅
  | delivery :: rest =>
      {event | event = delivery.event ∧
        ∃ result, (acceptor.deliver state delivery).1 = .ok result} ∪
      acceptedEvents (acceptor.deliver state delivery).2 rest

/-- A set of deliveries in which an identifier names one event. -/
def DistinctIds (events : Set PullRequestEvent) : Prop :=
  ∀ event ∈ events, ∀ other ∈ events, event.deliveryId.text = other.deliveryId.text → event = other

variable {acceptor} {pull : RepositoryName × PositiveInt} {events accepted : Set PullRequestEvent}

/-- **A sequence of deliveries keeps track of the newest accepted event.** -/
theorem tracks_deliverAll (distinctIds : DistinctIds events) {state : State} {ledger : Ledger}
    (models : acceptor.models state ledger) (coherent : ledger.Coherent) (ordered : ledger.Ordered)
    (tracks : ledger.Tracks pull accepted) (fromEvents : accepted ⊆ events)
    (deliveries : List EventDelivery)
    (allowed : ∀ delivery ∈ deliveries, acceptor.allowed delivery ∧
      delivery.event.pullRequest = pull ∧ delivery.event ∈ events) :
    ∃ reached : Ledger, acceptor.models (acceptor.deliverAll state deliveries) reached ∧
      reached.Coherent ∧
      reached.Tracks pull (accepted ∪ acceptor.acceptedEvents state deliveries) := by
  induction deliveries generalizing state ledger accepted with
  | nil =>
      refine ⟨ledger, models, coherent, ?_⟩
      rw [acceptedEvents, Set.union_empty]
      exact tracks
  | cons delivery rest ih =>
      obtain ⟨isAllowed, ofPull, isEvent⟩ := allowed delivery (List.mem_cons_self ..)
      have later := fun other mem => allowed other (List.mem_cons_of_mem _ mem)
      rcases acceptor.refines models coherent ordered isAllowed with
        ⟨result, grown, returned, accept, grownModels⟩ | ⟨⟨exception, raised⟩, unchanged⟩
      · have grownTracks : grown.Tracks pull (insert delivery.event accepted) := by
          subst ofPull
          exact accept.tracks coherent tracks fun other mem same =>
            distinctIds other (fromEvents mem) delivery.event isEvent same
        have union : accepted ∪ acceptor.acceptedEvents state (delivery :: rest) =
            insert delivery.event accepted ∪
              acceptor.acceptedEvents (acceptor.deliver state delivery).2 rest := by
          ext event
          simp only [acceptedEvents, returned, Set.mem_union, Set.mem_insert_iff]
          simp only [Set.mem_ofPred_eq, Except.ok.injEq, exists_eq', and_true]
          tauto
        rw [union]
        exact ih grownModels (accept.coherent coherent) (accept.ordered coherent ordered)
          grownTracks (Set.insert_subset isEvent fromEvents) later
      · have same : acceptor.acceptedEvents state (delivery :: rest) =
            acceptor.acceptedEvents (acceptor.deliver state delivery).2 rest := by
          ext event
          simp [acceptedEvents, raised]
        rw [same]
        exact ih unchanged coherent ordered tracks fromEvents later

/-- The ledger shows the newest of a set of events as its one current run. -/
def ShowsNewest (ledger : Ledger) (pull : RepositoryName × PositiveInt)
    (events : Set PullRequestEvent) : Prop :=
  ∃ runId line, ledger.IsCurrent pull runId line ∧
    (∀ other otherLine, ledger.IsCurrent pull other otherLine → other = runId) ∧
    ∀ newest ∈ events, (∀ event ∈ events, event.headUpdatedAt ≤ newest.headUpdatedAt) →
      line.revision = newest.revision ∧ line.headUpdatedAt = newest.headUpdatedAt

/-- Once every event has been accepted, the newest of them is shown. -/
theorem showsNewest_deliverAll (distinctIds : DistinctIds events)
    (distinctHeads : ∀ event ∈ events, ∀ other ∈ events,
      event.headUpdatedAt = other.headUpdatedAt → event = other)
    (nonempty : events.Nonempty) {state : State} (models : acceptor.models state .blank)
    (deliveries : List EventDelivery)
    (allowed : ∀ delivery ∈ deliveries, acceptor.allowed delivery ∧
      delivery.event.pullRequest = pull ∧ delivery.event ∈ events)
    (allAccepted : acceptor.acceptedEvents state deliveries = events) :
    ∃ reached : Ledger, acceptor.models (acceptor.deliverAll state deliveries) reached ∧
      ShowsNewest reached pull events := by
  obtain ⟨reached, reachedModels, coherent, tracks⟩ := tracks_deliverAll distinctIds models
    Ledger.blank_coherent Ledger.blank_ordered (Ledger.blank_tracks pull) (Set.empty_subset _)
    deliveries allowed
  rw [Set.empty_union, allAccepted] at tracks
  refine ⟨reached, reachedModels, ?_⟩
  obtain ⟨runId, line, isCurrent⟩ := tracks.shown nonempty
  refine ⟨runId, line, isCurrent, fun other otherLine otherCurrent =>
    coherent.currentUnique otherCurrent isCurrent, fun newest mem greatest => ?_⟩
  obtain ⟨shown, shownMem, revision, head, shownGreatest⟩ := tracks.newest isCurrent
  have sameHead : shown.headUpdatedAt = newest.headUpdatedAt :=
    Int.le_antisymm (greatest shown shownMem) (shownGreatest newest mem)
  obtain rfl := distinctHeads shown shownMem newest mem sameHead
  exact ⟨revision, head⟩

end Acceptor

/-! ## The two stores as acceptors -/

section Stores

variable {Document : Type}

/-- The relational store and the ledger of its tables. -/
def SqliteStore.acceptor : Acceptor (SqliteStore Document) where
  deliver := SqliteStore.deliver
  models store ledger := store.ledger = ledger
  allowed _ := True
  refines := by
    rintro store _ delivery rfl coherent _ _
    rcases SqliteStore.deliver_ledger coherent delivery with ⟨result, returned, accept⟩ | ⟨raised, same⟩
    · exact .inl ⟨result, _, returned, accept, rfl⟩
    · exact .inr ⟨raised, by rw [same]⟩

namespace FirestoreStore

/-- Deliver one event: what the caller sees, and the store afterwards. -/
def deliver (sha256 : String → String) (store : FirestoreStore Document)
    (delivery : EventDelivery) :
    Except StoreException AcceptanceResult × FirestoreStore Document :=
  match store.acceptPullRequest sha256 delivery.event delivery.input with
  | .ok (result, written) => (.ok result, written)
  | .error exception => (.error exception, store)

/-- The document store and the ledger of the tables it mirrors. -/
def acceptor (sha256 : String → String) (texts : Set String) (injective : Set.InjOn sha256 texts) :
    Acceptor (FirestoreStore Document) where
  deliver := deliver sha256
  models store ledger := ∃ sqlite, Mirrors sha256 texts sqlite store ∧ sqlite.ledger = ledger
  allowed delivery := Mirrors.KnownEvent texts delivery.event
  refines := by
    rintro store _ delivery ⟨sqlite, mirrors, rfl⟩ coherent ordered known
    unfold deliver
    cases returned : store.acceptPullRequest sha256 delivery.event delivery.input with
    | error exception => exact .inr ⟨⟨exception, rfl⟩, sqlite, mirrors, rfl⟩
    | ok value =>
        obtain ⟨result, grown⟩ := value
        obtain ⟨written, acceptance, grownMirrors⟩ :=
          mirrors.acceptance_of_returned coherent ordered injective known returned
        exact .inl ⟨result, written.ledger, rfl, acceptance.refines coherent, written,
          grownMirrors, rfl⟩

end FirestoreStore

/-- Deliver a sequence of events. -/
def FirestoreStore.deliverAll (sha256 : String → String) (store : FirestoreStore Document)
    (deliveries : List EventDelivery) : FirestoreStore Document :=
  deliveries.foldl (fun reached delivery => (reached.deliver sha256 delivery).2) store

/-- The events of a sequence of deliveries. -/
def eventsOf (deliveries : List EventDelivery) : Set PullRequestEvent :=
  {event | ∃ delivery ∈ deliveries, delivery.event = event}

/-- The document key texts of a set of events. -/
def keyTextsOf (events : Set PullRequestEvent) : Set String :=
  {text | ∃ event ∈ events, text = pullText event.pullRequest ∨
    text = revisionText event.pullRequest event.revision}

/-- With a clock that does not go back and fresh identifiers, both stores accept
every event. -/
theorem accepts_all {sha256 : String → String} {texts : Set String}
    (injective : Set.InjOn sha256 texts) {sqlite : SqliteStore Document}
    {firestore : FirestoreStore Document} {clock : Int} {used : Set RunId}
    (mirrors : Mirrors sha256 texts sqlite firestore)
    (invariant : StoreInvariant sqlite clock used) (deliveries : List EventDelivery)
    (known : ∀ delivery ∈ deliveries, Mirrors.KnownEvent texts delivery.event)
    (forward : ∀ delivery ∈ deliveries, clock ≤ delivery.input.now)
    (monotone : deliveries.Pairwise fun delivery later => delivery.input.now ≤ later.input.now)
    (unused : ∀ delivery ∈ deliveries, delivery.input.freshRunId ∉ used)
    (distinct : (deliveries.map fun delivery => delivery.input.freshRunId).Nodup) :
    SqliteStore.acceptor.acceptedEvents sqlite deliveries = eventsOf deliveries ∧
      (FirestoreStore.acceptor sha256 texts injective).acceptedEvents firestore deliveries =
        eventsOf deliveries := by
  induction deliveries generalizing sqlite firestore clock used with
  | nil => simp [Acceptor.acceptedEvents, eventsOf]
  | cons delivery rest ih =>
      have first := forward delivery (List.mem_cons_self ..)
      obtain ⟨⟨result, written⟩, returned⟩ := invariant.acceptPullRequest_returns delivery.event
        first (unused delivery (List.mem_cons_self ..))
      have acceptance := SqliteStore.acceptPullRequest_cases returned
      obtain ⟨grown, mirrored, grownMirrors⟩ := mirrors.acceptance_mirrored invariant.coherent
        invariant.ordered injective (known delivery (List.mem_cons_self ..)) acceptance
      obtain ⟨earlier, later⟩ := List.pairwise_cons.mp monotone
      rw [List.map_cons, List.nodup_cons] at distinct
      have sqliteStep : sqlite.deliver delivery = (.ok result, written) := by
        rw [SqliteStore.deliver, returned]
      have firestoreStep : firestore.deliver sha256 delivery = (.ok result, grown) := by
        rw [FirestoreStore.deliver, mirrored]
      obtain ⟨restSqlite, restFirestore⟩ := ih grownMirrors (invariant.accepted first acceptance)
        (fun other mem => known other (List.mem_cons_of_mem _ mem)) earlier later
        (fun other mem => by
          rintro (same | before)
          · exact distinct.1 (List.mem_map.mpr ⟨other, mem, same⟩)
          · exact unused other (List.mem_cons_of_mem _ mem) before) distinct.2
      have unfolded : eventsOf (delivery :: rest) =
          {event | event = delivery.event} ∪ eventsOf rest := by
        ext event
        simp [eventsOf, eq_comm]
      rw [unfolded, ← restSqlite]
      refine ⟨?_, ?_⟩
      · ext event
        simp [Acceptor.acceptedEvents, SqliteStore.acceptor, sqliteStep]
      · rw [restSqlite, ← restFirestore]
        ext event
        simp [Acceptor.acceptedEvents, FirestoreStore.acceptor, firestoreStep]

/-! ## Delivery-order independence -/

/-- Events of one pull request, told apart by their delivery identifiers and by how
new their HEAD is. -/
structure OnePullRequest (pull : RepositoryName × PositiveInt) (events : Set PullRequestEvent) :
    Prop where
  nonempty : events.Nonempty
  samePull : ∀ event ∈ events, event.pullRequest = pull
  distinctIds : Acceptor.DistinctIds events
  distinctHeads : ∀ event ∈ events, ∀ other ∈ events,
    event.headUpdatedAt = other.headUpdatedAt → event = other

/-- The one current row of a pull request shows the newest of a set of events. -/
def RowsShowNewest (rows : List RunRow) (pull : RepositoryName × PositiveInt)
    (events : Set PullRequestEvent) : Prop :=
  ∃ current ∈ rows, current.pullRequest = pull ∧ current.revisionState = .current ∧
    (∀ other ∈ rows, other.pullRequest = pull → other.revisionState = .current →
      other = current) ∧
    ∀ newest ∈ events, (∀ event ∈ events, event.headUpdatedAt ≤ newest.headUpdatedAt) →
      current.baseSha = newest.baseSha ∧ current.headSha = newest.headSha ∧
      current.headUpdatedAt = newest.headUpdatedAt

theorem rowsShowNewest_of_ledger {store : SqliteStore Document}
    {pull : RepositoryName × PositiveInt} {events : Set PullRequestEvent}
    (shows : Acceptor.ShowsNewest store.ledger pull events) :
    RowsShowNewest store.runs.rows pull events := by
  obtain ⟨runId, line, isCurrent, unique, newest⟩ := shows
  obtain ⟨current, found, rfl, ofPull, rowCurrent⟩ := SqliteStore.isCurrent_iff.mp isCurrent
  refine ⟨current, Table.mem_of_lookup found, ofPull, rowCurrent, ?_, ?_⟩
  · intro other present samePull otherCurrent
    have sameId := unique _ _ (SqliteStore.isCurrent_iff.mpr
      ⟨other, Table.lookup_of_mem present, rfl, samePull, otherCurrent⟩)
    exact Table.eq_of_key_eq present (Table.mem_of_lookup found)
      (sameId.trans (Table.key_of_lookup found).symm)
  · intro event mem greatest
    obtain ⟨revision, head⟩ := newest event mem greatest
    have pair : (current.baseSha, current.headSha) = (event.baseSha, event.headSha) := revision
    exact ⟨congrArg Prod.fst pair, congrArg Prod.snd pair, head⟩

theorem rows_of_mirrors {sha256 : String → String} {texts : Set String}
    {sqlite : SqliteStore Document} {firestore : FirestoreStore Document}
    (mirrors : Mirrors sha256 texts sqlite firestore) :
    firestore.runs.rows.map RunDocument.row = sqlite.runs.rows := by
  rw [mirrors.runs, List.map_map]
  exact List.map_id _

variable {sha256 : String → String} {pull : RepositoryName × PositiveInt}

/-- Once every event was accepted, the relational store shows the newest. -/
theorem sqlite_showsNewest (Document : Type) (deliveries : List EventDelivery)
    (history : OnePullRequest pull (eventsOf deliveries))
    (allAccepted : SqliteStore.acceptor.acceptedEvents (SqliteStore.empty : SqliteStore Document)
      deliveries = eventsOf deliveries) :
    RowsShowNewest ((SqliteStore.empty : SqliteStore Document).deliverAll deliveries).runs.rows pull
      (eventsOf deliveries) := by
  obtain ⟨_, rfl, shows⟩ := Acceptor.showsNewest_deliverAll history.distinctIds
    history.distinctHeads history.nonempty SqliteStore.ledger_empty deliveries
    (fun delivery mem => ⟨trivial, history.samePull _ ⟨delivery, mem, rfl⟩, delivery, mem, rfl⟩)
    allAccepted
  exact rowsShowNewest_of_ledger shows

theorem knownEvent_of_mem {deliveries : List EventDelivery} {delivery : EventDelivery}
    (mem : delivery ∈ deliveries) :
    Mirrors.KnownEvent (keyTextsOf (eventsOf deliveries)) delivery.event where
  pull := ⟨delivery.event, ⟨delivery, mem, rfl⟩, .inl rfl⟩
  revision := ⟨delivery.event, ⟨delivery, mem, rfl⟩, .inr rfl⟩

/-- Once every event was accepted, the document store shows the newest. -/
theorem firestore_showsNewest (Document : Type) (deliveries : List EventDelivery)
    (history : OnePullRequest pull (eventsOf deliveries))
    (collisionFree : Set.InjOn sha256 (keyTextsOf (eventsOf deliveries)))
    (allAccepted : (FirestoreStore.acceptor sha256 _ collisionFree).acceptedEvents
      (FirestoreStore.empty : FirestoreStore Document) deliveries = eventsOf deliveries) :
    RowsShowNewest (((FirestoreStore.empty : FirestoreStore Document).deliverAll sha256
      deliveries).runs.rows.map RunDocument.row) pull (eventsOf deliveries) := by
  have start : (FirestoreStore.acceptor sha256 _ collisionFree).models
      (FirestoreStore.empty : FirestoreStore Document) .blank := ⟨SqliteStore.empty, .empty, rfl⟩
  obtain ⟨_, ⟨sqlite, mirrors, rfl⟩, shows⟩ := Acceptor.showsNewest_deliverAll history.distinctIds
    history.distinctHeads history.nonempty start deliveries
    (fun delivery mem => ⟨knownEvent_of_mem mem, history.samePull _ ⟨delivery, mem, rfl⟩,
      delivery, mem, rfl⟩) allAccepted
  have rows := rows_of_mirrors mirrors
  show RowsShowNewest (((FirestoreStore.acceptor sha256 _ collisionFree).deliverAll
    FirestoreStore.empty deliveries).runs.rows.map RunDocument.row) pull (eventsOf deliveries)
  rw [rows]
  exact rowsShowNewest_of_ledger shows

end Stores

end PatchProof
