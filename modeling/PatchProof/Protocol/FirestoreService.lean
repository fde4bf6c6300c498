import PatchProof.Library.Simulation
import PatchProof.Protocol.CrossTable
import PatchProof.Protocol.EvidenceGate
import PatchProof.Storage.Agreement

/-!
# The service on the document store

The same routines, with the document store in place of the relational one.  The two stores
reply alike, except that what they raise may be worded differently, and no protocol of the
service looks at the wording (`RepliesAlike`).  So the tables of a run are consistent in the
document store too (`firestore_tables_consistent`), and the reports that it holds are gated
(`firestore_evidence_gate`), as long as the clock does not go back, the identifiers drawn are
fresh, and the digest of the document keys tells the accepted pull requests and revisions
apart.
-/

set_option autoImplicit false

namespace PatchProof

variable {p : Platform}

/-! ## The document store as the shared object -/

/-- The document store, answering one call at a moment. -/
def firestoreService (p : Platform) (sha256 : String → String) :
    SharedObject (ServiceCall.Reply p) (FirestoreStore p.Document) (Moment p) where
  answer store moment
    | .store call => store.perform p.sha256Of sha256 moment.storeInput call
    | .external kind _ => (moment.answer kind, store)

/-- What the document store holds about one run. -/
def FirestoreStore.view {Document : Type} (store : FirestoreStore Document) (runId : RunId) :
    RunView Document where
  row := (store.runs.lookup runId).map RunDocument.row
  evidence := store.evidence.lookup runId
  publication := store.publications.lookup runId
  failure := store.failures.lookup runId

theorem Mirrors.view_eq {Document : Type} {sha256 : String → String} {texts : Set String}
    {sqlite : SqliteStore Document} {firestore : FirestoreStore Document}
    (mirrors : Mirrors sha256 texts sqlite firestore) (runId : RunId) :
    firestore.view runId = sqlite.view runId := by
  unfold FirestoreStore.view SqliteStore.view
  rw [mirrors.evidence, mirrors.publications, mirrors.failures, mirrors.lookup_runs]
  cases sqlite.runs.lookup runId <;> rfl

/-! ## Replies that are alike -/

/-- Equal results, or exceptions of one class; the surroundings answer for themselves. -/
def RepliesAlike : (call : ServiceCall p) → ServiceCall.Reply p call → ServiceCall.Reply p call → Prop
  | .store _, reply, mirrored => RepliesAgree reply mirrored
  | .external _ _, reply, mirrored => reply = mirrored

section Alike

variable {call : StoreCall p.Document} {reply mirrored : Except StoreException call.Result}

theorem RepliesAlike.ok {result : call.Result}
    (alike : RepliesAlike (p := p) (.store call) reply (.ok result)) : reply = .ok result := by
  cases (alike : RepliesAgree reply (.ok result)) with
  | returned related => rw [related]

theorem RepliesAlike.error {exception : StoreException}
    (alike : RepliesAlike (p := p) (.store call) reply (.error exception)) :
    ∃ other, reply = .error other := by
  cases (alike : RepliesAgree reply (.error exception)) with
  | raised related => exact ⟨_, rfl⟩

theorem RepliesAlike.external {kind : ExternalKind} {request : kind.Request p}
    {reply mirrored : ServiceCall.Reply p (.external kind request)}
    (alike : RepliesAlike (.external kind request) reply mirrored) : reply = mirrored := alike

end Alike

/-! ## The protocols do not look at wordings -/

section Moves

variable {runId : RunId} {call : ServiceCall p} {reply mirrored : ServiceCall.Reply p call}

theorem AnswersOwn.alike (alike : RepliesAlike call reply mirrored) (own : AnswersOwn call reply) :
    AnswersOwn call mirrored := by
  cases call with
  | external kind request =>
      obtain rfl := alike.external
      exact own
  | store call =>
      cases mirrored with
      | ok result =>
          obtain rfl := alike.ok
          exact own
      | error exception =>
          obtain ⟨other, rfl⟩ := alike.error
          cases call <;> trivial

theorem WorkerMove.alike {role moved : WorkerRole p} (alike : RepliesAlike call reply mirrored)
    (move : WorkerMove runId role call mirrored moved) : WorkerMove runId role call reply moved := by
  cases move with
  | reads busy => exact .reads busy
  | recalls raises => exact .recalls raises
  | dismisses ended =>
      obtain rfl := alike.ok
      exact .dismisses ended
  | rereads =>
      obtain rfl := alike.ok
      exact .rereads
  | rereadsNot =>
      obtain ⟨_, rfl⟩ := alike.error
      exact .rereadsNot
  | readsEvidence => exact .readsEvidence
  | asks plain => exact .asks plain
  | releases =>
      obtain rfl := alike.external
      exact .releases
  | consults consulted => exact .consults consulted
  | prepares busy prepares => exact .prepares busy prepares
  | claims =>
      obtain rfl := alike.ok
      exact .claims
  | claimsNot =>
      obtain ⟨_, rfl⟩ := alike.error
      exact .claimsNot
  | saves busy =>
      obtain rfl := alike.ok
      exact .saves busy
  | savesNot busy =>
      obtain ⟨_, rfl⟩ := alike.error
      exact .savesNot busy
  | completes =>
      obtain rfl := alike.ok
      exact .completes
  | completesNot =>
      obtain ⟨_, rfl⟩ := alike.error
      exact .completesNot
  | fails => exact .fails

theorem PublishMove.alike {stage moved : PublishStage p} (alike : RepliesAlike call reply mirrored)
    (move : PublishMove runId stage call mirrored moved) :
    PublishMove runId stage call reply moved := by
  cases move with
  | asks => exact .asks
  | reads => exact .reads
  | readsEvidence => exact .readsEvidence
  | learns decodes =>
      obtain rfl := alike.ok
      exact .learns decodes
  | readsPublication => exact .readsPublication
  | begins =>
      obtain rfl := alike.ok
      exact .begins
  | beginsNot =>
      obtain ⟨_, rfl⟩ := alike.error
      exact .beginsNot
  | identifies =>
      obtain rfl := alike.ok
      exact .identifies
  | identifiesNot =>
      obtain ⟨_, rfl⟩ := alike.error
      exact .identifiesNot
  | notes => exact .notes
  | moves unpublished => exact .moves unpublished
  | publishes => exact .publishes

theorem TableParty.Move.alike {party : TableParty p} {role moved : TableRole p}
    (alike : RepliesAlike call reply mirrored) (move : party.Move role call mirrored moved) :
    party.Move role call reply moved := by
  cases move with
  | accepts is => exact .accepts is
  | acts about move =>
      cases move with
      | works move => exact .acts about (.works (move.alike alike))
      | publishes move => exact .acts about (.publishes (move.alike alike))

theorem Duty.Move.alike {duty : Duty p} {role moved : TaskRole p}
    (alike : RepliesAlike call reply mirrored) (move : duty.Move role call mirrored moved) :
    duty.Move role call reply moved := by
  cases move with
  | accepts is => exact .accepts is
  | tasks about move =>
      refine .tasks about ?_
      cases move with
      | works move => exact .works (move.alike alike)
      | asks => exact .asks
      | reads => exact .reads
      | fails => exact .fails
      | opens unopened =>
          obtain rfl := alike.ok
          exact .opens unopened
      | sees completed =>
          obtain rfl := alike.ok
          exact .sees completed
      | waives saw => exact .waives saw
      | publishes closed publishes => exact .publishes closed publishes

end Moves

/-! ## Mirrored stores along a schedule -/

section Schedules

variable {ι : Type} {sha256 : String → String} {texts : Set String}

/-- The moments of a schedule go forward from a clock reading and bring identifiers that are
new. -/
structure InOrderFrom (clock : Int) (used : Set RunId) (schedule : List (ι × Moment p)) : Prop where
  forward : ∀ tick ∈ schedule, clock ≤ tick.2.now
  monotone : schedule.Pairwise fun tick later => tick.2.now ≤ later.2.now
  unused : ∀ tick ∈ schedule, tick.2.freshRunId ∉ used
  distinct : (schedule.map fun tick => tick.2.freshRunId).Nodup

/-- The stores are mirrored, and the rest of the schedule keeps them so. -/
def MirroredBefore (sha256 : String → String) (texts : Set String) (schedule : List (ι × Moment p))
    (sqlite : SqliteStore p.Document) (firestore : FirestoreStore p.Document) : Prop :=
  Mirrors sha256 texts sqlite firestore ∧
    ∃ clock used, StoreInvariant sqlite clock used ∧ InOrderFrom clock used schedule

/-- The keys that a call needs are among the known ones. -/
def KnownCall (texts : Set String) : ServiceCall p → Prop
  | .store call => ∀ text ∈ call.keyTexts, text ∈ texts
  | .external _ _ => True

theorem InOrderFrom.next {clock : Int} {used drawn : Set RunId} {tick : ι × Moment p}
    {rest : List (ι × Moment p)} (inOrder : InOrderFrom clock used (tick :: rest))
    (onlyFresh : ∀ runId ∈ drawn, runId = tick.2.freshRunId) :
    InOrderFrom tick.2.now (used ∪ drawn) rest := by
  obtain ⟨now, later⟩ := List.pairwise_cons.mp inOrder.monotone
  obtain ⟨new, distinct⟩ := List.nodup_cons.mp inOrder.distinct
  refine ⟨now, later, fun other mem => ?_, distinct⟩
  rintro (before | isDrawn)
  · exact inOrder.unused other (List.mem_cons_of_mem _ mem) before
  · exact new (List.mem_map.mpr ⟨other, mem, onlyFresh _ isDrawn⟩)

theorem InOrderFrom.tail {clock : Int} {used : Set RunId} {tick : ι × Moment p}
    {rest : List (ι × Moment p)} (inOrder : InOrderFrom clock used (tick :: rest)) :
    InOrderFrom clock used rest where
  forward other mem := inOrder.forward other (List.mem_cons_of_mem _ mem)
  monotone := (List.pairwise_cons.mp inOrder.monotone).2
  unused other mem := inOrder.unused other (List.mem_cons_of_mem _ mem)
  distinct := (List.nodup_cons.mp inOrder.distinct).2

/-- **One call on mirrored stores**: alike replies, and mirrored stores. -/
theorem MirroredBefore.answers {tick : ι × Moment p} {rest : List (ι × Moment p)}
    {sqlite : SqliteStore p.Document} {firestore : FirestoreStore p.Document}
    {call : ServiceCall p} (injective : Set.InjOn sha256 texts)
    (mirrored : MirroredBefore sha256 texts (tick :: rest) sqlite firestore)
    (known : KnownCall texts call) :
    RepliesAlike call ((service p).answer sqlite tick.2 call).1
        ((firestoreService p sha256).answer firestore tick.2 call).1 ∧
      MirroredBefore sha256 texts rest ((service p).answer sqlite tick.2 call).2
        ((firestoreService p sha256).answer firestore tick.2 call).2 := by
  obtain ⟨mirrors, clock, used, invariant, inOrder⟩ := mirrored
  cases call with
  | external kind request => exact ⟨rfl, mirrors, clock, used, invariant, inOrder.tail⟩
  | store call =>
      have forward : clock ≤ tick.2.storeInput.now := inOrder.forward tick List.mem_cons_self
      have onlyFresh : ∀ runId ∈ call.drawn tick.2.storeInput, runId = tick.2.freshRunId := by
        intro runId drawn
        cases call with
        | acceptPullRequest event => exact List.mem_singleton.mp drawn
        | _ => cases drawn
      have unused : ∀ runId ∈ call.drawn tick.2.storeInput, runId ∉ used := fun runId drawn =>
        onlyFresh runId drawn ▸ inOrder.unused tick List.mem_cons_self
      obtain ⟨replies, next⟩ :=
        mirrors.perform_agrees p.sha256Of invariant injective forward call known unused
      exact ⟨replies, next, _, _, invariant.perform forward call, inOrder.next onlyFresh⟩

theorem MirroredBefore.idle {tick : ι × Moment p} {rest : List (ι × Moment p)}
    {sqlite : SqliteStore p.Document} {firestore : FirestoreStore p.Document}
    (mirrored : MirroredBefore sha256 texts (tick :: rest) sqlite firestore) :
    MirroredBefore sha256 texts rest sqlite firestore :=
  let ⟨mirrors, clock, used, invariant, inOrder⟩ := mirrored
  ⟨mirrors, clock, used, invariant, inOrder.tail⟩

/-- Empty stores are mirrored before a schedule whose clock does not go back and whose
identifiers are distinct. -/
theorem mirroredBefore_empty (schedule : List (ι × Moment p))
    (monotone : schedule.Pairwise fun tick later => tick.2.now ≤ later.2.now)
    (distinct : (schedule.map fun tick => tick.2.freshRunId).Nodup) :
    MirroredBefore sha256 texts schedule SqliteStore.empty FirestoreStore.empty := by
  refine ⟨.empty, (schedule.head?.map fun tick => tick.2.now).getD 0, ∅, .empty _, ?_, monotone,
    fun _ _ => Set.notMem_empty _, distinct⟩
  cases schedule with
  | nil => exact fun tick absurdity => absurd absurdity List.not_mem_nil
  | cons first rest =>
      intro tick mem
      rcases List.mem_cons.mp mem with rfl | later
      · exact Int.le_refl _
      · exact (List.pairwise_cons.mp monotone).1 tick later

end Schedules

/-! ## What holds of the document store -/

section Interleavings

variable {ι : Type} {sha256 : String → String}

/-- The key texts of the events that are accepted. -/
def acceptedTexts (accepts : ι → Option PullRequestEvent) : Set String :=
  {text | ∃ who event, accepts who = some event ∧
    text ∈ (StoreCall.acceptPullRequest event : StoreCall Unit).keyTexts}

/-- The event that a party accepts. -/
def TableParty.event : TableParty p → Option PullRequestEvent
  | accept event => some event
  | _ => none

/-- A call whose moves include one for every reply is a call that knows its keys. -/
theorem TableParty.Move.known {parties : ι → TableParty p} {who : ι} {role moved : TableRole p}
    {call : ServiceCall p} {reply : ServiceCall.Reply p call}
    (move : (parties who).Move role call reply moved) :
    KnownCall (acceptedTexts fun who => (parties who).event) call := by
  cases move with
  | accepts is => exact fun text isKey => ⟨who, _, congrArg TableParty.event is, isKey⟩
  | acts about move =>
      cases move with
      | works move => cases move <;> first | trivial | exact fun text isKey => by cases isKey
      | publishes move => cases move <;> first | trivial | exact fun text isKey => by cases isKey

/-- A reply with which a call is refused. -/
def refusal : (call : ServiceCall p) → ServiceCall.Reply p call
  | .store _ => .error (.runNotFound "refused")
  | .external _ _ => .error (.other "refused")

theorem answersOwn_refusal (call : ServiceCall p) : AnswersOwn call (refusal call) := by
  cases call with
  | external kind request => trivial
  | store call => cases call <;> trivial

theorem tables_simulated (parties : ι → TableParty p)
    (collisionFree : Set.InjOn sha256 (acceptedTexts fun who => (parties who).event)) :
    Pool.Simulates (service p) (firestoreService p sha256) (fun who => (parties who).protocol)
      RepliesAlike (KnownCall (acceptedTexts fun who => (parties who).event))
      (MirroredBefore sha256 (acceptedTexts fun who => (parties who).event)) where
  permitted moves :=
    let ⟨_, move⟩ := moves _ (answersOwn_refusal _)
    TableParty.Move.known move
  assumes alike own := own.alike alike
  moves alike move := move.alike alike
  answers mirrored known := mirrored.answers collisionFree known
  idle mirrored := mirrored.idle

/-- Nothing is stored and nobody relies on anything at first. -/
theorem tablesAgree_started (parties : ι → TableParty p) (runId : RunId) :
    TablesAgree parties runId SqliteStore.empty [] fun who => (parties who).start where
  consistent :=
    { absent := fun _ => ⟨rfl, rfl, rfl⟩
      reasoned := fun _ found => by cases found
      hashed := fun _ found => by cases found
      completed := fun _ found => by cases found
      failed := fun _ found => by cases found
      published := fun _ found => by cases found }
  knows who _ := by
    cases party : parties who with
    | work workflow target => exact fun report absurdity => by cases absurdity
    | _ => trivial

/-- The parties on the empty document store. -/
def firestoreTables (parties : ι → TableParty p) :
    Pool ι (ServiceCall.Reply p) (FirestoreStore p.Document) RaisedException Unit where
  shared := .empty
  threads who := (parties who).routine

/-- **The tables are consistent in the document store.**  Wherever acceptances, workers and
publish attempts lead from the empty store, the documents of a run agree as its rows do. -/
theorem firestore_tables_consistent [DecidableEq ι] (parties : ι → TableParty p) (schedule : List (ι × Moment p))
    (runId : RunId) (monotone : schedule.Pairwise fun tick later => tick.2.now ≤ later.2.now)
    (distinct : (schedule.map fun tick => tick.2.freshRunId).Nodup)
    (collisionFree : Set.InjOn sha256 (acceptedTexts fun who => (parties who).event)) :
    (((firestoreTables parties).run (firestoreService p sha256) schedule).shared.view
      runId).Consistent := by
  have keeps : Pool.Keeps (service p) (fun who => (parties who).protocol)
      (fun (_ : Pool ι (ServiceCall.Reply p) (SqliteStore p.Document) RaisedException Unit)
        _ _ _ => True) (fun store _ roles => TablesAgree parties runId store [] roles) :=
    ⟨fun _ _ => answersOwn_service _ _ _, fun agree _ move =>
      let next := tablesAgree_keeps.kept (TablesAgree.mk agree.consistent agree.knows) trivial move
      ⟨next.consistent, next.knows⟩⟩
  have related : MirroredBefore sha256 (acceptedTexts fun who => (parties who).event) schedule
      (tablesPool parties).shared (firestoreTables parties).shared :=
    mirroredBefore_empty schedule monotone distinct
  obtain ⟨sqlite, roles, ⟨mirrors, _⟩, agree⟩ :=
    Pool.run_simulated (tables_simulated parties collisionFree) keeps (tablesPool parties)
      (fun who => (parties who).routine_follows) related (tablesAgree_started parties runId)
      fun _ _ => trivial
  rw [mirrors.view_eq]
  exact agree.consistent

/-! ## Gated reports in the document store -/

/-- The event that a duty accepts. -/
def Duty.event : Duty p → Option PullRequestEvent
  | accept event => some event
  | _ => none

theorem Duty.Move.known {duties : ι → Duty p} {who : ι} {role moved : TaskRole p}
    {call : ServiceCall p} {reply : ServiceCall.Reply p call}
    (move : (duties who).Move role call reply moved) :
    KnownCall (acceptedTexts fun who => (duties who).event) call := by
  cases move with
  | accepts is => exact fun text isKey => ⟨who, _, congrArg Duty.event is, isKey⟩
  | tasks about move =>
      cases move with
      | works move =>
          generalize role.worker = worker at move
          cases move <;> first | trivial | exact fun text isKey => by cases isKey
      | @publishes called _ closed publishes =>
          cases called with
          | acceptPullRequest event => exact publishes.elim
          | listRuns repository prNumber => exact publishes.elim
          | _ => exact fun text isKey => by cases isKey
      | _ => first | trivial | exact fun text isKey => by cases isKey

/-- The protocol of a duty that trusts the executor and saves gated reports only. -/
def gatedProtocol (duty : Duty p) : Protocol (ServiceCall.Reply p) (TaskRole p × Unit) :=
  duty.protocol.both (trustingProtocol p.Gated (Classified p.digest))

theorem AnswersTrusted.alike {Trusted : ChallengeResult → Prop} {call : ServiceCall p}
    {reply mirrored : ServiceCall.Reply p call} (alike : RepliesAlike call reply mirrored)
    (trusted : AnswersTrusted Trusted call reply) : AnswersTrusted Trusted call mirrored := by
  cases call with
  | external kind request =>
      obtain rfl := alike.external
      exact trusted
  | store call => trivial

theorem ReadsGood.alike {Good : p.Report → Prop} {call : ServiceCall p}
    {reply mirrored : ServiceCall.Reply p call} (alike : RepliesAlike call reply mirrored)
    (reads : ReadsGood Good call reply) : ReadsGood Good call mirrored := by
  cases call with
  | external kind request => trivial
  | store call =>
      cases mirrored with
      | ok result =>
          obtain rfl := alike.ok
          exact reads
      | error exception => cases call <;> trivial

theorem duties_simulated (duties : ι → Duty p)
    (collisionFree : Set.InjOn sha256 (acceptedTexts fun who => (duties who).event)) :
    Pool.Simulates (service p) (firestoreService p sha256) (fun who => gatedProtocol (duties who))
      RepliesAlike (KnownCall (acceptedTexts fun who => (duties who).event))
      (MirroredBefore sha256 (acceptedTexts fun who => (duties who).event)) where
  permitted := by
    intro who role call moves
    have reads : ReadsGood p.Gated call (refusal call) := by
      cases call with
      | external kind request => trivial
      | store call => cases call <;> trivial
    have trusted : AnswersTrusted (Classified p.digest) call (refusal call) := by
      cases call with
      | external kind request => cases kind <;> trivial
      | store call => trivial
    obtain ⟨_, move⟩ :=
      moves _ ⟨answersOwn_refusal call, ⟨answersOwn_refusal call, reads⟩, trusted⟩
    exact Duty.Move.known move.1
  assumes alike assumed :=
    ⟨assumed.1.alike alike, ⟨assumed.2.1.1.alike alike, assumed.2.1.2.alike alike⟩,
      assumed.2.2.alike alike⟩
  moves alike move := ⟨move.1.alike alike, move.2⟩
  answers mirrored known := mirrored.answers collisionFree known
  idle mirrored := mirrored.idle

/-- The duties on the empty document store. -/
def firestoreDuties (duties : ι → Duty p) :
    Pool ι (ServiceCall.Reply p) (FirestoreStore p.Document) RaisedException Unit where
  shared := .empty
  threads who := (duties who).routine

/-- **The evidence gate holds of the document store.** -/
theorem firestore_evidence_gate [DecidableEq ι] (duties : ι → Duty p) (schedule : List (ι × Moment p))
    (classifies : ∀ tick ∈ schedule, tick.2.Trusts (Classified p.digest))
    (monotone : schedule.Pairwise fun tick later => tick.2.now ≤ later.2.now)
    (distinct : (schedule.map fun tick => tick.2.freshRunId).Nodup)
    (collisionFree : Set.InjOn sha256 (acceptedTexts fun who => (duties who).event))
    (runId : RunId) (stored : StoredEvidence p.Document)
    (found : (((firestoreDuties duties).run (firestoreService p sha256) schedule).shared.view
      runId).evidence = some stored) :
    ∃ report, stored.documentJson = p.encode report ∧ report.Gated := by
  have keeps : Pool.Keeps (service p) (fun who => gatedProtocol (duties who))
      (fun (_ : Pool ι (ServiceCall.Reply p) (SqliteStore p.Document) RaisedException Unit)
        _ _ moment => moment.Trusts (Classified p.digest))
      (fun store _ _ => StoresGood p.Gated store) :=
    ⟨fun stores trusts => ⟨answersOwn_service _ _ _,
      ⟨answersOwn_service _ _ _, stores.reads _ _⟩, trusts.answers _ _⟩,
      fun stores _ move => stores.answered _ _ move.2⟩
  have follows : ∀ who, Program.Follows (gatedProtocol (duties who)) (fun _ _ => True ∧ True)
      (fun _ _ => True ∧ True) ({}, ()) ((firestoreDuties duties).threads who) := fun who =>
    (duties who).routine_follows.both ((duties who).routine_saves gated_upheld)
  have related : MirroredBefore sha256 (acceptedTexts fun who => (duties who).event) schedule
      (startedPool duties).shared (firestoreDuties duties).shared :=
    mirroredBefore_empty schedule monotone distinct
  have nothing : StoresGood p.Gated (startedPool duties).shared :=
    fun runId stored absurdity => by cases absurdity
  obtain ⟨sqlite, roles, ⟨mirrors, _⟩, stores⟩ :=
    Pool.run_simulated (duties_simulated duties collisionFree) keeps (startedPool duties) follows
      related nothing classifies
  rw [mirrors.view_eq] at found
  exact stores runId stored found

end Interleavings

/-! ## A supported claim in the document store -/

/-- Time passes, every moment brings a new identifier, and the claim is supported. -/
def freshMoment (index : ℕ) : Moment validatingPlatform :=
  { supportingMoment index with freshRunId := ⟨BitVec.ofNat 128 (index + 1)⟩ }

/-- The one follows the other, with new identifiers. -/
def freshAfterwards : List (ℕ × Moment validatingPlatform) :=
  (0, freshMoment 0) :: (List.range 30).map fun tick => (1, freshMoment (tick + 1))

theorem freshAfterwards_monotone :
    freshAfterwards.Pairwise fun tick later => tick.2.now ≤ later.2.now := by
  decide +kernel

theorem freshAfterwards_distinct :
    (freshAfterwards.map fun tick => tick.2.freshRunId).Nodup := by
  decide +kernel

/-- The report of a supported claim is in the document store. -/
theorem firestore_evidence_gate_supported : ∃ report : EvidenceReport Unit,
    (((firestoreDuties acceptedThenGated).run (firestoreService validatingPlatform id)
        freshAfterwards).shared.view ⟨1⟩).evidence.map StoredEvidence.documentJson = some report ∧
      report.claimOutcome = .claimSupportedForScenario ∧ report.Gated := by
  have classifies : ∀ tick ∈ freshAfterwards,
      tick.2.Trusts (Classified validatingPlatform.digest) := by
    intro tick mem
    rcases List.mem_cons.mp mem with rfl | later
    · exact supportingMoment_trusts 0
    · obtain ⟨index, -, rfl⟩ := List.mem_map.mp later
      exact supportingMoment_trusts (index + 1)
  have supports : (((firestoreDuties acceptedThenGated).run (firestoreService validatingPlatform id)
      freshAfterwards).shared.view ⟨1⟩).evidence.map
        (fun stored => stored.documentJson.claimOutcome) = some .claimSupportedForScenario := by
    decide +kernel
  obtain ⟨stored, found, outcome⟩ := Option.map_eq_some_iff.mp supports
  obtain ⟨report, encodes, gated⟩ :=
    firestore_evidence_gate acceptedThenGated freshAfterwards classifies freshAfterwards_monotone
      freshAfterwards_distinct Function.injective_id.injOn ⟨1⟩ stored found
  obtain rfl : stored.documentJson = report := encodes
  exact ⟨stored.documentJson, by rw [found]; rfl, outcome, gated⟩

/-- An event, and a worker for its run. -/
def acceptedThenTabled : ℕ → TableParty validatingPlatform
  | 0 => .accept (sampleEvent "first" 'a' 10 isLowerHex_a deliveryId_first)
  | _ => .work ⟨.executor, (), true, false⟩ ⟨1⟩

/-- The run is completed, and its documents agree. -/
theorem firestore_tables_consistent_completed :
    let view := ((firestoreTables acceptedThenTabled).run (firestoreService validatingPlatform id)
      freshAfterwards).shared.view ⟨1⟩
    view.row.bind RunRow.terminalReason = some .completed ∧ view.Consistent :=
  ⟨by decide +kernel, firestore_tables_consistent acceptedThenTabled freshAfterwards ⟨1⟩
    freshAfterwards_monotone freshAfterwards_distinct Function.injective_id.injOn⟩

end PatchProof
