import PatchProof.Library.Sequential
import PatchProof.Publication.Publisher
import PatchProof.Storage.Lifecycle

/-!
# At most one Check for a run

Publish attempts for one run, one after another, each cut off anywhere, against the
store and the Checks that GitHub holds.  A request may or may not reach GitHub, and its
answer may be lost, broken or refused either way; only a usable answer is the truth: a
usable listing shows every Check of the commit, an update keeps the identifier, and a
creation answers with the identifier of what it created.  Between any two calls
anybody else may use the store, except that nobody else records a Check for this run.

The invariant is that at most one Check carries the external identifier of the run, at
the run's commit, and that a recorded identifier is the identifier of such a Check.
What an attempt knows in between is only that a Check is there, or that none is.
-/

set_option autoImplicit false

namespace PatchProof

variable {p : Platform}

/-! ## GitHub beside the store -/

/-- A Check run as GitHub holds it. -/
structure CheckRun where
  checkRunId : Int
  repository : RepositoryName
  headSha : String
  externalId : String
  deriving DecidableEq

/-- The store and the Checks. -/
structure PublicationWorld (p : Platform) where
  store : SqliteStore p.Document
  checkRuns : List CheckRun

/-- What becomes of the answer to one request. -/
inductive ResponseFate where
  | answered (status : Nat)
  | unusable (status : Nat)
  | unavailable
  | raised (exception : SurroundingException)

/-- The answer as the client gets it. -/
def ResponseFate.deliver {Body : Type} (body : Option Body) :
    ResponseFate → Except SurroundingException (HttpReply Body)
  | .answered status => .ok (.response status body)
  | .unusable status => .ok (.response status none)
  | .unavailable => .ok .unavailable
  | .raised exception => .error exception

/-- A moment of a publish attempt: what others did to the store since the last call,
whether a creation takes effect and under which identifier, and the fate of the answer. -/
structure PublicationMoment (p : Platform) extends Moment p where
  others : List (StoreInput × StoreCall p.Document)
  reaches : Bool
  newCheckRunId : Int
  fate : ResponseFate

namespace PublicationWorld

/-- Every Check of a commit. -/
def listing (world : PublicationWorld p) (request : RepositoryName × String) : List ListedCheck :=
  (world.checkRuns.filter fun check =>
      decide (check.repository = request.1 ∧ check.headSha = request.2)).map
    fun check => ⟨some check.externalId, some check.checkRunId⟩

/-- The identifier an update answers with: that of the Check, if there is one. -/
def updated (world : PublicationWorld p) (request : RepositoryName × Int × GitHubCheckPayload) :
    Option Int :=
  (world.checkRuns.find? fun check =>
    decide (check.repository = request.1 ∧ check.checkRunId = request.2.1)).map
      CheckRun.checkRunId

/-- Whether a creation takes effect: it reaches GitHub, and its identifier is new. -/
def Creates (world : PublicationWorld p) (moment : PublicationMoment p) : Prop :=
  moment.reaches = true ∧ 0 < moment.newCheckRunId ∧
    ∀ check ∈ world.checkRuns, check.checkRunId ≠ moment.newCheckRunId

instance (world : PublicationWorld p) (moment : PublicationMoment p) :
    Decidable (world.Creates moment) :=
  inferInstanceAs (Decidable (_ ∧ _ ∧ _))

/-- The Check that a creation adds. -/
def created (moment : PublicationMoment p) (request : RepositoryName × GitHubCheckPayload) :
    CheckRun where
  checkRunId := moment.newCheckRunId
  repository := request.1
  headSha := request.2.headSha
  externalId := request.2.externalId

/-- Others use the store. -/
def afterOthers (world : PublicationWorld p) (moment : PublicationMoment p) : PublicationWorld p :=
  { world with store := world.store.performAll p.sha256Of moment.others }

end PublicationWorld

open PublicationWorld

/-- The store and GitHub as one object. -/
def gitHub (p : Platform) :
    SharedObject (ServiceCall.Reply p) (PublicationWorld p) (PublicationMoment p) where
  answer earlier moment call :=
    let world := earlier.afterOthers moment
    match call with
    | .store call =>
        ((world.store.perform p.sha256Of moment.storeInput call).1,
          { world with store := (world.store.perform p.sha256Of moment.storeInput call).2 })
    | .external .listCheckRuns request =>
        (moment.fate.deliver (some (world.listing request)), world)
    | .external .updateCheckRun request => (moment.fate.deliver (world.updated request), world)
    | .external .createCheckRun request =>
        if world.Creates moment then
          (moment.fate.deliver (some moment.newCheckRunId),
            { world with checkRuns := world.checkRuns ++ [created moment request] })
        else (moment.fate.deliver none, world)
    | .external kind _ => (moment.answer kind, world)

/-! ## The invariant -/

/-- The operation that only this run's publisher performs. -/
def StoreCall.identifies {Document : Type} (runId : RunId) : StoreCall Document → Bool
  | .setCheckRunId other _ => other == runId
  | _ => false

/-- Nobody else records a Check for the run. -/
def Leaves (runId : RunId) (_ : PublicationWorld p) (moment : PublicationMoment p) : Prop :=
  ∀ operation ∈ moment.others, operation.2.identifies runId = false

/-- There is a Check of the payload with the identifier. -/
def HasCheck (payload : GitHubCheckPayload) (checkRuns : List CheckRun) (checkRunId : Int) : Prop :=
  ∃ check ∈ checkRuns, check.externalId = payload.externalId ∧ check.checkRunId = checkRunId

/-- What the store holds about a run with at most one Check. -/
structure HoldsOne (repository : RepositoryName) (evidence : StoredEvidence p.Document)
    (known : Int → Prop) (view : RunView p.Document) : Prop where
  row : ∃ row, view.row = some row ∧ row.repository = repository
  evidence : view.evidence = some evidence
  recorded : ∀ publication, view.publication = some publication →
    ∀ checkRunId, publication.checkRunId = some checkRunId → known checkRunId

/-- At most one Check carries the external identifier of the payload, and a recorded
identifier is its. -/
structure OneCheck (runId : RunId) (repository : RepositoryName)
    (evidence : StoredEvidence p.Document) (payload : GitHubCheckPayload)
    (world : PublicationWorld p) : Prop where
  holds : HoldsOne repository evidence (HasCheck payload world.checkRuns) (world.store.view runId)
  atMostOne : (world.checkRuns.filter fun check =>
    decide (check.externalId = payload.externalId)).length ≤ 1
  placed : ∀ check ∈ world.checkRuns, check.externalId = payload.externalId →
    check.repository = repository ∧ check.headSha = payload.headSha

section Invariant

variable {runId : RunId} {repository : RepositoryName}
  {evidence : StoredEvidence p.Document} {payload : GitHubCheckPayload}
  {world : PublicationWorld p} {known : Int → Prop}

/-- One operation, unless it records an unknown Check or saves evidence, keeps what
the store holds. -/
theorem HoldsOne.observed {input : StoreInput} {call : StoreCall p.Document}
    {reply : Except StoreException call.Result} {before after : RunView p.Document}
    (holds : HoldsOne repository evidence known before)
    (observed : Observed p.sha256Of runId input call reply before after)
    (harmless : call.identifies runId = false ∨
      ∃ checkRunId, call = .setCheckRunId runId checkRunId ∧ known checkRunId) :
    HoldsOne repository evidence known after := by
  obtain ⟨row, found, sameRepository⟩ := holds.row
  cases observed with
  | accepted change =>
      refine ⟨?_, holds.evidence, holds.recorded⟩
      rw [found] at change
      cases change with
      | kept => exact ⟨row, rfl, sameRepository⟩
      | refreshed => exact ⟨_, rfl, sameRepository⟩
      | replaced => exact ⟨_, rfl, sameRepository⟩
  | moved current version permits wrote =>
      refine ⟨⟨_, rfl, ?_⟩, holds.evidence, holds.recorded⟩
      obtain rfl := Option.some.inj (found.symm.trans current)
      rw [wrote]
      exact sameRepository
  | failed current fresh permits =>
      refine ⟨⟨_, rfl, ?_⟩, holds.evidence, holds.recorded⟩
      obtain rfl := Option.some.inj (found.symm.trans current)
      exact sameRepository
  | saved hashes present fresh =>
      rw [holds.evidence] at fresh
      cases fresh
  | begun present fresh =>
      refine ⟨holds.row, holds.evidence, fun publication is checkRunId some => ?_⟩
      obtain rfl := Option.some.inj is
      cases some
  | begunAgain earlier samePayload =>
      refine ⟨holds.row, holds.evidence, fun publication is checkRunId some => ?_⟩
      obtain rfl := Option.some.inj is
      exact holds.recorded _ earlier checkRunId some
  | identified earlier unidentified =>
      refine ⟨holds.row, holds.evidence, fun publication is checkRunId some => ?_⟩
      obtain rfl := Option.some.inj is
      obtain rfl := Option.some.inj some
      rcases harmless with other | ⟨_, same, isKnown⟩
      · simp [StoreCall.identifies] at other
      · cases same
        exact isKnown
  | noted earlier =>
      refine ⟨holds.row, holds.evidence, fun publication is checkRunId some => ?_⟩
      obtain rfl := Option.some.inj is
      exact holds.recorded _ earlier checkRunId some
  | _ => exact holds

/-- What others do keeps the invariant. -/
theorem OneCheck.afterOthers (one : OneCheck runId repository evidence payload world)
    {moment : PublicationMoment p} (leaves : Leaves runId world moment) :
    OneCheck runId repository evidence payload (world.afterOthers moment) := by
  have kept : ∀ (operations : List (StoreInput × StoreCall p.Document))
      (store : SqliteStore p.Document),
      (∀ operation ∈ operations, operation.2.identifies runId = false) →
      HoldsOne repository evidence (HasCheck payload world.checkRuns) (store.view runId) →
      HoldsOne repository evidence (HasCheck payload world.checkRuns)
        ((store.performAll p.sha256Of operations).view runId) := by
    intro operations
    induction operations with
    | nil => exact fun _ _ holds => holds
    | cons operation rest ih =>
        intro store leaves holds
        refine ih _ (fun other mem => leaves other (List.mem_cons_of_mem _ mem)) ?_
        exact holds.observed (SqliteStore.perform_observed store p.sha256Of operation.1
          operation.2 runId) (.inl (leaves operation (List.mem_cons_self ..)))
  exact ⟨kept _ _ leaves one.holds, one.atMostOne, one.placed⟩

end Invariant

/-! ## What each call secures -/

section Calls

variable {runId : RunId} {repository : RepositoryName} {evidence : StoredEvidence p.Document}
  {payload : GitHubCheckPayload} {world : PublicationWorld p}

/-- What is secured along the publisher, and what holds when it returns. -/
abbrev SecuresOne {α : Type} (runId : RunId) (repository : RepositoryName)
    (evidence : StoredEvidence p.Document) (payload : GitHubCheckPayload)
    (onReturn : α → PublicationWorld p → Prop) (program : Activity p α)
    (world : PublicationWorld p) : Prop :=
  Program.Secures (gitHub p) (Leaves runId) (OneCheck runId repository evidence payload)
    (Program.Returning onReturn) program world

/-- What the reply of a store operation says about the run. -/
def SawOne (runId : RunId) (repository : RepositoryName) (evidence : StoredEvidence p.Document)
    (payload : GitHubCheckPayload) (checkRuns : List CheckRun) (call : StoreCall p.Document)
    (result : call.Result) : Prop :=
  ∃ input before after, HoldsOne repository evidence (HasCheck payload checkRuns) before ∧
    Observed p.sha256Of runId input call (.ok result) before after

/-- An operation of the store, unless it records an unknown Check. -/
theorem OneCheck.perform (one : OneCheck runId repository evidence payload world)
    {call : StoreCall p.Document} (harmless : call.identifies runId = false ∨
      ∃ checkRunId, call = .setCheckRunId runId checkRunId ∧
        HasCheck payload world.checkRuns checkRunId) :
    SecuresOne runId repository evidence payload (fun result after =>
      after.checkRuns = world.checkRuns ∧
        SawOne runId repository evidence payload world.checkRuns call result)
      (perform call) world := by
  refine ⟨one, fun moment leaves => ?_⟩
  have earlier := one.afterOthers leaves
  have observed := SqliteStore.perform_observed (world.afterOthers moment).store p.sha256Of
    moment.storeInput call runId
  have kept : OneCheck runId repository evidence payload
      ((gitHub p).answer world moment (.store call)).2 :=
    ⟨earlier.holds.observed observed harmless, one.atMostOne, one.placed⟩
  cases reply : ((gitHub p).answer world moment (.store call)).1 with
  | error exception => exact ⟨kept, trivial⟩
  | ok result =>
      have same : ((world.afterOthers moment).store.perform p.sha256Of moment.storeInput call).1 =
          .ok result := reply
      rw [same] at observed
      exact ⟨kept, rfl, _, _, _, earlier.holds, observed⟩

/-- A token is fetched without a trace. -/
theorem OneCheck.tokenFor (one : OneCheck runId repository evidence payload world)
    (installationId : PositiveInt) (name : RepositoryName) :
    SecuresOne runId repository evidence payload (fun _ after =>
      after.checkRuns = world.checkRuns) (PatchProof.tokenFor installationId name) world := by
  refine ⟨one, fun moment leaves => ?_⟩
  have earlier := one.afterOthers leaves
  cases reply : ((gitHub p).answer world moment
      (.external .installationToken (installationId, name))).1 with
  | error exception => exact ⟨earlier, trivial⟩
  | ok token =>
      cases token with
      | token text => exact ⟨earlier, rfl⟩
      | retryable message => exact ⟨earlier, trivial⟩
      | terminal message => exact ⟨earlier, trivial⟩

/-- A body is accepted only if it is the usable body of a response. -/
theorem OneCheck.acceptResponse {Body : Type}
    (one : OneCheck runId repository evidence payload world) (unusable : String)
    (reply : HttpReply Body) :
    SecuresOne runId repository evidence payload (fun body after =>
      after.checkRuns = world.checkRuns ∧ ∃ status, reply = .response status (some body))
      (PatchProof.acceptResponse unusable reply) world := by
  cases reply with
  | unavailable => exact ⟨one, trivial⟩
  | response status body =>
      refine Program.Secures.demandReturning one fun _ => ?_
      refine Program.Secures.demandReturning one fun _ => ?_
      cases body with
      | none => exact ⟨one, trivial⟩
      | some body => exact ⟨one, rfl, status, rfl⟩

/-- A response that carries a body carries what it was made with. -/
theorem ResponseFate.deliver_eq_some {Body : Type} {fate : ResponseFate} {made : Option Body}
    {status : Nat} {body : Body} (delivered : fate.deliver made = .ok (.response status (some body))) :
    made = some body := by
  cases fate with
  | answered code =>
      cases delivered
      rfl
  | unusable code => cases delivered
  | unavailable => cases delivered
  | raised exception => cases delivered

/-- A usable listing shows every Check of the commit. -/
theorem OneCheck.listCheckRuns (one : OneCheck runId repository evidence payload world)
    (request : RepositoryName × String) :
    SecuresOne runId repository evidence payload (fun reply after =>
      after.checkRuns = world.checkRuns ∧ ∀ status listed,
        reply = .response status (some listed) → listed = world.listing request)
      (external .listCheckRuns request) world := by
  refine ⟨one, fun moment leaves => ?_⟩
  have earlier := one.afterOthers leaves
  cases reply : ((gitHub p).answer world moment (.external .listCheckRuns request)).1 with
  | error exception => exact ⟨earlier, trivial⟩
  | ok response =>
      refine ⟨earlier, rfl, ?_⟩
      rintro status listed rfl
      exact (Option.some.inj (ResponseFate.deliver_eq_some reply)).symm

/-- An update answers with the identifier of the Check it was asked to update. -/
theorem OneCheck.updateCheckRun (one : OneCheck runId repository evidence payload world)
    (request : RepositoryName × Int × GitHubCheckPayload) :
    SecuresOne runId repository evidence payload (fun reply after =>
      after.checkRuns = world.checkRuns ∧ ∀ status checkRunId,
        reply = .response status (some checkRunId) → checkRunId = request.2.1)
      (external .updateCheckRun request) world := by
  refine ⟨one, fun moment leaves => ?_⟩
  have earlier := one.afterOthers leaves
  cases reply : ((gitHub p).answer world moment (.external .updateCheckRun request)).1 with
  | error exception => exact ⟨earlier, trivial⟩
  | ok response =>
      refine ⟨earlier, rfl, ?_⟩
      rintro status checkRunId rfl
      have made : (world.afterOthers moment).updated request = some checkRunId :=
        ResponseFate.deliver_eq_some reply
      obtain ⟨check, found, same⟩ := Option.map_eq_some_iff.mp made
      have is := List.find?_some found
      rw [← same]
      exact (of_decide_eq_true is).2

/-- A creation where no Check has the external identifier adds the one that has it. -/
theorem OneCheck.createCheckRun (one : OneCheck runId repository evidence payload world)
    (none : ∀ check ∈ world.checkRuns, check.externalId ≠ payload.externalId) :
    SecuresOne runId repository evidence payload (fun reply after =>
      ∀ status checkRunId, reply = .response status (some checkRunId) →
        HasCheck payload after.checkRuns checkRunId)
      (external .createCheckRun (repository, payload)) world := by
  refine ⟨one, fun moment leaves => ?_⟩
  have earlier := one.afterOthers leaves
  by_cases creates : (world.afterOthers moment).Creates moment
  · have answered : (gitHub p).answer world moment (.external .createCheckRun (repository, payload)) =
        (moment.fate.deliver (some moment.newCheckRunId),
          { world.afterOthers moment with
            checkRuns := world.checkRuns ++ [created moment (repository, payload)] }) :=
      if_pos creates
    rw [answered]
    have kept : OneCheck runId repository evidence payload
        { world.afterOthers moment with
          checkRuns := world.checkRuns ++ [created moment (repository, payload)] } := by
      refine ⟨⟨earlier.holds.row, earlier.holds.evidence, ?_⟩, ?_, ?_⟩
      · intro publication found checkRunId some
        obtain ⟨check, mem, same⟩ := earlier.holds.recorded publication found checkRunId some
        exact ⟨check, List.mem_append_left _ mem, same⟩
      · have nothing : world.checkRuns.filter (fun check =>
            decide (check.externalId = payload.externalId)) = [] :=
          List.filter_eq_nil_iff.mpr fun check mem => by simpa using none check mem
        simp only [List.filter_append, nothing, List.nil_append]
        exact List.length_filter_le _ _
      · intro check mem same
        rcases List.mem_append.mp mem with old | new
        · exact one.placed check old same
        · obtain rfl := List.mem_singleton.mp new
          exact ⟨rfl, rfl⟩
    cases reply : moment.fate.deliver (some moment.newCheckRunId) with
    | error exception => exact ⟨kept, trivial⟩
    | ok response =>
        refine ⟨kept, ?_⟩
        rintro status checkRunId rfl
        exact ⟨created moment (repository, payload),
          List.mem_append_right _ (List.mem_singleton_self _), rfl,
          Option.some.inj (ResponseFate.deliver_eq_some reply)⟩
  · have answered : (gitHub p).answer world moment (.external .createCheckRun (repository, payload)) =
        (moment.fate.deliver Option.none, world.afterOthers moment) := if_neg creates
    rw [answered]
    cases reply : moment.fate.deliver (Option.none : Option Int) with
    | error exception => exact ⟨earlier, trivial⟩
    | ok response =>
        refine ⟨earlier, ?_⟩
        rintro status checkRunId rfl
        cases ResponseFate.deliver_eq_some reply

/-! ## The client -/

/-- The first match is an entry of the list, and without one nothing matches. -/
theorem OneCheck.firstMatching (one : OneCheck runId repository evidence payload world)
    (externalId : String) (listed : List ListedCheck) :
    SecuresOne runId repository evidence payload (fun found after =>
      after.checkRuns = world.checkRuns ∧
      (∀ checkRunId, found = some checkRunId → ∃ entry ∈ listed,
        entry.externalId = some externalId ∧ entry.checkRunId = some checkRunId) ∧
      (found = none → ∀ entry ∈ listed, entry.externalId ≠ some externalId))
      (PatchProof.firstMatching externalId listed) world := by
  induction listed with
  | nil => exact ⟨one, rfl, by simp, by simp⟩
  | cons entry rest ih =>
      unfold PatchProof.firstMatching
      split
      · rename_i matching
        cases identifier : entry.checkRunId with
        | none => exact ⟨one, trivial⟩
        | some checkRunId =>
            refine ⟨one, rfl, fun other same => ?_, fun absurdity => by cases absurdity⟩
            obtain rfl := Option.some.inj same
            exact ⟨entry, List.mem_cons_self .., matching, identifier⟩
      · rename_i different
        refine ih.mono fun outcome after _ ends => ?_
        cases outcome with
        | error exception => trivial
        | ok found =>
            obtain ⟨same, isListed, isMissing⟩ := ends
            refine ⟨same, fun checkRunId some => ?_, fun none => ?_⟩
            · obtain ⟨other, mem, facts⟩ := isListed checkRunId some
              exact ⟨other, List.mem_cons_of_mem _ mem, facts⟩
            · exact List.forall_mem_cons.mpr ⟨different, isMissing none⟩

/-- A search finds the Check of the run if there is one. -/
theorem OneCheck.findExisting (one : OneCheck runId repository evidence payload world) :
    SecuresOne runId repository evidence payload (fun found after =>
      (∀ checkRunId, found = some checkRunId → HasCheck payload after.checkRuns checkRunId) ∧
      (found = none → ∀ check ∈ after.checkRuns, check.externalId ≠ payload.externalId))
      (PatchProof.findExisting repository payload) world := by
  refine (one.listCheckRuns (repository, payload.headSha)).bindReturning ?_
  intro reply asked one ⟨sameAsked, isListing⟩
  refine (one.acceptResponse _ reply).bindReturning ?_
  rintro listed accepted one ⟨sameAccepted, status, rfl⟩
  refine (one.firstMatching payload.externalId listed).mono fun outcome final one ends => ?_
  cases outcome with
  | error exception => trivial
  | ok found =>
      obtain ⟨sameFinal, isListed, isMissing⟩ := ends
      obtain rfl := isListing status listed rfl
      have same : final.checkRuns = world.checkRuns :=
        sameFinal.trans (sameAccepted.trans sameAsked)
      refine ⟨fun checkRunId is => ?_, fun isNone check mem sameId => ?_⟩
      · obtain ⟨entry, mem, external, identifier⟩ := isListed checkRunId is
        obtain ⟨check, found, rfl⟩ := List.mem_map.mp mem
        rw [same]
        exact ⟨check, (List.mem_filter.mp found).1, Option.some.inj external,
          Option.some.inj identifier⟩
      · have onCommit := one.placed check mem sameId
        rw [same] at mem
        refine isMissing isNone ⟨some check.externalId, some check.checkRunId⟩ ?_ (by rw [sameId])
        exact List.mem_map.mpr
          ⟨check, List.mem_filter.mpr ⟨mem, decide_eq_true onCommit⟩, rfl⟩

/-- The identifier that an accepted answer carries. -/
theorem OneCheck.acceptIdentifier (one : OneCheck runId repository evidence payload world)
    {reply : HttpReply Int} (isCheck : ∀ status checkRunId,
      reply = .response status (some checkRunId) → HasCheck payload world.checkRuns checkRunId) :
    SecuresOne runId repository evidence payload (fun checkRunId after =>
      HasCheck payload after.checkRuns checkRunId)
      (do
        let remoteId ← PatchProof.acceptResponse "GitHub returned an unusable Check response" reply
        Program.demand (0 < remoteId) (.checkRetryable "GitHub returned an invalid Check ID")
        return remoteId) world := by
  refine (one.acceptResponse _ reply).bindReturning ?_
  rintro checkRunId accepted one ⟨same, status, rfl⟩
  rw [← same] at isCheck
  exact Program.Secures.demandReturning one fun _ => ⟨one, isCheck status checkRunId rfl⟩

/-- The known Check is updated, and without one a Check is created. -/
theorem OneCheck.submit (one : OneCheck runId repository evidence payload world)
    {known : Option Int}
    (isKnown : ∀ checkRunId, known = some checkRunId → HasCheck payload world.checkRuns checkRunId)
    (isMissing : known = none → ∀ check ∈ world.checkRuns,
      check.externalId ≠ payload.externalId) :
    SecuresOne runId repository evidence payload (fun reply after => ∀ status checkRunId,
        reply = .response status (some checkRunId) → HasCheck payload after.checkRuns checkRunId)
      (match known with
        | some checkRunId => external .updateCheckRun (repository, checkRunId, payload)
        | none => external .createCheckRun (repository, payload)) world := by
  cases known with
  | some checkRunId =>
      refine (one.updateCheckRun _).mono fun outcome after _ ends => ?_
      cases outcome with
      | error exception => trivial
      | ok reply =>
          intro status updated is
          obtain rfl := ends.2 status updated is
          have same : after.checkRuns = world.checkRuns := ends.1
          rw [same]
          exact isKnown _ rfl
  | none => exact one.createCheckRun (isMissing rfl)

/-- **The client returns the identifier of a Check of the run.** -/
theorem OneCheck.upsertCompleted (one : OneCheck runId repository evidence payload world)
    (installationId : Option PositiveInt) {known : Option Int}
    (isKnown : ∀ checkRunId, known = some checkRunId → HasCheck payload world.checkRuns checkRunId) :
    SecuresOne runId repository evidence payload (fun checkRunId after =>
      HasCheck payload after.checkRuns checkRunId)
      (PatchProof.upsertCompleted repository installationId payload known) world := by
  unfold PatchProof.upsertCompleted
  cases installationId with
  | none => exact ⟨one, trivial⟩
  | some installationId =>
      refine (one.tokenFor installationId repository).bindReturning ?_
      intro _ fetched one sameChecks
      rw [← sameChecks] at isKnown
      cases known with
      | some checkRunId =>
          refine (one.submit isKnown (by simp)).bindReturning ?_
          exact fun reply after one isCheck => one.acceptIdentifier isCheck
      | none =>
          refine one.findExisting.bindReturning ?_
          intro found after one ⟨isFound, isMissing⟩
          have submitted := (one.submit isFound isMissing).bindReturning
            fun reply after one isCheck => one.acceptIdentifier isCheck
          cases found with
          | some checkRunId => exact submitted
          | none => exact submitted

/-! ## The publisher -/

section Replies

variable {checkRuns : List CheckRun}

theorem SawOne.run {run : VerificationRun}
    (saw : SawOne runId repository evidence payload checkRuns (.getRun runId) run) :
    run.repository = repository := by
  obtain ⟨input, before, after, holds, observed⟩ := saw
  obtain ⟨row, found, same⟩ := holds.row
  cases observed with
  | elsewhere _ different => exact absurd rfl different
  | loaded current =>
      obtain rfl := Option.some.inj (found.symm.trans current)
      exact same

theorem SawOne.stored {stored : Option (StoredEvidence p.Document)}
    (saw : SawOne runId repository evidence payload checkRuns (.getEvidence runId) stored) :
    stored = some evidence := by
  obtain ⟨input, before, after, holds, observed⟩ := saw
  cases observed with
  | elsewhere _ different => exact absurd rfl different
  | readEvidence => exact holds.evidence

theorem SawOne.publication {payloadSha256 : String} {publication : CheckPublication}
    (saw : SawOne runId repository evidence payload checkRuns
      (.beginPublication runId payloadSha256) publication) :
    ∀ checkRunId, publication.checkRunId = some checkRunId →
      HasCheck payload checkRuns checkRunId := by
  obtain ⟨input, before, after, holds, observed⟩ := saw
  intro checkRunId some
  cases observed with
  | elsewhere _ different => exact absurd rfl different
  | begun => cases some
  | begunAgain found => exact holds.recorded _ found checkRunId some

theorem SawOne.updated {version : Int} {transition : RunTransition} {run : VerificationRun}
    (saw : SawOne runId repository evidence payload checkRuns
      (.transitionRun runId version transition) run) : run.repository = repository := by
  obtain ⟨input, before, after, holds, observed⟩ := saw
  obtain ⟨row, found, same⟩ := holds.row
  cases observed with
  | elsewhere _ different => exact absurd rfl different
  | moved current _ _ wrote =>
      obtain rfl := Option.some.inj (found.symm.trans current)
      rw [wrote]
      exact same

end Replies

/-- Moving the publication state touches no Check. -/
theorem OneCheck.movePublication (one : OneCheck runId repository evidence payload world)
    (state : PublicationState) :
    SecuresOne runId repository evidence payload (fun _ _ => True)
      (PatchProof.movePublication (p := p) runId state) world := by
  refine (one.perform (.inl rfl)).bindReturning fun latest read one _ => ?_
  exact (one.perform (.inl rfl)).bindReturning fun _ moved one _ => ⟨one, trivial⟩

/-- A withdrawal raises. -/
theorem OneCheck.withdraw {α : Type} {onReturn : α → PublicationWorld p → Prop}
    (one : OneCheck runId repository evidence payload world) (error : String)
    (state : PublicationState) (exception : RaisedException) :
    SecuresOne runId repository evidence payload onReturn
      (PatchProof.withdraw runId error state exception) world := by
  refine (one.perform (.inl rfl)).bindReturning fun _ noted one _ => ?_
  exact (one.movePublication state).bindReturning fun _ moved one _ => ⟨one, trivial⟩

theorem OneCheck.announceOrWithdraw (one : OneCheck runId repository evidence payload world)
    {run : VerificationRun} (place : run.repository = repository) {publication : CheckPublication}
    (isKnown : ∀ checkRunId, publication.checkRunId = some checkRunId →
      HasCheck payload world.checkRuns checkRunId) :
    SecuresOne runId repository evidence payload (fun _ _ => True)
      (PatchProof.announceOrWithdraw runId run payload publication) world := by
  subst place
  have announced : SecuresOne runId run.repository evidence payload (fun _ _ => True)
      (announce runId run payload publication) world := by
    refine (one.upsertCompleted run.installationId isKnown).bindReturning ?_
    intro checkRunId after one isCheck
    refine (one.perform (.inr ⟨checkRunId, rfl, isCheck⟩)).mono fun outcome _ _ _ => ?_
    cases outcome <;> trivial
  refine announced.catching (fun _ _ _ _ => trivial) fun exception after one _ => ?_
  cases exception with
  | checkRetryable message => exact one.withdraw _ _ _
  | checkTerminal message => exact one.withdraw _ _ _
  | _ => exact ⟨one, trivial⟩

theorem OneCheck.deliver (one : OneCheck runId repository evidence payload world) :
    SecuresOne runId repository evidence payload (fun _ _ => True)
      (PatchProof.deliver runId payload) world := by
  refine (one.perform (.inl rfl)).bindReturning fun publication begun one ⟨sameBegun, saw⟩ => ?_
  have isKnown := saw.publication
  rw [← sameBegun] at isKnown
  refine (one.perform (.inl rfl)).bindReturning fun run read one ⟨sameRead, sawRun⟩ => ?_
  rw [← sameRead] at isKnown
  have announcing : ∀ {run : VerificationRun} {state : PublicationWorld p},
      run.repository = repository → OneCheck runId repository evidence payload state →
      state.checkRuns = read.checkRuns →
      SecuresOne runId repository evidence payload (fun _ _ => True)
        (do
          let publication ← PatchProof.announceOrWithdraw runId run payload publication
          PatchProof.movePublication runId .published
          return publication) state := by
    intro run state place one same
    rw [← same] at isKnown
    refine (one.announceOrWithdraw place isKnown).bindReturning fun _ announced one _ => ?_
    exact (one.movePublication .published).bindReturning fun _ moved one _ => ⟨one, trivial⟩
  by_cases again : run.publicationState = .retryableFailure
  · simp only [again, if_true]
    refine (one.perform (.inl rfl)).bindReturning fun moved written one ⟨same, saw⟩ => ?_
    exact announcing saw.updated one same
  · simp only [again, if_false]
    exact announcing sawRun.run one rfl

theorem OneCheck.confirmPublished (one : OneCheck runId repository evidence payload world) :
    SecuresOne runId repository evidence payload (fun _ _ => True)
      (PatchProof.confirmPublished (p := p) runId payload) world := by
  refine (one.perform (.inl rfl)).bindReturning fun publication read one _ => ?_
  cases publication with
  | none => exact ⟨one, trivial⟩
  | some publication => exact Program.Secures.demandReturning one fun _ => ⟨one, trivial⟩

/-- **One publish attempt secures the invariant**, wherever it is cut off. -/
theorem OneCheck.publish (one : OneCheck runId repository evidence payload world)
    (renders : ∀ report, p.decode evidence.documentJson = .ok report →
      p.payload report = payload) :
    SecuresOne runId repository evidence payload (fun _ _ => True)
      (PatchProof.publish runId) world := by
  refine (one.perform (.inl rfl)).bindReturning fun run read one _ => ?_
  refine Program.Secures.demandReturning one fun _ => ?_
  refine Program.Secures.demandReturning one fun _ => ?_
  refine (one.perform (.inl rfl)).bindReturning fun stored fetched one ⟨_, saw⟩ => ?_
  obtain rfl := saw.stored
  cases decoded : p.decode evidence.documentJson with
  | error exception =>
      simp only [attempt, decoded]
      exact ⟨one, trivial⟩
  | ok report =>
      obtain rfl := renders report decoded
      simp only [attempt, decoded]
      by_cases published : run.publicationState = .published
      · simp only [published, if_true]
        exact one.confirmPublished
      · simp only [published, if_false]
        exact Program.Secures.demandReturning one fun _ => one.deliver

end Calls

/-! ## Attempts in sequence -/

/-- Publish attempts for a run, each cut off where its moments end. -/
def publishAll (runId : RunId) (attempts : List (List (PublicationMoment p)))
    (world : PublicationWorld p) : PublicationWorld p :=
  Program.driveAll (gitHub p) (attempts.map fun moments => (publish runId, moments)) world

/-- The store has recorded a Check for the run. -/
def Recorded (runId : RunId) (checkRunId : Int) (world : PublicationWorld p) : Prop :=
  ∃ publication, (world.store.view runId).publication = some publication ∧
    publication.checkRunId = some checkRunId

section Recorded

variable {runId : RunId} {checkRunId : Int} {world : PublicationWorld p}

theorem Recorded.performed {store : SqliteStore p.Document} {input : StoreInput}
    {call : StoreCall p.Document} (recorded : ∃ publication,
      (store.view runId).publication = some publication ∧
        publication.checkRunId = some checkRunId) :
    ∃ publication, ((store.perform p.sha256Of input call).2.view runId).publication =
      some publication ∧ publication.checkRunId = some checkRunId := by
  obtain ⟨publication, found, is⟩ := recorded
  have observed := store.perform_observed p.sha256Of input call runId
  generalize (store.perform p.sha256Of input call).1 = reply at observed
  generalize (store.perform p.sha256Of input call).2.view runId = after at observed
  generalize store.view runId = before at observed found
  cases observed with
  | begun _ fresh =>
      rw [found] at fresh
      cases fresh
  | begunAgain earlier =>
      obtain rfl := Option.some.inj (found.symm.trans earlier)
      exact ⟨_, rfl, is⟩
  | identified earlier unidentified =>
      obtain rfl := Option.some.inj (found.symm.trans earlier)
      rcases unidentified with isNone | same
      · rw [is] at isNone
        cases isNone
      · exact ⟨_, rfl, same.symm.trans is⟩
  | noted earlier =>
      obtain rfl := Option.some.inj (found.symm.trans earlier)
      exact ⟨_, rfl, is⟩
  | _ => exact ⟨publication, found, is⟩

/-- Nothing that is answered replaces a recorded Check. -/
theorem Recorded.answered (recorded : Recorded runId checkRunId world)
    (moment : PublicationMoment p) (call : ServiceCall p) :
    Recorded runId checkRunId ((gitHub p).answer world moment call).2 := by
  have earlier : Recorded runId checkRunId (world.afterOthers moment) := by
    have kept : ∀ (operations : List (StoreInput × StoreCall p.Document))
        (store : SqliteStore p.Document),
        (∃ publication, (store.view runId).publication = some publication ∧
          publication.checkRunId = some checkRunId) →
        ∃ publication, ((store.performAll p.sha256Of operations).view runId).publication =
          some publication ∧ publication.checkRunId = some checkRunId := by
      intro operations
      induction operations with
      | nil => exact fun _ is => is
      | cons operation rest ih => exact fun store is => ih _ (Recorded.performed is)
    exact kept _ _ recorded
  cases call with
  | store call => exact Recorded.performed earlier
  | external kind request =>
      cases kind with
      | createCheckRun =>
          by_cases creates : (world.afterOthers moment).Creates moment
          · have answered : ((gitHub p).answer world moment (.external .createCheckRun request)).2 =
                { world.afterOthers moment with
                  checkRuns := world.checkRuns ++ [created moment request] } :=
              congrArg Prod.snd (if_pos creates)
            rw [answered]
            exact earlier
          · have answered : ((gitHub p).answer world moment (.external .createCheckRun request)).2 =
                world.afterOthers moment := congrArg Prod.snd (if_neg creates)
            rw [answered]
            exact earlier
      | _ => exact earlier

theorem Recorded.driven {α : Type} (recorded : Recorded runId checkRunId world)
    (program : Activity p α) (moments : List (PublicationMoment p)) :
    Recorded runId checkRunId (program.drive (gitHub p) world moments).2 := by
  have secured : Program.Secures (gitHub p) (fun _ _ => True) (Recorded runId checkRunId)
      (fun _ _ => True) program world :=
    Program.Secures.of_stable (fun _ moment call is _ => is.answered moment call) program recorded
  exact (secured.drive (Program.meetsAlong_of_forall _ _ fun _ _ _ => trivial)).invariant

theorem Recorded.published (recorded : Recorded runId checkRunId world)
    (attempts : List (List (PublicationMoment p))) :
    Recorded runId checkRunId (publishAll runId attempts world) := by
  unfold publishAll
  induction attempts generalizing world with
  | nil => exact recorded
  | cons moments rest ih => exact ih (recorded.driven _ _)

end Recorded

section AtMostOne

variable {runId : RunId} {repository : RepositoryName} {evidence : StoredEvidence p.Document}
  {payload : GitHubCheckPayload} {world : PublicationWorld p}

theorem OneCheck.publishAll (one : OneCheck runId repository evidence payload world)
    (renders : ∀ report, p.decode evidence.documentJson = .ok report →
      p.payload report = payload) {attempts : List (List (PublicationMoment p))}
    (leaves : ∀ moments ∈ attempts, ∀ moment ∈ moments, ∀ state, Leaves runId state moment) :
    OneCheck runId repository evidence payload (PatchProof.publishAll runId attempts world) := by
  have secured : ∀ attempt ∈ attempts.map fun moments =>
      ((PatchProof.publish runId : Activity p CheckPublication), moments),
      ∀ state, OneCheck runId repository evidence payload state →
        SecuresOne runId repository evidence payload (fun _ _ => True) attempt.1 state ∧
          Program.MeetsAlong (gitHub p) (Leaves runId) attempt.1 state attempt.2 := by
    intro attempt mem state one
    obtain ⟨moments, given, rfl⟩ := List.mem_map.mp mem
    exact ⟨one.publish renders, Program.meetsAlong_of_forall _ _ (leaves moments given)⟩
  exact Program.driveAll_keeps secured one

/-- **At most one Check for a run.**  However many publish attempts follow one another
and wherever each of them is cut off, at most one Check carries the external
identifier of the run, and a recorded identifier stays. -/
theorem at_most_one_check_per_run
    (found : ∃ row, (world.store.view runId).row = some row ∧ row.repository = repository)
    (stored : (world.store.view runId).evidence = some evidence)
    (renders : ∀ report, p.decode evidence.documentJson = .ok report →
      p.payload report = payload)
    (unpublished : (world.store.view runId).publication = none)
    (unannounced : ∀ check ∈ world.checkRuns, check.externalId ≠ payload.externalId)
    (earlier : List (List (PublicationMoment p))) (moments more : List (PublicationMoment p))
    (later : List (List (PublicationMoment p)))
    (leaves : ∀ attempt ∈ earlier ++ [moments], ∀ moment ∈ attempt, ∀ state,
      Leaves runId state moment) :
    ((publishAll runId (earlier ++ [moments]) world).checkRuns.filter fun check =>
        decide (check.externalId = payload.externalId)).length ≤ 1 ∧
    ∀ checkRunId, Recorded runId checkRunId (publishAll runId (earlier ++ [moments]) world) →
      Recorded runId checkRunId
        (publishAll runId (earlier ++ [moments ++ more] ++ later) world) := by
  have one : OneCheck runId repository evidence payload world := by
    refine ⟨⟨found, stored, fun publication is => ?_⟩, ?_, fun check mem same => ?_⟩
    · rw [unpublished] at is
      cases is
    · have nothing : world.checkRuns.filter (fun check =>
          decide (check.externalId = payload.externalId)) = [] :=
        List.filter_eq_nil_iff.mpr fun check mem => by simpa using unannounced check mem
      rw [nothing]
      exact Nat.zero_le _
    · exact absurd same (unannounced check mem)
  refine ⟨(one.publishAll renders leaves).atMostOne, fun checkRunId recorded => ?_⟩
  have resumed : publishAll runId (earlier ++ [moments ++ more] ++ later) world =
      publishAll runId later (((publish runId).drive (gitHub p)
        (publishAll runId earlier world) (moments ++ more)).2) := by
    simp [publishAll, Program.driveAll]
  have reached : publishAll runId (earlier ++ [moments]) world =
      ((publish runId).drive (gitHub p) (publishAll runId earlier world) moments).2 := by
    simp [publishAll, Program.driveAll]
  rw [reached] at recorded
  rw [resumed, Program.drive_append]
  exact (recorded.driven _ _).published _

end AtMostOne

/-! ## Two attempts -/

/-- A completed run with its evidence. -/
def completedStore : SqliteStore (EvidenceReport Unit) :=
  SqliteStore.empty.performAll samplePlatform.sha256Of
    [(⟨1, ⟨1⟩⟩, .acceptPullRequest
        { sampleEvent "first" 'a' 10 isLowerHex_a deliveryId_first with
          installationId := some ⟨5, five_positive⟩ }),
      (⟨2, ⟨2⟩⟩, .saveEvidence ⟨1⟩ (sampleReport ⟨1⟩ 2) sampleSha256.text),
      (⟨3, ⟨3⟩⟩, .transitionRun ⟨1⟩ 1
        { publicationState := some .pending
          requireChange := RunTransition.publication_changes .pending }),
      (⟨4, ⟨4⟩⟩, .transitionRun ⟨1⟩ 2
        { lifecycle := some .terminal, terminalReason := some .completed })]

/-- A moment in which nobody else does anything and a creation takes effect. -/
def quietMoment (now : Int) (fate : ResponseFate) : PublicationMoment samplePlatform where
  now := now
  freshRunId := ⟨0⟩
  answer
    | .installationToken => .ok (.token "token")
    | _ => .error (.other "not asked")
  others := []
  reaches := true
  newCheckRunId := now
  fate := fate

/-- The first attempt loses the answer to its creation, and the second goes through. -/
def lostAndRetried : List (List (PublicationMoment samplePlatform)) :=
  [([5, 6, 7, 8, 9, 10].map fun now => quietMoment now (.answered 200)) ++
      [quietMoment 11 .unavailable],
    [20, 21, 22, 23, 24, 25, 26, 27, 28, 29].map fun now => quietMoment now (.answered 200)]

/-- The second attempt finds the Check of the first and records it. -/
theorem at_most_one_check_per_run_two :
    ((publishAll ⟨1⟩ lostAndRetried ⟨completedStore, []⟩).checkRuns.filter fun check =>
        decide (check.externalId =
          (samplePlatform.payload (sampleReport ⟨1⟩ 2)).externalId)).length ≤ 1 ∧
      Recorded ⟨1⟩ 11 (publishAll ⟨1⟩ lostAndRetried ⟨completedStore, []⟩) := by
  let world : PublicationWorld samplePlatform := ⟨completedStore, []⟩
  have found : ∃ row, (world.store.view ⟨1⟩).row = some row ∧
      row.repository = ⟨"octo/service", by decide⟩ := ⟨_, rfl, rfl⟩
  have stored : (world.store.view ⟨1⟩).evidence =
      some ⟨⟨1⟩, sampleReport ⟨1⟩ 2, sampleSha256.text, 2⟩ := rfl
  have renders : ∀ report, samplePlatform.decode (sampleReport ⟨1⟩ 2) = .ok report →
      samplePlatform.payload report = samplePlatform.payload (sampleReport ⟨1⟩ 2) := by
    rintro report ⟨⟩
    rfl
  have leaves : ∀ attempt ∈ lostAndRetried, ∀ moment ∈ attempt,
      ∀ state, Leaves ⟨1⟩ state moment := by
    intro attempt mem moment given state operation performed
    have nobody : ∀ attempt ∈ lostAndRetried, ∀ moment ∈ attempt,
        moment.others.length = 0 := by decide
    rw [List.length_eq_zero_iff.mp (nobody attempt mem moment given)] at performed
    cases performed
  obtain ⟨first, second, same⟩ : ∃ first second, lostAndRetried = [first] ++ [second] :=
    ⟨_, _, rfl⟩
  have all := at_most_one_check_per_run found stored renders rfl (by simp [world]) [first] second
    [] [] (same ▸ leaves)
  have recorded : ((publishAll ⟨1⟩ lostAndRetried world).store.view ⟨1⟩).publication.bind
      CheckPublication.checkRunId = some 11 := by decide +kernel
  obtain ⟨publication, isRow, is⟩ := Option.bind_eq_some_iff.mp recorded
  exact ⟨same ▸ all.1, publication, isRow, is⟩

end PatchProof
