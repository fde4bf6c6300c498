import PatchProof.Protocol.Reachable

/-!
# One worker asks the models

Any number of workers about one run, with failures recorded and events accepted in
between.  The phase of a run never goes back, and a transition that changes nothing is
refused, so the transition to the claim phase succeeds once; a worker invokes the claim
model, the investigator or the candidate generator only after its own transition has
succeeded (`one_worker_asks_models`).
-/

set_option autoImplicit false

namespace PatchProof

variable {p : Platform}

/-! ## Parties -/

/-- Who acts on a run: a worker, with or without its fail-closed boundary, one that records
a failure, and one that accepts an event. -/
inductive RunParty (p : Platform) where
  | execute (workflow : EvidenceWorkflow p)
  | work (workflow : EvidenceWorkflow p)
  | fail (errorCode summary : String) (retryable : Bool) (modelUsage : Option ModelUsage)
      (rawResponseSha256 : Option String)
  | accept (event : PullRequestEvent)

namespace RunParty

def routine (runId : RunId) : RunParty p → Activity p Unit
  | execute workflow => do
      let _ ← PatchProof.execute workflow runId
  | work workflow => do
      let _ ← runReliably workflow runId
  | fail errorCode summary retryable modelUsage rawResponseSha256 => do
      let _ ← perform (.failRun runId errorCode summary retryable modelUsage rawResponseSha256)
  | accept event => do
      let _ ← perform (.acceptPullRequest event)

/-- Where a party stands at first. -/
def start : RunParty p → WorkerRole p
  | fail .. => .failing
  | _ => .entered

end RunParty

/-- The moves of a party. -/
inductive PartyMove (runId : RunId) :
    WorkerRole p → (call : ServiceCall p) → ServiceCall.Reply p call → WorkerRole p → Prop
  | works {role call reply moved} (move : WorkerMove runId role call reply moved) :
      PartyMove runId role call reply moved
  | accepts {role event reply} : PartyMove runId role (.store (.acceptPullRequest event)) reply role

/-- The protocol of the parties of a run. -/
def partyProtocol (p : Platform) (runId : RunId) :
    Protocol (ServiceCall.Reply p) (WorkerRole p) where
  Assumes := AnswersOwn
  Move := PartyMove runId

/-- **Every party follows the protocol.** -/
theorem RunParty.routine_follows (party : RunParty p) (runId : RunId) :
    Program.Follows (partyProtocol p runId) (fun _ _ => True) (fun _ _ => True) party.start
      (party.routine runId) := by
  have ofWorker : ∀ {α : Type} {role : WorkerRole p} {program : Activity p α}
      {onReturn : WorkerRole p → α → Prop} {onRaise : WorkerRole p → RaisedException → Prop},
      Program.Follows (workerProtocol p runId) onReturn onRaise role program →
      Program.Follows (partyProtocol p runId) (fun _ _ => True) (fun _ _ => True) role program := by
    intro α role program onReturn onRaise follows
    have placed : Program.Follows (partyProtocol p runId) _ _ (id role) program := follows.embed id
      (fun _ _ assumed => assumed) fun _ _ _ _ move => PartyMove.works move
    exact placed.mono (fun _ _ _ => trivial) fun _ _ _ => trivial
  cases party with
  | execute workflow => exact (ofWorker (execute_follows workflow)).bind fun _ _ _ => trivial
  | work workflow => exact (ofWorker (runReliably_follows workflow)).bind fun _ _ _ => trivial
  | fail errorCode summary retryable modelUsage rawResponseSha256 =>
      intro reply _
      refine ⟨.failing, .works .fails, ?_⟩
      cases reply <;> trivial
  | accept event =>
      intro reply _
      refine ⟨.entered, .accepts, ?_⟩
      cases reply <;> trivial

/-! ## The transition to the claim phase -/

/-- The transition to the claim phase is permitted from the context phase only. -/
theorem Permits.claiming_from_context {row : RunRow} {now : Int}
    (permits : Permits row .claiming now) : row.phase = .context := by
  have forward := permits.phaseForward
  have changes := permits.changes
  cases phase : row.phase with
  | context => rfl
  | claim =>
      refine absurd ?_ changes
      cases row
      cases phase
      rfl
  | _ => simp [phase, RunRow.withChanges, RunTransition.claiming, phaseOrder] at forward

section Phase

variable {runId : RunId} {input : StoreInput} {call : StoreCall p.Document}
  {reply : Except StoreException call.Result} {before after : RunView p.Document}

/-- No call takes the phase of a run back. -/
theorem Observed.phaseForward (observed : Observed p.sha256Of runId input call reply before after)
    {row : RunRow} (found : before.row = some row) :
    ∃ later, after.row = some later ∧ phaseOrder row.phase ≤ phaseOrder later.phase := by
  cases observed with
  | accepted change =>
      dsimp only
      rw [found] at change
      cases change with
      | kept => exact ⟨row, rfl, Nat.le_refl _⟩
      | refreshed => exact ⟨_, rfl, Nat.le_refl _⟩
      | replaced => exact ⟨_, rfl, Nat.le_refl _⟩
  | moved present version permits wrote =>
      obtain rfl := Option.some.inj (found.symm.trans present)
      refine ⟨_, rfl, ?_⟩
      rw [wrote]
      exact permits.phaseForward
  | failed present fresh permits =>
      obtain rfl := Option.some.inj (found.symm.trans present)
      exact ⟨_, rfl, permits.phaseForward⟩
  | _ => exact ⟨row, found, Nat.le_refl _⟩

end Phase

/-! ## Events -/

section Events

variable {ι : Type}

/-- A completed transition of the run to the claim phase. -/
def ClaimsRun (runId : RunId) (event : PoolEvent ι (ServiceCall.Reply p)) : Prop :=
  ∃ who version transition updated, transition.phase = some .claim ∧
    event = ⟨who, .store (.transitionRun runId version transition), .ok updated⟩

/-- An invocation of the claim model, the investigator or the candidate generator. -/
def InvokesModel (event : PoolEvent ι (ServiceCall.Reply p)) : Prop :=
  ∃ who kind request reply, kind.isSemantic = true ∧ event = ⟨who, .external kind request, reply⟩

end Events

section Moves

variable {ι : Type} {runId : RunId} {role moved : WorkerRole p}

/-- Only a worker that leads invokes a model. -/
theorem PartyMove.leads_of_semantic {kind : ExternalKind} {request : kind.Request p}
    {reply : ServiceCall.Reply p (.external kind request)}
    (move : PartyMove runId role (.external kind request) reply moved)
    (semantic : kind.isSemantic = true) : role = .leading := by
  cases move with
  | works move =>
      cases move with
      | asks plain => cases kind <;> simp_all [ExternalKind.isPlain, ExternalKind.isSemantic]
      | releases => cases semantic
      | consults => rfl

/-- Releasing the worktrees makes no worker lead. -/
theorem WorkerRole.leading_of_released {reply : Except SurroundingException Unit}
    (leads : role.released reply = .leading) : role = .leading := by
  cases role with
  | completed report => cases reply <;> cases leads
  | _ => exact leads

/-- A call to the surroundings leaves no worker leading that did not lead. -/
theorem PartyMove.leading_of_external {kind : ExternalKind} {request : kind.Request p}
    {reply : ServiceCall.Reply p (.external kind request)}
    (move : PartyMove runId role (.external kind request) reply moved) (leads : moved = .leading) :
    role = .leading := by
  cases move with
  | works move =>
      cases move with
      | asks => exact leads
      | releases => exact WorkerRole.leading_of_released leads
      | consults => rfl

/-- A worker leads from its transition to the claim phase. -/
theorem PartyMove.leading_of_store {call : StoreCall p.Document}
    {reply : Except StoreException call.Result}
    (move : PartyMove runId role (.store call) reply moved) (leads : moved = .leading) :
    role = .leading ∨ ∀ who : ι, ClaimsRun runId ⟨who, .store call, reply⟩ := by
  cases move with
  | works move =>
      cases move with
      | claims => exact .inr fun who => ⟨who, _, _, _, rfl, rfl⟩
      | recalls | dismisses | rereads | rereadsNot | saves | completes | completesNot => cases leads
      | fails => cases leads
      | _ => exact .inl leads
  | accepts => exact .inl leads

/-- A transition to the claim phase is the transition of a worker to lead. -/
theorem PartyMove.claiming {version : Int} {transition : RunTransition}
    {reply : Except StoreException VerificationRun}
    (move : PartyMove runId role (.store (.transitionRun runId version transition)) reply moved)
    (claims : transition.phase = some .claim) : transition = .claiming := by
  cases move with
  | works move =>
      cases move with
      | prepares _ prepares => exact absurd (prepares.phase _ claims) (Nat.lt_irrefl _)
      | claims | claimsNot => rfl
      | completes | completesNot => cases claims

end Moves

/-! ## At most one worker -/

section Once

variable {ι : Type} [DecidableEq ι] {runId : RunId}

/-- What holds of a run, of the calls made so far and of where its parties stand. -/
structure SemanticPhase (runId : RunId) (store : SqliteStore p.Document)
    (history : List (PoolEvent ι (ServiceCall.Reply p))) (roles : ι → WorkerRole p) : Prop where
  past : ∀ event ∈ history, ClaimsRun runId event → ∃ row, (store.view runId).row = some row ∧
    phaseOrder .claim ≤ phaseOrder row.phase
  once : ∀ first ∈ history, ∀ second ∈ history, ClaimsRun runId first → ClaimsRun runId second →
    first.who = second.who
  leads : ∀ who, roles who = .leading → ∃ event ∈ history, event.who = who ∧ ClaimsRun runId event
  invoked : ∀ event ∈ history, InvokesModel event → ∃ claim ∈ history,
    claim.who = event.who ∧ ClaimsRun runId claim

variable {store : SqliteStore p.Document} {history : List (PoolEvent ι (ServiceCall.Reply p))}
  {roles : ι → WorkerRole p} {who : ι} {moved : WorkerRole p}

/-- A call to the surroundings. -/
theorem SemanticPhase.externalCall (phase : SemanticPhase runId store history roles)
    {kind : ExternalKind} {request : kind.Request p}
    {reply : ServiceCall.Reply p (.external kind request)}
    (move : PartyMove runId (roles who) (.external kind request) reply moved) :
    SemanticPhase runId store (⟨who, .external kind request, reply⟩ :: history)
      (Function.update roles who moved) := by
  have notClaim : ¬ ClaimsRun runId ⟨who, .external kind request, reply⟩ := by
    rintro ⟨_, _, _, _, _, same⟩
    cases same
  refine ⟨fun event mem claims => ?_, fun first inFirst second inSecond claims also => ?_,
    fun other leading => ?_, fun event mem invokes => ?_⟩
  · rcases List.mem_cons.mp mem with rfl | old
    · exact absurd claims notClaim
    · exact phase.past event old claims
  · rcases List.mem_cons.mp inFirst with rfl | oldFirst
    · exact absurd claims notClaim
    · rcases List.mem_cons.mp inSecond with rfl | oldSecond
      · exact absurd also notClaim
      · exact phase.once first oldFirst second oldSecond claims also
  · have led : roles other = .leading := by
      by_cases same : other = who
      · subst same
        rw [Function.update_self] at leading
        exact move.leading_of_external leading
      · rwa [Function.update_of_ne same] at leading
    obtain ⟨event, old, isOther, claims⟩ := phase.leads other led
    exact ⟨event, List.mem_cons_of_mem _ old, isOther, claims⟩
  · rcases List.mem_cons.mp mem with rfl | old
    · obtain ⟨_, _, _, _, semantic, same⟩ := invokes
      cases same
      obtain ⟨claim, old, isWho, claims⟩ := phase.leads who (move.leads_of_semantic semantic)
      exact ⟨claim, List.mem_cons_of_mem _ old, isWho, claims⟩
    · obtain ⟨claim, inHistory, isWho, claims⟩ := phase.invoked event old invokes
      exact ⟨claim, List.mem_cons_of_mem _ inHistory, isWho, claims⟩

/-- A call to the store, of which the run is in the view after it. -/
theorem SemanticPhase.storeCall (phase : SemanticPhase runId store history roles)
    {input : StoreInput} {call : StoreCall p.Document}
    {reply : Except StoreException call.Result} {written : SqliteStore p.Document}
    (observed : Observed p.sha256Of runId input call reply (store.view runId)
      (written.view runId))
    (move : PartyMove runId (roles who) (.store call) reply moved) :
    SemanticPhase runId written (⟨who, .store call, reply⟩ :: history)
      (Function.update roles who moved) := by
  have later : ∀ event ∈ history, ClaimsRun runId event → ∃ row, (written.view runId).row = some row ∧
      phaseOrder .claim ≤ phaseOrder row.phase := by
    intro event old claims
    obtain ⟨row, found, reached⟩ := phase.past event old claims
    obtain ⟨next, isNext, forward⟩ := observed.phaseForward found
    exact ⟨next, isNext, Nat.le_trans reached forward⟩
  -- A transition to the claim phase finds the run in the context phase.
  have first : ClaimsRun runId ⟨who, .store call, reply⟩ →
      (∀ event ∈ history, ¬ ClaimsRun runId event) ∧ ∃ row, (written.view runId).row = some row ∧
        phaseOrder .claim ≤ phaseOrder row.phase := by
    rintro ⟨_, version, transition, updated, claiming, same⟩
    cases same
    obtain rfl := move.claiming claiming
    generalize written.view runId = after at observed
    cases viewed : store.view runId with
    | mk row evidence publication failure =>
    rw [viewed] at observed
    cases observed with
    | elsewhere _ different => exact absurd rfl different
    | moved found version permits wrote =>
        refine ⟨fun event old claims => ?_, _, rfl, ?_⟩
        · obtain ⟨earlier, present, reached⟩ := phase.past event old claims
          rw [viewed] at present
          obtain rfl := Option.some.inj (found.symm.trans present)
          rw [permits.claiming_from_context] at reached
          exact absurd reached (by decide)
        · rw [wrote]
          exact Nat.le_refl _
  refine ⟨fun event mem claims => ?_, fun one inOne two inTwo claims also => ?_,
    fun other leading => ?_, fun event mem invokes => ?_⟩
  · rcases List.mem_cons.mp mem with rfl | old
    · exact (first claims).2
    · exact later event old claims
  · rcases List.mem_cons.mp inOne with rfl | oldOne
    · rcases List.mem_cons.mp inTwo with rfl | oldTwo
      · rfl
      · exact absurd also ((first claims).1 two oldTwo)
    · rcases List.mem_cons.mp inTwo with rfl | oldTwo
      · exact absurd claims ((first also).1 one oldOne)
      · exact phase.once one oldOne two oldTwo claims also
  · by_cases same : other = who
    · subst same
      rw [Function.update_self] at leading
      rcases move.leading_of_store leading with led | claims
      · obtain ⟨event, old, isOther, claims⟩ := phase.leads other led
        exact ⟨event, List.mem_cons_of_mem _ old, isOther, claims⟩
      · exact ⟨_, List.mem_cons_self, rfl, claims other⟩
    · rw [Function.update_of_ne same] at leading
      obtain ⟨event, old, isOther, claims⟩ := phase.leads other leading
      exact ⟨event, List.mem_cons_of_mem _ old, isOther, claims⟩
  · rcases List.mem_cons.mp mem with rfl | old
    · obtain ⟨_, _, _, _, _, same⟩ := invokes
      cases same
    · obtain ⟨claim, inHistory, isWho, claims⟩ := phase.invoked event old invokes
      exact ⟨claim, List.mem_cons_of_mem _ inHistory, isWho, claims⟩

theorem semanticPhase_keeps (runId : RunId) :
    Pool.Keeps (service p) (fun _ : ι => partyProtocol p runId)
      (fun (_ : Pool ι (ServiceCall.Reply p) (SqliteStore p.Document) RaisedException Unit)
        _ _ _ => True) (SemanticPhase runId) where
  assumed _ _ := answersOwn_service _ _ _
  kept := by
    intro pool roles who call moment moved phase _ move
    cases call with
    | external kind request => exact phase.externalCall move
    | store call =>
        exact phase.storeCall (pool.shared.perform_observed p.sha256Of moment.storeInput call runId) move

/-- The parties of a run on a store. -/
def partiesPool (parties : ι → RunParty p) (runId : RunId) (store : SqliteStore p.Document) :
    Pool ι (ServiceCall.Reply p) (SqliteStore p.Document) RaisedException Unit where
  shared := store
  threads who := (parties who).routine runId

/-- **One worker asks the models.**  Over every schedule of any number of workers about a
run, of failures recorded and of events accepted, all completed transitions to the claim
phase are of one party, and so are all invocations of the claim model, the investigator
and the candidate generator. -/
theorem one_worker_asks_models (parties : ι → RunParty p) (runId : RunId)
    (store : SqliteStore p.Document) (schedule : List (ι × Moment p)) :
    let history := ((partiesPool parties runId store).run (service p) schedule).history
    (∀ first ∈ history, ∀ second ∈ history, ClaimsRun runId first → ClaimsRun runId second →
      first.who = second.who) ∧
    ∀ first ∈ history, ∀ second ∈ history, InvokesModel first → InvokesModel second →
      first.who = second.who := by
  have started : Pool.Accounted (fun _ => partyProtocol p runId) (fun _ _ _ => True)
      (fun _ _ _ => True) (SemanticPhase runId) (partiesPool parties runId store)
      fun who => (parties who).start := by
    refine ⟨fun who => (parties who).routine_follows runId, ⟨?_, ?_, ?_, ?_⟩⟩
    · exact fun event absurdity => absurd absurdity List.not_mem_nil
    · exact fun event absurdity => absurd absurdity List.not_mem_nil
    · intro who leading
      cases party : parties who <;> simp [party, RunParty.start] at leading
    · exact fun event absurdity => absurd absurdity List.not_mem_nil
  obtain ⟨roles, accounted⟩ := Pool.run_invariant started (semanticPhase_keeps runId) schedule
    (Pool.along_of_always (fun _ _ _ _ => trivial) _ _)
  refine ⟨accounted.holds.once, fun first inFirst second inSecond invokes also => ?_⟩
  obtain ⟨claim, inHistory, isFirst, claims⟩ := accounted.holds.invoked first inFirst invokes
  obtain ⟨other, alsoInHistory, isSecond, alsoClaims⟩ :=
    accounted.holds.invoked second inSecond also
  exact isFirst.symm.trans ((accounted.holds.once claim inHistory other alsoInHistory claims
    alsoClaims).trans isSecond)

end Once

end PatchProof
