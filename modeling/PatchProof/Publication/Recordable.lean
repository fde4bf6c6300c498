import PatchProof.Protocol.Attempt
import PatchProof.Publication.Obligation

/-!
# Checks that can be recorded

A Check that GitHub has been asked for is recorded by moving the publication of its run
to `PUBLISHED`, so GitHub may be asked only while that move is legal.  An attempt looks
at the publication before it begins, and refuses two of the three final states; a run
whose publication was given up as not applicable is not refused.

Along schedules in which no attempt begins on a publication that is final, and nobody
else closes one that an attempt is busy with, GitHub is asked only for Checks that can
be recorded.  The schedule at the end of the module begins on one that was given up.
-/

set_option autoImplicit false

namespace PatchProof

variable {p : Platform} {ι : Type} [DecidableEq ι]

/-! ## Open and closed publications -/

/-- A publication state that no other state may follow. -/
def PublicationState.isFinal (state : PublicationState) : Bool :=
  (publicationTransitions state).all fun next => decide (next = state)

/-- Whether an answered call closed the publication of a run. -/
def closesPublication (runId : RunId) (answered : PoolEvent ι (ServiceCall.Reply p)) : Bool :=
  match answered.call, answered.reply with
  | .store (.transitionRun target _ transition), .ok _ =>
      decide (target = runId) && transition.publicationState.any PublicationState.isFinal
  | _, _ => false

/-- Whether an answered call was that by which a routine began its attempt. -/
def beginsAttempt (runId : RunId) (who : ι) (answered : PoolEvent ι (ServiceCall.Reply p)) : Bool :=
  decide (answered.who = who) &&
    match answered.call with
    | .store (.beginPublication target _) => decide (target = runId)
    | _ => false

/-- Nobody else has closed the publication of the run since a routine began its
attempt. -/
def UnclosedSince (runId : RunId) (who : ι) (history : List (PoolEvent ι (ServiceCall.Reply p))) :
    Prop :=
  ∀ answered ∈ history.takeWhile (fun answered => !beginsAttempt runId who answered),
    answered.who ≠ who → closesPublication runId answered = false

instance (runId : RunId) (who : ι) (history : List (PoolEvent ι (ServiceCall.Reply p))) :
    Decidable (UnclosedSince runId who history) :=
  inferInstanceAs (Decidable (∀ answered ∈
    history.takeWhile (fun answered => !beginsAttempt runId who answered), _))

/-- A tick that asks GitHub about a run finds its publication in a state from which it
can still become published. -/
def WritesRecordable (duties : ι → Duty p) (runId : RunId)
    (pool : Pool ι (ServiceCall.Reply p) (SqliteStore p.Document) RaisedException Unit) (who : ι) :
    ServiceCall p → Moment p → Prop
  | .external kind _, _ => kind.asksGithub = true → (duties who).runId = some runId →
      ∃ row ∈ (pool.shared.view runId).row, row.publicationState ≠ .published ∧
        .published ∈ publicationTransitions row.publicationState
  | .store _, _ => True

/-- Attempts begin on publications that are not final, and nobody else closes a
publication between the beginning of an attempt and its calls to GitHub. -/
def AttemptsAlone (duties : ι → Duty p) (runId : RunId)
    (pool : Pool ι (ServiceCall.Reply p) (SqliteStore p.Document) RaisedException Unit) (who : ι) :
    ServiceCall p → Moment p → Prop
  | .store (.beginPublication target _), _ => target = runId →
      ∀ row ∈ (pool.shared.view runId).row, row.publicationState.isFinal = false
  | .store _, _ => True
  | .external kind _, _ => kind.asksGithub = true → (duties who).runId = some runId →
      UnclosedSince runId who pool.history

instance (duties : ι → Duty p) (runId : RunId)
    (pool : Pool ι (ServiceCall.Reply p) (SqliteStore p.Document) RaisedException Unit) (who : ι)
    (call : ServiceCall p) (moment : Moment p) :
    Decidable (WritesRecordable duties runId pool who call moment) := by
  unfold WritesRecordable
  split <;> infer_instance

instance (duties : ι → Duty p) (runId : RunId)
    (pool : Pool ι (ServiceCall.Reply p) (SqliteStore p.Document) RaisedException Unit) (who : ι)
    (call : ServiceCall p) (moment : Moment p) :
    Decidable (AttemptsAlone duties runId pool who call moment) := by
  unfold AttemptsAlone
  split <;> infer_instance

/-! ## What a call does to an open publication -/

section Steps

variable {runId : RunId} {input : StoreInput} {before after : RunView p.Document} {who : ι}
  {history : List (PoolEvent ι (ServiceCall.Reply p))}
  {answered : PoolEvent ι (ServiceCall.Reply p)}

omit [DecidableEq ι] in
/-- Only a call that closes a publication makes it final. -/
theorem Observed.staysOpen (mover : ι) {call : StoreCall p.Document}
    {reply : Except StoreException call.Result}
    (observed : Observed p.sha256Of runId input call reply before after) {row later : RunRow}
    (found : before.row = some row) (isLater : after.row = some later)
    (isOpen : row.publicationState.isFinal = false)
    (closesNot : closesPublication runId
      (⟨mover, .store call, reply⟩ : PoolEvent ι (ServiceCall.Reply p)) = false) :
    later.publicationState.isFinal = false := by
  have unchanged : after.row = before.row → later.publicationState.isFinal = false := by
    intro same
    obtain rfl := Option.some.inj (isLater.symm.trans (same.trans found))
    exact isOpen
  cases observed with
  | accepted change =>
      obtain rfl : _ = some later := isLater
      rw [found] at change
      cases change with
      | kept | refreshed | replaced => exact isOpen
  | @moved version transition _ current updated present _ permits wrote =>
      obtain rfl := Option.some.inj isLater
      obtain rfl := Option.some.inj (found.symm.trans present)
      rw [wrote]
      cases requests : transition.publicationState with
      | none =>
          simpa [RunRow.transitioned, RunRow.withChanges, requests] using isOpen
      | some state =>
          have kept : (decide (runId = runId) && transition.publicationState.any
              PublicationState.isFinal) = false := closesNot
          simpa [RunRow.transitioned, RunRow.withChanges, requests] using kept
  | failed present fresh permits =>
      obtain rfl := Option.some.inj isLater
      obtain rfl := Option.some.inj (found.symm.trans present)
      exact isOpen
  | _ => exact unchanged rfl

/-- What a longer history without a new beginning says. -/
theorem UnclosedSince.of_cons (unclosed : UnclosedSince runId who (answered :: history))
    (beginsNot : beginsAttempt runId who answered = false) :
    (answered.who ≠ who → closesPublication runId answered = false) ∧
      UnclosedSince runId who history := by
  have window : (answered :: history).takeWhile (fun earlier => !beginsAttempt runId who earlier) =
      answered :: history.takeWhile (fun earlier => !beginsAttempt runId who earlier) :=
    List.takeWhile_cons_of_pos (by rw [beginsNot]; rfl)
  unfold UnclosedSince at unclosed
  rw [window] at unclosed
  exact ⟨unclosed answered (List.mem_cons_self ..),
    fun earlier mem => unclosed earlier (List.mem_cons_of_mem answered mem)⟩

/-- What the role of a routine means for its run. -/
def StandsOpen (runId : RunId) (who : ι) (view : RunView p.Document)
    (history : List (PoolEvent ι (ServiceCall.Reply p))) : AttemptRole → Prop
  | .idle => True
  | .checked => ∃ row, view.row = some row ∧ row.Completed
  | .begun => ∃ row, view.row = some row ∧ row.Completed ∧
      (UnclosedSince runId who history → row.publicationState.isFinal = false)

/-- A call by which the routine itself neither begins nor closes anything. -/
theorem StandsOpen.kept {role : AttemptRole} {mover : ι} {call : StoreCall p.Document}
    {reply : Except StoreException call.Result}
    (stands : StandsOpen runId who before history role)
    (observed : Observed p.sha256Of runId input call reply before after)
    (beginsNot : beginsAttempt runId who
      (⟨mover, .store call, reply⟩ : PoolEvent ι (ServiceCall.Reply p)) = false)
    (own : mover = who → closesPublication runId
      (⟨mover, .store call, reply⟩ : PoolEvent ι (ServiceCall.Reply p)) = false) :
    StandsOpen runId who after (⟨mover, .store call, reply⟩ :: history) role := by
  cases role with
  | idle => trivial
  | checked =>
      obtain ⟨row, found, completed⟩ := stands
      exact observed.completed found completed
  | begun =>
      obtain ⟨row, found, completed, isOpen⟩ := stands
      obtain ⟨later, isLater, stillCompleted⟩ := observed.completed found completed
      refine ⟨later, isLater, stillCompleted, fun unclosed => ?_⟩
      obtain ⟨others, since⟩ := unclosed.of_cons beginsNot
      refine observed.staysOpen mover found isLater (isOpen since) ?_
      by_cases same : mover = who
      · exact own same
      · exact others same

/-- A call that leaves the run alone. -/
theorem StandsOpen.outside {role : AttemptRole} (stands : StandsOpen runId who before history role)
    (beginsNot : beginsAttempt runId who answered = false) :
    StandsOpen runId who before (answered :: history) role := by
  cases role with
  | idle => trivial
  | checked => exact stands
  | begun =>
      obtain ⟨row, found, completed, isOpen⟩ := stands
      exact ⟨row, found, completed, fun unclosed => isOpen (unclosed.of_cons beginsNot).2⟩

/-- A move of the routine itself. -/
theorem StandsOpen.moved {role moved : AttemptRole} {call : StoreCall p.Document}
    {reply : Except StoreException call.Result}
    (stands : StandsOpen runId who before history role)
    (observed : Observed p.sha256Of runId input call reply before after)
    (move : AttemptMove runId role (.store call) reply moved)
    (opens : ∀ payloadSha256, call = .beginPublication runId payloadSha256 →
      ∀ row, before.row = some row → row.publicationState.isFinal = false) :
    StandsOpen runId who after (⟨who, .store call, reply⟩ :: history) moved := by
  cases move with
  | leaves => trivial
  | checks completed =>
      cases observed with
      | elsewhere _ different => exact absurd rfl different
      | loaded found => exact ⟨_, found, completed⟩
  | recalls => exact stands.kept observed (Bool.and_false _) fun _ => rfl
  | begins =>
      obtain ⟨row, found, completed⟩ := stands
      have isOpen := opens _ rfl row found
      cases observed with
      | elsewhere _ different => exact absurd rfl different
      | begun => exact ⟨row, found, completed, fun _ => isOpen⟩
      | begunAgain => exact ⟨row, found, completed, fun _ => isOpen⟩
  | beginsNot => trivial
  | rereads => exact stands.kept observed (Bool.and_false _) fun _ => rfl
  | @reopens version reply =>
      refine stands.kept observed (Bool.and_false _) fun _ => ?_
      cases reply with
      | ok updated => exact Bool.and_false _
      | error exception => rfl

end Steps

/-! ## Recordable Checks along schedules -/

section Service

variable {duties : ι → Duty p} {runId : RunId}

theorem attempts_keep :
    Pool.Keeps (service p) (fun who => (duties who).attempting) (AttemptsAlone duties runId)
      (fun store history roles => ∀ who, (duties who).runId = some runId →
        StandsOpen runId who (store.view runId) history (roles who)) where
  assumed _ _ := answersOwn_service _ _ _
  kept := by
    intro pool roles who call moment moved holds meets move other about
    by_cases same : other = who
    · subst same
      rw [Function.update_self]
      cases move with
      | accepts is =>
          rw [is] at about
          cases about
      | attempts owns move =>
          obtain rfl := Option.some.inj (owns.symm.trans about)
          cases call with
          | store call =>
              refine (holds other about).moved
                (pool.shared.perform_observed p.sha256Of moment.storeInput call _) move ?_
              rintro payloadSha256 rfl
              exact meets rfl
          | external kind request =>
              have stands := holds other about
              generalize roles other = role at move stands
              cases move with
              | leaves => trivial
              | asks => exact stands.outside (Bool.and_false _)
    · rw [Function.update_of_ne same]
      have others : ∀ reply, beginsAttempt runId other
          (⟨who, call, reply⟩ : PoolEvent ι (ServiceCall.Reply p)) = false := by
        intro reply
        rw [beginsAttempt, decide_eq_false (Ne.symm same), Bool.false_and]
      cases call with
      | store call =>
          exact (holds other about).kept
            (pool.shared.perform_observed p.sha256Of moment.storeInput call runId) (others _)
            fun absurdity => absurd absurdity.symm same
      | external kind request => exact (holds other about).outside (others _)

omit [DecidableEq ι] in
/-- Only a routine that has begun an attempt asks GitHub. -/
theorem Duty.Tries.begun {duty : Duty p} {role moved : AttemptRole} {kind : ExternalKind}
    {request : kind.Request p} {reply : ServiceCall.Reply p (.external kind request)}
    (move : duty.Tries role (.external kind request) reply moved) (github : kind.asksGithub = true) :
    role = .begun := by
  cases move with
  | attempts owns move =>
      cases move with
      | leaves quiet =>
          rw [ServiceCall.isQuiet, github] at quiet
          cases quiet
      | asks => rfl

/-- **No unrecordable write to GitHub.**  Along schedules in which attempts begin on
publications that are not final and are not overtaken, GitHub is asked only for Checks
that can be recorded. -/
theorem github_writes_recordable (duties : ι → Duty p) (schedule : List (ι × Moment p))
    (runId : RunId)
    (alone : Pool.Along (service p) (AttemptsAlone duties runId) (startedPool duties) schedule) :
    Pool.Along (service p) (WritesRecordable duties runId) (startedPool duties) schedule := by
  have started : Pool.Accounted (fun who => (duties who).attempting) (fun _ _ _ => True)
      (fun _ _ _ => True) (fun store history roles => ∀ who, (duties who).runId = some runId →
        StandsOpen runId who (store.view runId) history (roles who)) (startedPool duties)
      fun _ => .idle :=
    ⟨fun who => (duties who).routine_attempts, fun _ _ => trivial⟩
  have keeps : Pool.Keeps (service p) (fun who => (duties who).attempting)
      (fun pool who call input => AttemptsAlone duties runId pool who call input ∧
        Announced (pool.shared.view runId))
      (fun store history roles => ∀ who, (duties who).runId = some runId →
        StandsOpen runId who (store.view runId) history (roles who)) :=
    ⟨fun holds meets => attempts_keep.assumed holds meets.1,
      fun holds meets => attempts_keep.kept holds meets.1⟩
  refine Pool.along_of_invariant started keeps ?_ schedule
    (alone.and (announced_along duties schedule runId))
  intro pool roles who call moment accounted ⟨meets, announced⟩ asks
  cases call with
  | store call => trivial
  | external kind request => ?_
  intro github about
  have unclosed : UnclosedSince runId who pool.history := meets github about
  have follows := accounted.follows who
  cases thread : pool.threads who with
  | done outcome =>
      rw [thread] at asks
      cases asks
  | ask call next =>
      rw [thread] at asks follows
      obtain rfl := Option.some.inj asks
      have answersOwn : AnswersOwn (.external kind request) ((service p).answer pool.shared moment
        (.external kind request)).1 := trivial
      obtain ⟨moved, move, _⟩ := follows ((service p).answer pool.shared moment
        (.external kind request)).1 answersOwn
      have begun : roles who = .begun := Duty.Tries.begun move github
      have stands := accounted.holds who about
      rw [begun] at stands
      obtain ⟨row, found, completed, isOpen⟩ := stands
      have unstarted := announced row found completed
      have isOpen := isOpen unclosed
      refine ⟨row, found, ?_⟩
      cases state : row.publicationState with
      | notStarted => exact absurd state unstarted
      | pending | retryableFailure => decide
      | published | terminalFailure | notApplicable =>
          rw [state] at isOpen
          cases isOpen

end Service

/-! ## Attempts on open and on final publications -/

/-- Time passes, the agents abstain, and GitHub accepts whatever it is asked. -/
def acceptingMoment (now : Int) : Moment samplePlatform :=
  { abstainingMoment now with
    answer
      | .installationToken => .ok (.token "token")
      | .listCheckRuns => .ok (.response 200 (some []))
      | .createCheckRun => .ok (.response 201 (some (7 : Int)))
      | kind => (abstainingMoment now).answer kind }

/-- A schedule in which each routine runs for its own number of ticks. -/
def inTurn (turns : List (ℕ × ℕ)) : List (ℕ × Moment samplePlatform) :=
  (turns.flatMap fun turn => List.replicate turn.2 turn.1).mapIdx fun now who =>
    (who, acceptingMoment (now + 1))

/-- A webhook, and the delivery of the run's task. -/
def installedFirst : ℕ → Duty samplePlatform
  | 0 => .accept (webhookEvent "webhook" 10 deliveryId_webhook)
  | _ => .deliver ⟨[⟨"octo/service", isRepositoryName_octo⟩]⟩ ⟨1⟩

/-- The only attempt of a run that has an installation from the start. -/
theorem github_writes_recordable_one :
    Pool.Along (service samplePlatform) (WritesRecordable installedFirst ⟨1⟩)
      (startedPool installedFirst) (inTurn [(0, 1), (1, 40)]) :=
  github_writes_recordable installedFirst (inTurn [(0, 1), (1, 40)]) ⟨1⟩ (by decide +kernel)

/-- An analysis request, the delivery of its task, a newer webhook, and a redelivery. -/
def installedAfterwards : ℕ → Duty samplePlatform
  | 0 => .accept (analysisEvent 10)
  | 2 => .accept (webhookEvent "webhook" 20 deliveryId_webhook)
  | _ => .deliver ⟨[⟨"octo/service", isRepositoryName_octo⟩]⟩ ⟨1⟩

/-- The redelivery of a run that was closed without a Check, and has got an installation
since, asks GitHub for a Check that cannot be recorded. -/
theorem unrecordable_write :
    ¬ Pool.Along (service samplePlatform) (WritesRecordable installedAfterwards ⟨1⟩)
      (startedPool installedAfterwards) (inTurn [(0, 1), (1, 40), (2, 1), (3, 10)]) := by
  decide +kernel

end PatchProof
