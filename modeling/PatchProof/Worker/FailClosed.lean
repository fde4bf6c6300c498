import Mathlib
import PatchProof.Library.Sequential
import PatchProof.Protocol.Reachable

/-!
# The fail-closed worker

A worker alone with a run that is current and not terminal, from any state in which
the service may have left it, with a clock that does not go back.  Whatever is raised
around it, the worker leaves the run terminal: when it returns, the run is completed
with the report that it returns as evidence; when it raises, the run has failed, with
one failure record that carries the phase of the raise.  The one exception is a
completed run whose worktrees could not be released, which stays completed.

The proof goes by the moves of a worker.  `Stands` says what each of its roles means
for the run when nobody else touches it; some roles then mean that they are never
reached, since nothing refuses the writes of a worker that is alone.
-/

set_option autoImplicit false

namespace PatchProof

variable {p : Platform}

/-! ## What a run has come to -/

/-- A run that can still be finished or failed. -/
structure Live (view : RunView p.Document) : Prop where
  run : ∃ run : VerificationRun, view.row = some run.toRunRow ∧ run.revisionState = .current ∧
    run.lifecycle ≠ .terminal ∧ run.toRunRow.Clean
  unfailed : view.failure = none

/-- The evidence of a run is a report. -/
def Stored (view : RunView p.Document) (report : p.Report) : Prop :=
  ∃ stored, view.evidence = some stored ∧ stored.documentJson = p.encode report ∧
    stored.sha256 = (p.reportSha256 report).text

/-- A run that has been completed with a report. -/
structure CompletedWith (view : RunView p.Document) (report : p.Report) : Prop where
  run : ∃ run : VerificationRun, view.row = some run.toRunRow ∧ run.toRunRow.Completed
  stored : Stored view report
  unfailed : view.failure = none

/-- A run that has failed in a phase, with its failure record. -/
structure FailedIn (view : RunView p.Document) (phase : RunPhase) : Prop where
  row : ∃ row, view.row = some row ∧ row.lifecycle = .terminal ∧ row.terminalReason = some .failed
  failure : ∃ failure, view.failure = some failure ∧ failure.phase = phase

/-- What the role of a worker means for its run when nobody else touches it. -/
def Stands (Fault : SurroundingException → Prop) : WorkerRole p → RunView p.Document → Prop
  | .entered, view | .leading, view => Live view
  | .saved report, view => Live view ∧ Stored view report
  | .ready report run, view => Live view ∧ Stored view report ∧ view.row = some run.toRunRow
  | .completed report, view => CompletedWith view report
  | .unreleased report exception, view => CompletedWith view report ∧ Fault exception
  | .dismissed, _ | .refused, _ => False
  | .failing, _ => True

theorem stands_of_busy {Fault : SurroundingException → Prop} {role : WorkerRole p}
    (busy : role.Busy) {view : RunView p.Document} : Stands Fault role view ↔ Live view := by
  cases busy <;> rfl

/-! ## Permitted transitions -/

theorem permits_completion {run : VerificationRun} {now : Int}
    {mechanicalStatus : MechanicalEvidenceStatus} {claimOutcome : ClaimOutcome}
    (isCurrent : run.revisionState = .current) (active : run.lifecycle ≠ .terminal)
    (clean : run.toRunRow.Clean) (notBackward : run.updatedAt ≤ now) :
    Permits run.toRunRow (.completion mechanicalStatus claimOutcome) now where
  notBackward := notBackward
  notSuperseded := by
    rw [isCurrent]
    decide
  lifecycleAllowed := by
    cases stage : run.lifecycle <;> simp [RunRow.withChanges, RunTransition.completion,
      lifecycleTransitions]
  phaseForward := by
    cases stage : run.phase <;> simp [RunRow.withChanges, RunTransition.completion, phaseOrder]
  publicationAllowed := by
    simp [RunRow.withChanges, RunTransition.completion, publicationTransitions,
      clean.publicationState]
  terminalHasReason := fun _ => by simp [RunRow.withChanges, RunTransition.completion]
  reasonOnlyTerminal := fun absurdity => absurd rfl absurdity
  reasonImmutable := fun recorded => absurd (run.valid.reasonOnlyTerminal active) recorded
  statusImmutable := fun recorded => absurd clean.mechanicalEvidenceStatus recorded
  outcomeImmutable := fun recorded => absurd clean.claimOutcome recorded
  changes := fun same => active (congrArg RunRow.lifecycle same).symm

/-! ## Moves of a worker that is alone -/

section Alone

variable {runId : RunId} {Fault : SurroundingException → Prop} {input : StoreInput}
  {before after : RunView p.Document} {role moved : WorkerRole p}

/-- A transition that goes on with a live run leaves it live. -/
theorem Live.goesOn (live : Live before) {version : Int} {transition : RunTransition}
    {reply : Except StoreException VerificationRun}
    (observed : Observed p.sha256Of runId input (.transitionRun runId version transition) reply
      before after) (requested : Requested ({} : TaskRole p) transition)
    (stays : transition.lifecycle ≠ some .terminal) : Live after := by
  obtain ⟨run, found, isCurrent, active, clean⟩ := live.run
  cases observed with
  | elsewhere _ different => exact absurd rfl different
  | notMoved => exact live
  | @moved _ _ _ current updated present _ permits wrote =>
      have same : run.toRunRow = current.toRunRow := Option.some.inj (found.symm.trans present)
      rw [same] at isCurrent active clean
      have goesOn : (current.toRunRow.transitioned transition input.now).lifecycle ≠ .terminal := by
        cases requests : transition.lifecycle with
        | none => simpa [RunRow.transitioned, RunRow.withChanges, requests] using active
        | some lifecycle =>
            rw [requests] at stays
            simpa [RunRow.transitioned, RunRow.withChanges, requests] using
              fun terminal => stays (congrArg some terminal)
      refine ⟨⟨updated, rfl, ?_, ?_, ?_⟩, live.unfailed⟩
      · rw [wrote]
        exact isCurrent
      · rw [wrote]
        exact goesOn
      · rw [wrote]
        exact (requested.clean permits (fun absurdity => by cases absurdity) (fun _ => clean)
          goesOn).2

/-- A read leaves what the role means. -/
theorem Stands.read (stands : Stands Fault role before) {call : StoreCall p.Document}
    {reply : Except StoreException call.Result}
    (observed : Observed p.sha256Of runId input call reply before after)
    (reads : call = .getRun runId ∨ call = .getEvidence runId) : Stands Fault role after := by
  rcases reads with rfl | rfl
  · cases observed <;> exact stands
  · cases observed <;> exact stands

/-- What is saved by a worker that is alone is stored. -/
theorem Live.saved (live : Live before) {report : p.Report} {stored : StoredEvidence p.Document}
    (observed : Observed p.sha256Of runId input
      (.saveEvidence runId (p.encode report) (p.reportSha256 report).text) (.ok stored) before
      after) : Live after ∧ Stored after report := by
  cases observed with
  | elsewhere _ different => exact absurd rfl different
  | saved hashes present fresh => exact ⟨⟨live.run, live.unfailed⟩, _, rfl, rfl, rfl⟩
  | savedBefore hashes found sameHash sameText => exact ⟨live, _, found, sameText, sameHash⟩

/-- The completion of a run by a worker that is alone goes through. -/
theorem Live.completes (live : Live before) {report : p.Report} (stored : Stored before report)
    {run : VerificationRun} (present : before.row = some run.toRunRow)
    {reply : Except StoreException VerificationRun}
    (observed : Observed p.sha256Of runId input (.transitionRun runId run.version
      (.completion report.mechanicalStatus report.claimOutcome)) reply before after)
    (inOrder : ∀ row, before.row = some row → row.updatedAt ≤ input.now) :
    CompletedWith after report ∧ ∃ updated, reply = .ok updated := by
  have unfailed := live.unfailed
  obtain ⟨live, found, isCurrent, active, clean⟩ := live.run
  have same : live.toRunRow = run.toRunRow := Option.some.inj (found.symm.trans present)
  rw [same] at isCurrent active clean
  cases observed with
  | elsewhere _ different => exact absurd rfl different
  | notMoved refused =>
      exact absurd (permits_completion isCurrent active clean (inOrder _ present))
        (refused run present rfl)
  | @moved _ _ _ current updated _ _ permits wrote =>
      refine ⟨⟨⟨updated, rfl, ?_⟩, stored, ?_⟩, updated, rfl⟩
      · rw [wrote]
        exact ⟨rfl, rfl⟩
      · exact unfailed

/-- A move that asks the store. -/
theorem Stands.asked (stands : Stands Fault role before) {call : StoreCall p.Document}
    {reply : Except StoreException call.Result}
    (observed : Observed p.sha256Of runId input call reply before after)
    (inOrder : ∀ row, before.row = some row → row.updatedAt ≤ input.now)
    (move : WorkerMove runId role (.store call) reply moved) : Stands Fault moved after := by
  cases move with
  | reads => exact stands.read observed (.inl rfl)
  | readsEvidence => exact stands.read observed (.inr rfl)
  | recalls => trivial
  | dismisses ended =>
      obtain ⟨run, found, isCurrent, active, _⟩ := stands.run
      cases observed with
      | elsewhere _ different => exact absurd rfl different
      | loaded present =>
          have same := Option.some.inj (found.symm.trans present)
          rw [same] at isCurrent active
          exact ended ⟨isCurrent, active⟩
  | rereads =>
      cases observed with
      | elsewhere _ different => exact absurd rfl different
      | loaded present => exact ⟨stands.1, stands.2, present⟩
  | rereadsNot =>
      obtain ⟨run, found, _⟩ := stands.1.run
      cases observed with
      | elsewhere _ different => exact absurd rfl different
      | notLoaded missing => exact missing ⟨run, found⟩
  | prepares busy prepares =>
      rw [stands_of_busy busy] at stands ⊢
      exact stands.goesOn observed (.prepares prepares) prepares.lifecycle
  | claims => exact stands.goesOn observed .claims (by decide)
  | claimsNot => exact stands.goesOn observed .claims (by decide)
  | saves busy =>
      rw [stands_of_busy busy] at stands
      exact stands.saved observed
  | savesNot busy =>
      cases observed <;> exact stands
  | completes => exact (stands.1.completes stands.2.1 stands.2.2 observed inOrder).1
  | completesNot =>
      obtain ⟨_, updated, absurdity⟩ := stands.1.completes stands.2.1 stands.2.2 observed inOrder
      cases absurdity
  | fails => trivial

end Alone

/-! ## A worker that is alone -/

/-- The clock is not behind the run, and what the release of the worktrees raises is a
fault. -/
def InOrder (runId : RunId) (Fault : SurroundingException → Prop) (store : SqliteStore p.Document)
    (moment : Moment p) : Prop :=
  (∀ row, (store.view runId).row = some row → row.updatedAt ≤ moment.now) ∧
    ∀ exception, moment.answer .leaveSession = .error exception → Fault exception

section Runs

variable {runId : RunId} {Fault : SurroundingException → Prop} {store : SqliteStore p.Document}

theorem Stands.answered {role moved : WorkerRole p} {moment : Moment p} {call : ServiceCall p}
    (stands : Stands Fault role (store.view runId)) (inOrder : InOrder runId Fault store moment)
    (move : WorkerMove runId role call ((service p).answer store moment call).1 moved) :
    Stands Fault moved (((service p).answer store moment call).2.view runId) := by
  cases call with
  | store call =>
      exact stands.asked (store.perform_observed p.sha256Of moment.storeInput call runId)
        inOrder.1 move
  | external kind request =>
      change Stands Fault moved (store.view runId)
      change WorkerMove runId role (.external kind request) (moment.answer kind) moved at move
      cases kind with
      | leaveSession =>
          cases move with
          | asks plain => cases plain
          | releases =>
              cases released : moment.answer .leaveSession with
              | ok _ =>
                  have same : role.released (.ok ()) = role := by cases role <;> rfl
                  exact same.symm ▸ stands
              | error exception =>
                  cases role with
                  | completed report => exact ⟨stands, inOrder.2 exception released⟩
                  | _ => exact stands
          | consults consulted => cases consulted
      | _ =>
          cases move with
          | asks => exact stands
          | consults => exact stands

/-- How the workflow ends when the worker is alone. -/
def EndsAlone (challenge : ChallengeKind) (runId : RunId) (Fault : SurroundingException → Prop) :
    Except RaisedException p.Report → SqliteStore p.Document → Prop
  | .ok report, store => CompletedWith (store.view runId) report
  | .error exception, store => Live (store.view runId) ∨
      (challenge = .worktrees ∧ ∃ report fault, CompletedWith (store.view runId) report ∧
        Fault fault ∧ exception = .surrounding fault)

/-- **The workflow of a worker that is alone** completes the run, or raises with the run
still live, or with the run completed and its worktrees unreleased. -/
theorem execute_secures (workflow : EvidenceWorkflow p) (live : Live (store.view runId)) :
    Program.Secures (service p) (InOrder runId Fault) (fun _ => True)
      (EndsAlone workflow.challenge runId Fault)
      (execute workflow runId) store := by
  have secured := (execute_follows workflow).secures
    (fun state moment call _ => answersOwn_service state moment call)
    (fun role state moment call moved (stands : Stands Fault role (state.view runId)) inOrder move =>
      stands.answered inOrder move) live
  refine secured.mono fun outcome final _ ⟨role, stands, ends⟩ => ?_
  cases outcome with
  | ok report =>
      cases ends with
      | completed => exact stands
      | dismissed => exact stands.elim
  | error exception =>
      dsimp only at ends
      generalize kind : workflow.challenge = challenge at ends
      cases ends with
      | unfinished isOpen =>
          cases isOpen with
          | entered | leading => exact .inl stands
          | dismissed | refused => exact stands.elim
      | unreleased => exact .inr ⟨rfl, _, _, stands.1, stands.2, rfl⟩

/-- A text that begins with a visible character is not empty as a summary. -/
theorem boundedSummary_ne_empty {summary : String}
    (visible : summary.toList.head?.any (fun first => !isSpace first) = true) :
    boundedSummary summary ≠ "" := by
  cases chars : summary.toList with
  | nil =>
      rw [chars] at visible
      cases visible
  | cons first rest =>
      have notSpace : isSpace first = false := by simpa [chars] using visible
      have kept : (rest.reverse ++ [first]).dropWhile isSpace ≠ [] := by
        intro nothing
        have all := List.dropWhile_eq_nil_iff.mp nothing first (by simp)
        rw [notSpace] at all
        cases all
      intro empty
      have nothing := congrArg String.toList empty
      simp only [boundedSummary, truncate, strip, chars, String.toList_ofList] at nothing
      simp [notSpace] at nothing
      exact kept (List.dropWhile_eq_nil_iff.mpr (by simpa using nothing))

theorem failureArguments_classify (exception : RaisedException) :
    SqliteStore.FailureArguments (classify exception).code.value (classify exception).summary
      ((classify exception).rawResponseSha256.map Sha256.text) where
  code := (classify exception).code.isErrorCode_value
  summary := by
    unfold classify
    split <;> exact boundedSummary_ne_empty (by dsimp only; decide +kernel)
  hash := all_isSha256_text _

theorem getRun_answered (moment : Moment p) {run : VerificationRun}
    (found : (store.view runId).row = some run.toRunRow) :
    (service p).answer store moment (.store (.getRun runId)) = (.ok run, store) := by
  have loaded : store.requireRun runId = .ok run := SqliteStore.requireRun_eq_ok_iff.mpr found
  simp only [service, SqliteStore.perform, SqliteStore.execute, loaded, Guard.ok_bind]
  rfl

/-- The failure of a live run is recorded with its phase. -/
theorem recordFailure_fails (exception : RaisedException) {run : VerificationRun}
    (found : (store.view runId).row = some run.toRunRow) (live : Live (store.view runId)) :
    Program.Secures (service p) (InOrder runId Fault) (fun _ => True)
      (fun outcome final => outcome = .ok () ∧ FailedIn (final.view runId) run.phase)
      (recordFailure runId exception) store := by
  have active : run.revisionState = .current ∧ run.lifecycle ≠ .terminal := by
    obtain ⟨other, present, isCurrent, active, _⟩ := live.run
    have same := Option.some.inj (present.symm.trans found)
    exact same ▸ ⟨isCurrent, active⟩
  refine ⟨trivial, fun moment _ => ?_⟩
  rw [getRun_answered moment found]
  change Program.Secures _ _ _ _ (if run.revisionState = .current ∧ run.lifecycle ≠ .terminal then do
      let _ ← perform (.failRun runId (classify exception).code.value (classify exception).summary
        (classify exception).retryable (classify exception).modelUsage
        ((classify exception).rawResponseSha256.map Sha256.text))
      else return ()) store
  rw [if_pos active]
  refine ⟨trivial, fun moment inOrder => ?_⟩
  have permits : Permits run.toRunRow .failure moment.now :=
    permits_failure run.valid active.1 active.2 (inOrder.1 _ found)
  let failure : RunFailureRecord := ⟨runId, run.phase, (classify exception).code.value,
    boundedSummary (classify exception).summary, (classify exception).retryable, moment.now,
    (classify exception).modelUsage, (classify exception).rawResponseSha256.map Sha256.text⟩
  have fresh : store.failures.lookup failure.runId = none := live.unfailed
  obtain ⟨written, returned⟩ : ∃ written, store.failRun moment.storeInput.now runId
      (classify exception).code.value (classify exception).summary (classify exception).retryable
      (classify exception).modelUsage ((classify exception).rawResponseSha256.map Sha256.text) =
        .ok (failure, written) :=
    ⟨_, SqliteStore.failRun_eq_ok_iff.mpr ⟨failureArguments_classify exception, run, found,
      .inr ⟨fresh, rfl, permits, rfl⟩⟩⟩
  have answered : (service p).answer store moment (.store (.failRun runId
      (classify exception).code.value (classify exception).summary (classify exception).retryable
      (classify exception).modelUsage ((classify exception).rawResponseSha256.map Sha256.text))) =
        (.ok failure, written) := by
    simp only [service, SqliteStore.perform, SqliteStore.execute, returned]
  rw [answered]
  refine ⟨trivial, rfl, ?_⟩
  have observed : Observed p.sha256Of runId moment.storeInput _ _ (store.view runId)
      (written.view runId) := SqliteStore.failRun_observed returned runId
  have unfailed := live.unfailed
  generalize written.view runId = after at observed
  generalize store.view runId = before at observed unfailed
  cases observed with
  | elsewhere _ different => exact absurd rfl different
  | failed => exact ⟨⟨_, rfl, rfl, rfl⟩, failure, rfl, rfl⟩
  | failedBefore prior =>
      rw [unfailed] at prior
      cases prior

/-- A completed run is not failed. -/
theorem recordFailure_spares (exception : RaisedException) {report : p.Report}
    (completed : CompletedWith (store.view runId) report) :
    Program.Secures (service p) (InOrder runId Fault) (fun _ => True)
      (fun outcome final => outcome = .ok () ∧ CompletedWith (final.view runId) report)
      (recordFailure runId exception) store := by
  obtain ⟨run, found, terminal, _⟩ := completed.run
  refine ⟨trivial, fun moment _ => ?_⟩
  rw [getRun_answered moment found]
  change Program.Secures _ _ _ _ (if run.revisionState = .current ∧ run.lifecycle ≠ .terminal then do
      let _ ← perform (.failRun runId (classify exception).code.value (classify exception).summary
        (classify exception).retryable (classify exception).modelUsage
        ((classify exception).rawResponseSha256.map Sha256.text))
      else return ()) store
  rw [if_neg fun active => active.2 terminal]
  exact ⟨trivial, rfl, completed⟩

/-! ## The clock -/

/-- An answer brings a run at most to the time of the answer. -/
theorem Observed.updatedAt_le {input : StoreInput} {call : StoreCall p.Document}
    {reply : Except StoreException call.Result} {before after : RunView p.Document}
    (observed : Observed p.sha256Of runId input call reply before after)
    (inOrder : ∀ row, before.row = some row → row.updatedAt ≤ input.now) :
    ∀ row, after.row = some row → row.updatedAt ≤ input.now := by
  intro row found
  cases observed with
  | accepted change =>
      obtain rfl : _ = some row := found
      generalize before.row = earlier at change inOrder
      cases change with
      | kept => exact inOrder row rfl
      | refreshed | replaced | created => exact Int.le_refl _
  | moved _ _ _ wrote =>
      obtain rfl := Option.some.inj found
      rw [wrote]
      exact Int.le_refl _
  | failed =>
      obtain rfl := Option.some.inj found
      exact Int.le_refl _
  | _ => exact inOrder row found

/-- With a clock that does not go back, every moment is in order. -/
theorem meetsAlong_inOrder {α : Type} (program : Activity p α) {moments : List (Moment p)}
    (since : ∀ row, (store.view runId).row = some row → ∀ moment ∈ moments, row.updatedAt ≤ moment.now)
    (forward : moments.Pairwise fun earlier later => earlier.now ≤ later.now)
    (faults : ∀ moment ∈ moments, ∀ exception, moment.answer .leaveSession = .error exception →
      Fault exception) :
    Program.MeetsAlong (service p) (InOrder runId Fault) program store moments := by
  induction program generalizing store moments with
  | done outcome => cases moments <;> trivial
  | ask call next ih =>
      cases moments with
      | nil => trivial
      | cons moment rest =>
          have now : ∀ row, (store.view runId).row = some row → row.updatedAt ≤ moment.now :=
            fun row found => since row found moment (List.mem_cons_self ..)
          obtain ⟨first, later⟩ := List.pairwise_cons.mp forward
          refine ⟨⟨now, faults moment (List.mem_cons_self ..)⟩, ih _ ?_ later
            fun other mem => faults other (List.mem_cons_of_mem _ mem)⟩
          intro row found other mem
          refine Int.le_trans ?_ (first other mem)
          cases call with
          | external kind request => exact now row found
          | store call =>
              exact (store.perform_observed p.sha256Of moment.storeInput call runId).updatedAt_le now
                row found

end Runs

/-! ## The boundary -/

/-- How a run is left by a worker that was alone with it: what the workflow came to,
and what the boundary made of it. -/
def LeavesTerminal (workflow : EvidenceWorkflow p) (runId : RunId) (store : SqliteStore p.Document)
    (moments : List (Moment p)) (final : RunView p.Document) :
    Except RaisedException p.Report → Prop
  | .ok report => CompletedWith final report
  | .error exception => ∃ cause raised,
      (execute workflow runId).drive (service p) store moments = (.done (.error cause), raised) ∧
      exception = .evidenceWorker (classify cause) ∧
      ((∃ row, (raised.view runId).row = some row ∧ FailedIn final row.phase) ∨
        (workflow.challenge = .worktrees ∧ ∃ report fault, CompletedWith final report ∧
          cause = .surrounding fault ∧
          ∃ moment ∈ moments, moment.answer .leaveSession = .error fault))

section Boundary

variable {ι : Type} [DecidableEq ι]

/-- **The fail-closed worker.**  Wherever the service has left a run that is current and
not terminal, a worker that is alone with it ends, and leaves it terminal. -/
theorem run_fails_closed (duties : ι → Duty p) (schedule : List (ι × Moment p))
    (workflow : EvidenceWorkflow p) {runId : RunId} {run : VerificationRun}
    (found : ((reachedPool duties schedule).shared.view runId).row = some run.toRunRow)
    (isCurrent : run.revisionState = .current) (active : run.lifecycle ≠ .terminal)
    (moments : ℕ → Moment p) (since : run.updatedAt ≤ (moments 0).now)
    (forward : Monotone fun index => (moments index).now) :
    ∃ count outcome,
      ((runReliably workflow runId).drive (service p) (reachedPool duties schedule).shared
        ((List.range count).map moments)).1 = .done outcome ∧
      LeavesTerminal workflow runId (reachedPool duties schedule).shared
        ((List.range count).map moments)
        (((runReliably workflow runId).drive (service p) (reachedPool duties schedule).shared
          ((List.range count).map moments)).2.view runId) outcome := by
  have underway := reachedPool_underway duties schedule runId
  generalize (reachedPool duties schedule).shared = store at found underway ⊢
  obtain ⟨clean, unfailed⟩ := underway.active _ found active
  have live : Live (store.view runId) := ⟨⟨run, found, isCurrent, active, clean⟩, unfailed⟩
  obtain ⟨count, outcome, ended⟩ := Program.exists_drive_done (service p)
    (runReliably workflow runId) store moments
  refine ⟨count, outcome, ended, ?_⟩
  have since : ∀ moment ∈ (List.range count).map moments, run.updatedAt ≤ moment.now := by
    intro moment mem
    obtain ⟨index, _, rfl⟩ := List.mem_map.mp mem
    exact Int.le_trans since (forward (Nat.zero_le index))
  have ordered : ((List.range count).map moments).Pairwise fun earlier later =>
      earlier.now ≤ later.now :=
    List.pairwise_map.mpr (List.pairwise_lt_range.imp fun less => forward (Nat.le_of_lt less))
  generalize (List.range count).map moments = inputs at ended since ordered ⊢
  let Fault (fault : SurroundingException) : Prop :=
    ∃ moment ∈ inputs, moment.answer .leaveSession = .error fault
  have meets : ∀ (program : Activity p p.Report),
      Program.MeetsAlong (service p) (InOrder runId Fault) program store inputs := by
    intro program
    refine meetsAlong_inOrder program (fun row present => ?_) ordered
      fun moment mem exception raised => ⟨moment, mem, raised⟩
    obtain rfl := Option.some.inj (found.symm.trans present)
    exact since
  obtain ⟨reached, executed⟩ := Program.exists_done_of_catching ended
  have ends := (execute_secures workflow live).drive (meets _)
  rw [executed] at ends
  let handler (exception : RaisedException) : Activity p p.Report := do
    recordFailure runId exception
    Program.raise (.evidenceWorker (classify exception))
  cases reached with
  | ok report =>
      have same : (runReliably workflow runId).drive (service p) store inputs =
          (execute workflow runId).drive (service p) store inputs :=
        Program.drive_catching_of_ok executed
      rw [same, executed] at ended
      obtain rfl : .ok report = outcome := Program.done.inj ended
      rw [same]
      exact ends.2
  | error cause =>
      obtain ⟨rest, goesOn, meetsOn⟩ : ∃ rest, (runReliably workflow runId).drive (service p) store
          inputs = (handler cause).drive (service p)
            ((execute workflow runId).drive (service p) store inputs).2 rest ∧ _ :=
        Program.drive_catching_of_error executed
      have left := meetsOn _ (meets _)
      generalize raised : ((execute workflow runId).drive (service p) store inputs).2 = raisedStore
        at ends goesOn left
      have executed : (execute workflow runId).drive (service p) store inputs =
          (.done (.error cause), raisedStore) := Prod.ext executed raised
      -- What the handler leaves, once it is known what recording the failure does.
      have handled : ∀ (Left : RunView p.Document → Prop),
          Program.Secures (service p) (InOrder runId Fault) (fun _ => True)
            (fun outcome final => outcome = .ok () ∧ Left (final.view runId))
            (recordFailure runId cause) raisedStore →
          outcome = .error (.evidenceWorker (classify cause)) ∧
            Left (((runReliably workflow runId).drive (service p) store inputs).2.view runId) := by
        intro Left recording
        have secured : Program.Secures (service p) (InOrder runId Fault) (fun _ => True)
            (fun outcome final => outcome = .error (.evidenceWorker (classify cause)) ∧
              Left (final.view runId)) (handler cause) raisedStore := by
          refine recording.bind (fun _ final _ ends => ⟨trivial, rfl, ends.2⟩) ?_
          rintro exception final _ ⟨absurdity, _⟩
          cases absurdity
        have final := secured.drive left
        rw [goesOn] at ended ⊢
        rw [ended] at final
        exact final.2
      rcases ends.2 with live | ⟨kind, report, fault, completed, ⟨moment, mem, answer⟩, rfl⟩
      · obtain ⟨raisedRun, present, _⟩ := live.run
        obtain ⟨rfl, failed⟩ := handled (FailedIn · raisedRun.phase)
          (recordFailure_fails cause present live)
        exact ⟨cause, raisedStore, executed, rfl, .inl ⟨_, present, failed⟩⟩
      · obtain ⟨rfl, kept⟩ := handled (CompletedWith · report) (recordFailure_spares _ completed)
        exact ⟨_, raisedStore, executed, rfl,
          .inr ⟨kind, report, fault, kept, rfl, moment, mem, answer⟩⟩

end Boundary

/-! ## Two runs of a worker -/

/-- A run that has just been accepted. -/
def acceptedOnly : Unit → Duty samplePlatform := fun _ =>
  .accept (sampleEvent "first" 'a' 10 isLowerHex_a deliveryId_first)

/-- Time passes, and whatever is asked of the surroundings is refused. -/
def refusingMoment (index : ℕ) : Moment samplePlatform where
  now := index + 1
  freshRunId := ⟨1⟩
  answer _ := .error (.other "refused")

/-- The worker of an accepted run whose surroundings refuse everything. -/
theorem run_fails_closed_refused :
    ∃ count outcome,
      ((runReliably ⟨.worktrees, (), true, false⟩ ⟨1⟩).drive (service samplePlatform)
        (reachedPool acceptedOnly [((), refusingMoment 0)]).shared
        ((List.range count).map refusingMoment)).1 = .done outcome ∧
      LeavesTerminal ⟨.worktrees, (), true, false⟩ ⟨1⟩
        (reachedPool acceptedOnly [((), refusingMoment 0)]).shared
        ((List.range count).map refusingMoment)
        (((runReliably ⟨.worktrees, (), true, false⟩ ⟨1⟩).drive (service samplePlatform)
          (reachedPool acceptedOnly [((), refusingMoment 0)]).shared
          ((List.range count).map refusingMoment)).2.view ⟨1⟩) outcome := by
  have forward : Monotone fun index => (refusingMoment index).now := fun earlier later le => by
    simp only [refusingMoment]
    omega
  let row := RunRow.created (sampleEvent "first" 'a' 10) ⟨1, ⟨1⟩⟩ none
  let run : VerificationRun := ⟨row, by decide +kernel⟩
  have found : ((reachedPool acceptedOnly [((), refusingMoment 0)]).shared.view ⟨1⟩).row =
      some run.toRunRow := rfl
  exact run_fails_closed acceptedOnly [((), refusingMoment 0)] ⟨.worktrees, (), true, false⟩
    found rfl (fun absurdity => by cases absurdity) refusingMoment (Int.le_refl 1) forward

/-- A claim that is selected. -/
def sampleSelection : ClaimSelection where
  disposition := .selected
  claim := some {
    claimId := "claim-a"
    claimIdWellFormed := by decide +kernel
    summary := ⟨"summary", by decide⟩
    observableOperation := .empty _
    triggerCondition := .empty _
    expectedHeadObservation := .empty _
    expectedBaseHypothesis := .empty _
    sharedInterface := .empty _
    preconditions := []
    preconditionsWellFormed := by decide
    action := ⟨"action", by decide⟩
    expectedBehavior := ⟨"behavior", by decide⟩
    affectedSymbols := [⟨"service.py", by decide +kernel, ⟨"run", by decide⟩⟩]
    affectedSymbolsWellFormed := by decide
    supportingContext := [⟨"service.py", by decide +kernel, 1, 2, ⟨"body", by decide⟩, by decide⟩]
    supportingContextWellFormed := by decide
    confidence := 1
    confidenceBounded := certainty_bounded
    reasoningSummary := ⟨"reason", by decide⟩ }
  explanation := ⟨"explanation", by decide⟩
  selectedIffClaim := by decide

/-- Time passes, the environment of BASE cannot be set up, and the worktrees cannot be
released. -/
def unreleasingMoment (index : ℕ) : Moment samplePlatform where
  now := index + 1
  freshRunId := ⟨1⟩
  answer
    | .readCommittedFile => .ok []
    | .committedPaths => .ok []
    | .retrieveContext => .ok ()
    | .selectClaim => .ok ⟨sampleSelection, sampleUsage, sampleSha256⟩
    | .enterSession => .ok ()
    | .prepareEnvironment => .ok ⟨.baseSetupFailed, "setup failed"⟩
    | .readClock => .ok (5 : Int)
    | .leaveSession => .error (.gitWorkspace "worktree could not be removed")
    | _ => .error (.other "not asked")

/-- What a worker has come to whose result is stored and whose worktrees cannot be
released. -/
def unreleasedEnd : Activity samplePlatform samplePlatform.Report ×
    SqliteStore (EvidenceReport Unit) :=
  (runReliably ⟨.worktrees, (), true, false⟩ ⟨1⟩).drive (service samplePlatform)
    (reachedPool acceptedOnly [((), unreleasingMoment 0)]).shared
    ((List.range 40).map unreleasingMoment)

/-- The category with which a worker has failed. -/
def raisedCode : Activity p p.Report → Option WorkerFailureCode
  | .done (.error (.evidenceWorker failure)) => some failure.code
  | _ => none

/-- It raises, and leaves its run completed, without a failure record. -/
theorem raised_run_completed :
    raisedCode unreleasedEnd.1 = some .workspaceFailed ∧
      ((unreleasedEnd.2.view ⟨1⟩).row.bind fun row => row.terminalReason) = some .completed ∧
      (unreleasedEnd.2.view ⟨1⟩).evidence.isSome = true ∧
      (unreleasedEnd.2.view ⟨1⟩).failure.isNone = true := by
  decide +kernel

end PatchProof
