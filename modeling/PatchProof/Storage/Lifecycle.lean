import Mathlib.Logic.Relation
import PatchProof.Protocol.View

/-!
# The life of one row

What the operations of a store may do to the row of a run, over any number of
them.  A single operation leaves the row alone or writes it once, and then the
version goes up by one; `RowEvolves` collects what no sequence of operations can
undo.  Both follow from `perform_observed`: a row is written by a permitted
transition or by one of the row changes of an acceptance, and nothing else.

The one fact needed of the stored rows is that a run that is not terminal has no
terminal reason, since the write that replaces a run looks at the lifecycle to
decide whether there is a reason to keep.
-/

set_option autoImplicit false

namespace PatchProof

variable {Document : Type}

/-! ## What rows keep -/

def lifecycleOrder : RunLifecycle → Nat
  | .accepted => 0
  | .queued => 1
  | .running => 2
  | .terminal => 3

theorem lifecycleOrder_le_of_allowed {stage next : RunLifecycle}
    (allowed : next ∈ lifecycleTransitions stage) : lifecycleOrder stage ≤ lifecycleOrder next := by
  cases stage <;> cases next <;> simp_all [lifecycleTransitions, lifecycleOrder]

/-- One allowed move of the publication state. -/
def PublicationMove (state next : PublicationState) : Prop := next ∈ publicationTransitions state

theorem publicationMove_refl (state : PublicationState) : PublicationMove state state := by
  cases state <;> simp [PublicationMove, publicationTransitions]

/-- A dimension that is empty or stays as it is. -/
def SetOnce {α : Type} (before after : Option α) : Prop := before ≠ none → after = before

theorem SetOnce.refl {α : Type} (value : Option α) : SetOnce value value := fun _ => rfl

theorem SetOnce.trans {α : Type} {first second third : Option α} (earlier : SetOnce first second)
    (later : SetOnce second third) : SetOnce first third := by
  intro present
  have kept := earlier present
  exact (later (kept ▸ present)).trans kept

/-- The columns that never change. -/
def RunRow.identity (row : RunRow) : RunId × RepositoryName × PositiveInt × GitSha × GitSha × Int :=
  (row.runId, row.repository, row.prNumber, row.baseSha, row.headSha, row.createdAt)

/-- The dimensions that a superseded run keeps. -/
def RunRow.standing (row : RunRow) :
    RunLifecycle × RunPhase × RevisionState × PublicationState :=
  (row.lifecycle, row.phase, row.revisionState, row.publicationState)

/-- What no sequence of operations can undo. -/
structure RowEvolves (before after : RunRow) : Prop where
  lifecycle : lifecycleOrder before.lifecycle ≤ lifecycleOrder after.lifecycle
  phase : phaseOrder before.phase ≤ phaseOrder after.phase
  terminalReason : SetOnce before.terminalReason after.terminalReason
  mechanicalEvidenceStatus :
    SetOnce before.mechanicalEvidenceStatus after.mechanicalEvidenceStatus
  claimOutcome : SetOnce before.claimOutcome after.claimOutcome
  publication : Relation.ReflTransGen PublicationMove before.publicationState
    after.publicationState
  identity : after.identity = before.identity
  superseded : before.revisionState = .superseded → after.standing = before.standing

theorem RowEvolves.refl (row : RunRow) : RowEvolves row row where
  lifecycle := Nat.le_refl _
  phase := Nat.le_refl _
  terminalReason := .refl _
  mechanicalEvidenceStatus := .refl _
  claimOutcome := .refl _
  publication := .refl
  identity := rfl
  superseded := fun _ => rfl

theorem RowEvolves.trans {first second third : RunRow} (earlier : RowEvolves first second)
    (later : RowEvolves second third) : RowEvolves first third where
  lifecycle := Nat.le_trans earlier.lifecycle later.lifecycle
  phase := Nat.le_trans earlier.phase later.phase
  terminalReason := earlier.terminalReason.trans later.terminalReason
  mechanicalEvidenceStatus :=
    earlier.mechanicalEvidenceStatus.trans later.mechanicalEvidenceStatus
  claimOutcome := earlier.claimOutcome.trans later.claimOutcome
  publication := earlier.publication.trans later.publication
  identity := later.identity.trans earlier.identity
  superseded := fun isSuperseded => by
    have kept := earlier.superseded isSuperseded
    have still : second.revisionState = .superseded :=
      (congrArg (fun standing => standing.2.2.1) kept).trans isSuperseded
    exact (later.superseded still).trans kept

/-- What one write does to a row. -/
structure RowWritten (before after : RunRow) : Prop extends RowEvolves before after where
  move : PublicationMove before.publicationState after.publicationState
  version : after.version = before.version + 1

/-! ## The writes -/

/-- Only terminal runs have a terminal reason. -/
def RunRow.Reasoned (row : RunRow) : Prop :=
  row.lifecycle ≠ .terminal → row.terminalReason = none

theorem Permits.rowWritten {current : RunRow} {transition : RunTransition} {now : Int}
    (permits : Permits current transition now) :
    RowWritten current (current.transitioned transition now) where
  lifecycle := lifecycleOrder_le_of_allowed permits.lifecycleAllowed
  phase := permits.phaseForward
  terminalReason := permits.reasonImmutable
  mechanicalEvidenceStatus := permits.statusImmutable
  claimOutcome := permits.outcomeImmutable
  publication := .single permits.publicationAllowed
  identity := rfl
  superseded := fun isSuperseded => absurd isSuperseded permits.notSuperseded
  move := permits.publicationAllowed
  version := rfl

theorem RunRow.refreshed_rowWritten (row : RunRow) (event : PullRequestEvent) (now : Int) :
    RowWritten row (row.refreshed event now) where
  lifecycle := Nat.le_refl _
  phase := Nat.le_refl _
  terminalReason := .refl _
  mechanicalEvidenceStatus := .refl _
  claimOutcome := .refl _
  publication := .refl
  identity := rfl
  superseded := fun _ => rfl
  move := publicationMove_refl _
  version := rfl

theorem RunRow.replacedBy_rowWritten {row : RunRow} (reasoned : row.Reasoned)
    (isCurrent : row.revisionState = .current) (replacement : RunId) (now : Int) :
    RowWritten row (row.replacedBy replacement now) where
  lifecycle := by
    cases stage : row.lifecycle <;> simp [RunRow.replacedBy, lifecycleOrder]
  phase := Nat.le_refl _
  terminalReason := by
    intro recorded
    have terminal : row.lifecycle = .terminal := by
      by_contra active
      exact recorded (reasoned active)
    exact if_pos terminal
  mechanicalEvidenceStatus := .refl _
  claimOutcome := .refl _
  publication := .refl
  identity := rfl
  superseded := fun isSuperseded => by
    rw [isCurrent] at isSuperseded
    cases isSuperseded
  move := publicationMove_refl _
  version := rfl

/-- One row before and after an operation: untouched, or written once. -/
def RowStep (before after : RunRow) : Prop := after = before ∨ RowWritten before after

theorem RowStep.evolves {before after : RunRow} (step : RowStep before after) :
    RowEvolves before after := by
  rcases step with rfl | written
  · exact .refl _
  · exact written.toRowEvolves

/-- **One operation leaves a row alone or writes it once.** -/
theorem Observed.rowStep {sha256Of : Document → String} {runId : RunId} {input : StoreInput}
    {call : StoreCall Document} {reply : Except StoreException call.Result}
    {before after : RunView Document} (observed : Observed sha256Of runId input call reply before after)
    {row : RunRow} (found : before.row = some row) (reasoned : row.Reasoned) :
    ∃ later, after.row = some later ∧ RowStep row later := by
  cases observed with
  | accepted change =>
      rw [found] at change
      cases change with
      | kept => exact ⟨row, rfl, .inl rfl⟩
      | refreshed => exact ⟨_, rfl, .inr (RunRow.refreshed_rowWritten _ _ _)⟩
      | replaced _ samePull wasCurrent newer =>
          exact ⟨_, rfl, .inr (RunRow.replacedBy_rowWritten reasoned wasCurrent _ _)⟩
  | moved current version permits wrote =>
      obtain rfl := Option.some.inj (found.symm.trans current)
      exact ⟨_, rfl, .inr (wrote ▸ permits.rowWritten)⟩
  | failed current fresh permits =>
      obtain rfl := Option.some.inj (found.symm.trans current)
      exact ⟨_, rfl, .inr permits.rowWritten⟩
  | _ => exact ⟨row, found, .inl rfl⟩

/-- Rows of runs that are not terminal have no reason after an operation either. -/
theorem Observed.reasoned {sha256Of : Document → String} {runId : RunId} {input : StoreInput}
    {call : StoreCall Document} {reply : Except StoreException call.Result}
    {before after : RunView Document} (observed : Observed sha256Of runId input call reply before after)
    (reasoned : ∀ row, before.row = some row → row.Reasoned) :
    ∀ row, after.row = some row → row.Reasoned := by
  intro row present
  cases observed with
  | accepted change =>
      obtain rfl : _ = some row := present
      generalize before.row = earlier at change reasoned
      cases change with
      | kept => exact reasoned row rfl
      | refreshed old => exact reasoned old rfl
      | replaced old => exact fun active => absurd rfl active
      | created newer =>
          cases newer with
          | none => exact fun _ => rfl
          | some other => exact fun active => absurd rfl active
  | moved current version permits wrote =>
      obtain rfl := Option.some.inj present
      rw [wrote]
      exact permits.reasonOnlyTerminal
  | failed current fresh permits =>
      obtain rfl := Option.some.inj present
      exact permits.reasonOnlyTerminal
  | _ => exact reasoned row present

/-! ## Sequences of operations -/

namespace SqliteStore

/-- Every row of the store is reasoned. -/
def Reasoned (store : SqliteStore Document) : Prop :=
  ∀ runId row, store.runs.lookup runId = some row → row.Reasoned

theorem reasoned_empty : (empty : SqliteStore Document).Reasoned :=
  fun _ _ found => by cases found

variable [DecidableEq Document] (sha256Of : Document → String)

/-- Perform operations one after another, whether they return or raise. -/
def performAll (store : SqliteStore Document) :
    List (StoreInput × StoreCall Document) → SqliteStore Document
  | [] => store
  | (input, call) :: rest => performAll (store.perform sha256Of input call).2 rest

variable {sha256Of} {store : SqliteStore Document}

theorem Reasoned.perform (reasoned : store.Reasoned) (input : StoreInput)
    (call : StoreCall Document) : (store.perform sha256Of input call).2.Reasoned :=
  fun runId => (perform_observed store sha256Of input call runId).reasoned (reasoned runId)

theorem Reasoned.performAll (reasoned : store.Reasoned)
    (operations : List (StoreInput × StoreCall Document)) :
    (store.performAll sha256Of operations).Reasoned := by
  induction operations generalizing store with
  | nil => exact reasoned
  | cons operation rest ih => exact ih (reasoned.perform operation.1 operation.2)

theorem performAll_evolves (reasoned : store.Reasoned)
    (operations : List (StoreInput × StoreCall Document)) {runId : RunId} {row : RunRow}
    (found : store.runs.lookup runId = some row) :
    ∃ later, (store.performAll sha256Of operations).runs.lookup runId = some later ∧
      RowEvolves row later := by
  induction operations generalizing store row with
  | nil => exact ⟨row, found, .refl row⟩
  | cons operation rest ih =>
      obtain ⟨input, call⟩ := operation
      obtain ⟨next, nextFound, step⟩ :=
        (perform_observed store sha256Of input call runId).rowStep found (reasoned runId row found)
      obtain ⟨later, laterFound, evolves⟩ := ih (reasoned.perform input call) nextFound
      exact ⟨later, laterFound, step.evolves.trans evolves⟩

/-- **Run lifecycle monotonicity.**  In every store that operations lead to from the
empty one, an operation leaves each row alone or writes it once, one that raises
leaves the whole store alone, and further operations only make rows evolve. -/
theorem lifecycle_monotone (sha256Of : Document → String)
    (operations : List (StoreInput × StoreCall Document)) {runId : RunId} {row : RunRow}
    (found : ((empty : SqliteStore Document).performAll sha256Of operations).runs.lookup runId =
      some row) :
    (∀ input call,
      (∃ later, (((empty : SqliteStore Document).performAll sha256Of operations).perform
        sha256Of input call).2.runs.lookup runId = some later ∧ RowStep row later) ∧
      (∀ exception, (((empty : SqliteStore Document).performAll sha256Of operations).perform
          sha256Of input call).1 = .error exception →
        (((empty : SqliteStore Document).performAll sha256Of operations).perform
          sha256Of input call).2 = (empty : SqliteStore Document).performAll sha256Of operations)) ∧
    ∀ more, ∃ later, (((empty : SqliteStore Document).performAll sha256Of operations).performAll
      sha256Of more).runs.lookup runId = some later ∧ RowEvolves row later := by
  have reasoned : ((empty : SqliteStore Document).performAll sha256Of operations).Reasoned :=
    reasoned_empty.performAll operations
  refine ⟨fun input call => ⟨?_, ?_⟩, fun more => performAll_evolves reasoned more found⟩
  · exact (perform_observed _ sha256Of input call runId).rowStep found (reasoned runId row found)
  · intro exception raised
    unfold SqliteStore.perform at raised ⊢
    cases outcome : ((empty : SqliteStore Document).performAll sha256Of operations).execute
        sha256Of input call with
    | ok value =>
        rw [outcome] at raised
        cases raised
    | error _ => rfl

/-- The run of one accepted event, under everything that may happen after it. -/
theorem lifecycle_monotone_one :
    let accepted := (empty : SqliteStore String).performAll id
      [(⟨1, ⟨1⟩⟩, .acceptPullRequest (sampleEvent "first" 'a' 10))]
    ∃ row, accepted.runs.lookup ⟨1⟩ = some row ∧ ∀ more, ∃ later,
      (accepted.performAll id more).runs.lookup ⟨1⟩ = some later ∧ RowEvolves row later := by
  intro accepted
  have found : accepted.runs.lookup ⟨1⟩ =
      some (RunRow.created (sampleEvent "first" 'a' 10) ⟨1, ⟨1⟩⟩ none) := rfl
  exact ⟨_, found, (lifecycle_monotone id _ found).2⟩

end SqliteStore

end PatchProof
