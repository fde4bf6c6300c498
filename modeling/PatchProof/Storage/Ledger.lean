import Mathlib.Logic.Function.Basic
import Mathlib.Data.Set.Insert
import Mathlib.Logic.Relation
import Mathlib.Algebra.Order.Group.Int
import PatchProof.Storage.Records

/-!
# What accepting events is for

The abstract purpose of event acceptance, free of tables and queries.  A ledger
knows the lineage of every run (its pull request and revision, how new its HEAD
is, whether it is current, and which run replaced it) and the run every delivery
resolved to.  `Ledger.Accept` says how one event may change the ledger.

Two properties are carried over every acceptance.  `Ledger.Coherent`: a pull
request with runs has exactly one current run, no run of it is newer, and
replacements lead to it.  `Ledger.Tracks`: the current run shows the newest of the
events accepted so far.  Both stores are later shown to move their ledger only by
acceptances.
-/

set_option autoImplicit false

namespace PatchProof

/-! ## Ledgers -/

/-- What acceptance knows about one run. -/
structure Lineage where
  pullRequest : RepositoryName × PositiveInt
  revision : GitSha × GitSha
  headUpdatedAt : Int
  revisionState : RevisionState
  replacedBy : Option RunId

/-- The lineages of all runs and the runs of all deliveries. -/
structure Ledger where
  lineage : RunId → Option Lineage
  delivered : String → Option RunId

namespace Ledger

/-- The ledger before any event. -/
def blank : Ledger := ⟨fun _ => none, fun _ => none⟩

/-- A run of the pull request that is current. -/
structure IsCurrent (ledger : Ledger) (pull : RepositoryName × PositiveInt) (runId : RunId)
    (line : Lineage) : Prop where
  known : ledger.lineage runId = some line
  ofPull : line.pullRequest = pull
  current : line.revisionState = .current

/-- One run was replaced by another. -/
def Replaces (ledger : Ledger) (runId replacement : RunId) : Prop :=
  ∃ line, ledger.lineage runId = some line ∧ line.replacedBy = some replacement

/-! ## Writing to a ledger -/

/-- Give a run a lineage. -/
def write (ledger : Ledger) (runId : RunId) (line : Lineage) : Ledger :=
  { ledger with lineage := Function.update ledger.lineage runId (some line) }

/-- Resolve a delivery to a run. -/
def deliver (ledger : Ledger) (deliveryId : String) (runId : RunId) : Ledger :=
  { ledger with delivered := Function.update ledger.delivered deliveryId (some runId) }

/-- Let a run show an event of its own revision, if the event is newer. -/
def refresh (ledger : Ledger) (runId : RunId) (line : Lineage) (headUpdatedAt : Int) : Ledger :=
  let newest := max line.headUpdatedAt headUpdatedAt
  ledger.write runId { line with headUpdatedAt := newest }

/-- Let a run be replaced by another. -/
def retire (ledger : Ledger) (runId : RunId) (line : Lineage) (replacement : RunId) : Ledger :=
  ledger.write runId { line with
    revisionState := RevisionState.superseded
    replacedBy := some replacement }

/-- The lineage of a run created for an event; `newer` is the run it is already
older than. -/
def entry (event : PullRequestEvent) (newer : Option RunId) : Lineage where
  pullRequest := event.pullRequest
  revision := event.revision
  headUpdatedAt := event.headUpdatedAt
  revisionState := if newer.isSome then .superseded else .current
  replacedBy := newer

/-- Add a run for an event. -/
def enter (ledger : Ledger) (event : PullRequestEvent) (runId : RunId) (newer : Option RunId) :
    Ledger :=
  ledger.write runId (entry event newer)

theorem write_lineage_eq_some {ledger : Ledger} {runId other : RunId} {line found : Lineage} :
    (ledger.write runId line).lineage other = some found ↔
      (other = runId ∧ found = line) ∨ (other ≠ runId ∧ ledger.lineage other = some found) := by
  by_cases same : other = runId
  · subst same
    simp [write, eq_comm]
  · simp [write, same]

theorem deliver_delivered_eq_some {ledger : Ledger} {deliveryId other : String}
    {runId found : RunId} :
    (ledger.deliver deliveryId runId).delivered other = some found ↔
      (other = deliveryId ∧ found = runId) ∨
        (other ≠ deliveryId ∧ ledger.delivered other = some found) := by
  by_cases same : other = deliveryId
  · subst same
    simp [deliver, eq_comm]
  · simp [deliver, same]

/-- A write that keeps the replacement of a run, or gives one to a run that had
none, keeps every replacement. -/
theorem Replaces.write {ledger : Ledger} {runId source target : RunId} {line : Lineage}
    (replaces : ledger.Replaces source target)
    (keeps : ∀ old, ledger.lineage runId = some old →
      old.replacedBy = none ∨ line.replacedBy = old.replacedBy) :
    (ledger.write runId line).Replaces source target := by
  obtain ⟨found, known, replacement⟩ := replaces
  by_cases same : source = runId
  · subst same
    rcases keeps found known with open_ | kept
    · rw [open_] at replacement
      cases replacement
    · exact ⟨line, write_lineage_eq_some.mpr (.inl ⟨rfl, rfl⟩), kept.trans replacement⟩
  · exact ⟨found, write_lineage_eq_some.mpr (.inr ⟨same, known⟩), replacement⟩

/-! ## Acceptance -/

/-- How a ledger may change when it accepts an event. -/
inductive Accept (ledger : Ledger) (event : PullRequestEvent) (fresh : RunId) :
    AcceptanceKind → Ledger → Prop
  | redelivered (runId : RunId)
      (known : ledger.delivered event.deliveryId.text = some runId) :
      Accept ledger event fresh .duplicateDelivery ledger
  | reused (runId : RunId) (line : Lineage)
      (unknown : ledger.delivered event.deliveryId.text = none)
      (known : ledger.lineage runId = some line)
      (samePull : line.pullRequest = event.pullRequest)
      (sameRevision : line.revision = event.revision)
      (newestOfRevision : ∀ {other otherLine}, ledger.lineage other = some otherLine →
        otherLine.pullRequest = event.pullRequest → otherLine.revision = event.revision →
        otherLine.headUpdatedAt ≤ line.headUpdatedAt)
      (notOvertaking : ∀ currentId current, ledger.IsCurrent event.pullRequest currentId current →
        runId = currentId ∨ event.headUpdatedAt ≤ current.headUpdatedAt) :
      Accept ledger event fresh .duplicateRevision
        ((ledger.refresh runId line event.headUpdatedAt).deliver event.deliveryId.text runId)
  | stale (newer : RunId) (line : Lineage)
      (unknown : ledger.delivered event.deliveryId.text = none)
      (isCurrent : ledger.IsCurrent event.pullRequest newer line)
      (notNewer : event.headUpdatedAt ≤ line.headUpdatedAt)
      (unseen : ∀ {other otherLine}, ledger.lineage other = some otherLine →
        otherLine.pullRequest = event.pullRequest → otherLine.revision ≠ event.revision)
      (unused : ledger.lineage fresh = none) :
      Accept ledger event fresh .staleCreated
        ((ledger.enter event fresh (some newer)).deliver event.deliveryId.text fresh)
  | superseding (older : RunId) (line : Lineage)
      (unknown : ledger.delivered event.deliveryId.text = none)
      (isCurrent : ledger.IsCurrent event.pullRequest older line)
      (newer : line.headUpdatedAt < event.headUpdatedAt)
      (unused : ledger.lineage fresh = none) :
      Accept ledger event fresh .created
        (((ledger.retire older line fresh).enter event fresh none).deliver
          event.deliveryId.text fresh)
  | first
      (unknown : ledger.delivered event.deliveryId.text = none)
      (noCurrent : ∀ currentId current, ¬ ledger.IsCurrent event.pullRequest currentId current)
      (unused : ledger.lineage fresh = none) :
      Accept ledger event fresh .created
        ((ledger.enter event fresh none).deliver event.deliveryId.text fresh)

variable {ledger grown : Ledger} {event : PullRequestEvent} {fresh : RunId}
  {kind : AcceptanceKind}

/-! ## Coherence -/

/-- The current run of a pull request is unique, newest, and where replacements
lead. -/
structure Coherent (ledger : Ledger) : Prop where
  currentUnique : ∀ {pull runId other line otherLine}, ledger.IsCurrent pull runId line →
    ledger.IsCurrent pull other otherLine → runId = other
  currentNotReplaced : ∀ {runId line}, ledger.lineage runId = some line →
    line.revisionState = .current → line.replacedBy = none
  settled : ∀ {runId line}, ledger.lineage runId = some line →
    ∃ currentId current, ledger.IsCurrent line.pullRequest currentId current ∧
      Relation.ReflTransGen ledger.Replaces runId currentId ∧
      line.headUpdatedAt ≤ current.headUpdatedAt
  deliveredKnown : ∀ {deliveryId runId}, ledger.delivered deliveryId = some runId →
    ∃ line, ledger.lineage runId = some line

theorem blank_coherent : blank.Coherent where
  currentUnique := fun isCurrent => by cases isCurrent.known
  currentNotReplaced := fun known => by cases known
  settled := fun known => by cases known
  deliveredKnown := fun known => by cases known

/-- **Growth of one pull request.**  A ledger that changes only lineages of one
pull request is coherent again when that pull request has a new current run to
which all its runs lead and than which none is newer. -/
theorem Coherent.grow (coherent : ledger.Coherent) (pull : RepositoryName × PositiveInt)
    {currentId : RunId} {current : Lineage}
    (frame : ∀ {runId line}, line.pullRequest ≠ pull →
      (grown.lineage runId = some line ↔ ledger.lineage runId = some line))
    (edges : ∀ {source target}, ledger.Replaces source target → grown.Replaces source target)
    (isCurrent : grown.IsCurrent pull currentId current)
    (currentOpen : current.replacedBy = none)
    (unique : ∀ {runId line}, grown.IsCurrent pull runId line → runId = currentId)
    (lines : ∀ {runId line}, grown.lineage runId = some line → line.pullRequest = pull →
      Relation.ReflTransGen grown.Replaces runId currentId ∧
        line.headUpdatedAt ≤ current.headUpdatedAt)
    (delivered : ∀ {deliveryId runId}, grown.delivered deliveryId = some runId →
      ∃ line, grown.lineage runId = some line) :
    grown.Coherent where
  currentUnique := by
    intro other first second firstLine secondLine isFirst isSecond
    by_cases same : other = pull
    · subst same
      exact (unique isFirst).trans (unique isSecond).symm
    · have before : ∀ {runId line}, grown.IsCurrent other runId line →
          ledger.IsCurrent other runId line := fun now =>
        ⟨(frame (now.ofPull ▸ same)).mp now.known, now.ofPull, now.current⟩
      exact coherent.currentUnique (before isFirst) (before isSecond)
  currentNotReplaced := by
    intro runId line known now
    by_cases same : line.pullRequest = pull
    · have isIt := unique ⟨known, same, now⟩
      subst isIt
      rw [isCurrent.known, Option.some.injEq] at known
      exact known ▸ currentOpen
    · exact coherent.currentNotReplaced ((frame same).mp known) now
  settled := by
    intro runId line known
    by_cases same : line.pullRequest = pull
    · obtain ⟨path, newest⟩ := lines known same
      exact ⟨currentId, current, same ▸ isCurrent, path, newest⟩
    · obtain ⟨otherId, other, isOther, path, newest⟩ := coherent.settled ((frame same).mp known)
      exact ⟨otherId, other, ⟨(frame (isOther.ofPull ▸ same)).mpr isOther.known, isOther.ofPull,
        isOther.current⟩, Relation.ReflTransGen.mono (fun _ _ step => edges step) _ _ path, newest⟩
  deliveredKnown := delivered

/-- The delivery written last and all earlier ones resolve to known runs. -/
theorem Coherent.delivered_write {deliveryId : String} {runId target : RunId} {line : Lineage}
    (coherent : ledger.Coherent) (known : ∃ found, (ledger.write runId line).lineage target = some found)
    {other : String} {found : RunId}
    (resolved : ((ledger.write runId line).deliver deliveryId target).delivered other = some found) :
    ∃ answer, (ledger.write runId line).lineage found = some answer := by
  rcases deliver_delivered_eq_some.mp resolved with ⟨_, rfl⟩ | ⟨_, earlier⟩
  · exact known
  · obtain ⟨old, oldKnown⟩ := coherent.deliveredKnown earlier
    by_cases same : found = runId
    · exact ⟨line, write_lineage_eq_some.mpr (.inl ⟨same, rfl⟩)⟩
    · exact ⟨old, write_lineage_eq_some.mpr (.inr ⟨same, oldKnown⟩)⟩

/-- Every run of a pull request leads to its current run and is not newer. -/
theorem Coherent.leads {pull : RepositoryName × PositiveInt} {runId currentId : RunId}
    {line current : Lineage} (coherent : ledger.Coherent) (known : ledger.lineage runId = some line)
    (ofPull : line.pullRequest = pull) (isCurrent : ledger.IsCurrent pull currentId current) :
    Relation.ReflTransGen ledger.Replaces runId currentId ∧
      line.headUpdatedAt ≤ current.headUpdatedAt := by
  obtain ⟨settledId, settled, isSettled, path, below⟩ := coherent.settled known
  rw [ofPull] at isSettled
  obtain rfl := coherent.currentUnique isSettled isCurrent
  obtain rfl := Option.some.inj (isSettled.known.symm.trans isCurrent.known)
  exact ⟨path, below⟩

theorem ne_of_known {runId : RunId} {line : Lineage} (known : ledger.lineage runId = some line)
    (unused : ledger.lineage fresh = none) : runId ≠ fresh := by
  rintro rfl
  rw [unused] at known
  cases known

/-- Adding a run leaves the lineages of other pull requests alone. -/
theorem enter_frame {newer : Option RunId} (unused : ledger.lineage fresh = none) {runId : RunId}
    {line : Lineage} (elsewhere : line.pullRequest ≠ event.pullRequest) :
    (ledger.enter event fresh newer).lineage runId = some line ↔
      ledger.lineage runId = some line := by
  rw [enter, write_lineage_eq_some]
  constructor
  · rintro (⟨rfl, rfl⟩ | ⟨_, known⟩)
    · exact absurd rfl elsewhere
    · exact known
  · intro known
    exact .inr ⟨ne_of_known known unused, known⟩

/-- **Acceptance keeps coherence.** -/
theorem Accept.coherent (accept : ledger.Accept event fresh kind grown)
    (coherent : ledger.Coherent) : grown.Coherent := by
  cases accept with
  | redelivered runId known => exact coherent
  | reused runId line unknown known samePull sameRevision _ notOvertaking =>
      obtain ⟨currentId, current, isCurrent, path, newest⟩ := coherent.settled known
      rw [samePull] at isCurrent
      have edges : ∀ {source target}, ledger.Replaces source target →
          (ledger.refresh runId line event.headUpdatedAt).Replaces source target :=
        fun replaces => replaces.write fun old oldKnown => by
          rw [known, Option.some.injEq] at oldKnown
          exact .inr (oldKnown ▸ rfl)
      have wasCurrent : ∀ {other otherLine},
          ((ledger.refresh runId line event.headUpdatedAt).deliver event.deliveryId.text runId).IsCurrent
            event.pullRequest other otherLine → other = currentId := by
        intro other otherLine now
        rcases write_lineage_eq_some.mp now.known with ⟨rfl, rfl⟩ | ⟨_, oldKnown⟩
        · exact coherent.currentUnique ⟨known, samePull, now.current⟩ isCurrent
        · exact coherent.currentUnique ⟨oldKnown, now.ofPull, now.current⟩ isCurrent
      -- Either the current run itself is refreshed, or another run by an event
      -- that is not newer than the current one.
      obtain ⟨shown, shownCurrent, shownOpen, shownNewest, refreshedBelow⟩ : ∃ shown : Lineage,
          ((ledger.refresh runId line event.headUpdatedAt).deliver event.deliveryId.text runId).IsCurrent
            event.pullRequest currentId shown ∧ shown.replacedBy = none ∧
          current.headUpdatedAt ≤ shown.headUpdatedAt ∧
          max line.headUpdatedAt event.headUpdatedAt ≤ shown.headUpdatedAt := by
        by_cases same : currentId = runId
        · subst same
          obtain rfl : line = current := Option.some.inj (known.symm.trans isCurrent.known)
          exact ⟨_, ⟨write_lineage_eq_some.mpr (.inl ⟨rfl, rfl⟩), samePull, isCurrent.current⟩,
            show line.replacedBy = none from coherent.currentNotReplaced known isCurrent.current,
            le_max_left _ _, le_refl _⟩
        · refine ⟨current, ⟨write_lineage_eq_some.mpr (.inr ⟨same, isCurrent.known⟩),
            isCurrent.ofPull, isCurrent.current⟩,
            coherent.currentNotReplaced isCurrent.known isCurrent.current, le_refl _, ?_⟩
          rcases notOvertaking currentId current isCurrent with absurdity | older
          · exact absurd absurdity.symm same
          · exact max_le newest older
      refine coherent.grow event.pullRequest ?_ edges shownCurrent shownOpen
        wasCurrent ?_ (coherent.delivered_write ⟨_, write_lineage_eq_some.mpr (.inl ⟨rfl, rfl⟩)⟩)
      · intro other otherLine elsewhere
        constructor
        · intro found
          rcases write_lineage_eq_some.mp found with ⟨rfl, rfl⟩ | ⟨_, oldKnown⟩
          · exact absurd samePull elsewhere
          · exact oldKnown
        · intro oldKnown
          refine write_lineage_eq_some.mpr (.inr ⟨?_, oldKnown⟩)
          rintro rfl
          rw [known, Option.some.injEq] at oldKnown
          exact elsewhere (oldKnown ▸ samePull)
      · intro other otherLine found ofPull
        rcases write_lineage_eq_some.mp found with ⟨rfl, rfl⟩ | ⟨_, oldKnown⟩
        · exact ⟨Relation.ReflTransGen.mono (fun _ _ step => edges step) _ _ path, refreshedBelow⟩
        · obtain ⟨otherPath, below⟩ := coherent.leads oldKnown ofPull isCurrent
          exact ⟨Relation.ReflTransGen.mono (fun _ _ step => edges step) _ _ otherPath,
            le_trans below shownNewest⟩
  | stale newer line unknown isCurrent notNewer _ unused =>
      have different : newer ≠ fresh := ne_of_known isCurrent.known unused
      have edges : ∀ {source target}, ledger.Replaces source target →
          (ledger.enter event fresh (some newer)).Replaces source target :=
        fun replaces => replaces.write fun old oldKnown => by
          rw [unused] at oldKnown
          cases oldKnown
      refine coherent.grow event.pullRequest (enter_frame unused) edges
        ⟨write_lineage_eq_some.mpr (.inr ⟨different, isCurrent.known⟩), isCurrent.ofPull,
          isCurrent.current⟩
        (coherent.currentNotReplaced isCurrent.known isCurrent.current) ?_ ?_
        (coherent.delivered_write ⟨_, write_lineage_eq_some.mpr (.inl ⟨rfl, rfl⟩)⟩)
      · intro other otherLine now
        rcases write_lineage_eq_some.mp now.known with ⟨rfl, rfl⟩ | ⟨_, oldKnown⟩
        · cases now.current
        · exact coherent.currentUnique ⟨oldKnown, now.ofPull, now.current⟩ isCurrent
      · intro other otherLine found ofPull
        rcases write_lineage_eq_some.mp found with ⟨rfl, rfl⟩ | ⟨_, oldKnown⟩
        · exact ⟨.single ⟨_, found, rfl⟩, notNewer⟩
        · obtain ⟨path, below⟩ := coherent.leads oldKnown ofPull isCurrent
          exact ⟨Relation.ReflTransGen.mono (fun _ _ step => edges step) _ _ path, below⟩
  | superseding older line unknown isCurrent newer unused =>
      have different : older ≠ fresh := ne_of_known isCurrent.known unused
      have stillUnused : (ledger.retire older line fresh).lineage fresh = none := by
        simpa [retire, write, different.symm] using unused
      have edges : ∀ {source target}, ledger.Replaces source target →
          ((ledger.retire older line fresh).enter event fresh none).Replaces source target := by
        intro source target replaces
        refine Replaces.write (Replaces.write replaces fun old oldKnown => .inl ?_) fun old oldKnown => ?_
        · rw [isCurrent.known, Option.some.injEq] at oldKnown
          exact oldKnown ▸ coherent.currentNotReplaced isCurrent.known isCurrent.current
        · rw [stillUnused] at oldKnown
          cases oldKnown
      have replaced : ((ledger.retire older line fresh).enter event fresh none).Replaces older fresh :=
        ⟨_, write_lineage_eq_some.mpr (.inr ⟨different, write_lineage_eq_some.mpr (.inl ⟨rfl, rfl⟩)⟩),
          rfl⟩
      refine coherent.grow event.pullRequest ?_ edges
        ⟨write_lineage_eq_some.mpr (.inl ⟨rfl, rfl⟩), rfl, rfl⟩ rfl ?_ ?_ ?_
      · intro other otherLine elsewhere
        refine (enter_frame stillUnused elsewhere).trans ?_
        rw [retire, write_lineage_eq_some]
        constructor
        · rintro (⟨rfl, rfl⟩ | ⟨_, oldKnown⟩)
          · exact absurd isCurrent.ofPull elsewhere
          · exact oldKnown
        · intro oldKnown
          refine .inr ⟨?_, oldKnown⟩
          rintro rfl
          rw [isCurrent.known, Option.some.injEq] at oldKnown
          exact elsewhere (oldKnown ▸ isCurrent.ofPull)
      · intro other otherLine now
        rcases write_lineage_eq_some.mp now.known with ⟨rfl, _⟩ | ⟨_, retiredKnown⟩
        · rfl
        rcases write_lineage_eq_some.mp retiredKnown with ⟨rfl, rfl⟩ | ⟨notOlder, oldKnown⟩
        · cases now.current
        · exact absurd (coherent.currentUnique ⟨oldKnown, now.ofPull, now.current⟩ isCurrent) notOlder
      · intro other otherLine found ofPull
        rcases write_lineage_eq_some.mp found with ⟨rfl, rfl⟩ | ⟨_, retiredKnown⟩
        · exact ⟨.refl, le_refl _⟩
        rcases write_lineage_eq_some.mp retiredKnown with ⟨rfl, rfl⟩ | ⟨_, oldKnown⟩
        · exact ⟨.single replaced, le_of_lt newer⟩
        · obtain ⟨path, below⟩ := coherent.leads oldKnown ofPull isCurrent
          exact ⟨.tail (Relation.ReflTransGen.mono (fun _ _ step => edges step) _ _ path) replaced,
            le_trans below (le_of_lt newer)⟩
      · intro deliveryId runId resolved
        rcases deliver_delivered_eq_some.mp resolved with ⟨_, rfl⟩ | ⟨_, earlier⟩
        · exact ⟨_, write_lineage_eq_some.mpr (.inl ⟨rfl, rfl⟩)⟩
        · obtain ⟨old, oldKnown⟩ := coherent.deliveredKnown earlier
          have notFresh : runId ≠ fresh := ne_of_known oldKnown unused
          by_cases isOlder : runId = older
          · exact ⟨_, write_lineage_eq_some.mpr (.inr ⟨notFresh,
              write_lineage_eq_some.mpr (.inl ⟨isOlder, rfl⟩)⟩)⟩
          · exact ⟨old, write_lineage_eq_some.mpr (.inr ⟨notFresh,
              write_lineage_eq_some.mpr (.inr ⟨isOlder, oldKnown⟩)⟩)⟩
  | first unknown noCurrent unused =>
      have edges : ∀ {source target}, ledger.Replaces source target →
          (ledger.enter event fresh none).Replaces source target :=
        fun replaces => replaces.write fun old oldKnown => by
          rw [unused] at oldKnown
          cases oldKnown
      refine coherent.grow event.pullRequest (enter_frame unused) edges
        ⟨write_lineage_eq_some.mpr (.inl ⟨rfl, rfl⟩), rfl, rfl⟩ rfl ?_ ?_
        (coherent.delivered_write ⟨_, write_lineage_eq_some.mpr (.inl ⟨rfl, rfl⟩)⟩)
      · intro other otherLine now
        rcases write_lineage_eq_some.mp now.known with ⟨rfl, _⟩ | ⟨_, oldKnown⟩
        · rfl
        · exact absurd ⟨oldKnown, now.ofPull, now.current⟩ (noCurrent other otherLine)
      · intro other otherLine found ofPull
        rcases write_lineage_eq_some.mp found with ⟨rfl, rfl⟩ | ⟨_, oldKnown⟩
        · exact ⟨.refl, le_refl _⟩
        · obtain ⟨currentId, current, isCurrent, _, _⟩ := coherent.settled oldKnown
          rw [ofPull] at isCurrent
          exact absurd isCurrent (noCurrent currentId current)

/-! ## Which run is current, and which is the latest of its revision -/

/-- Some run of the pull request is current and has this identifier. -/
def CurrentId (ledger : Ledger) (pull : RepositoryName × PositiveInt) (runId : RunId) : Prop :=
  ∃ line, ledger.IsCurrent pull runId line

/-- A run of the revision, and how new it is. -/
def RunOf (ledger : Ledger) (pull : RepositoryName × PositiveInt) (revision : GitSha × GitSha)
    (runId : RunId) (headUpdatedAt : Int) : Prop :=
  ∃ line, ledger.lineage runId = some line ∧ line.pullRequest = pull ∧ line.revision = revision ∧
    line.headUpdatedAt = headUpdatedAt

/-- A run of the revision than which every other run of it is older. -/
def LatestId (ledger : Ledger) (pull : RepositoryName × PositiveInt)
    (revision : GitSha × GitSha) (runId : RunId) : Prop :=
  ∃ head, ledger.RunOf pull revision runId head ∧
    ∀ other otherHead, ledger.RunOf pull revision other otherHead → other ≠ runId →
      otherHead < head

/-- Every revision with runs has a latest one. -/
def Ordered (ledger : Ledger) : Prop :=
  ∀ {runId line}, ledger.lineage runId = some line →
    ∃ latest, ledger.LatestId line.pullRequest line.revision latest

theorem LatestId.unique {pull : RepositoryName × PositiveInt} {revision : GitSha × GitSha}
    {runId other : RunId} (latest : ledger.LatestId pull revision runId)
    (otherLatest : ledger.LatestId pull revision other) : runId = other := by
  obtain ⟨head, isRun, overtakes⟩ := latest
  obtain ⟨otherHead, otherIsRun, otherOvertakes⟩ := otherLatest
  by_contra different
  have below := otherOvertakes runId head isRun different
  have above := overtakes other otherHead otherIsRun (Ne.symm different)
  exact absurd (lt_trans below above) (lt_irrefl _)

/-- In an ordered ledger the newest run of a revision is its latest. -/
theorem Ordered.latestId_of_newest (ordered : ledger.Ordered) {runId : RunId} {line : Lineage}
    (known : ledger.lineage runId = some line)
    (newestOfRevision : ∀ {other otherLine}, ledger.lineage other = some otherLine →
      otherLine.pullRequest = line.pullRequest → otherLine.revision = line.revision →
      otherLine.headUpdatedAt ≤ line.headUpdatedAt) :
    ledger.LatestId line.pullRequest line.revision runId := by
  obtain ⟨latest, head, ⟨latestLine, latestKnown, ofPull, ofRevision, rfl⟩, overtakes⟩ :=
    ordered known
  by_cases same : latest = runId
  · exact same ▸ ⟨_, ⟨latestLine, latestKnown, ofPull, ofRevision, rfl⟩, overtakes⟩
  · have below := overtakes runId _ ⟨line, known, rfl, rfl, rfl⟩ (Ne.symm same)
    have above := newestOfRevision latestKnown ofPull ofRevision
    exact absurd (lt_of_lt_of_le below above) (lt_irrefl _)

theorem blank_ordered : blank.Ordered := fun known => by cases known

/-- Which runs are current depends on the lineages only up to how new they are. -/
theorem currentId_congr (same : ∀ runId, (grown.lineage runId).map
      (fun line => (line.pullRequest, line.revisionState)) =
      (ledger.lineage runId).map fun line => (line.pullRequest, line.revisionState))
    {pull : RepositoryName × PositiveInt} {runId : RunId} :
    grown.CurrentId pull runId ↔ ledger.CurrentId pull runId := by
  have oneWay : ∀ {first second : Ledger}, ((first.lineage runId).map
      (fun line => (line.pullRequest, line.revisionState)) =
      (second.lineage runId).map fun line => (line.pullRequest, line.revisionState)) →
      first.CurrentId pull runId → second.CurrentId pull runId := by
    rintro first second agree ⟨line, known, ofPull, current⟩
    rw [known, Option.map_some] at agree
    obtain ⟨other, otherKnown, sameFields⟩ := Option.map_eq_some_iff.mp agree.symm
    simp only [Prod.mk.injEq] at sameFields
    exact ⟨other, otherKnown, sameFields.1.trans ofPull, sameFields.2.trans current⟩
  exact ⟨oneWay (same runId), oneWay (same runId).symm⟩

/-- **Who is current after an acceptance**: the new run, if one was created as
current, and otherwise whoever was. -/
theorem Accept.currentId_iff (accept : ledger.Accept event fresh kind grown)
    (coherent : ledger.Coherent) {pull : RepositoryName × PositiveInt} {runId : RunId} :
    grown.CurrentId pull runId ↔
      if kind = .created ∧ pull = event.pullRequest then runId = fresh
      else ledger.CurrentId pull runId := by
  cases accept with
  | redelivered _ _ => simp
  | reused other line unknown known samePull sameRevision _ _ =>
      rw [if_neg (by simp)]
      refine currentId_congr fun id => ?_
      by_cases same : id = other
      · subst same
        simp [deliver, refresh, write, known]
      · simp [deliver, refresh, write, same]
  | stale newer line unknown isCurrent notNewer unseen unused =>
      rw [if_neg (by simp)]
      constructor
      · rintro ⟨found, known, ofPull, current⟩
        rcases write_lineage_eq_some.mp known with ⟨rfl, rfl⟩ | ⟨_, oldKnown⟩
        · cases current
        · exact ⟨found, oldKnown, ofPull, current⟩
      · rintro ⟨found, known, ofPull, current⟩
        exact ⟨found, write_lineage_eq_some.mpr (.inr ⟨ne_of_known known unused, known⟩), ofPull,
          current⟩
  | superseding older line unknown isCurrent newer unused =>
      constructor
      · rintro ⟨found, known, ofPull, current⟩
        rcases write_lineage_eq_some.mp known with ⟨rfl, rfl⟩ | ⟨notFresh, retiredKnown⟩
        · rw [if_pos ⟨rfl, ofPull.symm⟩]
        rcases write_lineage_eq_some.mp retiredKnown with ⟨rfl, rfl⟩ | ⟨notOlder, oldKnown⟩
        · cases current
        · rw [if_neg]
          · exact ⟨found, oldKnown, ofPull, current⟩
          · rintro ⟨_, rfl⟩
            exact notOlder (coherent.currentUnique ⟨oldKnown, ofPull, current⟩ isCurrent)
      · split
        · rintro rfl
          rename_i samePull
          exact ⟨_, write_lineage_eq_some.mpr (.inl ⟨rfl, rfl⟩), samePull.2.symm, rfl⟩
        · rename_i elsewhere
          rintro ⟨found, known, ofPull, current⟩
          have notOlder : runId ≠ older := by
            rintro rfl
            rw [isCurrent.known, Option.some.injEq] at known
            subst known
            exact elsewhere ⟨rfl, ofPull.symm.trans isCurrent.ofPull⟩
          exact ⟨found, write_lineage_eq_some.mpr (.inr ⟨ne_of_known known unused,
            write_lineage_eq_some.mpr (.inr ⟨notOlder, known⟩)⟩), ofPull, current⟩
  | first unknown noCurrent unused =>
      constructor
      · rintro ⟨found, known, ofPull, current⟩
        rcases write_lineage_eq_some.mp known with ⟨rfl, rfl⟩ | ⟨_, oldKnown⟩
        · rw [if_pos ⟨rfl, ofPull.symm⟩]
        · rw [if_neg]
          · exact ⟨found, oldKnown, ofPull, current⟩
          · rintro ⟨_, rfl⟩
            exact noCurrent runId found ⟨oldKnown, ofPull, current⟩
      · split
        · rintro rfl
          rename_i samePull
          exact ⟨_, write_lineage_eq_some.mpr (.inl ⟨rfl, rfl⟩), samePull.2.symm, rfl⟩
        · rintro ⟨found, known, ofPull, current⟩
          exact ⟨found, write_lineage_eq_some.mpr (.inr ⟨ne_of_known known unused, known⟩), ofPull,
            current⟩

/-- Which run is the latest of a revision depends only on the runs of it. -/
theorem latestId_congr {pull : RepositoryName × PositiveInt} {revision : GitSha × GitSha}
    (same : ∀ runId head, grown.RunOf pull revision runId head ↔
      ledger.RunOf pull revision runId head) {runId : RunId} :
    grown.LatestId pull revision runId ↔ ledger.LatestId pull revision runId := by
  simp only [LatestId, same]

/-- A run entered for an event is the latest of its revision, when every other run
of the revision is older. -/
theorem enter_latestId (fresh : RunId) (newer : Option RunId)
    (overtakes : ∀ {other otherLine}, ledger.lineage other = some otherLine →
      otherLine.pullRequest = event.pullRequest → otherLine.revision = event.revision →
      otherLine.headUpdatedAt < event.headUpdatedAt) :
    (ledger.enter event fresh newer).LatestId event.pullRequest event.revision fresh := by
  refine ⟨event.headUpdatedAt,
    ⟨entry event newer, write_lineage_eq_some.mpr (.inl ⟨rfl, rfl⟩), rfl, rfl, rfl⟩, ?_⟩
  rintro other _ ⟨line, known, ofPull, ofRevision, rfl⟩ different
  rcases write_lineage_eq_some.mp known with ⟨absurdity, _⟩ | ⟨_, oldKnown⟩
  · exact absurd absurdity different
  · exact overtakes oldKnown ofPull ofRevision

/-- Entering a run does not matter to other revisions. -/
theorem enter_latestId_elsewhere {newer : Option RunId} {pull : RepositoryName × PositiveInt}
    {revision : GitSha × GitSha} (unused : ledger.lineage fresh = none)
    (elsewhere : ¬ (pull = event.pullRequest ∧ revision = event.revision)) {runId : RunId} :
    (ledger.enter event fresh newer).LatestId pull revision runId ↔
      ledger.LatestId pull revision runId := by
  refine latestId_congr fun id head => ?_
  constructor
  · rintro ⟨line, known, ofPull, ofRevision, isHead⟩
    rcases write_lineage_eq_some.mp known with ⟨rfl, rfl⟩ | ⟨_, oldKnown⟩
    · exact absurd ⟨ofPull.symm, ofRevision.symm⟩ elsewhere
    · exact ⟨line, oldKnown, ofPull, ofRevision, isHead⟩
  · rintro ⟨line, known, rest⟩
    exact ⟨line, write_lineage_eq_some.mpr (.inr ⟨ne_of_known known unused, known⟩), rest⟩

/-- Refreshing the newest run of a revision keeps it the latest. -/
theorem refresh_latestId {runId : RunId} {line : Lineage} {headUpdatedAt : Int}
    (ordered : ledger.Ordered) (known : ledger.lineage runId = some line)
    (newestOfRevision : ∀ {other otherLine}, ledger.lineage other = some otherLine →
      otherLine.pullRequest = line.pullRequest → otherLine.revision = line.revision →
      otherLine.headUpdatedAt ≤ line.headUpdatedAt)
    {pull : RepositoryName × PositiveInt} {revision : GitSha × GitSha} {latest : RunId} :
    (ledger.refresh runId line headUpdatedAt).LatestId pull revision latest ↔
      ledger.LatestId pull revision latest := by
  by_cases touched : pull = line.pullRequest ∧ revision = line.revision
  · obtain ⟨rfl, rfl⟩ := touched
    -- The refreshed run was the latest, and still is.
    have wasLatest := ordered.latestId_of_newest known newestOfRevision
    have isLatest : (ledger.refresh runId line headUpdatedAt).LatestId line.pullRequest
        line.revision runId := by
      obtain ⟨_, ⟨mine, mineKnown, _, _, rfl⟩, overtakes⟩ := wasLatest
      obtain rfl := Option.some.inj (mineKnown.symm.trans known)
      refine ⟨_, ⟨_, write_lineage_eq_some.mpr (.inl ⟨rfl, rfl⟩), rfl, rfl, rfl⟩, ?_⟩
      rintro other _ ⟨otherLine, otherKnown, ofPull, ofRevision, rfl⟩ different
      rcases write_lineage_eq_some.mp otherKnown with ⟨absurdity, _⟩ | ⟨_, oldKnown⟩
      · exact absurd absurdity different
      · exact lt_of_lt_of_le
          (overtakes other _ ⟨otherLine, oldKnown, ofPull, ofRevision, rfl⟩ different)
          (le_max_left _ _)
    exact ⟨fun now => now.unique isLatest ▸ wasLatest, fun before => before.unique wasLatest ▸ isLatest⟩
  · refine latestId_congr fun id head => ?_
    constructor
    · rintro ⟨found, foundKnown, foundPull, foundRevision, isHead⟩
      rcases write_lineage_eq_some.mp foundKnown with ⟨rfl, rfl⟩ | ⟨_, oldKnown⟩
      · exact absurd ⟨foundPull.symm, foundRevision.symm⟩ touched
      · exact ⟨found, oldKnown, foundPull, foundRevision, isHead⟩
    · rintro ⟨found, foundKnown, foundPull, foundRevision, isHead⟩
      refine ⟨found, write_lineage_eq_some.mpr (.inr ⟨?_, foundKnown⟩), foundPull, foundRevision,
        isHead⟩
      rintro rfl
      obtain rfl := Option.some.inj (foundKnown.symm.trans known)
      exact touched ⟨foundPull.symm, foundRevision.symm⟩

/-- Retiring a run leaves the latest runs alone. -/
theorem retire_latestId {runId : RunId} {line : Lineage}
    (known : ledger.lineage runId = some line) (replacement : RunId) {pull : RepositoryName × PositiveInt}
    {revision : GitSha × GitSha} {latest : RunId} :
    (ledger.retire runId line replacement).LatestId pull revision latest ↔
      ledger.LatestId pull revision latest := by
  refine latestId_congr fun id head => ?_
  constructor
  · rintro ⟨found, foundKnown, rest⟩
    rcases write_lineage_eq_some.mp foundKnown with ⟨rfl, rfl⟩ | ⟨_, oldKnown⟩
    · exact ⟨line, known, rest⟩
    · exact ⟨found, oldKnown, rest⟩
  · rintro ⟨found, foundKnown, rest⟩
    by_cases same : id = runId
    · subst same
      obtain rfl := Option.some.inj (foundKnown.symm.trans known)
      exact ⟨_, write_lineage_eq_some.mpr (.inl ⟨rfl, rfl⟩), rest⟩
    · exact ⟨found, write_lineage_eq_some.mpr (.inr ⟨same, foundKnown⟩), rest⟩

/-- **Which run is the latest of a revision after an acceptance**: the new run for
its own revision, and otherwise whichever was. -/
theorem Accept.latestId_iff (accept : ledger.Accept event fresh kind grown)
    (coherent : ledger.Coherent) (ordered : ledger.Ordered)
    {pull : RepositoryName × PositiveInt} {revision : GitSha × GitSha} {runId : RunId} :
    grown.LatestId pull revision runId ↔
      if (kind = .created ∨ kind = .staleCreated) ∧ pull = event.pullRequest ∧
        revision = event.revision then runId = fresh else ledger.LatestId pull revision runId := by
  -- A created run is the latest of its revision, and no other revision notices it.
  have created : ∀ {base : Ledger} {newer : Option RunId}, base.lineage fresh = none →
      (∀ {other otherLine}, base.lineage other = some otherLine →
        otherLine.pullRequest = event.pullRequest → otherLine.revision = event.revision →
        otherLine.headUpdatedAt < event.headUpdatedAt) →
      ((base.enter event fresh newer).LatestId pull revision runId ↔
        if pull = event.pullRequest ∧ revision = event.revision then runId = fresh
        else base.LatestId pull revision runId) := by
    intro base newer unused overtakes
    split
    · rename_i touched
      obtain ⟨rfl, rfl⟩ := touched
      have latest := enter_latestId fresh newer overtakes
      exact ⟨fun now => now.unique latest, fun same => same ▸ latest⟩
    · rename_i elsewhere
      exact enter_latestId_elsewhere unused elsewhere
  cases accept with
  | redelivered _ _ => simp
  | reused other line unknown known samePull sameRevision newestOfRevision _ =>
      rw [if_neg (by simp)]
      refine refresh_latestId ordered known fun otherKnown ofPull ofRevision => ?_
      exact newestOfRevision otherKnown (ofPull.trans samePull) (ofRevision.trans sameRevision)
  | stale newer line unknown isCurrent notNewer unseen unused =>
      simp only [or_true, true_and]
      exact created unused fun known ofPull ofRevision => absurd ofRevision (unseen known ofPull)
  | superseding older line unknown isCurrent newer unused =>
      simp only [true_or, true_and]
      have stillUnused : (ledger.retire older line fresh).lineage fresh = none := by
        simpa [retire, write, (ne_of_known isCurrent.known unused).symm] using unused
      rw [← retire_latestId isCurrent.known fresh]
      refine created stillUnused fun {other otherLine} known ofPull ofRevision => ?_
      rcases write_lineage_eq_some.mp known with ⟨rfl, rfl⟩ | ⟨_, oldKnown⟩
      · exact newer
      · exact lt_of_le_of_lt (coherent.leads oldKnown ofPull isCurrent).2 newer
  | first unknown noCurrent unused =>
      simp only [true_or, true_and]
      refine created unused fun {other otherLine} known ofPull _ => ?_
      obtain ⟨currentId, current, isCurrent, _, _⟩ := coherent.settled known
      rw [ofPull] at isCurrent
      exact absurd isCurrent (noCurrent currentId current)

/-- Acceptance keeps every revision ordered. -/
theorem Accept.ordered (accept : ledger.Accept event fresh kind grown)
    (coherent : ledger.Coherent) (ordered : ledger.Ordered) : grown.Ordered := by
  intro runId line known
  have found : (((kind = .created ∨ kind = .staleCreated) ∧ line.pullRequest = event.pullRequest ∧
      line.revision = event.revision)) ∨ ∃ old, ledger.lineage runId = some old ∧
      old.pullRequest = line.pullRequest ∧ old.revision = line.revision := by
    cases accept with
    | redelivered _ _ => exact .inr ⟨line, known, rfl, rfl⟩
    | reused other otherLine _ otherKnown _ _ _ _ =>
        rcases write_lineage_eq_some.mp known with ⟨rfl, rfl⟩ | ⟨_, oldKnown⟩
        · exact .inr ⟨otherLine, otherKnown, rfl, rfl⟩
        · exact .inr ⟨line, oldKnown, rfl, rfl⟩
    | stale newer newerLine _ _ _ _ _ =>
        rcases write_lineage_eq_some.mp known with ⟨rfl, rfl⟩ | ⟨_, oldKnown⟩
        · exact .inl ⟨.inr rfl, rfl, rfl⟩
        · exact .inr ⟨line, oldKnown, rfl, rfl⟩
    | superseding older olderLine _ isCurrent _ _ =>
        rcases write_lineage_eq_some.mp known with ⟨rfl, rfl⟩ | ⟨_, retiredKnown⟩
        · exact .inl ⟨.inl rfl, rfl, rfl⟩
        rcases write_lineage_eq_some.mp retiredKnown with ⟨rfl, rfl⟩ | ⟨_, oldKnown⟩
        · exact .inr ⟨olderLine, isCurrent.known, rfl, rfl⟩
        · exact .inr ⟨line, oldKnown, rfl, rfl⟩
    | first _ _ _ =>
        rcases write_lineage_eq_some.mp known with ⟨rfl, rfl⟩ | ⟨_, oldKnown⟩
        · exact .inl ⟨.inl rfl, rfl, rfl⟩
        · exact .inr ⟨line, oldKnown, rfl, rfl⟩
  by_cases created : (kind = .created ∨ kind = .staleCreated) ∧
      line.pullRequest = event.pullRequest ∧ line.revision = event.revision
  · exact ⟨fresh, (accept.latestId_iff coherent ordered).mpr (by rw [if_pos created])⟩
  · obtain ⟨old, oldKnown, samePull, sameRevision⟩ := found.resolve_left created
    obtain ⟨latest, isLatest⟩ := ordered oldKnown
    refine ⟨latest, (accept.latestId_iff coherent ordered).mpr ?_⟩
    rw [if_neg created, ← samePull, ← sameRevision]
    exact isLatest

/-! ## What acceptance preserves of single runs -/

/-- A run keeps its pull request. -/
theorem Accept.pullRequest_kept (accept : ledger.Accept event fresh kind grown) {runId : RunId}
    {line : Lineage} (known : ledger.lineage runId = some line) :
    ∃ kept, grown.lineage runId = some kept ∧ kept.pullRequest = line.pullRequest := by
  cases accept with
  | redelivered _ _ => exact ⟨line, known, rfl⟩
  | reused other otherLine _ otherKnown _ _ _ _ =>
      by_cases same : runId = other
      · subst same
        obtain rfl := Option.some.inj (known.symm.trans otherKnown)
        exact ⟨_, write_lineage_eq_some.mpr (.inl ⟨rfl, rfl⟩), rfl⟩
      · exact ⟨line, write_lineage_eq_some.mpr (.inr ⟨same, known⟩), rfl⟩
  | stale newer newerLine _ _ _ _ unused =>
      exact ⟨line, write_lineage_eq_some.mpr (.inr ⟨ne_of_known known unused, known⟩), rfl⟩
  | superseding older olderLine _ isCurrent _ unused =>
      have different := ne_of_known known unused
      by_cases same : runId = older
      · subst same
        obtain rfl := Option.some.inj (known.symm.trans isCurrent.known)
        exact ⟨_, write_lineage_eq_some.mpr
          (.inr ⟨different, write_lineage_eq_some.mpr (.inl ⟨rfl, rfl⟩)⟩), rfl⟩
      · exact ⟨line, write_lineage_eq_some.mpr
          (.inr ⟨different, write_lineage_eq_some.mpr (.inr ⟨same, known⟩)⟩), rfl⟩
  | first _ _ unused =>
      exact ⟨line, write_lineage_eq_some.mpr (.inr ⟨ne_of_known known unused, known⟩), rfl⟩

/-- A delivery keeps the run it resolved to, and the accepted event's delivery
resolves to a run of its own pull request unless it was known before. -/
theorem Accept.delivered_eq (accept : ledger.Accept event fresh kind grown) (deliveryId : String) :
    (∃ runId, ledger.delivered deliveryId = some runId ∧ grown.delivered deliveryId = some runId) ∨
    (ledger.delivered deliveryId = none ∧ deliveryId ≠ event.deliveryId.text ∧
      grown.delivered deliveryId = none) ∨
    (ledger.delivered deliveryId = none ∧ deliveryId = event.deliveryId.text ∧
      ∃ runId line, grown.delivered deliveryId = some runId ∧ grown.lineage runId = some line ∧
        line.pullRequest = event.pullRequest) := by
  -- Apart from a redelivery, the event's own delivery is written to a known run.
  have written : ∀ {written : Ledger} {target : RunId} {line : Lineage},
      ledger.delivered event.deliveryId.text = none → written.delivered = ledger.delivered →
      written.lineage target = some line → line.pullRequest = event.pullRequest →
      (∃ runId, ledger.delivered deliveryId = some runId ∧
        (written.deliver event.deliveryId.text target).delivered deliveryId = some runId) ∨
      (ledger.delivered deliveryId = none ∧ deliveryId ≠ event.deliveryId.text ∧
        (written.deliver event.deliveryId.text target).delivered deliveryId = none) ∨
      (ledger.delivered deliveryId = none ∧ deliveryId = event.deliveryId.text ∧
        ∃ runId line, (written.deliver event.deliveryId.text target).delivered deliveryId =
          some runId ∧ written.lineage runId = some line ∧
          line.pullRequest = event.pullRequest) := by
    intro written target line unknown sameDelivered known ofPull
    by_cases same : deliveryId = event.deliveryId.text
    · subst same
      exact .inr (.inr ⟨unknown, rfl, target, line, Function.update_self .., known, ofPull⟩)
    · have kept : (written.deliver event.deliveryId.text target).delivered deliveryId =
          ledger.delivered deliveryId := by
        rw [← sameDelivered]
        exact Function.update_of_ne same ..
      rw [kept]
      cases ledger.delivered deliveryId with
      | none => exact .inr (.inl ⟨rfl, same, rfl⟩)
      | some runId => exact .inl ⟨runId, rfl, rfl⟩
  cases accept with
  | redelivered runId known =>
      cases found : ledger.delivered deliveryId with
      | none =>
          refine .inr (.inl ⟨rfl, ?_, rfl⟩)
          rintro rfl
          rw [found] at known
          cases known
      | some runId => exact .inl ⟨runId, rfl, rfl⟩
  | reused runId line unknown known samePull _ _ _ =>
      exact written unknown rfl (write_lineage_eq_some.mpr (.inl ⟨rfl, rfl⟩)) samePull
  | stale newer line unknown _ _ _ _ =>
      exact written unknown rfl (write_lineage_eq_some.mpr (.inl ⟨rfl, rfl⟩)) rfl
  | superseding older line unknown _ _ _ =>
      exact written unknown rfl (write_lineage_eq_some.mpr (.inl ⟨rfl, rfl⟩)) rfl
  | first unknown _ _ =>
      exact written unknown rfl (write_lineage_eq_some.mpr (.inl ⟨rfl, rfl⟩)) rfl

/-! ## The newest accepted event -/

/-- The ledger of one pull request shows, in its current run, the newest of the
events accepted so far. -/
structure Tracks (ledger : Ledger) (pull : RepositoryName × PositiveInt)
    (accepted : Set PullRequestEvent) : Prop where
  recorded : ∀ {deliveryId runId}, ledger.delivered deliveryId = some runId →
    ∃ event ∈ accepted, event.deliveryId.text = deliveryId
  newest : ∀ {runId line}, ledger.IsCurrent pull runId line →
    ∃ event ∈ accepted, line.revision = event.revision ∧
      line.headUpdatedAt = event.headUpdatedAt ∧
      ∀ other ∈ accepted, other.headUpdatedAt ≤ event.headUpdatedAt
  shown : accepted.Nonempty → ∃ runId line, ledger.IsCurrent pull runId line

theorem blank_tracks (pull : RepositoryName × PositiveInt) : blank.Tracks pull ∅ where
  recorded := fun resolved => by cases resolved
  newest := fun isCurrent => by cases isCurrent.known
  shown := fun nonempty => absurd nonempty Set.not_nonempty_empty

/-- The current run after a write shows the newest event, once it does so among
the earlier events and the new one. -/
theorem Tracks.extend {accepted : Set PullRequestEvent} {pull : RepositoryName × PositiveInt}
    {written : Ledger} {target : RunId} (tracks : ledger.Tracks pull accepted)
    (sameDelivered : written.delivered = ledger.delivered)
    (newest : ∀ {runId line}, written.IsCurrent pull runId line →
      ∃ shown ∈ insert event accepted, line.revision = shown.revision ∧
        line.headUpdatedAt = shown.headUpdatedAt ∧
        ∀ other ∈ insert event accepted, other.headUpdatedAt ≤ shown.headUpdatedAt)
    (shown : ∃ runId line, written.IsCurrent pull runId line) :
    (written.deliver event.deliveryId.text target).Tracks pull (insert event accepted) where
  recorded := fun resolved => by
    rcases deliver_delivered_eq_some.mp resolved with ⟨rfl, _⟩ | ⟨_, earlier⟩
    · exact ⟨event, Set.mem_insert _ _, rfl⟩
    · rw [sameDelivered] at earlier
      obtain ⟨known, mem, same⟩ := tracks.recorded earlier
      exact ⟨known, Set.mem_insert_of_mem _ mem, same⟩
  newest := fun now => newest ⟨now.known, now.ofPull, now.current⟩
  shown := fun _ => by
    obtain ⟨runId, line, now⟩ := shown
    exact ⟨runId, line, now.known, now.ofPull, now.current⟩

/-- **Acceptance keeps track of the newest event**, whatever its order among the
others, as long as a delivery identifier names one event. -/
theorem Accept.tracks {accepted : Set PullRequestEvent}
    (accept : ledger.Accept event fresh kind grown) (coherent : ledger.Coherent)
    (tracks : ledger.Tracks event.pullRequest accepted)
    (distinctIds : ∀ other ∈ accepted, other.deliveryId.text = event.deliveryId.text →
      other = event) :
    grown.Tracks event.pullRequest (insert event accepted) := by
  -- A current run that showed the newest event still does when the new one is older.
  have keeps : ∀ {runId line}, ledger.IsCurrent event.pullRequest runId line →
      event.headUpdatedAt ≤ line.headUpdatedAt →
      ∃ shown ∈ insert event accepted, line.revision = shown.revision ∧
        line.headUpdatedAt = shown.headUpdatedAt ∧
        ∀ other ∈ insert event accepted, other.headUpdatedAt ≤ shown.headUpdatedAt := by
    intro runId line isCurrent older
    obtain ⟨shown, mem, revision, head, newest⟩ := tracks.newest isCurrent
    refine ⟨shown, Set.mem_insert_of_mem _ mem, revision, head, ?_⟩
    rintro other (rfl | otherMem)
    · exact head ▸ older
    · exact newest other otherMem
  -- A current run that shows the new event shows the newest when the event overtakes.
  have overtakes : ∀ {runId line}, ledger.IsCurrent event.pullRequest runId line →
      line.headUpdatedAt ≤ event.headUpdatedAt →
      ∀ other ∈ insert event accepted, other.headUpdatedAt ≤ event.headUpdatedAt := by
    rintro runId line isCurrent newer other (rfl | otherMem)
    · exact le_refl _
    · obtain ⟨shown, _, _, head, newest⟩ := tracks.newest isCurrent
      exact le_trans (newest other otherMem) (head ▸ newer)
  cases accept with
  | redelivered runId known =>
      obtain ⟨other, mem, same⟩ := tracks.recorded known
      obtain rfl := distinctIds other mem same
      rw [Set.insert_eq_of_mem mem]
      exact tracks
  | reused runId line unknown known samePull sameRevision _ notOvertaking =>
      obtain ⟨currentId, current, isCurrent, _, _⟩ := coherent.settled known
      rw [samePull] at isCurrent
      refine tracks.extend rfl ?_ ?_
      · intro other otherLine now
        rcases write_lineage_eq_some.mp now.known with ⟨rfl, rfl⟩ | ⟨different, oldKnown⟩
        · by_cases newer : line.headUpdatedAt < event.headUpdatedAt
          · exact ⟨event, Set.mem_insert _ _, sameRevision, max_eq_right (le_of_lt newer),
              overtakes ⟨known, samePull, now.current⟩ (le_of_lt newer)⟩
          · have older : event.headUpdatedAt ≤ line.headUpdatedAt := not_lt.mp newer
            obtain ⟨shown, mem, revision, head, newest⟩ :=
              keeps ⟨known, samePull, now.current⟩ older
            exact ⟨shown, mem, revision, (max_eq_left older).trans head, newest⟩
        · have wasCurrent : ledger.IsCurrent event.pullRequest other otherLine :=
            ⟨oldKnown, now.ofPull, now.current⟩
          rcases notOvertaking other otherLine wasCurrent with absurdity | older
          · exact absurd absurdity.symm different
          · exact keeps wasCurrent older
      · by_cases same : currentId = runId
        · subst same
          obtain rfl := Option.some.inj (known.symm.trans isCurrent.known)
          exact ⟨currentId, _, write_lineage_eq_some.mpr (.inl ⟨rfl, rfl⟩), samePull,
            isCurrent.current⟩
        · exact ⟨currentId, current, write_lineage_eq_some.mpr (.inr ⟨same, isCurrent.known⟩),
            isCurrent.ofPull, isCurrent.current⟩
  | stale newer line unknown isCurrent notNewer _ unused =>
      refine tracks.extend rfl ?_ ⟨newer, line, write_lineage_eq_some.mpr
        (.inr ⟨ne_of_known isCurrent.known unused, isCurrent.known⟩), isCurrent.ofPull,
        isCurrent.current⟩
      intro other otherLine now
      rcases write_lineage_eq_some.mp now.known with ⟨rfl, rfl⟩ | ⟨_, oldKnown⟩
      · cases now.current
      · have wasCurrent : ledger.IsCurrent event.pullRequest other otherLine :=
          ⟨oldKnown, now.ofPull, now.current⟩
        obtain rfl := coherent.currentUnique wasCurrent isCurrent
        obtain rfl := Option.some.inj (oldKnown.symm.trans isCurrent.known)
        exact keeps isCurrent notNewer
  | superseding older line unknown isCurrent newer unused =>
      refine tracks.extend rfl ?_ ⟨fresh, _, write_lineage_eq_some.mpr (.inl ⟨rfl, rfl⟩), rfl, rfl⟩
      intro other otherLine now
      rcases write_lineage_eq_some.mp now.known with ⟨rfl, rfl⟩ | ⟨_, retiredKnown⟩
      · exact ⟨event, Set.mem_insert _ _, rfl, rfl, overtakes isCurrent (le_of_lt newer)⟩
      rcases write_lineage_eq_some.mp retiredKnown with ⟨rfl, rfl⟩ | ⟨different, oldKnown⟩
      · cases now.current
      · exact absurd (coherent.currentUnique ⟨oldKnown, now.ofPull, now.current⟩ isCurrent) different
  | first unknown noCurrent unused =>
      refine tracks.extend rfl ?_ ⟨fresh, _, write_lineage_eq_some.mpr (.inl ⟨rfl, rfl⟩), rfl, rfl⟩
      intro other otherLine now
      rcases write_lineage_eq_some.mp now.known with ⟨rfl, rfl⟩ | ⟨_, oldKnown⟩
      · refine ⟨event, Set.mem_insert _ _, rfl, rfl, ?_⟩
        rintro earlier (rfl | mem)
        · exact le_refl _
        · obtain ⟨currentId, current, isCurrent⟩ := tracks.shown ⟨earlier, mem⟩
          exact absurd isCurrent (noCurrent currentId current)
      · exact absurd ⟨oldKnown, now.ofPull, now.current⟩ (noCurrent other otherLine)

end Ledger

end PatchProof
