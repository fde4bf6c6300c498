import Mathlib.Algebra.Order.BigOperators.Group.List
import Mathlib.Algebra.Order.Group.Nat
import Mathlib.Data.List.Dedup
import PatchProof.Library.RoundRobin
import PatchProof.Investigation.Investigator

/-!
# The order in which observables are compared

Every comparison has one signal: its symbol changed, is new, was removed, may be affected, or
is unrelated.  The first four are served in turns and what is unrelated comes last, so the
cut to the limit takes nothing of a group before every other group had its turn, and nothing
is lost but by the cut.
-/

set_option autoImplicit false

namespace PatchProof

/-! ## Signals -/

/-- What a comparison tells of a pull request. -/
inductive ComparisonSignal where
  | changed
  | added
  | removed
  | relevant
  | unrelated
  deriving DecidableEq

namespace RepositoryInvestigator

variable (investigator : RepositoryInvestigator) (compared : List SymbolComparison)

/-- The signal of a comparison among those compared. -/
def signal (comparison : SymbolComparison) : ComparisonSignal :=
  match comparison.views with
  | .presentOnBoth _ _ true => .changed
  | .newOnHead _ => .added
  | .removedFromHead _ => .removed
  | .presentOnBoth _ _ false =>
      if (investigator.relevanceKeys compared).contains comparison.key then .relevant
      else .unrelated

/-- The comparisons of one signal, the public ones first. -/
def ofSignal (wanted : ComparisonSignal) : List SymbolComparison :=
  (compared.filter fun comparison => investigator.signal compared comparison = wanted).insertionSort
    fun first second => priorityLe first second = true

/-- The groups that are served in turns. -/
def signalGroups : List (List SymbolComparison) :=
  [ComparisonSignal.changed, .added, .removed, .relevant].map (investigator.ofSignal compared)

variable {investigator compared}

theorem mem_ofSignal_iff {wanted : ComparisonSignal} {comparison : SymbolComparison} :
    comparison ∈ investigator.ofSignal compared wanted ↔
      comparison ∈ compared ∧ investigator.signal compared comparison = wanted := by
  simp [ofSignal]

theorem length_ofSignal (wanted : ComparisonSignal) :
    (investigator.ofSignal compared wanted).length =
      compared.countP fun comparison => investigator.signal compared comparison = wanted := by
  rw [ofSignal, List.length_insertionSort, List.countP_eq_length_filter]

theorem disjoint_ofSignal {first second : ComparisonSignal} (different : first ≠ second) :
    List.Disjoint (investigator.ofSignal compared first)
      (investigator.ofSignal compared second) := by
  intro comparison inFirst inSecond
  have isFirst := (mem_ofSignal_iff.mp inFirst).2
  have isSecond := (mem_ofSignal_iff.mp inSecond).2
  exact different (isFirst.symm.trans isSecond)

theorem signalGroups_disjoint :
    (investigator.signalGroups compared).Pairwise List.Disjoint := by
  have distinct : [ComparisonSignal.changed, .added, .removed, .relevant].Nodup := by decide
  exact List.pairwise_map.mpr (distinct.imp fun different => disjoint_ofSignal different)

theorem mem_signalGroups_iff {group : List SymbolComparison} :
    group ∈ investigator.signalGroups compared ↔
      ∃ wanted, wanted ≠ .unrelated ∧ group = investigator.ofSignal compared wanted := by
  constructor
  · intro mem
    obtain ⟨wanted, listed, rfl⟩ := List.mem_map.mp mem
    refine ⟨wanted, ?_, rfl⟩
    rintro rfl
    revert listed
    decide
  · rintro ⟨wanted, high, rfl⟩
    apply List.mem_map_of_mem
    cases wanted
    case unrelated => exact absurd rfl high
    all_goals decide

/-! ## The order -/

/-- The groups of the source are those of the signals. -/
theorem prioritizedObservableComparisons_eq (investigator : RepositoryInvestigator)
    (compared : List SymbolComparison) :
    investigator.prioritizedObservableComparisons compared =
      interleave (investigator.signalGroups compared) ++
        investigator.ofSignal compared .unrelated := by
  have changed : ((compared.filter fun comparison => comparison.presence = .presentOnBoth).filter
      fun comparison => comparison.implementationChanged = some true) =
      compared.filter fun comparison => investigator.signal compared comparison = .changed := by
    rw [List.filter_filter]
    apply List.filter_congr
    intro comparison _
    unfold signal SymbolComparison.presence SymbolComparison.implementationChanged
    grind
  have added : (compared.filter fun comparison => comparison.presence = .newOnHead) =
      compared.filter fun comparison => investigator.signal compared comparison = .added := by
    apply List.filter_congr
    intro comparison _
    unfold signal SymbolComparison.presence
    grind
  have removed : (compared.filter fun comparison => comparison.presence = .removedFromHead) =
      compared.filter fun comparison => investigator.signal compared comparison = .removed := by
    apply List.filter_congr
    intro comparison _
    unfold signal SymbolComparison.presence
    grind
  have relevant : (((compared.filter fun comparison =>
      comparison.presence = .presentOnBoth).filter fun comparison =>
        comparison.implementationChanged = some false).filter fun comparison =>
          (investigator.relevanceKeys compared).contains comparison.key) =
      compared.filter fun comparison => investigator.signal compared comparison = .relevant := by
    rw [List.filter_filter, List.filter_filter]
    apply List.filter_congr
    intro comparison _
    unfold signal SymbolComparison.presence SymbolComparison.implementationChanged
    grind
  have unrelated : (((compared.filter fun comparison =>
      comparison.presence = .presentOnBoth).filter fun comparison =>
        comparison.implementationChanged = some false).filter fun comparison =>
          !(investigator.relevanceKeys compared).contains comparison.key) =
      compared.filter fun comparison => investigator.signal compared comparison = .unrelated := by
    rw [List.filter_filter, List.filter_filter]
    apply List.filter_congr
    intro comparison _
    unfold signal SymbolComparison.presence SymbolComparison.implementationChanged
    grind
  unfold prioritizedObservableComparisons
  dsimp only
  rw [changed, added, removed, relevant, unrelated]
  rfl

theorem interleave_eq_rounds {α : Type} (groups : List (List α)) :
    interleave groups = RoundRobin.rounds groups (groups.map List.length).sum := rfl

/-- Every comparison is in the group of its signal. -/
theorem groups_perm (investigator : RepositoryInvestigator) (compared : List SymbolComparison) :
    ((investigator.signalGroups compared).flatten ++
      investigator.ofSignal compared .unrelated).Perm compared := by
  rw [List.perm_iff_count]
  intro comparison
  have counted (wanted : ComparisonSignal) :
      (investigator.ofSignal compared wanted).count comparison =
        if investigator.signal compared comparison = wanted then compared.count comparison
        else 0 := by
    rw [ofSignal, (List.perm_insertionSort _ _).count_eq]
    split
    · rename_i is_signal
      exact List.count_filter (by simpa using is_signal)
    · rename_i other
      rw [List.count_eq_zero]
      intro mem
      exact other (of_decide_eq_true (List.mem_filter.mp mem).2)
  simp only [signalGroups, List.map_cons, List.map_nil, List.flatten_cons, List.flatten_nil,
    List.append_nil, List.count_append, counted]
  cases investigator.signal compared comparison <;> simp

/-- The order is one of all comparisons. -/
theorem prioritized_perm (investigator : RepositoryInvestigator)
    (compared : List SymbolComparison) :
    (investigator.prioritizedObservableComparisons compared).Perm compared := by
  rw [prioritizedObservableComparisons_eq, interleave_eq_rounds]
  have served : (RoundRobin.rounds (investigator.signalGroups compared)
      ((investigator.signalGroups compared).map List.length).sum).Perm
      (investigator.signalGroups compared).flatten := by
    apply RoundRobin.rounds_perm
    intro group mem
    exact List.single_le_sum (fun _ _ => Nat.zero_le _) _ (List.mem_map_of_mem mem)
  exact (served.append_right _).trans (groups_perm investigator compared)

/-! ## Turns -/

/-- How many of the comparisons have a signal. -/
def signalled (investigator : RepositoryInvestigator) (compared : List SymbolComparison)
    (wanted : ComparisonSignal) (items : List SymbolComparison) : Nat :=
  items.countP fun comparison => investigator.signal compared comparison = wanted

theorem servedOf_ofSignal (wanted : ComparisonSignal) {items : List SymbolComparison}
    (among : ∀ comparison ∈ items, comparison ∈ compared) :
    RoundRobin.servedOf (investigator.ofSignal compared wanted) items =
      investigator.signalled compared wanted items := by
  apply List.countP_congr
  intro comparison mem
  simp [mem_ofSignal_iff, among comparison mem]

/-- What is unrelated has no other signal. -/
theorem signalled_unrelated (investigator : RepositoryInvestigator)
    (compared : List SymbolComparison) {wanted : ComparisonSignal}
    (high : wanted ≠ .unrelated) (taken : Nat) : investigator.signalled compared wanted
      ((investigator.ofSignal compared .unrelated).take taken) = 0 := by
  rw [signalled, List.countP_eq_zero]
  intro comparison mem is_wanted
  have is_unrelated := (mem_ofSignal_iff.mp (List.mem_of_mem_take mem)).2
  exact high ((of_decide_eq_true is_wanted).symm.trans is_unrelated)

/-- An order in which the signals are served in turns, and the unrelated last. -/
structure ServedInTurns (investigator : RepositoryInvestigator)
    (compared order : List SymbolComparison) : Prop where
  complete : order.Perm compared
  unrelatedLast : ∃ front back, order = front ++ back ∧
    (∀ comparison ∈ front, investigator.signal compared comparison ≠ .unrelated) ∧
    ∀ comparison ∈ back, investigator.signal compared comparison = .unrelated
  fair : ∀ taken first second, first ≠ .unrelated → second ≠ .unrelated →
    investigator.signalled compared first (order.take taken) <
      investigator.signalled compared first compared →
    investigator.signalled compared second (order.take taken) ≤
      investigator.signalled compared first (order.take taken) + 1

theorem signal_of_mem_interleave {comparison : SymbolComparison}
    (mem : comparison ∈ interleave (investigator.signalGroups compared)) :
    comparison ∈ compared ∧ investigator.signal compared comparison ≠ .unrelated := by
  obtain ⟨group, inGroups, inGroup⟩ := mem_of_mem_interleave mem
  obtain ⟨wanted, high, rfl⟩ := mem_signalGroups_iff.mp inGroups
  obtain ⟨inCompared, is_wanted⟩ := mem_ofSignal_iff.mp inGroup
  rw [is_wanted]
  exact ⟨inCompared, high⟩

theorem prioritized_served (investigator : RepositoryInvestigator)
    (compared : List SymbolComparison) :
    investigator.ServedInTurns compared
      (investigator.prioritizedObservableComparisons compared) where
  complete := prioritized_perm investigator compared
  unrelatedLast := by
    refine ⟨_, _, prioritizedObservableComparisons_eq investigator compared, ?_, ?_⟩
    · intro comparison mem
      exact (signal_of_mem_interleave mem).2
    · intro comparison mem
      exact (mem_ofSignal_iff.mp mem).2
  fair := by
    intro taken first second firstHigh secondHigh waits
    -- What is unrelated counts for no group, so only the turns matter.
    have counted (wanted : ComparisonSignal) (high : wanted ≠ .unrelated) :
        investigator.signalled compared wanted
            ((investigator.prioritizedObservableComparisons compared).take taken) =
          RoundRobin.servedOf (investigator.ofSignal compared wanted)
            ((interleave (investigator.signalGroups compared)).take taken) := by
      rw [servedOf_ofSignal]
      · rw [prioritizedObservableComparisons_eq, List.take_append, signalled, List.countP_append]
        have nothing := signalled_unrelated investigator compared high
          (taken - (interleave (investigator.signalGroups compared)).length)
        rw [signalled] at nothing
        rw [nothing, Nat.add_zero, signalled]
      · intro comparison mem
        exact (signal_of_mem_interleave (List.mem_of_mem_take mem)).1
    rw [counted first firstHigh, signalled, ← length_ofSignal] at waits
    rw [counted first firstHigh, counted second secondHigh]
    rw [interleave_eq_rounds] at waits ⊢
    exact RoundRobin.fair signalGroups_disjoint
      (mem_signalGroups_iff.mpr ⟨first, firstHigh, rfl⟩)
      (mem_signalGroups_iff.mpr ⟨second, secondHigh, rfl⟩) _ _ waits

/-! ## The cut -/

/-- The signals other than unrelated that some comparison has. -/
def presentSignals (investigator : RepositoryInvestigator) (compared : List SymbolComparison) :
    List ComparisonSignal :=
  [ComparisonSignal.changed, .added, .removed, .relevant].filter fun wanted =>
    compared.any fun comparison => investigator.signal compared comparison = wanted

theorem length_firstRound :
    (RoundRobin.serve (investigator.signalGroups compared) 0).length =
      (investigator.presentSignals compared).length := by
  have served (wanted : ComparisonSignal) :
      (investigator.ofSignal compared wanted)[0]?.isSome = compared.any fun comparison =>
        investigator.signal compared comparison = wanted := by
    rw [Bool.eq_iff_iff, isSome_getElem?, List.length_pos_iff_exists_mem,
      List.any_eq_true]
    constructor
    · rintro ⟨comparison, mem⟩
      obtain ⟨inCompared, is_wanted⟩ := mem_ofSignal_iff.mp mem
      exact ⟨comparison, inCompared, decide_eq_true is_wanted⟩
    · rintro ⟨comparison, inCompared, is_wanted⟩
      exact ⟨comparison, mem_ofSignal_iff.mpr ⟨inCompared, of_decide_eq_true is_wanted⟩⟩
  rw [RoundRobin.serve, List.length_filterMap_eq_countP, signalGroups, List.countP_map,
    presentSignals, ← List.countP_eq_length_filter]
  apply List.countP_congr
  intro wanted _
  rw [Function.comp_apply, served]

/-- A cut that admits one comparison of each signal leaves one of each. -/
theorem represented {most : Nat} (room : (investigator.presentSignals compared).length ≤ most)
    {wanted : ComparisonSignal} (high : wanted ≠ .unrelated) {comparison : SymbolComparison}
    (inCompared : comparison ∈ compared)
    (is_wanted : investigator.signal compared comparison = wanted) :
    ∃ kept ∈ (investigator.prioritizedObservableComparisons compared).take most,
      investigator.signal compared kept = wanted := by
  have inGroup : comparison ∈ investigator.ofSignal compared wanted :=
    mem_ofSignal_iff.mpr ⟨inCompared, is_wanted⟩
  have nonempty := List.length_pos_of_mem inGroup
  have inGroups : investigator.ofSignal compared wanted ∈ investigator.signalGroups compared :=
    mem_signalGroups_iff.mpr ⟨wanted, high, rfl⟩
  refine ⟨(investigator.ofSignal compared wanted)[0], ?_,
    (mem_ofSignal_iff.mp (List.getElem_mem nonempty)).2⟩
  have inFirst : (investigator.ofSignal compared wanted)[0] ∈
      RoundRobin.serve (investigator.signalGroups compared) 0 :=
    List.mem_filterMap.mpr ⟨_, inGroups, List.getElem?_eq_getElem nonempty⟩
  -- The first round stands in front of everything else.
  obtain ⟨count, positive⟩ : ∃ count,
      ((investigator.signalGroups compared).map List.length).sum = count + 1 := by
    have some := List.single_le_sum (fun _ _ => Nat.zero_le _) _
      (List.mem_map_of_mem (f := List.length) inGroups)
    exact Nat.exists_eq_succ_of_ne_zero (by omega)
  have inFront : (RoundRobin.serve (investigator.signalGroups compared) 0).IsPrefix
      (investigator.prioritizedObservableComparisons compared) := by
    rw [prioritizedObservableComparisons_eq, interleave_eq_rounds, positive]
    refine List.IsPrefix.trans ?_ (List.prefix_append _ _)
    rw [RoundRobin.rounds, List.range_succ_eq_map, List.flatMap_cons]
    exact List.prefix_append _ _
  rw [← length_firstRound] at room
  have kept := (List.prefix_take_iff.mpr ⟨inFront, room⟩)
  exact kept.mem inFirst

/-! ## The result -/

theorem comparisons_nodup (investigator : RepositoryInvestigator) :
    (investigator.comparisons none none).Nodup := by
  unfold comparisons
  apply List.Nodup.filterMap
  · intro first second comparison inFirst inSecond
    exact (key_of_compareAt inFirst).symm.trans (key_of_compareAt inSecond)
  · exact (List.perm_insertionSort _ _).nodup_iff.mpr (List.nodup_dedup _)

theorem mem_drop_of_nodup {α : Type} {items : List α} (distinct : items.Nodup) {most : Nat} :
    most < items.length ↔ ∃ item ∈ items, item ∉ items.take most := by
  constructor
  · intro within
    refine ⟨items[most], List.getElem_mem within, ?_⟩
    intro early
    obtain ⟨index, bound, same⟩ := List.getElem_of_mem early
    rw [List.getElem_take] at same
    have position := (List.Nodup.getElem_inj_iff distinct).mp same
    rw [List.length_take] at bound
    omega
  · rintro ⟨item, mem, late⟩
    by_contra beyond
    rw [List.take_of_length_le (Nat.le_of_not_lt beyond)] at late
    exact late mem

/-- The parts of a result are the kept comparisons, each in the part of its presence. -/
structure PartitionOf (kept : List SymbolComparison) (observables : CrossRevisionObservables) :
    Prop where
  parts : ∃ added removed, (observables.presentOnBoth ++ added ++ removed).Perm kept ∧
    (∀ comparison ∈ observables.presentOnBoth, comparison.presence = .presentOnBoth) ∧
    (∀ comparison ∈ added, comparison.presence = .newOnHead) ∧
    (∀ comparison ∈ removed, comparison.presence = .removedFromHead) ∧
    observables.newOnHead.map some = added.map SymbolComparison.head ∧
    observables.removedFromHead.map some = removed.map SymbolComparison.base

theorem presence_perm (kept : List SymbolComparison) :
    (((kept.filter fun comparison => comparison.presence = .presentOnBoth) ++
      kept.filter fun comparison => comparison.presence = .newOnHead) ++
      kept.filter fun comparison => comparison.presence = .removedFromHead).Perm kept := by
  rw [List.perm_iff_count]
  intro comparison
  have counted (wanted : ObservablePresence) :
      (kept.filter fun comparison => comparison.presence = wanted).count comparison =
        if comparison.presence = wanted then kept.count comparison else 0 := by
    split
    · rename_i is_wanted
      exact List.count_filter (by simpa using is_wanted)
    · rename_i other
      rw [List.count_eq_zero]
      intro mem
      exact other (of_decide_eq_true (List.mem_filter.mp mem).2)
  rw [List.count_append, List.count_append, counted, counted, counted]
  cases comparison.presence <;> simp

theorem map_some_filterMap {α β : Type} {items : List α} (view : α → Option β)
    (seen : ∀ item ∈ items, (view item).isSome = true) :
    (items.filterMap view).map some = items.map view := by
  induction items with
  | nil => rfl
  | cons item rest ih =>
      obtain ⟨value, found⟩ := Option.isSome_iff_exists.mp (seen item List.mem_cons_self)
      rw [List.filterMap_cons_some found, List.map_cons, List.map_cons, found,
        ih fun other mem => seen other (List.mem_cons_of_mem _ mem)]

theorem partitionOf_observables (kept : List SymbolComparison) (truncated : Bool) :
    PartitionOf kept {
      presentOnBoth := kept.filter fun comparison => comparison.presence = .presentOnBoth
      newOnHead := (kept.filter fun comparison => comparison.presence = .newOnHead).filterMap
        SymbolComparison.head
      removedFromHead := (kept.filter fun comparison =>
        comparison.presence = .removedFromHead).filterMap SymbolComparison.base
      truncated := truncated } := by
  refine ⟨_, _, presence_perm kept, ?_, ?_, ?_, ?_, ?_⟩
  · intro comparison mem
    exact of_decide_eq_true (List.mem_filter.mp mem).2
  · intro comparison mem
    exact of_decide_eq_true (List.mem_filter.mp mem).2
  · intro comparison mem
    exact of_decide_eq_true (List.mem_filter.mp mem).2
  · apply map_some_filterMap
    intro comparison mem
    have is_added := of_decide_eq_true (List.mem_filter.mp mem).2
    unfold SymbolComparison.presence at is_added
    unfold SymbolComparison.head
    grind
  · apply map_some_filterMap
    intro comparison mem
    have is_removed := of_decide_eq_true (List.mem_filter.mp mem).2
    unfold SymbolComparison.presence at is_removed
    unfold SymbolComparison.base
    grind

/-- **The comparison of observables loses nothing but by its cut.**  All comparisons are
ordered by turns of their signals, and what is unrelated comes last.  A result holds the
first of them in three parts, says truncated when a comparison was dropped and only then,
and with room for one comparison of each signal has one of each. -/
theorem observables_lose_nothing (investigator : RepositoryInvestigator) :
    let compared := investigator.comparisons none none
    let order := investigator.prioritizedObservableComparisons compared
    investigator.ServedInTurns compared order ∧
    ∀ limit : Option Nat, match investigator.compareObservables limit with
      | .error failure => investigator.maximum limit = .error failure
      | .ok observables => ∃ most, investigator.maximum limit = .ok most ∧
          PartitionOf (order.take most) observables ∧
          (observables.truncated = true ↔ ∃ comparison ∈ compared,
            comparison ∉ order.take most) ∧
          ((investigator.presentSignals compared).length ≤ most →
            ∀ comparison ∈ compared,
              investigator.signal compared comparison ≠ .unrelated →
              ∃ kept ∈ order.take most, investigator.signal compared kept =
                investigator.signal compared comparison) := by
  intro compared order
  refine ⟨prioritized_served investigator compared, ?_⟩
  intro limit
  unfold compareObservables
  cases admitted : investigator.maximum limit with
  | error failure => rfl
  | ok most =>
      refine ⟨most, rfl, partitionOf_observables _ _, ?_, ?_⟩
      · have perm : order.Perm compared := prioritized_perm investigator compared
        have distinct : order.Nodup := perm.nodup_iff.mpr (comparisons_nodup investigator)
        rw [decide_eq_true_iff]
        change most < compared.length ↔ _
        rw [← perm.length_eq, mem_drop_of_nodup distinct]
        simp only [perm.mem_iff]
      · intro room comparison inCompared high
        exact represented room high inCompared rfl

end RepositoryInvestigator

end PatchProof
