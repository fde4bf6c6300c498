import Mathlib.Data.Fintype.Card
import Mathlib.Logic.Relation
import Mathlib.Tactic.Common

/-!
# Following a chain

Every item of a finite type has at most one successor.  A search follows the
successors from an item on, remembers what it has visited, and ends at the first item
that stops it, at the end of the chain, or where the chain comes back to a visited
item.

Coming back loses nothing: the visited items are then closed under successors and none
of them stops the search, so nothing further along the chain does
(`follow_eq_none_iff`).
-/

set_option autoImplicit false

namespace Chains

variable {α β : Type} {next : α → Option α} {stop : α → Option β}

/-! ## The chain of an item -/

/-- The second item is the first one or comes later on its chain. -/
def OnChain (next : α → Option α) : α → α → Prop :=
  Relation.ReflTransGen fun item later => next item = some later

/-- The first item of a chain that stops a search, and what it stops it with. -/
inductive FirstStop (next : α → Option α) (stop : α → Option β) : α → β → Prop
  | here {item : α} {found : β} (stops : stop item = some found) : FirstStop next stop item found
  | later {item after : α} {found : β} (passes : stop item = none) (onwards : next item = some after)
      (first : FirstStop next stop after found) : FirstStop next stop item found

theorem FirstStop.exists_onChain {item : α} {found : β} (first : FirstStop next stop item found) :
    ∃ last, OnChain next item last ∧ stop last = some found := by
  induction first with
  | here stops => exact ⟨_, .refl, stops⟩
  | later _ onwards _ ih =>
      obtain ⟨last, onChain, stops⟩ := ih
      exact ⟨last, .head onwards onChain, stops⟩

/-- There is only one first stop. -/
theorem FirstStop.unique {item : α} {found other : β} (first : FirstStop next stop item found)
    (second : FirstStop next stop item other) : found = other := by
  induction first with
  | here stops =>
      cases second with
      | here again => exact Option.some.inj (stops.symm.trans again)
      | later passes =>
          rw [stops] at passes
          cases passes
  | later passes onwards _ ih =>
      cases second with
      | here stops =>
          rw [passes] at stops
          cases stops
      | later _ again rest =>
          obtain rfl := Option.some.inj (onwards.symm.trans again)
          exact ih rest

/-- What holds of an item and is handed on to successors holds along the chain. -/
theorem OnChain.closed {kept : α → Prop} {item last : α}
    (hands : ∀ item after, kept item → next item = some after → kept after)
    (onChain : OnChain next item last) (holds : kept item) : kept last := by
  induction onChain with
  | refl => exact holds
  | tail _ onwards ih => exact hands _ _ ih onwards

/-! ## The search -/

section Search

/-- The visited items neither stop the search nor lead away from what it has seen. -/
structure Passed (next : α → Option α) (stop : α → Option β) (visited : Finset α)
    (current : Option α) : Prop where
  passes : ∀ item ∈ visited, stop item = none
  leads : ∀ item ∈ visited, ∀ after, next item = some after → after ∈ visited ∨ current = some after

variable (next stop) in
theorem passed_empty (current : Option α) : Passed next stop ∅ current where
  passes := fun _ member => absurd member (Finset.notMem_empty _)
  leads := fun _ member => absurd member (Finset.notMem_empty _)

variable [DecidableEq α]

theorem Passed.insert {visited : Finset α} {item : α} (passed : Passed next stop visited (some item))
    (goesOn : stop item = none) : Passed next stop (insert item visited) (next item) where
  passes := by
    intro other member
    rcases Finset.mem_insert.mp member with rfl | earlier
    · exact goesOn
    · exact passed.passes other earlier
  leads := by
    intro other member after onwards
    rcases Finset.mem_insert.mp member with rfl | earlier
    · exact .inr onwards
    · rcases passed.leads other earlier after onwards with seen | same
      · exact .inl (Finset.mem_insert_of_mem seen)
      · exact .inl (Option.some.inj same ▸ Finset.mem_insert_self _ _)

variable [Fintype α]

/-- Follow a chain and remember the visited items. -/
def follow {α β : Type} [Fintype α] [DecidableEq α] (next : α → Option α) (stop : α → Option β)
    (visited : Finset α) : Option α → Option β
  | none => none
  | some item =>
      if _new : item ∈ visited then none
      else match stop item with
        | some found => some found
        | none => follow next stop (insert item visited) (next item)
termination_by (Finset.univ \ visited).card
decreasing_by
  refine Finset.card_lt_card (Finset.ssubset_iff_of_subset ?_ |>.mpr ⟨item, ?_, ?_⟩)
  · exact Finset.sdiff_subset_sdiff (Finset.Subset.refl _) (Finset.subset_insert item visited)
  · exact Finset.mem_sdiff.mpr ⟨Finset.mem_univ item, ‹_›⟩
  · simp

/-- The search says whether something on the chain stops it, and finds the first stop. -/
theorem follow_spec {visited : Finset α} {current : Option α}
    (passed : Passed next stop visited current) :
    (∀ found, follow next stop visited current = some found →
      ∃ item, current = some item ∧ FirstStop next stop item found) ∧
    (follow next stop visited current = none →
      ∀ item, current = some item → ∀ last, OnChain next item last → stop last = none) := by
  fun_induction follow next stop visited current with
  | case1 =>
      exact ⟨fun _ absurdity => (by cases absurdity), fun _ _ absurdity => by cases absurdity⟩
  | case2 visited item seen =>
      refine ⟨fun _ absurdity => (by cases absurdity), fun _ start same last onChain => ?_⟩
      obtain rfl := Option.some.inj same
      have hands : ∀ other after, other ∈ visited → next other = some after → after ∈ visited := by
        intro other after member onwards
        rcases passed.leads other member after onwards with inside | back
        · exact inside
        · exact Option.some.inj back ▸ seen
      exact passed.passes last (onChain.closed hands seen)
  | case3 visited item new found stops =>
      refine ⟨fun other same => ⟨item, rfl, ?_⟩, fun absurdity => by cases absurdity⟩
      exact .here (stops.trans same)
  | case4 visited item new goesOn ih =>
      obtain ⟨finds, misses⟩ := ih (passed.insert goesOn)
      refine ⟨fun found same => ?_, fun nothing start same last onChain => ?_⟩
      · obtain ⟨after, onwards, first⟩ := finds found same
        exact ⟨item, rfl, .later goesOn onwards first⟩
      · obtain rfl := Option.some.inj same
        rcases Relation.ReflTransGen.cases_head onChain with rfl | ⟨after, onwards, rest⟩
        · exact goesOn
        · exact misses nothing after onwards last rest

/-- **Nothing is found exactly when nothing on the chain stops the search**, cyclic or
not. -/
theorem follow_eq_none_iff {item : α} :
    follow next stop ∅ (some item) = none ↔ ∀ last, OnChain next item last → stop last = none := by
  obtain ⟨finds, misses⟩ := follow_spec (passed_empty next stop (some item))
  constructor
  · exact fun nothing => misses nothing item rfl
  · intro none
    by_contra something
    obtain ⟨found, same⟩ := Option.ne_none_iff_exists'.mp something
    obtain ⟨start, isStart, first⟩ := finds found same
    obtain rfl := Option.some.inj isStart
    obtain ⟨last, onChain, stops⟩ := first.exists_onChain
    rw [none last onChain] at stops
    cases stops

/-- **What is found is the first stop of the chain.** -/
theorem follow_eq_some_iff {item : α} {found : β} :
    follow next stop ∅ (some item) = some found ↔ FirstStop next stop item found := by
  obtain ⟨finds, _⟩ := follow_spec (passed_empty next stop (some item))
  constructor
  · intro same
    obtain ⟨start, isStart, first⟩ := finds found same
    obtain rfl := Option.some.inj isStart
    exact first
  · intro first
    obtain ⟨last, onChain, stops⟩ := first.exists_onChain
    have something : follow next stop ∅ (some item) ≠ none := by
      intro nothing
      rw [follow_eq_none_iff.mp nothing last onChain] at stops
      cases stops
    obtain ⟨other, same⟩ := Option.ne_none_iff_exists'.mp something
    obtain ⟨start, isStart, second⟩ := finds other same
    obtain rfl := Option.some.inj isStart
    rw [same, first.unique second]

end Search

end Chains
