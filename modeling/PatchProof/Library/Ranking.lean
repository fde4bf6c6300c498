import Mathlib.Data.List.Sort
import Mathlib.Tactic.Common

/-!
# The first items of a sorted list

Whether an item is among the first of a sorted list is told by the number of items that
stand strictly before it, whatever the list was before it was sorted.
-/

set_option autoImplicit false

namespace Ranking

variable {α : Type} (r : α → α → Prop) [DecidableRel r]

/-- How many items of a list stand strictly before an item. -/
def before (items : List α) (item : α) : Nat :=
  items.countP fun other => r other item ∧ ¬ r item other

variable {r}

/-- In a sorted list, an item is among the first when few stand before it. -/
theorem mem_take_of_sorted {items : List α} {item : α} (sorted : items.Pairwise r)
    (settled : ∀ first ∈ items, ∀ second ∈ items, r first second → r second first → first = second)
    (mem : item ∈ items) (most : Nat) :
    item ∈ items.take most ↔ before r items item < most := by
  induction items generalizing most with
  | nil => cases mem
  | cons first rest ih =>
      obtain ⟨leads, sortedRest⟩ := List.pairwise_cons.mp sorted
      have settledRest : ∀ one ∈ rest, ∀ other ∈ rest, r one other → r other one → one = other :=
        fun one inRest other otherInRest =>
          settled one (List.mem_cons_of_mem _ inRest) other (List.mem_cons_of_mem _ otherInRest)
      cases most with
      | zero => simp
      | succ most =>
          by_cases same : item = first
          · subst same
            have none : before r (item :: rest) item = 0 := by
              rw [before, List.countP_eq_zero]
              intro other inItems
              rcases List.mem_cons.mp inItems with rfl | inRest
              · simp
              · simp [leads other inRest]
            rw [none]
            simp
          · have inRest : item ∈ rest := (List.mem_cons.mp mem).resolve_left same
            have strictly : r first item ∧ ¬ r item first := by
              refine ⟨leads item inRest, fun back => same ?_⟩
              exact settled item mem first List.mem_cons_self back (leads item inRest)
            have counted : before r (first :: rest) item = before r rest item + 1 := by
              rw [before, List.countP_cons_of_pos (by simpa using strictly)]
              rfl
            rw [counted, List.take_succ_cons, List.mem_cons, ih sortedRest settledRest inRest most]
            constructor
            · rintro (absurdity | fewer)
              · exact absurd absurdity same
              · omega
            · intro fewer
              exact .inr (by omega)

/-- **Sorting puts an item among the first exactly when few stand before it.** -/
theorem mem_take_insertionSort [Std.Total r] [IsTrans α r] {items : List α} {item : α}
    (settled : ∀ first ∈ items, ∀ second ∈ items, r first second → r second first → first = second)
    (mem : item ∈ items) (most : Nat) :
    item ∈ (items.insertionSort r).take most ↔ before r items item < most := by
  have sameCount : before r (items.insertionSort r) item = before r items item :=
    (List.perm_insertionSort r items).countP_eq _
  rw [← sameCount]
  refine mem_take_of_sorted (List.pairwise_insertionSort r items) ?_
    ((List.mem_insertionSort r).mpr mem) most
  intro first inFirst second inSecond
  exact settled first ((List.mem_insertionSort r).mp inFirst) second
    ((List.mem_insertionSort r).mp inSecond)

end Ranking
