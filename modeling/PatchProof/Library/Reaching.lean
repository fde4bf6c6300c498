import Mathlib.Data.List.Basic
import Mathlib.Tactic.Common

/-!
# Reaching a goal in a bounded number of steps

A graph is searched backwards from a list of known items: each round adds what has an edge
into the known.  The rounds end when nothing is added, or when so many have been made.  What
is known in the end is what reaches the start of the search along at most so many edges.

The search may stop early only because a round that adds nothing shows that no later round
adds anything (`reachesWithin_of_closed`).
-/

set_option autoImplicit false

namespace Reaching

variable {α : Type} {edge : α → α → Prop} {goal other : α → Prop}

/-! ## Paths of bounded length -/

/-- A goal is reached along at most so many edges. -/
inductive ReachesWithin (edge : α → α → Prop) (goal : α → Prop) : Nat → α → Prop where
  | here {bound : Nat} {item : α} (reached : goal item) : ReachesWithin edge goal bound item
  | step {bound : Nat} {item next : α} (connected : edge item next)
      (onwards : ReachesWithin edge goal bound next) : ReachesWithin edge goal (bound + 1) item

/-- A longer bound reaches no less. -/
theorem ReachesWithin.mono {bound larger : Nat} {item : α} (within : bound ≤ larger)
    (reaches : ReachesWithin edge goal bound item) : ReachesWithin edge goal larger item := by
  induction reaches generalizing larger with
  | here reached => exact .here reached
  | step connected _ ih =>
      obtain ⟨more, rfl⟩ := Nat.exists_eq_add_of_le within
      rw [Nat.add_right_comm]
      exact .step connected (ih (Nat.le_add_right _ more))

theorem ReachesWithin.congr {bound : Nat} {item : α} (same : ∀ item, goal item → other item)
    (reaches : ReachesWithin edge goal bound item) : ReachesWithin edge other bound item := by
  induction reaches with
  | here reached => exact .here (same _ reached)
  | step connected _ ih => exact .step connected ih

/-- One edge more is what may be made of the goal beforehand. -/
theorem reachesWithin_succ_iff {bound : Nat} {item : α} :
    ReachesWithin edge goal (bound + 1) item ↔
      ReachesWithin edge (fun item => goal item ∨ ∃ next, edge item next ∧ goal next) bound
        item := by
  constructor
  · intro reaches
    induction bound generalizing item with
    | zero =>
        cases reaches with
        | here reached => exact .here (.inl reached)
        | step connected onwards =>
            cases onwards with
            | here reached => exact .here (.inr ⟨_, connected, reached⟩)
    | succ bound ih =>
        cases reaches with
        | here reached => exact .here (.inl reached)
        | step connected onwards => exact .step connected (ih onwards)
  · intro reaches
    induction reaches with
    | here reached =>
        rcases reached with reached | ⟨next, connected, reached⟩
        · exact .here reached
        · exact .step connected (.here reached)
    | step connected _ ih => exact .step connected ih

/-- Where no edge enters the goal from outside, a path ends where it begins. -/
theorem reachesWithin_of_closed {bound : Nat} {item : α}
    (closed : ∀ item next, edge item next → goal next → goal item)
    (reaches : ReachesWithin edge goal bound item) : goal item := by
  induction reaches with
  | here reached => exact reached
  | step connected _ ih => exact closed _ _ connected ih

/-! ## The search -/

section Search

variable [BEq α] [LawfulBEq α] {sources : List α → List α}

/-- Add the sources of what is known, so many times or until nothing is added. -/
def grow (sources : List α → List α) : Nat → List α → List α
  | 0, known => known
  | rounds + 1, known =>
      let additions := (sources known).filter fun item => !known.contains item
      if additions = [] then known else grow sources rounds (known ++ additions)

/-- **The search finds what reaches its start along at most so many edges.** -/
theorem mem_grow_iff (complete : ∀ known item,
      item ∈ sources known ↔ ∃ next ∈ known, edge item next) (rounds : Nat) (known : List α)
    (item : α) :
    item ∈ grow sources rounds known ↔ ReachesWithin edge (· ∈ known) rounds item := by
  induction rounds generalizing known with
  | zero =>
      constructor
      · intro mem
        exact .here mem
      · intro reaches
        cases reaches with
        | here reached => exact reached
  | succ rounds ih =>
      unfold grow
      dsimp only
      split
      · rename_i nothing
        constructor
        · intro mem
          exact .here mem
        · intro reaches
          refine reachesWithin_of_closed ?_ reaches
          intro item next connected inKnown
          by_contra outside
          have added : item ∈ (sources known).filter fun item => !known.contains item := by
            simp [outside, (complete known item).mpr ⟨next, inKnown, connected⟩]
          rw [nothing] at added
          cases added
      · have grown : ∀ item, item ∈ known ++ (sources known).filter
            (fun item => !known.contains item) ↔
            item ∈ known ∨ ∃ next, edge item next ∧ next ∈ known := by
          intro item
          simp only [List.mem_append, List.mem_filter, complete, Bool.not_eq_true',
            List.contains_eq_mem, decide_eq_false_iff_not]
          grind
        rw [ih, reachesWithin_succ_iff]
        constructor
        · intro reaches
          exact reaches.congr fun item mem => (grown item).mp mem
        · intro reaches
          exact reaches.congr fun item mem => (grown item).mpr mem

end Search

end Reaching
