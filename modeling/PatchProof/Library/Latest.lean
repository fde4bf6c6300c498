import Mathlib.Data.List.Basic

/-!
# The latest value of a list

Some items of a list carry a value, and what counts is the value of the last one that
does.  A reader that goes through the list keeps it by letting each item overwrite what
it had: that is `Latest.snoc`, and `Latest.unique` makes it the only answer.
-/

set_option autoImplicit false

variable {α β : Type} {valueOf : α → Option β}

/-- A value is that of the last item that has one. -/
inductive Latest (valueOf : α → Option β) : List α → Option β → Prop
  | absent {items : List α} (silent : ∀ item ∈ items, valueOf item = none) :
      Latest valueOf items none
  | present {before after : List α} {item : α} {value : β}
      (spoken : valueOf item = some value) (silent : ∀ later ∈ after, valueOf later = none) :
      Latest valueOf (before ++ item :: after) (some value)

namespace Latest

theorem nil : Latest valueOf [] none := .absent fun _ member => by cases member

/-- One more item overwrites the value, if it has one. -/
theorem snoc {items : List α} {kept : Option β} (latest : Latest valueOf items kept) (item : α) :
    Latest valueOf (items ++ [item]) ((valueOf item).or kept) := by
  cases outcome : valueOf item with
  | some value => exact .present outcome fun _ member => by cases member
  | none =>
      have silentAfter : ∀ {after : List α}, (∀ later ∈ after, valueOf later = none) →
          ∀ later ∈ after ++ [item], valueOf later = none := by
        intro after silent later member
        rcases List.mem_append.mp member with inside | same
        · exact silent later inside
        · exact List.mem_singleton.mp same ▸ outcome
      rw [Option.none_or]
      cases latest with
      | absent silent => exact .absent (silentAfter silent)
      | present spoken silent =>
          rw [List.append_assoc, List.cons_append]
          exact .present spoken (silentAfter silent)

/-- Items without a value leave what is kept alone. -/
theorem foldl_silent {items : List α} (silent : ∀ item ∈ items, valueOf item = none)
    (kept : Option β) :
    items.foldl (fun earlier item => (valueOf item).or earlier) kept = kept := by
  induction items generalizing kept with
  | nil => rfl
  | cons item rest ih =>
      rw [List.foldl_cons, silent item List.mem_cons_self, Option.none_or]
      exact ih (fun later member => silent later (List.mem_cons_of_mem _ member)) kept

theorem eq_foldl {items : List α} {kept : Option β} (latest : Latest valueOf items kept) :
    kept = items.foldl (fun earlier item => (valueOf item).or earlier) none := by
  cases latest with
  | absent silent => exact (foldl_silent silent none).symm
  | present spoken silent =>
      rw [List.foldl_append, List.foldl_cons, spoken, Option.some_or]
      exact (foldl_silent silent _).symm

theorem unique {items : List α} {kept other : Option β} (latest : Latest valueOf items kept)
    (again : Latest valueOf items other) : kept = other :=
  latest.eq_foldl.trans again.eq_foldl.symm

end Latest
