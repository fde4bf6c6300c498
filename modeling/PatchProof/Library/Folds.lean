import Mathlib.Data.List.Basic
import PatchProof.Library.Guard

/-!
# What a loop keeps of the items it has seen

A loop over a list carries a value from item to item.  What holds of the value usually depends
on the items that were seen, so it is stated of both, and kept when each pass keeps it for one
item more.  This is said once for loops that always go on and once for loops that may raise.

When such a loop raises is the other question.  If each pass raises exactly when a check of its
item fails, and the check needs only a view of the value, then the view can be followed without
the loop, and what is left are checks of the items.
-/

set_option autoImplicit false

namespace Folds

variable {α β γ ε : Type}

/-- A loop keeps, of the items it has seen, what each of its passes keeps. -/
theorem foldl_from {step : β → α → β} (kept : List α → β → Prop)
    (each : ∀ seen value item, kept seen value → kept (seen ++ [item]) (step value item))
    (items : List α) {seen : List α} {start : β} (initial : kept seen start) :
    kept (seen ++ items) (items.foldl step start) := by
  induction items generalizing seen start with
  | nil =>
      rw [List.append_nil]
      exact initial
  | cons item rest ih =>
      have later := ih (each seen start item initial)
      rwa [List.append_assoc, List.singleton_append] at later

/-- A loop from its beginning. -/
theorem foldl_seen {step : β → α → β} (kept : List α → β → Prop)
    (each : ∀ seen value item, kept seen value → kept (seen ++ [item]) (step value item))
    (items : List α) {start : β} (initial : kept [] start) :
    kept items (items.foldl step start) :=
  foldl_from kept each items initial

/-- A loop that may raise keeps the same, if it does not raise. -/
theorem foldlM_from {step : β → α → Except ε β} (kept : List α → β → Prop)
    (each : ∀ seen value item next, kept seen value → step value item = .ok next →
      kept (seen ++ [item]) next)
    {items : List α} {seen : List α} {start final : β} (initial : kept seen start)
    (returned : items.foldlM step start = .ok final) : kept (seen ++ items) final := by
  induction items generalizing seen start with
  | nil =>
      cases returned
      rw [List.append_nil]
      exact initial
  | cons item rest ih =>
      rw [List.foldlM_cons] at returned
      obtain ⟨next, passed, more⟩ := Guard.bind_eq_ok_iff.mp returned
      have later := ih (each seen start item next initial passed) more
      rwa [List.append_assoc, List.singleton_append] at later

/-- A loop that may raise, from its beginning. -/
theorem foldlM_seen {step : β → α → Except ε β} (kept : List α → β → Prop)
    (each : ∀ seen value item next, kept seen value → step value item = .ok next →
      kept (seen ++ [item]) next)
    {items : List α} {start final : β} (initial : kept [] start)
    (returned : items.foldlM step start = .ok final) : kept items final :=
  foldlM_from kept each initial returned

/-! ## Checks of the items -/

/-- Every item passes its check, where a check may depend on the items before. -/
def Checked (check : γ → α → Prop) (after : γ → α → γ) : γ → List α → Prop
  | _, [] => True
  | view, item :: rest => check view item ∧ Checked check after (after view item) rest

/-- Checks of the items alone are checks of each item. -/
theorem checked_each (fits : α → Prop) (after : γ → α → γ) (items : List α) (view : γ) :
    Checked (fun _ item => fits item) after view items ↔ ∀ item ∈ items, fits item := by
  induction items generalizing view with
  | nil => simp [Checked]
  | cons item rest ih => rw [Checked, ih, List.forall_mem_cons]

/-! ## Collecting up to a limit -/

/-- Collect an item unless the limit is reached. -/
def collectUpTo (maximum : Nat) (collected : List α) (item : α) : List α :=
  if maximum ≤ collected.length then collected else collected ++ [item]

theorem collectUpTo_of_full {maximum : Nat} {collected : List α}
    (full : maximum ≤ collected.length) (item : α) :
    collectUpTo maximum collected item = collected :=
  if_pos full

theorem collectUpTo_of_room {maximum : Nat} {collected : List α}
    (room : ¬ maximum ≤ collected.length) (item : α) :
    collectUpTo maximum collected item = collected ++ [item] :=
  if_neg room

/-- Once the limit is reached, nothing of the rest is taken. -/
theorem take_of_full {maximum : Nat} {collected : List β} (full : maximum ≤ collected.length)
    (items : List α) : items.take (maximum - collected.length) = [] := by
  rw [Nat.sub_eq_zero_of_le full, List.take_zero]

/-- Below the limit, the next item is taken. -/
theorem take_cons_of_room {maximum : Nat} {collected : List β}
    (room : ¬ maximum ≤ collected.length) (added : β) (item : α) (rest : List α) :
    (item :: rest).take (maximum - collected.length) =
      item :: rest.take (maximum - (collected ++ [added]).length) := by
  obtain ⟨left, same⟩ : ∃ left, maximum - collected.length = left + 1 :=
    ⟨maximum - collected.length - 1, by omega⟩
  rw [same, List.take_succ_cons, List.length_append, List.length_singleton]
  congr 2
  omega

theorem foldl_collectUpTo (maximum : Nat) (items collected : List α) :
    items.foldl (collectUpTo maximum) collected =
      collected ++ items.take (maximum - collected.length) := by
  induction items generalizing collected with
  | nil => simp
  | cons item rest ih =>
      rw [List.foldl_cons, ih]
      by_cases full : maximum ≤ collected.length
      · rw [collectUpTo_of_full full, take_of_full full, take_of_full full]
      · rw [collectUpTo_of_room full, take_cons_of_room full item, List.append_assoc,
          List.singleton_append]

/-- A check of what is collected is a check of the items below the limit. -/
theorem checked_collectUpTo (fits : α → Prop) (maximum : Nat) (items collected : List α) :
    Checked (fun collected item => maximum ≤ collected.length ∨ fits item) (collectUpTo maximum)
        collected items ↔
      ∀ item ∈ items.take (maximum - collected.length), fits item := by
  induction items generalizing collected with
  | nil => simp [Checked]
  | cons item rest ih =>
      rw [Checked, ih]
      by_cases full : maximum ≤ collected.length
      · rw [collectUpTo_of_full full, take_of_full full, take_of_full full]
        simp [full]
      · rw [collectUpTo_of_room full, take_cons_of_room full item, List.forall_mem_cons]
        simp [full]

end Folds
