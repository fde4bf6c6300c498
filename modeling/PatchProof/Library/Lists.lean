import Mathlib.Data.List.Basic
import Mathlib.Tactic.Common

/-!
# Lists whose items are replaced

What an injective map of the items keeps: the first occurrences, the places and the entries
under a key.  Maps are compared item by item, also when some items are left out, and the one
item that has a property keeps its place when every item is replaced.
-/

set_option autoImplicit false

namespace Lists

variable {α β γ : Type}

/-! ## Injective maps -/

section Injective

variable [DecidableEq α] [DecidableEq β]

/-- The members of a list in the order in which they first occur. -/
def firstOccurrences : List α → List α
  | [] => []
  | item :: items => item :: (firstOccurrences items).filter (· ≠ item)

variable {f : α → β} (injective : Function.Injective f)

include injective

theorem firstOccurrences_map (items : List α) :
    firstOccurrences (items.map f) = (firstOccurrences items).map f := by
  induction items with
  | nil => rfl
  | cons item items ih =>
      rw [List.map_cons, firstOccurrences, firstOccurrences, ih, List.map_cons, List.filter_map]
      congr 3
      funext other
      simp [injective.eq_iff]

theorem idxOf_map (items : List α) (item : α) :
    (items.map f).idxOf (f item) = items.idxOf item := by
  induction items with
  | nil => rfl
  | cons first items ih =>
      rw [List.map_cons, List.idxOf_cons, List.idxOf_cons, ih]
      by_cases same : first = item
      · simp [same]
      · have moved : f first ≠ f item := fun h => same (injective h)
        simp [beq_false_of_ne same, beq_false_of_ne moved]

theorem lookup_map_key (entries : List (α × γ)) (key : α) :
    (entries.map fun entry => (f entry.1, entry.2)).lookup (f key) = entries.lookup key := by
  induction entries with
  | nil => rfl
  | cons entry entries ih =>
      rw [List.map_cons, List.lookup_cons, List.lookup_cons, ih]
      by_cases same : key = entry.1
      · simp [same]
      · have moved : f key ≠ f entry.1 := fun h => same (injective h)
        simp [beq_false_of_ne same, beq_false_of_ne moved]

end Injective

/-! ## Items side by side -/

theorem map_eq_self_iff {f : α → α} {items : List α} :
    items.map f = items ↔ ∀ item ∈ items, f item = item := by
  induction items with
  | nil => simp
  | cons item items ih => simp [ih]

theorem filterMap_map_eq_iff {get : Nat → Option α} {f g : Nat → α → β}
    (indexes : List Nat) :
    (indexes.filterMap fun index => (get index).map (f index)) =
        (indexes.filterMap fun index => (get index).map (g index)) ↔
      ∀ index ∈ indexes, ∀ item, get index = some item → f index item = g index item := by
  induction indexes with
  | nil => simp
  | cons index indexes ih =>
      cases found : get index with
      | none => simp [found, ih]
      | some item => simp [found, ih]

/-! ## One item with a property -/

/-- The one item with a property stands at one place, also after each item was replaced. -/
theorem filter_mapIdx_singleton {p : α → Bool} {items : List α} {item : α}
    (only : items.filter p = [item]) {f : Nat → α → α} (same : ∀ index other,
      p (f index other) = p other) :
    ∃ place, items[place]? = some item ∧
      (∀ index other, items[index]? = some other → p other = true →
        index = place ∧ other = item) ∧
      (items.mapIdx f).filter p = [f place item] := by
  induction items generalizing f with
  | nil => cases only
  | cons first items ih =>
      cases holds : p first with
      | true =>
          rw [List.filter_cons_of_pos holds, List.cons.injEq, List.filter_eq_nil_iff] at only
          obtain ⟨rfl, none⟩ := only
          refine ⟨0, rfl, ?_, ?_⟩
          · intro index other found has
            cases index with
            | zero => exact ⟨rfl, (Option.some.inj found).symm⟩
            | succ index => exact absurd has (none other (List.mem_of_getElem? found))
          · rw [List.mapIdx_cons, List.filter_cons_of_pos (by rw [same, holds]), List.cons.injEq,
              List.filter_eq_nil_iff]
            refine ⟨rfl, ?_⟩
            intro other mem
            obtain ⟨index, bound, rfl⟩ := List.mem_mapIdx.mp mem
            rw [same]
            exact none _ (List.getElem_mem bound)
      | false =>
          have fails : ¬ p first = true := by simp [holds]
          rw [List.filter_cons_of_neg fails] at only
          obtain ⟨place, found, unique, moved⟩ := ih only (f := fun index => f (index + 1))
            fun index other => same (index + 1) other
          refine ⟨place + 1, found, ?_, ?_⟩
          · intro index other at_ has
            cases index with
            | zero => exact absurd (Option.some.inj at_ ▸ has) fails
            | succ index =>
                obtain ⟨rfl, rfl⟩ := unique index other at_ has
                exact ⟨rfl, rfl⟩
          · rw [List.mapIdx_cons, List.filter_cons_of_neg (by rw [same]; exact fails)]
            exact moved

end Lists
