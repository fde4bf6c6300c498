import Mathlib.Data.List.Basic
import Mathlib.Data.List.Perm.Basic
import Mathlib.Tactic.Common

/-!
# Serving groups in turns

Several groups are served in rounds: every round takes one item of each group that still has
one, in the order of the groups.  Enough rounds serve every item, and wherever the serving is
cut off, a group of which something is left has been served at most one item less often than
any other.
-/

set_option autoImplicit false

namespace RoundRobin

variable {α : Type}

/-- The items of one round. -/
def serve (groups : List (List α)) (round : Nat) : List α :=
  groups.filterMap fun group => group[round]?

/-- The items of the first rounds. -/
def rounds (groups : List (List α)) (count : Nat) : List α :=
  (List.range count).flatMap (serve groups)

theorem rounds_succ (groups : List (List α)) (count : Nat) :
    rounds groups (count + 1) = rounds groups count ++ serve groups count := by
  rw [rounds, List.range_succ, List.flatMap_append, List.flatMap_singleton]
  rfl

theorem serve_cons (group : List α) (groups : List (List α)) (round : Nat) :
    serve (group :: groups) round = group[round]?.toList ++ serve groups round := by
  rw [serve, List.filterMap_cons]
  cases group[round]? with
  | none => rfl
  | some item => rfl

/-! ## Everything is served -/

theorem flatMap_getElem? (group : List α) (count : Nat) :
    ((List.range count).flatMap fun round => group[round]?.toList) = group.take count := by
  induction count with
  | zero => rfl
  | succ count ih =>
      rw [List.range_succ, List.flatMap_append, ih, List.flatMap_singleton, List.take_add_one]

/-- Enough rounds serve every item. -/
theorem rounds_perm (groups : List (List α)) (count : Nat)
    (enough : ∀ group ∈ groups, group.length ≤ count) :
    (rounds groups count).Perm groups.flatten := by
  induction groups with
  | nil =>
      have nothing : rounds ([] : List (List α)) count = [] := by
        induction count with
        | zero => rfl
        | succ count ih =>
            rw [rounds_succ, ih (fun group mem => absurd mem List.not_mem_nil)]
            rfl
      rw [nothing]
      exact List.Perm.refl _
  | cons group groups ih =>
      have split : (rounds (group :: groups) count).Perm
          (((List.range count).flatMap fun round => group[round]?.toList) ++
            rounds groups count) := by
        have served : serve (group :: groups) =
            fun round => group[round]?.toList ++ serve groups round := by
          funext round
          exact serve_cons group groups round
        rw [rounds, served]
        exact (List.flatMap_append_perm _ _ _).symm
      have whole : group.take count = group :=
        List.take_of_length_le (enough group List.mem_cons_self)
      rw [flatMap_getElem?, whole] at split
      exact split.trans ((ih fun other mem =>
        enough other (List.mem_cons_of_mem _ mem)).append_left group)

theorem mem_of_mem_serve {groups : List (List α)} {round : Nat} {item : α}
    (mem : item ∈ serve groups round) : ∃ group ∈ groups, item ∈ group := by
  obtain ⟨group, inGroups, found⟩ := List.mem_filterMap.mp mem
  exact ⟨group, inGroups, List.mem_of_getElem? found⟩

/-! ## Where the serving is cut off -/

/-- Whatever is served first is some whole rounds and a part of the next. -/
theorem take_rounds (groups : List (List α)) (count taken : Nat) :
    ∃ whole part, (rounds groups count).take taken =
      rounds groups whole ++ (serve groups whole).take part := by
  induction count with
  | zero => exact ⟨0, 0, by simp [rounds]⟩
  | succ count ih =>
      obtain ⟨whole, part, same⟩ := ih
      rcases Nat.le_total taken (rounds groups count).length with within | beyond
      · refine ⟨whole, part, ?_⟩
        rw [rounds_succ, List.take_append_of_le_length within, same]
      · refine ⟨count, taken - (rounds groups count).length, ?_⟩
        rw [rounds_succ, List.take_append, List.take_of_length_le beyond]

section Fair

variable [DecidableEq α]

/-- How many of the items are of the group. -/
def servedOf (group items : List α) : Nat := items.countP fun item => item ∈ group

theorem servedOf_eq_zero {group items : List α} (disjoint : List.Disjoint group items) :
    servedOf group items = 0 := by
  rw [servedOf, List.countP_eq_zero]
  intro item mem inGroup
  exact disjoint (of_decide_eq_true inGroup) mem

/-- One round serves one item of a group that still has one. -/
theorem servedOf_serve {groups : List (List α)} (disjoint : groups.Pairwise List.Disjoint)
    {group : List α} (mem : group ∈ groups) (round : Nat) :
    servedOf group (serve groups round) = if round < group.length then 1 else 0 := by
  induction groups with
  | nil => cases mem
  | cons first rest ih =>
      obtain ⟨apart, restDisjoint⟩ := List.pairwise_cons.mp disjoint
      rw [serve_cons, servedOf, List.countP_append]
      rcases List.mem_cons.mp mem with rfl | inRest
      · have others : servedOf group (serve rest round) = 0 := by
          apply servedOf_eq_zero
          intro item inGroup inServe
          obtain ⟨other, inRest, inOther⟩ := mem_of_mem_serve inServe
          exact apart other inRest inGroup inOther
        rw [servedOf] at others
        rw [others]
        by_cases within : round < group.length
        · have inGroup : group[round] ∈ group := List.getElem_mem within
          simp [within, inGroup]
        · simp [within]
      · have later := ih restDisjoint inRest
        rw [servedOf] at later
        rw [later, Nat.add_eq_right, List.countP_eq_zero]
        intro item inFirst inGroup
        have found : first[round]? = some item := Option.mem_toList.mp inFirst
        exact apart group inRest (List.mem_of_getElem? found) (of_decide_eq_true inGroup)

theorem servedOf_rounds {groups : List (List α)} (disjoint : groups.Pairwise List.Disjoint)
    {group : List α} (mem : group ∈ groups) (count : Nat) :
    servedOf group (rounds groups count) = min count group.length := by
  induction count with
  | zero => exact (Nat.zero_min _).symm
  | succ count ih =>
      have next := servedOf_serve disjoint mem count
      rw [servedOf] at ih next
      rw [rounds_succ, servedOf, List.countP_append, ih, next]
      split <;> omega

/-- **No group waits for more than one item of another.** -/
theorem fair {groups : List (List α)} (disjoint : groups.Pairwise List.Disjoint)
    {first second : List α} (inGroups : first ∈ groups) (alsoInGroups : second ∈ groups)
    (count taken : Nat)
    (waits : servedOf first ((rounds groups count).take taken) < first.length) :
    servedOf second ((rounds groups count).take taken) ≤
      servedOf first ((rounds groups count).take taken) + 1 := by
  obtain ⟨whole, part, same⟩ := take_rounds groups count taken
  have partial_le : servedOf second ((serve groups whole).take part) ≤ 1 := by
    have all := servedOf_serve disjoint alsoInGroups whole
    have sub : servedOf second ((serve groups whole).take part) ≤
        servedOf second (serve groups whole) :=
      (List.take_sublist part _).countP_le
    split at all <;> omega
  have firstWhole := servedOf_rounds disjoint inGroups whole
  have secondWhole := servedOf_rounds disjoint alsoInGroups whole
  rw [same] at waits ⊢
  rw [servedOf, List.countP_append] at waits ⊢
  rw [servedOf, List.countP_append]
  rw [servedOf] at partial_le firstWhole secondWhole
  omega

end Fair

end RoundRobin
