import Mathlib.Data.List.Basic
import Mathlib.Data.List.Infix
import Mathlib.Tactic.Common

/-!
# Splitting at a doubled mark

A text is cut at every two marks in a row, from the left.  What stands before a separator is
cut on its own unless it ends with a mark, so two texts that are joined by a separator are
found again exactly when neither of them has two marks in a row.
-/

set_option autoImplicit false

namespace Separator

variable {α : Type}

/-- One item more in front of the first part. -/
def extend (item : α) : List (List α) → List (List α)
  | [] => [[item]]
  | part :: parts => (item :: part) :: parts

theorem extend_append (item : α) {parts : List (List α)} (some : parts ≠ [])
    (more : List (List α)) : extend item (parts ++ more) = extend item parts ++ more := by
  cases parts with
  | nil => exact absurd rfl some
  | cons part rest => rfl

theorem length_extend (item : α) {parts : List (List α)} (some : parts ≠ []) :
    (extend item parts).length = parts.length := by
  cases parts with
  | nil => exact absurd rfl some
  | cons part rest => rfl

/-- Two marks stand in a row. -/
def Paired (mark : α) (text : List α) : Prop := [mark, mark] <:+: text

theorem Paired.tail {mark item next : α} {rest : List α} (paired : Paired mark (item :: next :: rest))
    (single : ¬ (item = mark ∧ next = mark)) : Paired mark (next :: rest) := by
  rcases List.infix_cons_iff.mp paired with front | inside
  · obtain ⟨back, same⟩ := front
    injection same with first others
    injection others with second
    exact absurd ⟨first.symm, second.symm⟩ single
  · exact inside

theorem Paired.cons {mark : α} (item : α) {text : List α} (paired : Paired mark text) :
    Paired mark (item :: text) :=
  paired.trans (List.suffix_cons item text).isInfix

section Scan

variable [DecidableEq α] (mark : α)

instance (text : List α) : Decidable (Paired mark text) :=
  inferInstanceAs (Decidable ([mark, mark] <:+: text))

/-- The parts between the separators. -/
def split : List α → List (List α)
  | [] => [[]]
  | [item] => [[item]]
  | item :: next :: rest =>
      if item = mark ∧ next = mark then [] :: split rest
      else extend item (split (next :: rest))

theorem split_ne_nil (text : List α) : split mark text ≠ [] := by
  fun_cases split mark text with
  | case1 => exact List.cons_ne_nil _ _
  | case2 item => exact List.cons_ne_nil _ _
  | case3 item next rest pair => exact List.cons_ne_nil _ _
  | case4 item next rest single =>
      intro empty
      cases parts : split mark (next :: rest) with
      | nil => simp [parts, extend] at empty
      | cons part more => simp [parts, extend] at empty

variable {mark}

theorem split_mark (back : List α) : split mark (mark :: mark :: back) = [] :: split mark back := by
  simp [split]

theorem split_single {item next : α} (rest : List α) (single : ¬ (item = mark ∧ next = mark)) :
    split mark (item :: next :: rest) = extend item (split mark (next :: rest)) := by
  simp [split, single]

/-- A text without a separator is one part. -/
theorem split_of_not_paired {text : List α} (plain : ¬ Paired mark text) :
    split mark text = [text] := by
  induction text using split.induct mark with
  | case1 => rfl
  | case2 item => rfl
  | case3 item next rest pair ih =>
      obtain ⟨rfl, rfl⟩ := pair
      exact absurd ⟨[], rest, rfl⟩ plain
  | case4 item next rest single ih =>
      rw [split_single _ single, ih fun paired => plain (paired.cons item)]
      rfl

/-- A text with a separator is more than one part. -/
theorem two_le_length_split {text : List α} (paired : Paired mark text) :
    2 ≤ (split mark text).length := by
  induction text using split.induct mark with
  | case1 => exact absurd paired.length_le (by simp)
  | case2 item => exact absurd paired.length_le (by simp)
  | case3 item next rest pair ih =>
      obtain ⟨rfl, rfl⟩ := pair
      rw [split_mark, List.length_cons]
      have some := List.length_pos_of_ne_nil (split_ne_nil next rest)
      omega
  | case4 item next rest single ih =>
      rw [split_single _ single, length_extend item (split_ne_nil mark _)]
      exact ih (paired.tail single)

/-- The two sides of a separator are cut on their own. -/
theorem split_append {front : List α} (ends : front.getLast? ≠ some mark) (back : List α) :
    split mark (front ++ mark :: mark :: back) = split mark front ++ split mark back := by
  induction front using split.induct mark with
  | case1 => exact split_mark back
  | case2 item =>
      have other : item ≠ mark := fun same => ends (by rw [same]; rfl)
      rw [List.singleton_append, split_single _ fun both => other both.1, split_mark]
      rfl
  | case3 item next rest pair ih =>
      have inside : rest ≠ [] := by
        intro empty
        apply ends
        rw [empty, pair.2]
        rfl
      have last : rest.getLast? ≠ some mark := by
        rwa [List.getLast?_cons_cons, List.getLast?_cons_of_ne_nil inside] at ends
      obtain ⟨rfl, rfl⟩ := pair
      rw [List.cons_append, List.cons_append, split_mark, ih last, split_mark, List.cons_append]
  | case4 item next rest single ih =>
      rw [List.getLast?_cons_cons] at ends
      have tail := ih ends
      rw [List.cons_append] at tail
      rw [List.cons_append, List.cons_append, split_single _ single, tail, split_single _ single,
        extend_append item (split_ne_nil mark _)]

/-- Two texts that are joined are the only two parts exactly when none has a separator. -/
theorem length_split_append {front : List α} (ends : front.getLast? ≠ some mark)
    (back : List α) :
    (split mark (front ++ mark :: mark :: back)).length = 2 ↔
      ¬ Paired mark front ∧ ¬ Paired mark back := by
  rw [split_append ends, List.length_append]
  have first := List.length_pos_of_ne_nil (split_ne_nil mark front)
  have second := List.length_pos_of_ne_nil (split_ne_nil mark back)
  constructor
  · intro two
    refine ⟨fun paired => ?_, fun paired => ?_⟩
    · have more := two_le_length_split paired
      omega
    · have more := two_le_length_split paired
      omega
  · intro ⟨plain, plainBack⟩
    rw [split_of_not_paired plain, split_of_not_paired plainBack]
    rfl

end Scan

end Separator
