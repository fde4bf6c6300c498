import Mathlib.Data.List.DropRight
import Mathlib.Tactic.Common

/-!
# Fields that end with a mark

Each field is written with a mark behind it.  The fields are read back by stripping the marks
at the end and cutting at the others, so a mark that is missing at the end makes no
difference: the beginning of a text is read as the fields that it has begun, the last of them
perhaps cut short.
-/

set_option autoImplicit false

namespace Terminated

variable {α : Type} [DecidableEq α] (mark : α)

/-- The fields, each with the mark behind it. -/
def join (fields : List (List α)) : List α := fields.flatMap (· ++ [mark])

/-- The fields of a text. -/
def tokens (text : List α) : List (List α) :=
  if text.isEmpty then [] else (text.rdropWhile (· == mark)).splitOn mark

/-- A field that is not empty and in which the mark does not occur. -/
structure Field (field : List α) : Prop where
  filled : field ≠ []
  plain : mark ∉ field

/-- The fields that the first items of a text have begun. -/
def begun : List (List α) → Nat → List (List α)
  | [], _ => []
  | field :: rest, count =>
      if count = 0 then []
      else if count ≤ field.length + 1 then [field.take count]
      else field :: begun rest (count - (field.length + 1))

variable {mark} {fields : List (List α)} {last : List α}

omit [DecidableEq α] in
theorem join_snoc (fields : List (List α)) (last : List α) :
    join mark (fields ++ [last]) = join mark fields ++ last ++ [mark] := by
  rw [join, List.flatMap_append, List.flatMap_singleton, List.append_assoc]
  rfl

omit [DecidableEq α] in
theorem length_join_cons (field : List α) (rest : List (List α)) :
    (join mark (field :: rest)).length = field.length + 1 + (join mark rest).length := by
  rw [join, List.flatMap_cons, List.length_append, List.length_append, List.length_singleton]
  rfl

omit [DecidableEq α] in
theorem begun_zero (fields : List (List α)) : begun fields 0 = [] := by
  cases fields with
  | nil => rfl
  | cons field rest => rw [begun, if_pos rfl]

omit [DecidableEq α] in
/-- What has begun behind some fields is known from what is there behind them. -/
theorem begun_append_of_lt {front : List (List α)} (rest : List (List α)) {count : Nat}
    (more : (join mark front).length < count) :
    begun (front ++ rest) count = front ++ begun rest (count - (join mark front).length) := by
  induction front generalizing count with
  | nil => rfl
  | cons field others ih =>
      rw [length_join_cons] at more ⊢
      rw [List.cons_append, begun, if_neg (by omega), if_neg (by omega), ih (by omega),
        List.cons_append, Nat.sub_sub]

omit [DecidableEq α] in
/-- A text that ends in some fields has begun none behind them. -/
theorem begun_append_of_le {front : List (List α)} (rest : List (List α)) {count : Nat}
    (within : count ≤ (join mark front).length) : begun (front ++ rest) count = begun front count := by
  induction front generalizing count with
  | nil =>
      obtain rfl : count = 0 := Nat.le_zero.mp within
      rw [begun_zero, begun_zero]
  | cons field others ih =>
      rw [length_join_cons] at within
      rw [List.cons_append, begun, begun, ih (by omega)]

omit [DecidableEq α] in
theorem Field.take (isField : Field mark last) {count : Nat} (some : count ≠ 0) :
    Field mark (last.take count) := by
  constructor
  · intro empty
    rcases List.take_eq_nil_iff.mp empty with none | nothing
    · exact some none
    · exact isField.filled nothing
  · exact fun mem => isField.plain (List.mem_of_mem_take mem)

omit [DecidableEq α] in
/-- Fields and a last one without a mark behind it are the fields joined by marks. -/
theorem join_append_eq_intercalate (fields : List (List α)) (last : List α) :
    join mark fields ++ last = [mark].intercalate (fields ++ [last]) := by
  induction fields with
  | nil => simp [join]
  | cons field rest ih =>
      have more : rest ++ [last] ≠ [] := List.append_ne_nil_of_right_ne_nil _ (List.cons_ne_nil _ _)
      rw [List.cons_append, List.intercalate_cons_of_ne_nil more, ← ih, join, join,
        List.flatMap_cons, List.append_assoc]

/-- A text that does not end with the mark is cut at its marks. -/
theorem tokens_append (allFields : ∀ field ∈ fields, Field mark field) (isField : Field mark last) :
    tokens mark (join mark fields ++ last) = fields ++ [last] := by
  have filled : join mark fields ++ last ≠ [] :=
    List.append_ne_nil_of_right_ne_nil _ isField.filled
  have stripped : (join mark fields ++ last).rdropWhile (· == mark) = join mark fields ++ last := by
    rw [List.rdropWhile_eq_self_iff]
    intro _ ends
    rw [List.getLast_append_of_ne_nil _ isField.filled, beq_iff_eq] at ends
    exact isField.plain (ends ▸ List.getLast_mem isField.filled)
  rw [tokens, if_neg (by simpa using filled), stripped, join_append_eq_intercalate]
  apply List.splitOn_intercalate
  · intro field mem
    rcases List.mem_append.mp mem with inFront | isLast
    · exact (allFields field inFront).plain
    · exact List.mem_singleton.mp isLast ▸ isField.plain
  · exact List.append_ne_nil_of_right_ne_nil _ (List.cons_ne_nil _ _)

/-- **The fields of a text are read back.** -/
theorem tokens_join (allFields : ∀ field ∈ fields, Field mark field) :
    tokens mark (join mark fields) = fields := by
  induction fields using List.reverseRecOn with
  | nil => rfl
  | append_singleton front final _ =>
      have isField := allFields final (List.mem_append_right _ (List.mem_singleton_self _))
      have ahead : ∀ field ∈ front, Field mark field :=
        fun field mem => allFields field (List.mem_append_left _ mem)
      have whole := tokens_append ahead isField
      have filled : join mark front ++ final ≠ [] :=
        List.append_ne_nil_of_right_ne_nil _ isField.filled
      rw [tokens, if_neg (by simpa using filled)] at whole
      rw [join_snoc, tokens, if_neg (by simp), List.rdropWhile_concat,
        if_pos (beq_self_eq_true mark), whole]

/-- **The beginning of a text is read as the fields that it has begun.** -/
theorem tokens_take {front : List (List α)} (ahead : ∀ field ∈ front, Field mark field)
    (allFields : ∀ field ∈ fields, Field mark field) (count : Nat) :
    tokens mark (join mark front ++ (join mark fields).take count) =
      front ++ begun fields count := by
  induction fields generalizing front count with
  | nil =>
      have none : join mark [] = [] := rfl
      rw [none, List.take_nil, List.append_nil, begun, List.append_nil]
      exact tokens_join ahead
  | cons field rest ih =>
      have isField := allFields field List.mem_cons_self
      have others : ∀ other ∈ rest, Field mark other :=
        fun other mem => allFields other (List.mem_cons_of_mem field mem)
      have start : join mark (field :: rest) = field ++ ([mark] ++ join mark rest) := by
        rw [join, List.flatMap_cons, List.append_assoc]
        rfl
      rw [begun]
      by_cases none : count = 0
      · rw [if_pos none, none, List.take_zero, List.append_nil, List.append_nil]
        exact tokens_join ahead
      · rw [if_neg none]
        by_cases inside : count ≤ field.length
        · rw [if_pos (by omega), start, List.take_append_of_le_length inside]
          exact tokens_append ahead (isField.take none)
        · have snoc : ∀ other ∈ front ++ [field], Field mark other := by
            intro other mem
            rcases List.mem_append.mp mem with inFront | isLast
            · exact ahead other inFront
            · exact List.mem_singleton.mp isLast ▸ isField
          have through : join mark front ++ (join mark (field :: rest)).take count =
              join mark (front ++ [field]) ++ (join mark rest).take (count - (field.length + 1)) := by
            have whole : (field ++ [mark]).length = field.length + 1 := List.length_append
            rw [start, ← List.append_assoc field, List.take_append, whole,
              List.take_of_length_le (by omega), join_snoc, List.append_assoc, List.append_assoc,
              List.append_assoc]
          rw [through, ih snoc others]
          by_cases closed : count ≤ field.length + 1
          · have nothing : count - (field.length + 1) = 0 := by omega
            rw [if_pos closed, nothing, begun_zero, List.append_nil, List.take_of_length_le (by omega)]
          · rw [if_neg closed, List.append_assoc]
            rfl

end Terminated
