import Mathlib.Data.List.Basic
import Mathlib.Tactic.Common

/-!
# Splitting a text into lines

The lines of a text for a class of characters that break lines.  Two splitters of which
one breaks at more characters agree on the lines in which none of these further characters
occurs; where one occurs, the splitter that breaks at it is a line ahead from there on.
-/

set_option autoImplicit false

namespace Lines

variable (breaks : Char → Bool)

/-- The text with a line feed for each carriage return and line feed. -/
def joinPairs : List Char → List Char
  | [] => []
  | '\r' :: '\n' :: rest => '\n' :: joinPairs rest
  | c :: rest => c :: joinPairs rest

/-- The lines of a text, after what is already read of the first of them, reversed. -/
def linesFrom (line : List Char) : List Char → List (List Char)
  | [] => if line = [] then [] else [line.reverse]
  | c :: rest =>
      if breaks c then line.reverse :: linesFrom [] rest else linesFrom (c :: line) rest

variable {breaks} {line text : List Char}

theorem joinPairs_append (front : List Char) {c : Char} (rest : List Char) (notFeed : c ≠ '\n') :
    joinPairs (front ++ c :: rest) = joinPairs front ++ joinPairs (c :: rest) := by
  induction front using joinPairs.induct with
  | case1 => rfl
  | case2 front ih => simp only [List.cons_append, joinPairs, ih]
  | case3 first front notPair ih =>
      rw [joinPairs.eq_3 first front notPair, List.cons_append, List.cons_append, ← ih]
      refine joinPairs.eq_3 first (front ++ c :: rest) fun more isReturn isPair => ?_
      cases front with
      | nil => exact notFeed (List.cons.inj isPair).1
      | cons second front =>
          obtain ⟨rfl, _⟩ := List.cons.inj isPair
          exact notPair front isReturn rfl

theorem joinPairs_append_left {front : List Char} (absent : '\r' ∉ front) (rest : List Char) :
    joinPairs (front ++ rest) = front ++ joinPairs rest := by
  induction front with
  | nil => rfl
  | cons first front ih =>
      obtain ⟨notReturn, inFront⟩ := List.ne_and_not_mem_of_not_mem_cons absent
      rw [List.cons_append, joinPairs.eq_3 first (front ++ rest) fun _ same _ =>
        notReturn same.symm, ih inFront, List.cons_append]

/-! ## One splitter -/

theorem linesFrom_of_no_break (line : List Char) {text : List Char} (free : ∀ c ∈ text, breaks c = false)
    (rest : List Char) : linesFrom breaks line (text ++ rest) =
      linesFrom breaks (text.reverse ++ line) rest := by
  induction text generalizing line with
  | nil => rfl
  | cons first text ih =>
      have unbroken := free first List.mem_cons_self
      rw [List.cons_append, linesFrom, if_neg (Bool.eq_false_iff.mp unbroken),
        ih (first :: line) fun c mem => free c (List.mem_cons_of_mem _ mem)]
      simp

/-- The line that is under way is the start of the first line. -/
theorem linesFrom_cons (breaks : Char → Bool) (text : List Char) {line : List Char}
    (started : line ≠ []) :
    ∃ first more, linesFrom breaks line text = first :: more ∧ ∀ c ∈ line, c ∈ first := by
  induction text generalizing line with
  | nil => exact ⟨line.reverse, [], by simp [linesFrom, started], by simp⟩
  | cons c rest ih =>
      unfold linesFrom
      split
      · exact ⟨line.reverse, _, rfl, by simp⟩
      · obtain ⟨first, more, same, within⟩ := ih (List.cons_ne_nil c line)
        exact ⟨first, more, same, fun d mem => within d (List.mem_cons_of_mem c mem)⟩

/-- The lines that end within a front do not depend on what follows it. -/
theorem take_linesFrom_append {front : List Char} (rest : List Char) {count : Nat}
    (ended : count ≤ front.countP breaks) :
    (linesFrom breaks line (front ++ rest)).take count =
      (linesFrom breaks line front).take count := by
  induction front generalizing line count with
  | nil =>
      obtain rfl : count = 0 := by simpa using ended
      simp
  | cons c front ih =>
      rw [List.cons_append, linesFrom, linesFrom]
      cases broken : breaks c with
      | true =>
          rw [List.countP_cons_of_pos broken] at ended
          cases count with
          | zero => simp
          | succ count =>
              simp only [if_true, List.take_succ_cons]
              rw [ih (by omega)]
      | false =>
          rw [List.countP_cons_of_neg (by simp [broken])] at ended
          simpa using ih ended

/-- The lines up to the one that a front ends in. -/
theorem linesFrom_append (line front : List Char) {last : Char} (unbroken : breaks last = false)
    (back : List Char) (ends : ∀ c rest, back = c :: rest → breaks c = true) :
    ∃ more, linesFrom breaks line (front ++ [last] ++ back) =
      linesFrom breaks line (front ++ [last]) ++ more := by
  induction front generalizing line with
  | nil =>
      simp only [List.nil_append, List.singleton_append, linesFrom, unbroken]
      cases back with
      | nil => exact ⟨[], by simp [linesFrom]⟩
      | cons c rest => exact ⟨linesFrom breaks [] rest, by simp [linesFrom, ends c rest rfl]⟩
  | cons c front ih =>
      simp only [List.cons_append, linesFrom]
      split
      · obtain ⟨more, same⟩ := ih []
        exact ⟨more, by rw [same, List.cons_append]⟩
      · exact ih (c :: line)

/-- Text at the end of the last line of a front is at the end of that line. -/
theorem linesFrom_append_last (line front : List Char) {last : Char} (unbroken : breaks last = false)
    {added : List Char} (free : ∀ c ∈ added, breaks c = false) :
    ∃ before final, linesFrom breaks line (front ++ [last]) = before ++ [final] ∧
      linesFrom breaks line (front ++ [last] ++ added) = before ++ [final ++ added] := by
  induction front generalizing line with
  | nil =>
      refine ⟨[], line.reverse ++ [last], ?_, ?_⟩
      · simp [linesFrom, unbroken]
      · have read := linesFrom_of_no_break (last :: line) free []
        rw [List.append_nil] at read
        simp [linesFrom, unbroken, read]
  | cons c front ih =>
      simp only [List.cons_append, linesFrom]
      split
      · obtain ⟨before, final, same, sameAdded⟩ := ih []
        exact ⟨line.reverse :: before, final, by rw [same]; rfl, by rw [sameAdded]; rfl⟩
      · exact ih (c :: line)

theorem length_linesFrom (line front : List Char) {last : Char} (unbroken : breaks last = false) :
    (linesFrom breaks line (front ++ [last])).length = front.countP breaks + 1 := by
  induction front generalizing line with
  | nil => simp [linesFrom, unbroken]
  | cons c front ih =>
      rw [List.cons_append, linesFrom]
      cases broken : breaks c with
      | true =>
          rw [List.countP_cons_of_pos broken, if_pos rfl, List.length_cons, ih]
      | false =>
          rw [List.countP_cons_of_neg (by simp [broken]), if_neg (by simp), ih]

/-- The characters on the lines are those that do not break one. -/
theorem mem_linesFrom {c : Char} : (∃ item ∈ linesFrom breaks line text, c ∈ item) ↔
    c ∈ line ∨ (c ∈ text ∧ breaks c = false) := by
  induction text generalizing line with
  | nil =>
      unfold linesFrom
      split
      · rename_i isEmpty
        simp [isEmpty]
      · simp
  | cons first rest ih =>
      rw [linesFrom]
      cases broken : breaks first with
      | true =>
          rw [if_pos rfl, List.exists_mem_cons_iff, List.mem_reverse, ih, List.mem_cons]
          have different : breaks c = false → c ≠ first := by
            rintro unbroken rfl
            exact Bool.false_ne_true (unbroken.symm.trans broken)
          simp only [List.not_mem_nil, false_or]
          tauto
      | false =>
          have unbroken : c = first → breaks c = false := fun same => same ▸ broken
          simp only [Bool.false_eq_true, if_false, ih, List.mem_cons]
          tauto

/-! ## Two splitters -/

variable {finer : Char → Bool}

/-- Splitters agree up to a line where none of the further breaks occurs. -/
theorem take_linesFrom_eq (implied : ∀ c, breaks c = true → finer c = true) {count : Nat}
    (clean : ∀ item ∈ (linesFrom breaks line text).take count, ∀ c ∈ item, finer c = false) :
    (linesFrom finer line text).take count = (linesFrom breaks line text).take count := by
  induction text generalizing line count with
  | nil => rfl
  | cons c rest ih =>
      cases count with
      | zero => simp
      | succ count =>
          rw [linesFrom] at clean
          rw [linesFrom, linesFrom]
          cases broken : breaks c with
          | true =>
              simp only [broken, implied c broken, if_true, List.take_succ_cons] at clean ⊢
              rw [ih fun item mem => clean item (List.mem_cons_of_mem _ mem)]
          | false =>
              simp only [broken, Bool.false_eq_true, if_false] at clean ⊢
              obtain ⟨first, more, same, within⟩ :=
                linesFrom_cons breaks rest (List.cons_ne_nil c line)
              have plain : finer c = false := by
                refine clean first ?_ c (within c List.mem_cons_self)
                rw [same]
                exact List.mem_cons_self
              rw [plain]
              exact ih clean

/-- A further break puts the finer splitter a line ahead. -/
theorem countP_lt (implied : ∀ c, breaks c = true → finer c = true) {c : Char}
    (mem : c ∈ text) (further : finer c = true) (unbroken : breaks c = false) :
    text.countP breaks < text.countP finer := by
  obtain ⟨before, after, rfl⟩ := List.append_of_mem mem
  have beforeLe := List.countP_mono_left (l := before) fun d _ => implied d
  have afterLe := List.countP_mono_left (l := after) fun d _ => implied d
  rw [List.countP_append, List.countP_append, List.countP_cons_of_pos further,
    List.countP_cons_of_neg (by simp [unbroken])]
  omega

end Lines
