import PatchProof.Publication.Check

/-!
# Code fences of the Check

Captured output and candidate source stand in the Check between lines of three
backticks.  `fenced` breaks runs of backticks before a value is embedded there: from the
left, each three backticks are replaced by three backticks with blanks between them.

The replacement ends in a backtick, and the backticks that are left over at the end of a
run follow it directly.  The result is described run by run.  A run of `n` backticks
leaves a run of three exactly when `n` is at least five and two are left over, so an
embedded value can close its block when it holds such a run, and only then.
-/

set_option autoImplicit false

namespace PatchProof

/-! ## Runs of backticks -/

/-- The lengths of the maximal runs of backticks, empty ones included, when so many
backticks stand before the text. -/
def runsAfter : Nat → List Char → List Nat
  | run, [] => [run]
  | run, c :: rest => if c = backtick then runsAfter (run + 1) rest else run :: runsAfter 0 rest

/-- The lengths of the maximal runs of backticks in a text. -/
def backtickRuns (text : List Char) : List Nat := runsAfter 0 text

/-- A line of three backticks can be read in the text. -/
def HoldsFence (text : List Char) : Prop := [backtick, backtick, backtick] <:+: text

instance (text : List Char) : Decidable (HoldsFence text) :=
  inferInstanceAs (Decidable (_ <:+: _))

/-- A run that the replacement leaves three backticks of: at least five, with two left
over after the last three that are replaced. -/
def SurvivesAsFence (run : Nat) : Prop := 5 ≤ run ∧ run % 3 = 2

instance (run : Nat) : Decidable (SurvivesAsFence run) := inferInstanceAs (Decidable (_ ∧ _))

theorem runsAfter_replicate (before run : Nat) :
    runsAfter before (List.replicate run backtick) = [before + run] := by
  induction run generalizing before with
  | zero => rfl
  | succ run ih =>
      rw [List.replicate_succ, runsAfter, if_pos rfl, ih]
      congr 1
      omega

theorem runsAfter_replicate_append (before run : Nat) {c : Char} (separates : c ≠ backtick)
    (rest : List Char) :
    runsAfter before (List.replicate run backtick ++ c :: rest) =
      (before + run) :: backtickRuns rest := by
  induction run generalizing before with
  | zero => simp [runsAfter, separates, backtickRuns]
  | succ run ih =>
      rw [List.replicate_succ, List.cons_append, runsAfter, if_pos rfl, ih]
      congr 1
      omega

/-- A text is a run of backticks, or a run, another character and a shorter text. -/
theorem runs_induction {holds : List Char → Prop}
    (last : ∀ run, holds (List.replicate run backtick))
    (more : ∀ run c rest, c ≠ backtick → holds rest →
      holds (List.replicate run backtick ++ c :: rest)) (text : List Char) : holds text := by
  have split : ∀ text : List Char, ∀ run, holds (List.replicate run backtick ++ text) := by
    intro text
    induction text with
    | nil =>
        intro run
        simpa using last run
    | cons c rest ih =>
        intro run
        by_cases same : c = backtick
        · have grown : List.replicate run backtick ++ c :: rest =
              List.replicate (run + 1) backtick ++ rest := by
            rw [List.replicate_succ', List.append_assoc, same]
            rfl
          rw [grown]
          exact ih (run + 1)
        · exact more run c rest same (ih 0)
  exact split text 0

/-! ## What the replacement leaves of a run -/

/-- What a run of backticks is turned into. -/
def brokenRun (run : Nat) : List Char := breakFences (List.replicate run backtick)

theorem breakFences_three (rest : List Char) :
    breakFences (backtick :: backtick :: backtick :: rest) = "` ` `".toList ++ breakFences rest := by
  rw [breakFences, if_pos ⟨rfl, rfl, rfl⟩]

/-- Another character is kept. -/
theorem breakFences_cons {c : Char} (separates : c ≠ backtick) (rest : List Char) :
    breakFences (c :: rest) = c :: breakFences rest := by
  match rest with
  | [] => rfl
  | [_] => rfl
  | second :: third :: rest => rw [breakFences, if_neg fun same => separates same.1]

/-- A character other than a backtick ends what is replaced together. -/
theorem breakFences_replicate_append (run : Nat) {c : Char} (separates : c ≠ backtick)
    (rest : List Char) :
    breakFences (List.replicate run backtick ++ c :: rest) =
      brokenRun run ++ c :: breakFences rest := by
  induction run using Nat.strong_induction_on with
  | _ run ih =>
      match run with
      | 0 => exact breakFences_cons separates rest
      | 1 =>
          change breakFences (backtick :: c :: rest) = backtick :: c :: breakFences rest
          match rest with
          | [] => rfl
          | second :: rest =>
              rw [breakFences, if_neg fun same => separates same.2.1, breakFences_cons separates]
      | 2 =>
          change breakFences (backtick :: backtick :: c :: rest) =
            backtick :: backtick :: c :: breakFences rest
          rw [breakFences, if_neg fun same => separates same.2.2, ← breakFences_cons separates]
          match rest with
          | [] => rfl
          | second :: rest => rw [breakFences, if_neg fun same => separates same.2.1]
      | run + 3 =>
          have whole : List.replicate (run + 3) backtick ++ c :: rest =
              backtick :: backtick :: backtick :: (List.replicate run backtick ++ c :: rest) := rfl
          have part : brokenRun (run + 3) = "` ` `".toList ++ brokenRun run :=
            breakFences_three (List.replicate run backtick)
          rw [whole, part, breakFences_three, ih run (by omega), List.append_assoc]

/-- A run of three lies on one side of a character that is no backtick. -/
theorem holdsFence_append_cons {before after : List Char} {c : Char} (separates : c ≠ backtick) :
    HoldsFence (before ++ c :: after) ↔ HoldsFence before ∨ HoldsFence after := by
  constructor
  · rintro ⟨left, right, found⟩
    rw [List.append_assoc] at found
    rcases List.append_eq_append_iff.mp found with ⟨gap, isBefore, isRest⟩ | ⟨gap, isLeft, isRest⟩
    · match gap, isRest with
      | [], isRest => exact absurd (List.cons.inj isRest).1.symm separates
      | [_], isRest => exact absurd (List.cons.inj (List.cons.inj isRest).2).1.symm separates
      | [_, _], isRest =>
          exact absurd (List.cons.inj (List.cons.inj (List.cons.inj isRest).2).2).1.symm separates
      | first :: second :: third :: gap, isRest =>
          obtain ⟨isFirst, isRest⟩ := List.cons.inj isRest
          obtain ⟨isSecond, isRest⟩ := List.cons.inj isRest
          obtain ⟨isThird, -⟩ := List.cons.inj isRest
          refine .inl ⟨left, gap, ?_⟩
          rw [isBefore, ← isFirst, ← isSecond, ← isThird, List.append_assoc]
          rfl
    · match gap, isRest with
      | [], isRest => exact absurd (List.cons.inj isRest).1 separates
      | _ :: gap, isRest =>
          obtain ⟨-, isAfter⟩ := List.cons.inj isRest
          refine .inr ⟨gap, right, ?_⟩
          rw [isAfter, List.append_assoc]
          rfl
  · rintro (inBefore | inAfter)
    · exact inBefore.trans ⟨[], c :: after, by simp⟩
    · exact inAfter.trans ⟨before ++ [c], [], by simp⟩

theorem brokenRun_add_three (run : Nat) :
    brokenRun (run + 3) = [backtick] ++ ' ' :: ([backtick] ++ ' ' :: (backtick :: brokenRun run)) :=
  breakFences_three (List.replicate run backtick)

/-- After a backtick a broken run completes a fence when two backticks are left over. -/
theorem holdsFence_backtick_brokenRun_iff (run : Nat) :
    HoldsFence (backtick :: brokenRun run) ↔ run % 3 = 2 := by
  induction run using Nat.strong_induction_on with
  | _ run ih =>
      match run with
      | 0 => decide
      | 1 => decide
      | 2 => decide
      | run + 3 =>
          have blank : ' ' ≠ backtick := by decide
          have split : backtick :: brokenRun (run + 3) = [backtick, backtick] ++
              ' ' :: ([backtick] ++ ' ' :: (backtick :: brokenRun run)) := by
            rw [brokenRun_add_three]
            rfl
          have two : ¬ HoldsFence [backtick, backtick] := by decide
          have one : ¬ HoldsFence [backtick] := by decide
          rw [split, holdsFence_append_cons blank, holdsFence_append_cons blank,
            ih run (by omega)]
          simp only [two, one, false_or]
          omega

/-- **A run leaves a fence when it is at least five long and two are left over.** -/
theorem holdsFence_brokenRun_iff (run : Nat) : HoldsFence (brokenRun run) ↔ SurvivesAsFence run := by
  match run with
  | 0 => decide
  | 1 => decide
  | 2 => decide
  | run + 3 =>
      have blank : ' ' ≠ backtick := by decide
      have one : ¬ HoldsFence [backtick] := by decide
      rw [brokenRun_add_three, holdsFence_append_cons blank, holdsFence_append_cons blank,
        holdsFence_backtick_brokenRun_iff, SurvivesAsFence]
      simp only [one, false_or]
      omega

/-! ## What the replacement leaves of a text -/

/-- A broken text holds a fence when one of its runs leaves one. -/
theorem holdsFence_breakFences_iff (text : List Char) :
    HoldsFence (breakFences text) ↔ ∃ run ∈ backtickRuns text, SurvivesAsFence run := by
  induction text using runs_induction with
  | last run =>
      change HoldsFence (brokenRun run) ↔ _
      rw [holdsFence_brokenRun_iff, backtickRuns, runsAfter_replicate]
      simp
  | more run c rest separates ih =>
      have runs : backtickRuns (List.replicate run backtick ++ c :: rest) =
          (0 + run) :: backtickRuns rest := runsAfter_replicate_append 0 run separates rest
      rw [breakFences_replicate_append run separates, holdsFence_append_cons separates,
        holdsFence_brokenRun_iff, ih, runs]
      simp

/-- A text is empty after the replacement only if it was empty before. -/
theorem breakFences_ne_nil {text : List Char} (nonempty : text ≠ []) : breakFences text ≠ [] := by
  match text with
  | [] => exact absurd rfl nonempty
  | [_] => exact List.cons_ne_nil _ _
  | [_, _] => exact List.cons_ne_nil _ _
  | first :: second :: third :: rest =>
      rw [breakFences]
      split
      · exact List.cons_ne_nil _ _
      · exact List.cons_ne_nil _ _

/-- The characters of an embedded value. -/
theorem toList_fenced (value : String) :
    (fenced value).toList =
      if value = "" then ['(', 'e', 'm', 'p', 't', 'y', ')'] else breakFences value.toList := by
  unfold fenced orElseText
  by_cases empty : value = ""
  · subst empty
    rfl
  · have nonempty : breakFences value.toList ≠ [] :=
      breakFences_ne_nil fun none => empty (String.toList_eq_nil_iff.mp none)
    have kept : String.ofList (breakFences value.toList) ≠ "" := by
      intro none
      have same := congrArg String.toList none
      rw [String.toList_ofList] at same
      exact nonempty same
    rw [if_neg kept, if_neg empty, String.toList_ofList]

/-- **An embedded value cannot close its code block exactly when no run of backticks in it
is at least five long with two left over.** -/
theorem fenced_holds_no_fence_iff (value : String) :
    ¬ HoldsFence (fenced value).toList ↔
      ∀ run ∈ backtickRuns value.toList, ¬ SurvivesAsFence run := by
  rw [toList_fenced]
  by_cases empty : value = ""
  · subst empty
    rw [if_pos rfl]
    decide
  · rw [if_neg empty, holdsFence_breakFences_iff]
    simp only [not_exists, not_and]

/-- Five backticks in a value are turned into text that closes its block. -/
theorem five_backticks_close_the_block :
    HoldsFence (fenced (String.ofList (List.replicate 5 backtick))).toList := by
  have present : String.ofList (List.replicate 5 backtick) ≠ "" := by
    intro none
    have same := congrArg String.toList none
    rw [String.toList_ofList] at same
    exact List.cons_ne_nil _ _ same
  rw [toList_fenced, if_neg present, String.toList_ofList]
  decide

end PatchProof
