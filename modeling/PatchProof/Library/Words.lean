import Mathlib.Data.List.Infix
import Mathlib.Tactic.Common

/-!
# Words inside of larger lists

A word occurs in a list when it is an infix of it.  A word that is free of some symbols
cannot reach across one of them, so it occurs in a list exactly when it occurs in one of
the parts between them, and cutting such symbols off at the ends of a list changes
nothing.
-/

set_option autoImplicit false

namespace Words

variable {α β : Type} {word front rest : List β} {separator : β}

/-- A word that starts a list ends before the first separator. -/
theorem prefix_cut (free : separator ∉ word) (starts : word <+: front ++ separator :: rest) :
    word <+: front := by
  induction front generalizing word with
  | nil =>
      cases word with
      | nil => exact List.nil_prefix
      | cons first more =>
          rw [List.nil_append, List.cons_prefix_cons] at starts
          exact absurd (starts.1 ▸ List.mem_cons_self) free
  | cons first front ih =>
      cases word with
      | nil => exact List.nil_prefix
      | cons head more =>
          rw [List.cons_append, List.cons_prefix_cons] at starts
          obtain ⟨rfl, continues⟩ := starts
          rw [List.cons_prefix_cons]
          exact ⟨rfl, ih (fun mem => free (List.mem_cons_of_mem _ mem)) continues⟩

/-- **A separator splits the occurrences** of a word that is free of it. -/
theorem infix_cut (free : separator ∉ word) (nonempty : word ≠ []) :
    word <:+: front ++ separator :: rest ↔ word <:+: front ∨ word <:+: rest := by
  constructor
  · intro occurs
    induction front with
    | nil =>
        rw [List.nil_append, List.infix_cons_iff] at occurs
        rcases occurs with starts | later
        · have ends : word <+: [] := prefix_cut free starts
          exact absurd (List.prefix_nil.mp ends) nonempty
        · exact .inr later
    | cons first front ih =>
        rw [List.cons_append, List.infix_cons_iff] at occurs
        rcases occurs with starts | later
        · have inFront : word <+: first :: front := prefix_cut free starts
          exact .inl inFront.isInfix
        · rcases ih later with inFront | inRest
          · exact .inl (List.infix_cons inFront)
          · exact .inr inRest
  · rintro (inFront | inRest)
    · exact List.infix_append_of_infix_left inFront
    · exact List.infix_append_of_infix_right (List.infix_cons inRest)

/-- The parts before the first separators of equal lists are equal. -/
theorem eq_of_first_separator {other tail : List β} (free : separator ∉ front)
    (otherFree : separator ∉ other) (same : front ++ separator :: rest = other ++ separator :: tail) :
    front = other := by
  induction front generalizing other with
  | nil =>
      cases other with
      | nil => rfl
      | cons second other =>
          have head := (List.cons.inj same).1
          simp [head] at otherFree
  | cons first front ih =>
      cases other with
      | nil =>
          have head := (List.cons.inj same).1
          simp [head] at free
      | cons second other =>
          obtain ⟨rfl, later⟩ := List.cons.inj same
          rw [ih (fun mem => free (List.mem_cons_of_mem _ mem))
            (fun mem => otherFree (List.mem_cons_of_mem _ mem)) later]

/-- A list is split at the last occurrence of a separator in one way only. -/
theorem eq_of_last_separator {other back : List β}
    (last : separator ∉ back) (otherLast : separator ∉ rest)
    (same : front ++ separator :: back = other ++ separator :: rest) :
    front = other ∧ back = rest := by
  rw [List.append_eq_append_iff] at same
  rcases same with ⟨middle, rfl, split⟩ | ⟨middle, rfl, split⟩
  · cases middle with
    | nil => exact ⟨(List.append_nil _).symm, (List.cons.inj split).2⟩
    | cons first middle =>
        refine absurd ?_ last
        rw [(List.cons.inj split).2]
        exact List.mem_append_right _ (List.mem_cons_self ..)
  · cases middle with
    | nil => exact ⟨List.append_nil _, (List.cons.inj split).2.symm⟩
    | cons first middle =>
        refine absurd ?_ otherLast
        rw [(List.cons.inj split).2]
        exact List.mem_append_right _ (List.mem_cons_self ..)

section Trimming

variable {symbols : List α} {cuts : α → Bool} {image : α → β}

/-- Symbols that a word is free of can be cut off in front. -/
theorem infix_map_dropWhile (free : ∀ symbol, cuts symbol = true → image symbol ∉ word)
    (nonempty : word ≠ []) :
    word <:+: (symbols.dropWhile cuts).map image ↔ word <:+: symbols.map image := by
  induction symbols with
  | nil => rfl
  | cons symbol symbols ih =>
      by_cases isCut : cuts symbol = true
      · have split : word <:+: [] ++ image symbol :: symbols.map image ↔
            word <:+: [] ∨ word <:+: symbols.map image := infix_cut (free symbol isCut) nonempty
        rw [List.dropWhile_cons_of_pos isCut, ih, List.map_cons]
        simpa [nonempty] using split.symm
      · rw [List.dropWhile_cons_of_neg isCut]

/-- Symbols that a word is free of can be cut off at both ends. -/
theorem infix_map_trim (free : ∀ symbol, cuts symbol = true → image symbol ∉ word)
    (nonempty : word ≠ []) :
    word <:+: (((symbols.dropWhile cuts).reverse.dropWhile cuts).reverse).map image ↔
      word <:+: symbols.map image := by
  have mirrored : ∀ symbol, cuts symbol = true → image symbol ∉ word.reverse := by
    intro symbol isCut mem
    exact free symbol isCut (List.mem_reverse.mp mem)
  have other : word.reverse ≠ [] := by simpa using nonempty
  refine Iff.trans ?_ (infix_map_dropWhile free nonempty)
  rw [← List.reverse_infix, ← List.map_reverse, List.reverse_reverse,
    infix_map_dropWhile mirrored other, List.map_reverse, List.reverse_infix]

/-- Nothing is cut off behind a symbol that stays. -/
theorem dropWhile_append_kept {symbol : α} (kept : cuts symbol = false) (ahead behind : List α) :
    (ahead ++ symbol :: behind).dropWhile cuts = ahead.dropWhile cuts ++ symbol :: behind := by
  induction ahead with
  | nil => rw [List.nil_append, List.dropWhile_nil, List.dropWhile_cons_of_neg (by simp [kept]),
      List.nil_append]
  | cons first ahead ih =>
      rw [List.cons_append]
      by_cases isCut : cuts first = true
      · rw [List.dropWhile_cons_of_pos isCut, List.dropWhile_cons_of_pos isCut, ih]
      · rw [List.dropWhile_cons_of_neg isCut, List.dropWhile_cons_of_neg isCut, List.cons_append]

end Trimming

end Words
