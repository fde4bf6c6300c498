import PatchProof.Context.DiffBudget
import PatchProof.Context.Excluded

/-!
# Fitting a context into its JSON budget

While the encoding of a context is too long, the diff is cut, then snippets are dropped, then
changed files.  Every pass makes the context smaller, so the passes end, with a context that
fits or with a refusal.

However often the diff is cut, what remains is the beginning of the first diff and one marker:
a later cut falls in front of the marker that an earlier one has left.  Nothing else changes
but the flag, which tells whether a pass was made.
-/

set_option autoImplicit false

namespace PatchProof

/-- A diff is kept, or cut to a shorter text of its beginning and the marker. -/
inductive DiffShortened (diff : String) : String → Prop
  | kept : DiffShortened diff diff
  | cut (count : Nat) (shorter : count + truncationMarker.length < diff.length) :
      DiffShortened diff (truncate count diff ++ truncationMarker)

/-- A text of more characters than are taken begins alike with something behind it. -/
theorem truncate_truncate_append {count limit : Nat} {text : String} (more : String)
    (within : limit ≤ count) (long : count ≤ text.length) :
    truncate limit (truncate count text ++ more) = truncate limit text := by
  have enough : limit ≤ (text.toList.take count).length := by
    rw [List.length_take, String.length_toList]
    omega
  rw [truncate, truncate, truncate, String.toList_append, String.toList_ofList,
    List.take_append_of_le_length enough, List.take_take, Nat.min_eq_left within]

/-- A cut of what is left of a diff leaves a shorter beginning of that diff. -/
theorem DiffShortened.truncateMarked {diff left : String} (shortened : DiffShortened diff left)
    {maximum : Nat} (wide : truncationMarker.length < maximum) (cuts : maximum < left.length) :
    DiffShortened diff (truncateMarked left maximum).1 := by
  rw [PatchProof.truncateMarked, if_neg (Nat.not_le.mpr cuts), if_neg (Nat.not_le.mpr wide)]
  cases shortened with
  | kept => exact .cut _ (by omega)
  | cut count shorter =>
      have inside : count ≤ diff.length := by omega
      rw [String.length_append, length_truncate, Nat.min_eq_left inside] at cuts
      rw [truncate_truncate_append _ (by omega) inside]
      exact .cut _ (by omega)

namespace PullRequestContext

/-- A context with a shortened diff and the first of the snippets and changed files, in which
the flag tells whether anything was shortened. -/
structure Shortens (context fitted : PullRequestContext) : Prop where
  diff : DiffShortened context.diff fitted.diff
  snippets : fitted.snippets <+: context.snippets
  changedFiles : fitted.changedFiles <+: context.changedFiles
  others : fitted = { context with
    diff := fitted.diff
    snippets := fitted.snippets
    changedFiles := fitted.changedFiles
    stats := { context.stats with truncated := fitted.stats.truncated } }
  marked : fitted = context ∨ fitted.size < context.size ∧ fitted.stats.truncated = true

theorem Shortens.refl (context : PullRequestContext) : context.Shortens context :=
  ⟨.kept, List.prefix_rfl, List.prefix_rfl, rfl, .inl rfl⟩

variable {context fitted smaller : PullRequestContext}

/-- **A pass shortens what was shortened before.** -/
theorem Shortens.shrunk (shortens : context.Shortens fitted)
    (shrunk : fitted.shrunk? = some smaller) : context.Shortens smaller := by
  have less : smaller.size < context.size := by
    have pass := size_lt_of_shrunk shrunk
    rcases shortens.marked with same | ⟨before, _⟩
    · rwa [same] at pass
    · exact Nat.lt_trans pass before
  unfold shrunk? at shrunk
  dsimp only at shrunk
  split at shrunk
  · rename_i long
    cases shrunk
    have wide : truncationMarker.length < max 2000 (fitted.diff.length - 2000) := by
      rw [length_truncationMarker]
      omega
    refine ⟨shortens.diff.truncateMarked wide (by omega), shortens.snippets,
      shortens.changedFiles, ?_, .inr ⟨less, rfl⟩⟩
    rw [shortens.others]
  · split at shrunk
    · cases shrunk
      refine ⟨shortens.diff, (List.dropLast_prefix _).trans shortens.snippets,
        shortens.changedFiles, ?_, .inr ⟨less, rfl⟩⟩
      rw [shortens.others]
    · split at shrunk
      · cases shrunk
        refine ⟨shortens.diff, shortens.snippets,
          (List.dropLast_prefix _).trans shortens.changedFiles, ?_, .inr ⟨less, rfl⟩⟩
        rw [shortens.others]
      · cases shrunk

end PullRequestContext

namespace DeterministicContextRetriever

variable (retriever : DeterministicContextRetriever)

/-- How the fitting of a context ends. -/
inductive Fits (context : PullRequestContext) : Except RetrievalError PullRequestContext → Prop
  | fitted {fitted : PullRequestContext}
      (within : retriever.contextChars fitted ≤ retriever.budget.maxContextJsonChars)
      (shortens : context.Shortens fitted) : Fits context (.ok fitted)
  | refused : Fits context
      (.error (.contextRetrieval "minimum context exceeds configured JSON budget"))

theorem fits_of_shortens {context current : PullRequestContext}
    (shortens : context.Shortens current) :
    retriever.Fits context (retriever.fitJsonBudget current) := by
  induction current using fitJsonBudget.induct retriever with
  | case1 current within =>
      rw [fitJsonBudget, if_pos within]
      exact .fitted within shortens
  | case2 current exceeds minimal =>
      rw [fitJsonBudget, if_neg exceeds]
      split
      · exact .refused
      · rename_i smaller shrunk
        rw [minimal] at shrunk
        cases shrunk
  | case3 current exceeds smaller shrunk ih =>
      rw [fitJsonBudget, if_neg exceeds]
      split
      · rename_i minimal
        rw [minimal] at shrunk
        cases shrunk
      · rename_i other shrunkToo
        rw [shrunk] at shrunkToo
        cases shrunkToo
        exact ih (shortens.shrunk shrunk)

/-- **Every context is fitted or refused.**  Whatever the encoding and the budget, the passes end:
with a context within the budget that shortens the diff, the snippets and the changed files
only, or with the refusal of a context that cannot be shortened further. -/
theorem fitJsonBudget_fits (context : PullRequestContext) :
    retriever.Fits context (retriever.fitJsonBudget context) :=
  retriever.fits_of_shortens (.refl context)

end DeterministicContextRetriever

end PatchProof
