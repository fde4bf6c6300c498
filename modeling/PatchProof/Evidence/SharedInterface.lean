import PatchProof.Evidence.Selection

/-!
# The interface a claim names

A claim names the interface that its experiment goes through, as free text, and the
check looks for it in the partition of the symbols of both revisions.  It compares leaf
names only, in both directions: a symbol of both revisions is taken for one that is new
at HEAD when the two share a leaf, and a name that no revision defines passes when its
leaf is that of another symbol.

`shared_interface_exact_iff` says for which claims leaves are enough.
-/

set_option autoImplicit false

namespace PatchProof

/-! ## What a name denotes -/

/-- A name denotes a symbol by its qualified name, alone or after that of a module. -/
def Denotes (shared entry : String) : Prop :=
  shared = entry ∨ ∃ module : String, shared = module ++ "." ++ entry

/-- What a name denotes can be read off its end. -/
theorem denotes_iff {shared entry : String} :
    Denotes shared entry ↔
      shared = entry ∨ ('.' :: entry.toList).isSuffixOf shared.toList = true := by
  refine or_congr_right ⟨?_, fun ends => ?_⟩
  · rintro ⟨module, rfl⟩
    rw [List.isSuffixOf_iff_suffix]
    exact ⟨module.toList, by simp [String.toList_append]⟩
  · obtain ⟨module, same⟩ := List.isSuffixOf_iff_suffix.mp ends
    refine ⟨String.ofList module, String.toList_inj.mp ?_⟩
    simpa [String.toList_append] using same.symm

instance {shared entry : String} : Decidable (Denotes shared entry) :=
  decidable_of_iff _ denotes_iff.symm

/-- What a claim is refused with whose interface has the leaf of a new symbol. -/
def headOnlyClaimProblem : String :=
  "claim targets an interface that exists only on HEAD; a differential " ++
    "experiment requires an interface present on both revisions"

/-- The check accepts only names of symbols of both revisions, and takes none of these
symbols for one that only HEAD has. -/
structure SharedInterfaceExact (context : PullRequestContext) (selection : ClaimSelection)
    (shared : String) : Prop where
  sound : groundingProblem context selection = none →
    ∃ entry ∈ context.interfaces.presentOnBoth, Denotes shared entry
  complete : shared ∈ context.interfaces.presentOnBoth →
    groundingProblem context selection ≠ some headOnlyClaimProblem

/-- The leaf of a name tells it apart from the symbols it does not denote: a symbol of
both revisions has no leaf of a new one, and a name that denotes no symbol of both
revisions has the leaf of none, or the leaf of a new one. -/
structure LeavesTell (interfaces : CrossRevisionInterfaces) (shared : String) : Prop where
  notNew : shared ∈ interfaces.presentOnBoth → leafName shared ∉ interfaces.headOnlyLeafNames
  unknown : (∀ entry ∈ interfaces.presentOnBoth, ¬ Denotes shared entry) →
    leafName shared ∉ interfaces.headOnlyLeafNames →
      leafName shared ∉ interfaces.presentOnBoth.map leafName

/-! ## The check -/

section Check

variable {context : PullRequestContext} {shared : String}

/-- The check of an interface that is named. -/
theorem interfaceProblem_of_named (named : shared ≠ "") :
    interfaceProblem context shared =
      if leafName shared ∈ context.interfaces.headOnlyLeafNames then some headOnlyClaimProblem
      else if leafName shared ∈ context.interfaces.presentOnBoth.map leafName then none
      else some ("claim's shared interface is absent from the deterministic " ++
        "BASE/HEAD symbol partition") := by
  unfold interfaceProblem headOnlyClaimProblem
  rw [if_neg named]
  simp only [List.contains_iff_mem, Bool.not_eq_true', ← Bool.not_eq_true, ite_not]

theorem interfaceProblem_eq_none_iff (named : shared ≠ "") :
    interfaceProblem context shared = none ↔
      leafName shared ∉ context.interfaces.headOnlyLeafNames ∧
        leafName shared ∈ context.interfaces.presentOnBoth.map leafName := by
  rw [interfaceProblem_of_named named]
  split <;> rename_i new
  · simp [new]
  · split <;> rename_i shared <;> simp [new, shared]

/-- An interface is taken for a new one exactly when it has the leaf of a new symbol. -/
theorem interfaceProblem_eq_headOnly_iff (named : shared ≠ "") :
    interfaceProblem context shared = some headOnlyClaimProblem ↔
      leafName shared ∈ context.interfaces.headOnlyLeafNames := by
  rw [interfaceProblem_of_named named]
  split <;> rename_i new
  · simp [new]
  · refine iff_of_false ?_ new
    split
    · exact (Option.some_ne_none _).symm
    · intro same
      exact absurd (Option.some.inj same) (by decide +kernel)

/-- When the other conditions hold, a claim is grounded as its interface is. -/
theorem groundingProblem_of_grounded {selection : ClaimSelection} {claim : BehavioralClaim}
    (selected : selection.claim = some claim)
    (symbols : ∀ symbol ∈ claim.affectedSymbols, ∃ changed ∈ context.changedSymbols,
      symbol.isChanged changed = true)
    (citations : ∀ citation ∈ claim.supportingContext, ∃ snippet ∈ context.snippets,
      citation.isInside snippet = true) :
    groundingProblem context selection = interfaceProblem context claim.sharedInterface.text := by
  rw [groundingProblem, selected, Option.bind_some, claimProblem]
  have known : (claim.affectedSymbols.any fun symbol =>
      !context.changedSymbols.any fun changed => symbol.isChanged changed) = false := by
    rw [List.any_eq_false]
    intro symbol mem
    simpa using symbols symbol mem
  have cited : (claim.supportingContext.any fun citation =>
      !context.snippets.any fun snippet => citation.isInside snippet) = false := by
    rw [List.any_eq_false]
    intro citation mem
    simpa using citations citation mem
  rw [known, cited]
  cases interfaceProblem context claim.sharedInterface.text <;> rfl

end Check

/-- **Leaves decide.**  For a claim that names an interface and is grounded otherwise, the
check of the interface is exact if and only if its leaf tells the interface apart from the
symbols that it does not denote. -/
theorem shared_interface_exact_iff (context : PullRequestContext) (selection : ClaimSelection)
    (claim : BehavioralClaim) (selected : selection.claim = some claim)
    (named : claim.sharedInterface.text ≠ "")
    (symbols : ∀ symbol ∈ claim.affectedSymbols, ∃ changed ∈ context.changedSymbols,
      symbol.isChanged changed = true)
    (citations : ∀ citation ∈ claim.supportingContext, ∃ snippet ∈ context.snippets,
      citation.isInside snippet = true) :
    SharedInterfaceExact context selection claim.sharedInterface.text ↔
      LeavesTell context.interfaces claim.sharedInterface.text := by
  have grounding := groundingProblem_of_grounded selected symbols citations
  constructor
  · intro exact'
    refine ⟨fun entry new => ?_, fun undenoted notNew shares => ?_⟩
    · refine exact'.complete entry ?_
      rw [grounding]
      exact (interfaceProblem_eq_headOnly_iff named).mpr new
    · have accepted := (interfaceProblem_eq_none_iff named).mpr ⟨notNew, shares⟩
      obtain ⟨entry, mem, denotes⟩ := exact'.sound (grounding.trans accepted)
      exact undenoted entry mem denotes
  · intro tell
    refine ⟨fun accepted => ?_, fun entry refused => ?_⟩
    · obtain ⟨notNew, shares⟩ := (interfaceProblem_eq_none_iff named).mp (grounding ▸ accepted)
      by_contra none
      refine tell.unknown (fun entry mem denotes => none ⟨entry, mem, denotes⟩) notNew shares
    · exact tell.notNew entry ((interfaceProblem_eq_headOnly_iff named).mp (grounding ▸ refused))

/-! ## Classes with a method of one name -/

/-- A change of one method, after which one more class may have a method of its name. -/
def methodContext (newOnHead : List String) (few : newOnHead.length ≤ 40) :
    PullRequestContext where
  baseSha := ⟨String.ofList (List.replicate 40 'b'), by decide +kernel⟩
  headSha := ⟨String.ofList (List.replicate 40 'c'), by decide +kernel⟩
  diff := "@@ -2 +2 @@"
  changedFiles := []
  changedSymbols := [⟨⟨"shapes/area.py", by decide +kernel⟩, ⟨"Square.draw", by decide +kernel⟩,
    .function, 2, 3, by decide⟩]
  snippets := [⟨.changedSymbol, ⟨"shapes/area.py", by decide +kernel⟩, 2, 4, "def draw(self):",
    ⟨"the changed method", by decide +kernel⟩, by decide, by decide⟩]
  stats := {
    changedFileCount := 1
    changedPythonFileCount := 1
    pythonPathCount := 1
    testFilesScanned := 0
    referenceFilesScanned := 0
    omittedChangedFiles := 0
    truncated := false }
  interfaces := {
    presentOnBoth := ["Square", "Square.draw"]
    newOnHead := newOnHead
    bounded := ⟨by decide, few, by decide⟩ }

/-- A claim about the changed method that names an interface. -/
def methodClaim (shared : String) (bounded : 0 ≤ shared.length ∧ shared.length ≤ 256) :
    BehavioralClaim where
  claimId := "claim-drawing"
  claimIdWellFormed := by decide +kernel
  summary := ⟨"drawing changes", by decide +kernel⟩
  observableOperation := ⟨"draw a square", by decide +kernel⟩
  triggerCondition := ⟨"always so", by decide +kernel⟩
  expectedHeadObservation := ⟨"new drawing", by decide +kernel⟩
  expectedBaseHypothesis := ⟨"old drawing", by decide +kernel⟩
  sharedInterface := ⟨shared, bounded⟩
  preconditions := [⟨"a square", by decide +kernel⟩]
  preconditionsWellFormed := by decide +kernel
  action := ⟨"draw it", by decide +kernel⟩
  expectedBehavior := ⟨"it is drawn anew", by decide +kernel⟩
  affectedSymbols := [⟨"shapes/area.py", by decide +kernel, ⟨"Square.draw", by decide +kernel⟩⟩]
  affectedSymbolsWellFormed := by decide +kernel
  supportingContext := [⟨"shapes/area.py", by decide +kernel, 2, 3, ⟨"the body", by decide +kernel⟩,
    by decide⟩]
  supportingContextWellFormed := by decide +kernel
  confidence := 9 / 10
  confidenceBounded := by decide +kernel
  reasoningSummary := ⟨"the method changed", by decide +kernel⟩

/-- The selection of a claim. -/
def methodSelection (claim : BehavioralClaim) : ClaimSelection where
  disposition := .selected
  claim := some claim
  explanation := ⟨"one method changed", by decide +kernel⟩
  selectedIffClaim := selected_iff_some claim

/-- A claim about a changed method. -/
def drawnClaim : BehavioralClaim := methodClaim "Square.draw" (by decide +kernel)

/-- A claim about a method that no class has. -/
def undefinedClaim : BehavioralClaim := methodClaim "Oval.draw" (by decide +kernel)

/-- A claim about a changed method is refused when a new class has a method of that name,
and one about a method that no class has is accepted when there is no such class. -/
theorem shared_leaf_confused :
    (drawnClaim.sharedInterface.text ∈
        (methodContext ["Circle", "Circle.draw"] (by decide)).interfaces.presentOnBoth ∧
      groundingProblem (methodContext ["Circle", "Circle.draw"] (by decide))
        (methodSelection drawnClaim) = some headOnlyClaimProblem) ∧
    groundingProblem (methodContext [] (by decide)) (methodSelection undefinedClaim) = none ∧
      ¬ ∃ entry ∈ (methodContext [] (by decide)).interfaces.presentOnBoth,
        Denotes undefinedClaim.sharedInterface.text entry := by
  refine ⟨⟨by decide, by decide +kernel⟩, by decide +kernel, ?_⟩
  decide +kernel

/-- The condition can be met: the changed method, when no new class shares its name. -/
theorem shared_interface_exact_alone :
    SharedInterfaceExact (methodContext ["Circle"] (by decide)) (methodSelection drawnClaim)
        drawnClaim.sharedInterface.text ↔
      LeavesTell (methodContext ["Circle"] (by decide)).interfaces drawnClaim.sharedInterface.text :=
  shared_interface_exact_iff _ _ drawnClaim rfl (by decide +kernel) (by decide +kernel)
    (by decide +kernel)

end PatchProof
