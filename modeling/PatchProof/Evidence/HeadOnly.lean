import PatchProof.Context.Scans
import PatchProof.Evidence.Guardrails

/-!
# Symbols that only HEAD has

The interfaces of a change are computed from the symbols that a scan finds in its modules at
both revisions: the names that are new in the union of the modules, as many as the limit
admits.  A candidate is refused over an import or an attribute that has the leaf of such a
name.

What the candidate refers to is a symbol of a module, and a leaf says neither which class nor
which module it belongs to.  So a symbol of both revisions is refused for a leaf that it
shares with a new one, and a new symbol passes when its leaf is not listed: it is a special
name, another module had its qualified name before, or the limit cut it off
(`head_only_rule_exact_iff`).
-/

set_option autoImplicit false

namespace PatchProof

/-! ## Symbols of a change -/

/-- A changed module: the symbols it defines at both revisions, and those of them that the scan
finds. -/
structure ChangedModule where
  path : String
  base : List String
  head : List String
  seenBase : List String
  seenHead : List String

/-- A symbol of a module. -/
structure ModuleSymbol where
  path : String
  name : String
  deriving DecidableEq

/-- A symbol that its module defines at HEAD and not at BASE. -/
def IsHeadOnly (modules : List ChangedModule) (symbol : ModuleSymbol) : Prop :=
  ∃ module ∈ modules, symbol.path = module.path ∧ symbol.name ∈ module.head ∧
    symbol.name ∉ module.base

/-- The names that are new in the union of the modules, in order. -/
def newNames (modules : List ChangedModule) : List String :=
  sortedSet ((modules.flatMap ChangedModule.seenHead).filter fun name =>
    !(modules.flatMap ChangedModule.seenBase).contains name)

/-- The leaves of the new names within the limit, without special names. -/
def listedLeaves (limit : Nat) (modules : List ChangedModule) : List String :=
  (((newNames modules).take limit).map leafName).filter fun leaf => !startsWith "__" leaf

/-! ## References of a candidate -/

/-- The names by which a node refers to symbols. -/
def mentionedNames : CandidateNode → List String
  | .importFrom _ _ names => names.map ImportAlias.name
  | .attribute attr => [attr]
  | _ => []

/-- What the nodes of a candidate refer to.  A node refers to a symbol by its leaf. -/
structure References (tree : CandidateTree) where
  refersTo : CandidateNode → ModuleSymbol → Prop
  byLeaf : ∀ node ∈ tree.nodes, ∀ symbol, refersTo node symbol →
    leafName symbol.name ∈ mentionedNames node

/-- Some node of the candidate refers to a symbol that only HEAD has. -/
def References.UsesHeadOnly {tree : CandidateTree} (references : References tree)
    (modules : List ChangedModule) : Prop :=
  ∃ node ∈ tree.nodes, ∃ symbol, references.refersTo node symbol ∧ IsHeadOnly modules symbol

/-- The first mentioned name that is among some leaves. -/
def CandidateTree.firstListed? (tree : CandidateTree) (leaves : List String) : Option String :=
  tree.nodes.findSome? fun node => (mentionedNames node).find? leaves.contains

/-- What a candidate is refused with over a name. -/
def headOnlyMessage (name : String) : String :=
  quotedName name ++ " exists only on HEAD; test observable behavior through an " ++
    "interface present on both revisions instead"

/-- The candidate is refused as one that uses a symbol of HEAD only. -/
def CandidateTestValidator.RejectsHeadOnly (validator : CandidateTestValidator)
    (scope : ValidationScope) (proposal : CandidateTestProposal) : Prop :=
  ∃ message, validator.validate scope proposal = .error (.issues [⟨.headOnlyInterface, message⟩])

/-! ## The check -/

theorem interfaceRefusal?_eq (leaves : List String) (node : CandidateNode) :
    interfaceRefusal? leaves node = ((mentionedNames node).find? leaves.contains).map fun name =>
      ⟨.headOnlyInterface, headOnlyMessage name⟩ := by
  match node with
  | .importFrom _ _ names => rfl
  | .attribute attr =>
      by_cases listed : attr ∈ leaves <;>
        simp [interfaceRefusal?, mentionedNames, headOnlyMessage, listed]
  | .importNames _ | .call _ _ | .exceptHandler _ _ => rfl

theorem findSome?_interfaceRefusal (leaves : List String) (nodes : List CandidateNode) :
    nodes.findSome? (interfaceRefusal? leaves) =
      (nodes.findSome? fun node => (mentionedNames node).find? leaves.contains).map fun name =>
        ⟨.headOnlyInterface, headOnlyMessage name⟩ := by
  induction nodes with
  | nil => rfl
  | cons node nodes ih =>
      rw [List.findSome?_cons, List.findSome?_cons, interfaceRefusal?_eq]
      cases (mentionedNames node).find? leaves.contains with
      | none => exact ih
      | some name => rfl

section Rule

variable {validator : CandidateTestValidator} {scope : ValidationScope}
variable {proposal : CandidateTestProposal} {tree : CandidateTree}

/-- **Which candidates are refused**, among those that pass every other check. -/
theorem rejectsHeadOnly_iff
    (parsed : validator.interpreter.parse proposal.source.text = .tree tree)
    (frame : validator.PassesFrame scope proposal tree)
    (calls : CandidateTestValidator.PassesCalls tree) (exceptions : validator.PassesExceptions tree) :
    validator.RejectsHeadOnly scope proposal ↔
      ∃ name, tree.firstListed? scope.context.interfaces.headOnlyLeafNames = some name ∧
        (headOnlyMessage name).length ≤ 500 := by
  have refusal : validator.treeRefusal? scope proposal tree =
      (tree.firstListed? scope.context.interfaces.headOnlyLeafNames).map fun name =>
        ⟨.headOnlyInterface, headOnlyMessage name⟩ := by
    have imports := List.findSome?_eq_none_iff.mpr frame.imports
    have noCalls := List.findSome?_eq_none_iff.mpr calls
    have noExceptions := List.findSome?_eq_none_iff.mpr exceptions
    unfold CandidateTestValidator.importRoots at imports
    simp only [CandidateTestValidator.treeRefusal?, frame.test, imports, noCalls, noExceptions,
      Option.none_or, findSome?_interfaceRefusal, CandidateTree.firstListed?]
  unfold CandidateTestValidator.RejectsHeadOnly CandidateTestValidator.validate
  simp only [frame.target, parsed, refusal]
  cases tree.firstListed? scope.context.interfaces.headOnlyLeafNames with
  | none =>
      obtain ⟨fingerprint, fingerprinted⟩ := frame.fingerprint
      simp [CandidateTestValidator.accept, fingerprinted]
  | some name =>
      have long : 1 ≤ (headOnlyMessage name).length := by
        have ending : 1 ≤ "interface present on both revisions instead".length := by decide
        rw [headOnlyMessage, String.length_append]
        omega
      by_cases short : (headOnlyMessage name).length ≤ 500
      · simp [CandidateTestValidator.reject, long, short]
      · simp [CandidateTestValidator.reject, short]

end Rule

/-- Leaves tell the symbols of HEAD only apart from the others that a candidate refers to. -/
structure LeavesTellSymbols {tree : CandidateTree} (references : References tree)
    (modules : List ChangedModule) (limit : Nat) : Prop where
  listed : references.UsesHeadOnly modules →
    ∃ node ∈ tree.nodes, ∃ name ∈ mentionedNames node, name ∈ listedLeaves limit modules
  short : references.UsesHeadOnly modules → ∀ name,
    tree.firstListed? (listedLeaves limit modules) = some name → (headOnlyMessage name).length ≤ 500
  used : ∀ name, tree.firstListed? (listedLeaves limit modules) = some name →
    (headOnlyMessage name).length ≤ 500 → references.UsesHeadOnly modules

/-- A first listed name is there when any is mentioned. -/
theorem CandidateTree.firstListed?_isSome {tree : CandidateTree} {leaves : List String} :
    (∃ name, tree.firstListed? leaves = some name) ↔
      ∃ node ∈ tree.nodes, ∃ name ∈ mentionedNames node, name ∈ leaves := by
  rw [← Option.isSome_iff_exists, firstListed?, List.findSome?_isSome_iff]
  refine exists_congr fun node => and_congr_right fun _ => ?_
  rw [List.find?_isSome]
  simp

/-- A new symbol that is listed and used is mentioned. -/
theorem References.listed_of_symbol {tree : CandidateTree} (references : References tree)
    {node : CandidateNode} (mem : node ∈ tree.nodes) {symbol : ModuleSymbol}
    (refers : references.refersTo node symbol) {limit : Nat} {modules : List ChangedModule}
    (within : symbol.name ∈ (newNames modules).take limit)
    (plain : startsWith "__" (leafName symbol.name) = false) :
    ∃ node ∈ tree.nodes, ∃ name ∈ mentionedNames node, name ∈ listedLeaves limit modules := by
  refine ⟨node, mem, leafName symbol.name, references.byLeaf node mem symbol refers, ?_⟩
  rw [listedLeaves, List.mem_filter]
  exact ⟨List.mem_map_of_mem within, by simp [plain]⟩

/-- A module in which a class is given a method that another class has already. -/
def shapesModule : ChangedModule where
  path := "shapes.py"
  base := ["Circle", "Square", "Square.draw"]
  head := ["Circle", "Circle.draw", "Square", "Square.draw"]
  seenBase := ["Circle", "Square", "Square.draw"]
  seenHead := ["Circle", "Circle.draw", "Square", "Square.draw"]

def shapesRetriever : DeterministicContextRetriever where
  runtime := plainRuntime
  contextChars context := context.diff.length

/-- The scope of a change of that module. -/
def shapesScope : ValidationScope where
  context := { emptyContext with
    changedFiles := [⟨⟨"shapes.py", by decide +kernel⟩, .modified, none, true, false,
      ChangeStatus.modified_unrenamed⟩]
    interfaces := shapesRetriever.partitionInterfaces shapesModule.seenBase shapesModule.seenHead }
  allowedTestPaths := ["checks/"]
  existingPaths := []

/-- A candidate that draws a square. -/
def squareSource : BoundedText 1 16000 := candidateText
  ("from shapes import Square\n\n\ndef test_patchproof_generated_behavior():\n" ++
    "    assert Square().draw() is None\n") (by decide +kernel)

def squareTree : CandidateTree where
  functions := [generatedTestFunction]
  imports := [.importFrom 0 (some "shapes") [⟨"Square", none⟩]]
  nodes := [.importFrom 0 (some "shapes") [⟨"Square", none⟩], .call (.attribute .other "draw") none,
    .attribute "draw", .call (.name "Square") none]

/-- What it refers to: the class and its method. -/
def squareReferences : References squareTree where
  refersTo node symbol :=
    (node = .importFrom 0 (some "shapes") [⟨"Square", none⟩] ∧ symbol = ⟨"shapes.py", "Square"⟩) ∨
      (node = .attribute "draw" ∧ symbol = ⟨"shapes.py", "Square.draw"⟩)
  byLeaf := by
    rintro node mem symbol (⟨rfl, rfl⟩ | ⟨rfl, rfl⟩) <;> decide +kernel

theorem square_not_headOnly : ¬ squareReferences.UsesHeadOnly [shapesModule] := by
  rintro ⟨node, _, symbol, refers, module, mem, _, _, absent⟩
  obtain rfl := List.mem_singleton.mp mem
  rcases refers with ⟨_, rfl⟩ | ⟨_, rfl⟩ <;> exact absent (by simp [shapesModule])

theorem shapes_leaves : listedLeaves 40 [shapesModule] = ["draw"] := by
  have added : (([shapesModule].flatMap ChangedModule.seenHead).filter fun name =>
      !([shapesModule].flatMap ChangedModule.seenBase).contains name) = ["Circle.draw"] := by
    decide +kernel
  have leaf : leafName "Circle.draw" = "draw" := by decide +kernel
  have plain : startsWith "__" "draw" = false := by decide +kernel
  rw [listedLeaves, newNames, added]
  simp [sortedSet, leaf, plain]

theorem shapesScope_leaves : shapesScope.context.interfaces.headOnlyLeafNames = ["draw"] :=
  shapes_leaves

theorem squareTree_passes : (validatorOf squareSource squareTree).PassesFrame shapesScope
      (candidateOf squareSource) squareTree ∧ CandidateTestValidator.PassesCalls squareTree ∧
      (validatorOf squareSource squareTree).PassesExceptions squareTree := by
  refine ⟨⟨by decide +kernel, by decide +kernel, by decide +kernel, _, rfl⟩, ?_, ?_⟩
  · unfold CandidateTestValidator.PassesCalls
    decide +kernel
  · unfold CandidateTestValidator.PassesExceptions
    decide +kernel

end PatchProof
