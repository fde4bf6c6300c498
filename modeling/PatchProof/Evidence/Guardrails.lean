import PatchProof.Evidence.Selection
import PatchProof.Evidence.Validator

/-!
# What the checks of a candidate guard

The validator refuses calls of dangerous callables and handlers that are too broad by the
way they are written: a name, or a name and one attribute.  What an expression denotes is a
matter of the imports of the candidate, at any nesting, and of their aliases.  This module
says what an expression may denote, and for which candidates the written form is enough.

A callable that is imported under its own name or under another is called unseen
(`forbidden_calls_refused_iff`), and an exception type that is no chain of names, an alias
of a builtin, a body of constants, or a keyword argument is caught or expected unseen
(`exceptions_guarded_iff`).
-/

set_option autoImplicit false

namespace PatchProof

/-! ## Acceptance -/

namespace CandidateTestValidator

variable (validator : CandidateTestValidator) (scope : ValidationScope)
variable (proposal : CandidateTestProposal)

/-- `validate` returns. -/
def Accepts : Prop := ∃ validated, validator.validate scope proposal = .ok validated

/-- The roots from which a candidate may import. -/
def importRoots : List String := validator.allowedImportRoots scope ++ validator.installedImportRoots

/-- The checks of the proposal, of its test and of its imports, and its fingerprint. -/
structure PassesFrame (tree : CandidateTree) : Prop where
  target : validator.proposalRefusal? scope proposal = none
  test : testRefusal? proposal tree = none
  imports : ∀ node ∈ tree.nodes, importRefusal? (validator.importRoots scope) node = none
  fingerprint : ∃ fingerprint, validator.interpreter.fingerprint proposal.source.text = .ok fingerprint

/-- The check of the calls. -/
def PassesCalls (tree : CandidateTree) : Prop := ∀ node ∈ tree.nodes, callRefusal? node = none

/-- The check of the exceptions. -/
def PassesExceptions (tree : CandidateTree) : Prop :=
  ∀ node ∈ tree.nodes, exceptionRefusal? validator.interpreter (tree.imports.flatMap boundByImport)
    node = none

/-- The check of the interface of both revisions. -/
def PassesInterface (tree : CandidateTree) : Prop :=
  ∀ node ∈ tree.nodes, interfaceRefusal? scope.context.interfaces.headOnlyLeafNames node = none

variable {validator scope proposal}

/-- **A candidate is accepted when it passes every check.** -/
theorem accepts_iff {tree : CandidateTree}
    (parsed : validator.interpreter.parse proposal.source.text = .tree tree) :
    validator.Accepts scope proposal ↔ validator.PassesFrame scope proposal tree ∧
      PassesCalls tree ∧ validator.PassesExceptions tree ∧ PassesInterface scope tree := by
  have checks : validator.treeRefusal? scope proposal tree = none ↔
      testRefusal? proposal tree = none ∧
      (∀ node ∈ tree.nodes, importRefusal? (validator.importRoots scope) node = none) ∧
      PassesCalls tree ∧ validator.PassesExceptions tree ∧ PassesInterface scope tree := by
    simp only [treeRefusal?, Option.or_eq_none_iff, List.findSome?_eq_none_iff, PassesCalls,
      PassesExceptions, PassesInterface, importRoots]
  unfold Accepts validate
  constructor
  · rintro ⟨validated, accepted⟩
    cases noRefusal : validator.proposalRefusal? scope proposal with
    | some refusal =>
        rw [noRefusal] at accepted
        cases accepted
    | none =>
        simp only [noRefusal, parsed] at accepted
        cases clean : validator.treeRefusal? scope proposal tree with
        | some refusal =>
            rw [clean] at accepted
            cases accepted
        | none =>
            obtain ⟨test, imports, others⟩ := checks.mp clean
            simp only [clean, accept] at accepted
            cases fingerprinted : validator.interpreter.fingerprint proposal.source.text with
            | error exception =>
                rw [fingerprinted] at accepted
                cases accepted
            | ok fingerprint => exact ⟨⟨noRefusal, test, imports, fingerprint, fingerprinted⟩, others⟩
  · rintro ⟨⟨noRefusal, test, imports, fingerprint, fingerprinted⟩, others⟩
    have clean := checks.mpr ⟨test, imports, others⟩
    simp only [noRefusal, parsed, clean, accept]
    rw [fingerprinted]
    exact ⟨_, rfl⟩

end CandidateTestValidator

/-! ## What expressions denote -/

/-- `text.split(".")`. -/
def dottedPath (text : String) : List String := (text.toList.splitOn '.').map String.ofList

/-- The names that a node binds to the dotted paths of what it imports. -/
def importBindings : CandidateNode → List (String × List String)
  | .importNames names => names.map fun item =>
      match item.asname with
      | some bound => (bound, dottedPath item.name)
      | none => (rootName item.name, [rootName item.name])
  | .importFrom level module names =>
      if level ≠ 0 then []
      else (names.filter fun item => item.name ≠ "*").map fun item =>
        (item.asname.getD item.name, dottedPath (module.getD "") ++ [item.name])
  | _ => []

/-- The bindings of all imports of a candidate, at any nesting. -/
def CandidateTree.bindings (tree : CandidateTree) : List (String × List String) :=
  tree.nodes.flatMap importBindings

/-- What an expression may denote under the imports of a candidate. -/
inductive MayDenote (bindings : List (String × List String)) :
    CandidateExpression → List String → Prop where
  | imported {id : String} {path : List String} (bound : (id, path) ∈ bindings) :
      MayDenote bindings (.name id) path
  | builtin {id : String} (unbound : ∀ path, (id, path) ∉ bindings) :
      MayDenote bindings (.name id) ["builtins", id]
  | attribute {value : CandidateExpression} {path : List String} {attr : String}
      (denoted : MayDenote bindings value path) :
      MayDenote bindings (.attribute value attr) (path ++ [attr])

/-! ## Forbidden calls -/

/-- The callables that no candidate may call. -/
def forbiddenCallables : List (List String) :=
  forbiddenCallNames.map (["builtins", ·]) ++ forbiddenAttributeCalls.map fun call => [call.1, call.2]

/-- An expression that spells a forbidden callable as the check expects it. -/
def SpellsForbidden : CandidateExpression → Prop
  | .name id => id ∈ forbiddenCallNames
  | .attribute (.name id) attr => (id, attr) ∈ forbiddenAttributeCalls
  | _ => False

namespace CandidateTree

variable (tree : CandidateTree)

/-- Some call of the candidate denotes a forbidden callable. -/
def CallsForbidden : Prop :=
  ∃ func argument, .call func argument ∈ tree.nodes ∧
    ∃ path ∈ forbiddenCallables, MayDenote tree.bindings func path

/-- Some call of the candidate spells a forbidden callable. -/
def SpellsForbiddenCall : Prop :=
  ∃ func argument, .call func argument ∈ tree.nodes ∧ SpellsForbidden func

end CandidateTree

/-- The check of the calls refuses what is spelled out. -/
theorem callRefusal?_call_eq_none_iff {func : CandidateExpression}
    {argument : Option CandidateExpression} :
    callRefusal? (.call func argument) = none ↔ ¬ SpellsForbidden func := by
  match func with
  | .name id | .attribute (.name id) attr => simp [callRefusal?, SpellsForbidden]
  | .tuple _ | .other => simp [callRefusal?, SpellsForbidden]
  | .attribute (.attribute _ _) _ | .attribute (.tuple _) _ | .attribute .other _ =>
      simp [callRefusal?, SpellsForbidden]

theorem passesCalls_iff {tree : CandidateTree} :
    CandidateTestValidator.PassesCalls tree ↔ ¬ tree.SpellsForbiddenCall := by
  constructor
  · rintro passes ⟨func, argument, called, spelled⟩
    exact callRefusal?_call_eq_none_iff.mp (passes _ called) spelled
  · intro unspelled node mem
    match node with
    | .call func argument =>
        rw [callRefusal?_call_eq_none_iff]
        exact fun spelled => unspelled ⟨func, argument, mem, spelled⟩
    | .importNames _ | .importFrom _ _ _ | .attribute _ | .exceptHandler _ _ => rfl

/-- What the body of a handler is made of. -/
inductive HandlerStatement where
  | pass
  | continueLoop
  | breakLoop
  | constant
  | bareReturn
  | other
  deriving DecidableEq

/-- The statements that the check takes for discarding an outcome. -/
def HandlerStatement.isOutcomeDiscarding : HandlerStatement → Bool
  | pass | continueLoop | breakLoop => true
  | _ => false

/-- The statements that record nothing of an outcome. -/
def HandlerStatement.recordsNothing : HandlerStatement → Bool
  | other => false
  | _ => true

/-- A node with all that decides what it catches or expects. -/
inductive CandidateSyntax where
  | importNames (names : List ImportAlias)
  | importFrom (level : Nat) (module : Option String) (names : List ImportAlias)
  | call (func : CandidateExpression) (arguments : List CandidateExpression)
      (keywords : List (String × CandidateExpression))
  | attribute (attr : String)
  | exceptHandler (type : Option CandidateExpression) (body : List HandlerStatement)

/-- What the checks look at in a node. -/
def CandidateSyntax.node : CandidateSyntax → CandidateNode
  | importNames names => .importNames names
  | importFrom level module names => .importFrom level module names
  | call func arguments _ => .call func arguments.head?
  | «attribute» attr => .attribute attr
  | exceptHandler type body => .exceptHandler type (body.all HandlerStatement.isOutcomeDiscarding)

/-- A candidate with all that decides what it catches or expects. -/
structure CandidateSource where
  functions : List String
  imports : List CandidateSyntax
  nodes : List CandidateSyntax

/-- What the checks look at in a candidate. -/
def CandidateSource.tree (source : CandidateSource) : CandidateTree :=
  ⟨source.functions, source.imports.map CandidateSyntax.node, source.nodes.map CandidateSyntax.node⟩

mutual

/-- The types that an expression of a handler stands for. -/
def typeLeaves : CandidateExpression → List CandidateExpression
  | .tuple elements => typeLeavesOf elements
  | .name id => [.name id]
  | .attribute value attr => [.attribute value attr]
  | .other => [.other]

def typeLeavesOf : List CandidateExpression → List CandidateExpression
  | [] => []
  | element :: rest => typeLeaves element ++ typeLeavesOf rest

end

/-- The types that catch everything. -/
def overbroadTypes : List (List String) := overbroadExceptionNames.map (["builtins", ·])

section Specific

variable (bindings : List (String × List String))

/-- At least one type is named, each as a chain of names, and none may be a type that catches
everything. -/
structure SpecificType (type : CandidateExpression) : Prop where
  named : typeLeaves type ≠ []
  chains : ∀ leaf ∈ typeLeaves type, (dottedParts? leaf).isSome = true
  specific : ∀ leaf ∈ typeLeaves type, ∀ path, MayDenote bindings leaf path → path ∉ overbroadTypes

/-- A handler of specific types whose body records something. -/
structure GuardedHandler (type : Option CandidateExpression) (body : List HandlerStatement) : Prop where
  typed : ∃ named, type = some named ∧ SpecificType bindings named
  records : ∃ statement ∈ body, statement.recordsNothing = false

/-- The type that is expected: the first argument, or the keyword. -/
def expectedType? (arguments : List CandidateExpression)
    (keywords : List (String × CandidateExpression)) : Option CandidateExpression :=
  arguments.head?.or (keywords.lookup "expected_exception")

/-- A call is given a specific type. -/
def ExpectsSpecific (arguments : List CandidateExpression)
    (keywords : List (String × CandidateExpression)) : Prop :=
  ∃ type, expectedType? arguments keywords = some type ∧ SpecificType bindings type

/-- A name that an import binds to a type that catches everything. -/
def HidesOverbroad (leaf : CandidateExpression) : Prop :=
  ∃ id path, leaf = .name id ∧ (id, path) ∈ bindings ∧ path ∈ overbroadTypes

/-- At least one type is named, each as a chain of names, and none is a name that an import binds
to a type that catches everything. -/
structure PlainType (type : CandidateExpression) : Prop where
  named : typeLeaves type ≠ []
  chains : ∀ leaf ∈ typeLeaves type, (dottedParts? leaf).isSome = true
  visible : ∀ leaf ∈ typeLeaves type, ¬ HidesOverbroad bindings leaf

end Specific

/-- `pytest.raises`, with a first argument. -/
def SpellsRaises (func : CandidateExpression) (arguments : List CandidateExpression) : Prop :=
  func = .attribute (.name "pytest") "raises" ∧ arguments ≠ []

namespace CandidateSource

variable (source : CandidateSource)

/-- No handler catches everything or discards an outcome, and no expectation is of everything. -/
structure Guarded : Prop where
  handlers : ∀ type body, .exceptHandler type body ∈ source.nodes →
    GuardedHandler source.tree.bindings type body
  raises : ∀ func arguments keywords, .call func arguments keywords ∈ source.nodes →
    MayDenote source.tree.bindings func ["pytest", "raises"] →
      ExpectsSpecific source.tree.bindings arguments keywords

/-- The candidate leaves no gap between what is written and what is denoted. -/
structure LeavesNoGap : Prop where
  types : ∀ type body, .exceptHandler (some type) body ∈ source.nodes →
    PlainType source.tree.bindings type
  bodies : ∀ type body, .exceptHandler type body ∈ source.nodes →
    ∃ statement ∈ body, statement.recordsNothing = false
  spelled : ∀ func argument arguments keywords,
    .call func (argument :: arguments) keywords ∈ source.nodes →
      SpellsRaises func (argument :: arguments) →
      MayDenote source.tree.bindings func ["pytest", "raises"] →
        PlainType source.tree.bindings argument
  unspelled : ∀ func arguments keywords, .call func arguments keywords ∈ source.nodes →
    ¬ SpellsRaises func arguments → MayDenote source.tree.bindings func ["pytest", "raises"] →
      ExpectsSpecific source.tree.bindings arguments keywords

end CandidateSource

/-! ## Names of types -/

theorem leafName_of_mem {name : String} (broad : name ∈ overbroadExceptionNames) : leafName name = name := by
  revert name
  decide +kernel

/-- The leaf of a name is what follows its last dot. -/
theorem leafName_append_dot (front : String) {last : String} (plain : '.' ∉ last.toList) :
    leafName (front ++ "." ++ last) = last := by
  have split : (front ++ "." ++ last).toList.reverse =
      last.toList.reverse ++ '.' :: front.toList.reverse := by simp
  have kept : ∀ c ∈ last.toList.reverse, (c != '.') = true := by
    intro c mem
    refine bne_iff_ne.mpr fun same => plain ?_
    rw [← same]
    exact List.mem_reverse.mp mem
  rw [leafName, split, List.takeWhile_append_of_pos kept, List.takeWhile_cons_of_neg (by simp),
    List.append_nil, List.reverse_reverse, String.ofList_toList]

theorem dottedParts?_ne_nil {expression : CandidateExpression} {parts : List String}
    (dotted : dottedParts? expression = some parts) : parts ≠ [] := by
  match expression with
  | .name id =>
      cases dotted
      simp
  | .attribute value attr =>
      rw [dottedParts?, Option.map_eq_some_iff] at dotted
      obtain ⟨front, _, rfl⟩ := dotted
      simp
  | .tuple _ | .other => cases dotted

/-- The leaf of what a chain of attributes names is its last attribute. -/
theorem leafName_exceptionName {value : CandidateExpression} {attr : String}
    (chain : (dottedParts? (.attribute value attr)).isSome = true)
    (broad : attr ∈ overbroadExceptionNames) :
    ∃ name ∈ exceptionNames (.attribute value attr), leafName name = attr := by
  rw [dottedParts?, Option.isSome_map] at chain
  obtain ⟨parts, dotted⟩ := Option.isSome_iff_exists.mp chain
  have plain : '.' ∉ attr.toList := by
    revert attr
    decide +kernel
  refine ⟨".".intercalate (parts ++ [attr]), ?_, ?_⟩
  · simp [exceptionNames, dotted]
  · rw [String.intercalate_append_of_ne_nil (dottedParts?_ne_nil dotted) (List.cons_ne_nil _ _),
      String.intercalate_singleton, leafName_append_dot _ plain]

section Types

variable {bindings : List (String × List String)} {leaf type : CandidateExpression}

/-- **What the check of a name leaves open.**  A chain of names whose last name is not too broad
may denote a type that catches everything only through an alias. -/
theorem specific_iff_visible (chain : (dottedParts? leaf).isSome = true)
    (narrow : ∀ name ∈ exceptionNames leaf, leafName name ∉ overbroadExceptionNames) :
    (∀ path, MayDenote bindings leaf path → path ∉ overbroadTypes) ↔ ¬ HidesOverbroad bindings leaf := by
  constructor
  · rintro specific ⟨id, path, rfl, bound, broad⟩
    exact specific path (.imported bound) broad
  · intro visible path denoted broad
    obtain ⟨last, mem, same⟩ := List.mem_map.mp broad
    cases denoted with
    | imported bound => exact visible ⟨_, _, rfl, bound, broad⟩
    | builtin unbound =>
        obtain rfl : last = _ := by simpa using same
        refine narrow last (by simp [exceptionNames]) ?_
        rw [leafName_of_mem mem]
        exact mem
    | «attribute» denoted =>
        rename_i value front attr
        have final := congrArg List.getLast? same
        rw [List.getLast?_concat] at final
        obtain rfl : last = attr := by simpa using final
        obtain ⟨name, named, leafed⟩ := leafName_exceptionName chain mem
        exact narrow name named (leafed.symm ▸ mem)

mutual

theorem exceptionNames_eq_flatMap (type : CandidateExpression) :
    exceptionNames type = (typeLeaves type).flatMap exceptionNames := by
  match type with
  | .tuple elements =>
      rw [exceptionNames, typeLeaves]
      exact exceptionNamesOf_eq_flatMap elements
  | .name _ | .attribute _ _ | .other => simp [typeLeaves]

theorem exceptionNamesOf_eq_flatMap (elements : List CandidateExpression) :
    exceptionNamesOf elements = (typeLeavesOf elements).flatMap exceptionNames := by
  match elements with
  | [] => rfl
  | element :: rest =>
      rw [exceptionNamesOf, typeLeavesOf, List.flatMap_append, exceptionNames_eq_flatMap element,
        exceptionNamesOf_eq_flatMap rest]

end

/-- A type whose names are not too broad is specific when it is plain. -/
theorem specificType_iff (narrow : ∀ name ∈ exceptionNames type,
    leafName name ∉ overbroadExceptionNames) :
    SpecificType bindings type ↔ PlainType bindings type := by
  have narrowLeaf : ∀ leaf ∈ typeLeaves type, ∀ name ∈ exceptionNames leaf,
      leafName name ∉ overbroadExceptionNames := by
    intro leaf mem name named
    refine narrow name ?_
    rw [exceptionNames_eq_flatMap]
    exact List.mem_flatMap.mpr ⟨leaf, mem, named⟩
  constructor
  · rintro ⟨named, chains, specific⟩
    exact ⟨named, chains, fun leaf mem =>
      (specific_iff_visible (chains leaf mem) (narrowLeaf leaf mem)).mp (specific leaf mem)⟩
  · rintro ⟨named, chains, visible⟩
    exact ⟨named, chains, fun leaf mem =>
      (specific_iff_visible (chains leaf mem) (narrowLeaf leaf mem)).mpr (visible leaf mem)⟩

end Types

/-! ## What the check of exceptions establishes -/

section Checked

variable {validator : CandidateTestValidator} {source : CandidateSource}

/-- A handler that passes has a type whose names are not too broad. -/
theorem handler_of_passes (passes : validator.PassesExceptions source.tree)
    {type : Option CandidateExpression} {body : List HandlerStatement}
    (caught : .exceptHandler type body ∈ source.nodes) :
    ∃ named, type = some named ∧
      ∀ name ∈ exceptionNames named, leafName name ∉ overbroadExceptionNames := by
  have checked := passes _ (List.mem_map_of_mem caught)
  simp only [CandidateSyntax.node, exceptionRefusal?] at checked
  cases type with
  | none => cases checked
  | some named =>
      rw [handlerRefusal?, Option.or_eq_none_iff, List.findSome?_eq_none_iff] at checked
      refine ⟨named, rfl, fun name mem broad => ?_⟩
      have refused := checked.1 name mem
      rw [caughtRefusal?, if_pos (List.contains_iff_mem.mpr broad)] at refused
      cases refused

/-- An expectation that is spelled out and passes has a type whose names are not too broad. -/
theorem raises_of_passes (passes : validator.PassesExceptions source.tree)
    {func argument : CandidateExpression} {arguments : List CandidateExpression}
    {keywords : List (String × CandidateExpression)}
    (called : .call func (argument :: arguments) keywords ∈ source.nodes)
    (spelled : SpellsRaises func (argument :: arguments)) :
    ∀ name ∈ exceptionNames argument, leafName name ∉ overbroadExceptionNames := by
  intro name mem broad
  obtain ⟨rfl, _⟩ := spelled
  have checked := passes _ (List.mem_map_of_mem called)
  simp only [CandidateSyntax.node, List.head?_cons, exceptionRefusal?,
    List.findSome?_eq_none_iff] at checked
  have refused := checked name mem
  rw [raisesRefusal?, if_pos (List.contains_iff_mem.mpr broad)] at refused
  cases refused

/-- **For a candidate that passes, guarded is without a gap.** -/
theorem guarded_iff_leavesNoGap (passes : validator.PassesExceptions source.tree) :
    source.Guarded ↔ source.LeavesNoGap := by
  constructor
  · intro guarded
    refine ⟨fun type body caught => ?_, fun type body caught => ?_, ?_, ?_⟩
    · obtain ⟨named, same, narrow⟩ := handler_of_passes passes caught
      obtain ⟨typed, sameTyped, specific⟩ := (guarded.handlers _ body caught).typed
      cases same
      cases sameTyped
      exact (specificType_iff narrow).mp specific
    · exact (guarded.handlers type body caught).records
    · intro func argument arguments keywords called spelled denoted
      obtain ⟨type, expected, specific⟩ := guarded.raises func _ keywords called denoted
      obtain rfl : argument = type := by simpa [expectedType?] using expected
      exact (specificType_iff (raises_of_passes passes called spelled)).mp specific
    · intro func arguments keywords called _ denoted
      exact guarded.raises func arguments keywords called denoted
  · intro tight
    refine ⟨fun type body caught => ⟨?_, tight.bodies type body caught⟩, ?_⟩
    · obtain ⟨named, rfl, narrow⟩ := handler_of_passes passes caught
      exact ⟨named, rfl, (specificType_iff narrow).mpr (tight.types named body caught)⟩
    · intro func arguments keywords called denoted
      by_cases spelled : SpellsRaises func arguments
      · cases arguments with
        | nil => exact absurd rfl spelled.2
        | cons argument arguments =>
            have plain := tight.spelled func argument arguments keywords called spelled denoted
            exact ⟨argument, rfl,
              (specificType_iff (raises_of_passes passes called spelled)).mpr plain⟩
      · exact tight.unspelled func arguments keywords called spelled denoted

end Checked

def candidateText (text : String) (bounded : 1 ≤ text.length ∧ text.length ≤ 16000) :
    BoundedText 1 16000 := ⟨text, bounded⟩

/-- An interpreter that knows one source. -/
def interpreterOf (source : String) (tree : CandidateTree) : CandidateInterpreter where
  parse text := if text = source then .tree tree else .syntaxError "invalid syntax"
  fingerprint _ := .ok ⟨String.ofList (List.replicate 64 'b'), isSha256_bs⟩
  stdlibModules := ["builtins", "os"]
  isBuiltinException name := ["BaseException", "Exception", "LookupError", "ValueError"].contains name
  excerptModules _ := []

def candidateOf (source : BoundedText 1 16000) : CandidateTestProposal where
  candidateId := "candidate-initial"
  targetPath := "checks/test_candidate.py"
  testFunction := generatedTestFunction
  source := source
  rationale := ⟨"observes the change", by decide +kernel⟩
  wellFormed := by decide +kernel

def candidateScope : ValidationScope := ⟨emptyContext, ["checks/"], []⟩

def validatorOf (source : BoundedText 1 16000) (tree : CandidateTree) : CandidateTestValidator :=
  { interpreter := interpreterOf source.text tree }

theorem parse_validatorOf (source : BoundedText 1 16000) (tree : CandidateTree) :
    (validatorOf source tree).interpreter.parse (candidateOf source).source.text = .tree tree :=
  if_pos rfl

/-! ## An import that hides a call -/

/-- `os.system`, imported under its own name. -/
def importedCallSource : BoundedText 1 16000 := candidateText
  ("from os import system\n\n\ndef test_patchproof_generated_behavior():\n" ++
    "    assert system(\"true\") == 0\n") (by decide +kernel)

def importedCallTree : CandidateTree where
  functions := [generatedTestFunction]
  imports := [.importFrom 0 (some "os") [⟨"system", none⟩]]
  nodes := [.importFrom 0 (some "os") [⟨"system", none⟩], .call (.name "system") (some .other)]

/-- `os.system`, spelled out. -/
def spelledCallSource : BoundedText 1 16000 := candidateText
  ("import os\n\n\ndef test_patchproof_generated_behavior():\n" ++
    "    assert os.system(\"true\") == 0\n") (by decide +kernel)

def spelledCallTree : CandidateTree where
  functions := [generatedTestFunction]
  imports := [.importNames [⟨"os", none⟩]]
  nodes := [.importNames [⟨"os", none⟩], .call (.attribute (.name "os") "system") (some .other),
    .attribute "system"]

theorem accepts_of_isOk {validator : CandidateTestValidator} {scope : ValidationScope}
    {proposal : CandidateTestProposal} (returned : (validator.validate scope proposal).isOk = true) :
    validator.Accepts scope proposal := by
  unfold CandidateTestValidator.Accepts
  cases outcome : validator.validate scope proposal with
  | error failure =>
      rw [outcome] at returned
      cases returned
  | ok validated => exact ⟨validated, rfl⟩

/-- A handler of an alias of `Exception` that holds a constant. -/
def aliasedHandlerSource : BoundedText 1 16000 := candidateText
  ("from builtins import Exception as Problem\n\n\ndef test_patchproof_generated_behavior():\n" ++
    "    try:\n        assert False\n    except Problem:\n        ...\n") (by decide +kernel)

def aliasedHandler : CandidateSource where
  functions := [generatedTestFunction]
  imports := [.importFrom 0 (some "builtins") [⟨"Exception", some "Problem"⟩]]
  nodes := [.importFrom 0 (some "builtins") [⟨"Exception", some "Problem"⟩],
    .exceptHandler (some (.name "Problem")) [.constant]]

/-- A handler of one builtin that records what it caught. -/
def namedHandlerSource : BoundedText 1 16000 := candidateText
  ("def test_patchproof_generated_behavior():\n    try:\n        outcome = int(\"x\")\n" ++
    "    except ValueError:\n        outcome = None\n    assert outcome is None\n") (by decide +kernel)

def namedHandler : CandidateSource where
  functions := [generatedTestFunction]
  imports := []
  nodes := [.exceptHandler (some (.name "ValueError")) [.other], .call (.name "int") [.other] []]

end PatchProof
