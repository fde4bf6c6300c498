import PatchProof.Context.Sources
import PatchProof.Evidence.Candidate

/-!
# The candidate validator

What stands between a proposal and an artifact: the checks of the path, of the syntax, of
the imports, calls and exception handlers, and of the interface of both revisions.  The
first check that fails refuses the proposal, with a message that names what it found.

A message of more than 500 characters is no valid issue.  Names in a message come from the
candidate's source, and nothing bounds them: a proposal that is refused over a long name
ends in an exception that is not the validator's own (`validate_raises_iff`).
-/

set_option autoImplicit false

namespace PatchProof

/-! ## Syntax -/

/-- What the checks look at in an expression. -/
inductive CandidateExpression where
  | name (id : String)
  | attribute (value : CandidateExpression) (attr : String)
  | tuple (elements : List CandidateExpression)
  | other

/-- One name of an import statement. -/
structure ImportAlias where
  name : String
  asname : Option String

/-- What the checks look at in a node that the walk of a tree meets. -/
inductive CandidateNode where
  | importNames (names : List ImportAlias)
  | importFrom (level : Nat) (module : Option String) (names : List ImportAlias)
  | call (func : CandidateExpression) (firstArgument : Option CandidateExpression)
  | attribute (attr : String)
  | exceptHandler (type : Option CandidateExpression) (discardsOnly : Bool)

/-- A parsed candidate: the names of its top-level functions, its top-level imports, and
all nodes in the order of the walk. -/
structure CandidateTree where
  functions : List String
  imports : List CandidateNode
  nodes : List CandidateNode

/-- How parsing a candidate ends: also with an exception other than a syntax error. -/
inductive CandidateParse where
  | tree (tree : CandidateTree)
  | syntaxError (message : String)
  | raised (exception : RaisedException)

/-- What the validator takes from the interpreter: the parser, the fingerprint of a source
with one test, the modules of the standard library, the builtin exceptions, and the modules
that the imports of an excerpt name. -/
structure CandidateInterpreter where
  parse : String → CandidateParse
  fingerprint : String → Except RaisedException Sha256
  stdlibModules : List String
  isBuiltinException : String → Bool
  excerptModules : String → List String

/-! ## Tables -/

def blockedImportRoots : List String :=
  ["asyncio.subprocess", "ctypes", "ftplib", "http", "httpx", "multiprocessing", "requests",
    "socket", "smtplib", "subprocess", "telnetlib", "urllib"]

def forbiddenCallNames : List String := ["__import__", "compile", "eval", "exec"]

def forbiddenAttributeCalls : List (String × String) :=
  [("os", "popen"), ("os", "system"), ("pytest", "main"), ("shutil", "rmtree")]

def overbroadExceptionNames : List String := ["BaseException", "Exception"]

/-! ## Refusals -/

/-- Why a proposal is refused, before the message is bounded. -/
structure Refusal where
  code : CandidateIssueCode
  message : String

/-- `name!r`, of a name, which has no quotes. -/
def quotedName (name : String) : String := "'" ++ name ++ "'"

/-- `text.split(".", maxsplit=1)[0]`. -/
def rootName (text : String) : String := String.ofList (text.toList.takeWhile (· != '.'))

/-- `_import_bindings`, the names that are bound. -/
def boundByImport : CandidateNode → List String
  | .importNames names => names.map fun item => item.asname.getD (rootName item.name)
  | .importFrom _ _ names =>
      (names.filter fun item => item.name ≠ "*").map fun item => item.asname.getD item.name
  | _ => []

/-- The modules that a node imports. -/
def importedModules : CandidateNode → List String
  | .importNames names => names.map ImportAlias.name
  | .importFrom _ module _ => module.toList.filter (· ≠ "")
  | _ => []

/-- The first refusal over the modules of a node. -/
def moduleRefusal? (allowedRoots : List String) (module : String) : Option Refusal :=
  let root := rootName module
  if blockedImportRoots.contains module || blockedImportRoots.contains root then
    some ⟨.blockedImport, "generated candidate imports blocked module " ++ quotedName root⟩
  else if !allowedRoots.contains root then
    some ⟨.ungroundedImport,
      "import root " ++ quotedName root ++ " is absent from deterministic context"⟩
  else none

/-- `_validate_imports`, of one node. -/
def importRefusal? (allowedRoots : List String) (node : CandidateNode) : Option Refusal :=
  match node with
  | .importFrom level _ names =>
      if level ≠ 0 then
        some ⟨.relativeImport, "relative imports are not allowed in generated candidates"⟩
      else if names.any fun item => item.name = "*" then
        some ⟨.wildcardImport, "wildcard imports are not allowed in generated candidates"⟩
      else (importedModules node).findSome? (moduleRefusal? allowedRoots)
  | _ => (importedModules node).findSome? (moduleRefusal? allowedRoots)

/-- `_validate_calls`, of one node. -/
def callRefusal? : CandidateNode → Option Refusal
  | .call (.name id) _ =>
      if forbiddenCallNames.contains id then
        some ⟨.forbiddenCall, "generated candidate calls forbidden builtin " ++ quotedName id⟩
      else none
  | .call (.attribute (.name id) attr) _ =>
      if forbiddenAttributeCalls.contains (id, attr) then
        some ⟨.forbiddenCall, "generated candidate calls forbidden API " ++ id ++ "." ++ attr⟩
      else none
  | _ => none

/-- The name and the attributes of a chain of attributes that starts at a name. -/
def dottedParts? : CandidateExpression → Option (List String)
  | .name id => some [id]
  | .attribute value attr => (dottedParts? value).map (· ++ [attr])
  | _ => none

mutual
/-- `_exception_names`. -/
def exceptionNames : CandidateExpression → List String
  | .name id => [id]
  | .attribute value attr =>
      match dottedParts? value with
      | some parts => [".".intercalate (parts ++ [attr])]
      | none => [attr]
  | .tuple elements => exceptionNamesOf elements
  | .other => []

def exceptionNamesOf : List CandidateExpression → List String
  | [] => []
  | element :: rest => exceptionNames element ++ exceptionNamesOf rest
end

/-- `_is_grounded_exception`. -/
def isGroundedException (interpreter : CandidateInterpreter) (bindings : List String)
    (name : String) : Bool :=
  if bindings.contains (rootName name) then true
  else if isDotted name then false
  else interpreter.isBuiltinException name

/-- The refusal of an exception that a handler names. -/
def caughtRefusal? (interpreter : CandidateInterpreter) (bindings : List String) (name : String) :
    Option Refusal :=
  if overbroadExceptionNames.contains (leafName name) then
    some ⟨.broadExceptionHandler,
      "catching " ++ quotedName name ++ " is too broad to be claim-scoped evidence"⟩
  else if !isGroundedException interpreter bindings name then
    some ⟨.ungroundedExceptionType,
      "exception type " ++ quotedName name ++ " is neither a builtin nor imported by the test"⟩
  else none

/-- `_validate_handler`. -/
def handlerRefusal? (interpreter : CandidateInterpreter) (bindings : List String)
    (type : Option CandidateExpression) (discardsOnly : Bool) : Option Refusal :=
  match type with
  | none => some ⟨.broadExceptionHandler,
      "a bare except clause cannot express a specific behavioral expectation"⟩
  | some type =>
      ((exceptionNames type).findSome? (caughtRefusal? interpreter bindings)).or
        (if discardsOnly then
          some ⟨.swallowedOutcome,
            "an except clause must record the outcome for an assertion, not discard it"⟩
        else none)

/-- `_validate_raises_call`, of an exception that the first argument names. -/
def raisesRefusal? (name : String) : Option Refusal :=
  if overbroadExceptionNames.contains (leafName name) then
    some ⟨.broadExceptionHandler,
      "pytest.raises(" ++ name ++ ") is too broad to be claim-scoped evidence"⟩
  else none

/-- `_validate_exception_handling`, of one node. -/
def exceptionRefusal? (interpreter : CandidateInterpreter) (bindings : List String) :
    CandidateNode → Option Refusal
  | .exceptHandler type discardsOnly => handlerRefusal? interpreter bindings type discardsOnly
  | .call (.attribute (.name "pytest") "raises") (some argument) =>
      (exceptionNames argument).findSome? raisesRefusal?
  | _ => none

/-- `_validate_shared_interface`, of one node. -/
def interfaceRefusal? (headOnly : List String) (node : CandidateNode) : Option Refusal :=
  let named := match node with
    | .importFrom _ _ names => (names.map ImportAlias.name).find? headOnly.contains
    | .attribute attr => if headOnly.contains attr then some attr else none
    | _ => none
  named.map fun name => ⟨.headOnlyInterface, quotedName name ++
    " exists only on HEAD; test observable behavior through an " ++
    "interface present on both revisions instead"⟩

/-! ## Artifacts -/

/-- A proposal's source is an artifact at its path, in which its test is selected. -/
theorem CandidateTestProposal.artifact_wellFormed (proposal : CandidateTestProposal) :
    proposal.source.text ≠ "" ∧ isArtifactPath proposal.targetPath = true ∧
      isNodeIdOf proposal.targetPath
        (proposal.targetPath ++ "::" ++ proposal.testFunction) = true := by
  obtain ⟨_, path, function⟩ := proposal.wellFormed
  simp only [isCandidatePath, Bool.and_eq_true, List.all_eq_true, bne_iff_ne] at path
  simp only [isTestFunction, Bool.and_eq_true, List.all_eq_true, decide_eq_true_eq] at function
  obtain ⟨⟨characters, segments⟩, final⟩ := path
  obtain ⟨⟨⟨starts, long⟩, _⟩, words⟩ := function
  refine ⟨fun empty => ?_, ?_, ?_⟩
  · have positive := proposal.source.bounded.1
    rw [empty] at positive
    exact absurd positive (by decide)
  · simp only [isArtifactPath, Bool.and_eq_true, List.all_eq_true, bne_iff_ne]
    refine ⟨⟨fun c mem => (characters c mem).1.1, segments⟩, ?_⟩
    cases isLast : (pathSegments proposal.targetPath.toList).getLast? with
    | none =>
        rw [isLast] at final
        cases final
    | some name =>
        rw [isLast] at final
        simp only [Bool.and_eq_true, decide_eq_true_eq] at final
        obtain ⟨⟨⟨_, suffix⟩, longName⟩, _⟩ := final
        have dropped := List.suffix_iff_eq_drop.mp (List.isSuffixOf_iff_suffix.mp suffix)
        simp only [Bool.and_eq_true, decide_eq_true_eq, beq_iff_eq]
        exact ⟨by omega, dropped.symm⟩
  · have clean : ∀ c ∈ proposal.testFunction.toList, c ≠ '\x00' ∧ c ≠ '\n' ∧ c ≠ '\r' := by
      intro c mem
      rw [← List.take_append_drop 5 proposal.testFunction.toList] at mem
      rcases List.mem_append.mp mem with front | rest
      · have same : proposal.testFunction.toList.take 5 = "test_".toList :=
          (List.prefix_iff_eq_take.mp (List.isPrefixOf_iff_prefix.mp starts)).symm
        rw [same] at front
        have literal : "test_".toList = ['t', 'e', 's', 't', '_'] := rfl
        rw [literal] at front
        simp only [List.mem_cons, List.not_mem_nil, or_false] at front
        rcases front with rfl | rfl | rfl | rfl | rfl <;> decide
      · have word := words c rest
        refine ⟨?_, ?_, ?_⟩
        all_goals
          rintro rfl
          exact absurd word (by decide)
    simp only [isNodeIdOf, Bool.and_eq_true, List.isPrefixOf_iff_prefix, decide_eq_true_eq,
      List.all_eq_true, bne_iff_ne, String.toList_append]
    refine ⟨⟨List.prefix_append _ _, ?_⟩, fun c mem => ?_⟩
    · simp only [List.length_append, List.length_cons, List.length_nil]
      have colons : "::".toList.length = 2 := rfl
      omega
    · rcases List.mem_append.mp mem with front | rest
      · rcases List.mem_append.mp front with inPath | colon
        · have safe := characters c inPath
          exact ⟨⟨safe.1.1.2, safe.1.2⟩, safe.2⟩
        · have literal : "::".toList = [':', ':'] := rfl
          rw [literal] at colon
          simp only [List.mem_cons, List.not_mem_nil, or_false, or_self] at colon
          subst colon
          decide
      · have safe := clean c rest
        exact ⟨⟨safe.1, safe.2.1⟩, safe.2.2⟩

/-! ## The validator -/

/-- `CandidateTestValidator`, with the interpreter it runs on. -/
structure CandidateTestValidator where
  interpreter : CandidateInterpreter
  maxSourceBytes : Nat := 16000
  installedImportRoots : List String := []

/-- What a proposal is validated against. -/
structure ValidationScope where
  context : PullRequestContext
  allowedTestPaths : List String
  existingPaths : List String

namespace CandidateTestValidator

variable (validator : CandidateTestValidator) (scope : ValidationScope)

/-- The root that a path of the context gives. -/
def pathRoot? (path : RepositoryPath) : Option String :=
  match path.parts with
  | "src" :: package :: _ => some package
  | first :: _ => if ["test", "tests"].contains first then none else some (stemOf first)
  | [] => none

/-- `_allowed_import_roots`. -/
def allowedImportRoots : List String :=
  let paths := scope.context.changedFiles.map ChangedFile.path ++
    scope.context.snippets.map ContextSnippet.path
  let excerpts := scope.context.snippets.flatMap fun snippet =>
    validator.interpreter.excerptModules snippet.content
  validator.interpreter.stdlibModules ++ ["pytest"] ++ paths.filterMap pathRoot? ++
    (excerpts.filter (· ≠ "")).map rootName

/-- The refusals that need no syntax tree. -/
def proposalRefusal? (proposal : CandidateTestProposal) : Option Refusal :=
  if !scope.allowedTestPaths.any fun allowed => startsWith allowed proposal.targetPath then
    some ⟨.pathNotAllowed, "candidate target is outside allowed_test_paths"⟩
  else if scope.existingPaths.contains proposal.targetPath then
    some ⟨.pathAlreadyExists, "candidate target would overwrite a committed repository path"⟩
  else if validator.maxSourceBytes < proposal.source.text.utf8ByteSize then
    some ⟨.sourceTooLarge, "candidate source exceeds the configured byte budget"⟩
  else none

/-- The refusals of the tests of a tree. -/
def testRefusal? (proposal : CandidateTestProposal) (tree : CandidateTree) : Option Refusal :=
  let tests := tree.functions.filter (startsWith "test_")
  if !tests.contains proposal.testFunction then
    some ⟨.testFunctionMismatch, "declared test function is not a top-level pytest function"⟩
  else if tests.length ≠ 1 then
    some ⟨.multipleTests, "candidate source must define exactly one top-level test function"⟩
  else none

/-- The first refusal of a tree, in the order of the checks. -/
def treeRefusal? (proposal : CandidateTestProposal) (tree : CandidateTree) : Option Refusal :=
  let roots := validator.allowedImportRoots scope ++ validator.installedImportRoots
  let bindings := tree.imports.flatMap boundByImport
  (testRefusal? proposal tree).or <|
    (tree.nodes.findSome? (importRefusal? roots)).or <|
    (tree.nodes.findSome? callRefusal?).or <|
    (tree.nodes.findSome? (exceptionRefusal? validator.interpreter bindings)).or <|
    tree.nodes.findSome? (interfaceRefusal? scope.context.interfaces.headOnlyLeafNames)

/-- `_reject`. -/
def reject (refusal : Refusal) : CandidateValidationFailure :=
  if bounded : 1 ≤ refusal.message.length ∧ refusal.message.length ≤ 500 then
    .issues [⟨refusal.code, ⟨refusal.message, bounded⟩⟩]
  else .raised (.value "message must have 1 to 500 characters")

/-- The artifact of a proposal. -/
def artifact (proposal : CandidateTestProposal) : TestArtifact where
  relativePath := proposal.targetPath
  nodeId := proposal.targetPath ++ "::" ++ proposal.testFunction
  content := proposal.source.text
  wellFormed := proposal.artifact_wellFormed

/-- The end of `validate`, for a proposal that nothing refuses. -/
def accept (proposal : CandidateTestProposal) (tree : CandidateTree) :
    Except CandidateValidationFailure ValidatedCandidate :=
  match validator.interpreter.fingerprint proposal.source.text with
  | .error exception => .error (.raised exception)
  | .ok fingerprint => .ok {
      proposal := proposal
      artifact := artifact proposal
      importedRoots := sortedSet ((tree.nodes.flatMap importedModules).map rootName)
      behaviorFingerprint := fingerprint }

/-- `validate`. -/
def validate (proposal : CandidateTestProposal) :
    Except CandidateValidationFailure ValidatedCandidate :=
  match validator.proposalRefusal? scope proposal with
  | some refusal => .error (reject refusal)
  | none =>
      match validator.interpreter.parse proposal.source.text with
      | .raised exception => .error (.raised exception)
      | .syntaxError message =>
          .error (reject ⟨.syntaxError, "candidate source is not valid Python: " ++ message⟩)
      | .tree tree =>
          match validator.treeRefusal? scope proposal tree with
          | some refusal => .error (reject refusal)
          | none => validator.accept proposal tree

/-! ## When the validator raises -/

/-- The first refusal of a proposal; a source that the parser fails on has none. -/
def refusal? (proposal : CandidateTestProposal) : Option Refusal :=
  (validator.proposalRefusal? scope proposal).or <|
    match validator.interpreter.parse proposal.source.text with
    | .raised _ => none
    | .syntaxError message =>
        some ⟨.syntaxError, "candidate source is not valid Python: " ++ message⟩
    | .tree tree => validator.treeRefusal? scope proposal tree

/-- The first refusal has a message within its bounds, or there is none and the source can
be parsed and rendered for its fingerprint. -/
def Judgeable (proposal : CandidateTestProposal) : Prop :=
  match validator.refusal? scope proposal with
  | some refusal => 1 ≤ refusal.message.length ∧ refusal.message.length ≤ 500
  | none => (∃ tree, validator.interpreter.parse proposal.source.text = .tree tree) ∧
      ∃ fingerprint, validator.interpreter.fingerprint proposal.source.text = .ok fingerprint

variable {validator scope} {proposal : CandidateTestProposal}

theorem reject_raises_iff {refusal : Refusal} : (∃ exception, reject refusal = .raised exception) ↔
    ¬ (1 ≤ refusal.message.length ∧ refusal.message.length ≤ 500) := by
  unfold reject
  split
  · rename_i bounded
    simp [bounded]
  · rename_i unbounded
    simp [unbounded]

theorem accept_raises_iff {tree : CandidateTree} :
    (∃ exception, validator.accept proposal tree = .error (.raised exception)) ↔
      ¬ ∃ fingerprint, validator.interpreter.fingerprint proposal.source.text = .ok fingerprint := by
  unfold accept
  cases validator.interpreter.fingerprint proposal.source.text with
  | error exception => simp
  | ok fingerprint => simp

/-- **The validator raises an exception of its own exactly when the proposal is not
judgeable.** -/
theorem validate_raises_iff :
    (∃ exception, validator.validate scope proposal = .error (.raised exception)) ↔
      ¬ validator.Judgeable scope proposal := by
  unfold validate Judgeable refusal?
  cases validator.proposalRefusal? scope proposal with
  | some refusal =>
      simp only [Option.some_or, Except.error.injEq]
      exact reject_raises_iff
  | none =>
      simp only [Option.none_or]
      cases parsed : validator.interpreter.parse proposal.source.text with
      | raised exception => simp
      | syntaxError message =>
          simp only [Except.error.injEq]
          exact reject_raises_iff
      | tree tree =>
          dsimp only
          cases validator.treeRefusal? scope proposal tree with
          | some refusal =>
              simp only [Except.error.injEq]
              exact reject_raises_iff
          | none =>
              dsimp only
              rw [accept_raises_iff]
              simp

end CandidateTestValidator

end PatchProof
