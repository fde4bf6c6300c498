import PatchProof.Evidence.Validator
import PatchProof.Library.Lists
import PatchProof.Library.RoseTree

/-!
# The behavior fingerprint

Two candidates that differ in names and comments only should have one fingerprint, so that
a repair which changes nothing is not executed.  The fingerprint is the digest of the test
and of the definitions that it reaches, after a normalizer has renamed what the functions
bind and what the imports and the helpers bind.

The normalizer binds the arguments of a function, the names that are stored anywhere below
it, and the targets of its handlers.  It leaves the parameter of a lambda, the name of a
nested function and the target of a comprehension outside of functions as they are: renaming
one of these changes the fingerprint (`fingerprint_invariant_iff`).
-/

set_option autoImplicit false

namespace PatchProof

open Lists (firstOccurrences)

/-! ## Syntax trees -/

inductive NameContext where
  | load
  | store
  | delete
  deriving DecidableEq

/-- Where an argument stands among the arguments of a function. -/
inductive ArgumentRole where
  | positionalOnly
  | positional
  | keywordOnly
  | variadic
  | variadicKeyword
  deriving DecidableEq

/-- What a node of a syntax tree is, with the identifiers that it carries.  The children of
an assignment are its targets and then its value; what else a node says is in its rendering. -/
inductive PythonNode where
  | name (id : String) (context : NameContext)
  | arguments
  | argument (arg : String) (role : ArgumentRole)
  | function (name : String) (asynchronous : Bool)
  | lambda
  | classDef (name : String)
  | exceptHandler (name : Option String)
  | assign (annotated : Bool) (targets : Nat)
  | importNames (names : List ImportAlias)
  | importFrom (level : Nat) (module : Option String) (names : List ImportAlias)
  | keyword (arg : Option String)
  | identifiers (construct : String) (names : List String)
  | other (rendered : String)

abbrev PythonTree := RoseTree PythonNode

/-! ## Bindings -/

/-- `_import_bindings`, of one statement. -/
def importBindingsOf : PythonNode → List (String × String)
  | .importNames names => names.map fun item =>
      (item.asname.getD (rootName item.name), "import:" ++ item.name)
  | .importFrom level module names => (names.filter fun item => item.name ≠ "*").map fun item =>
      (item.asname.getD item.name,
        "from:" ++ toString level ++ ":" ++ module.getD "" ++ ":" ++ item.name)
  | _ => []

/-- The order in which the arguments of a function are bound. -/
def argumentRoles : List ArgumentRole :=
  [.positionalOnly, .positional, .keywordOnly, .variadic, .variadicKeyword]

def argumentOf (role : ArgumentRole) (tree : PythonTree) : Option String :=
  match tree.label with
  | .argument arg place => if place = role then some arg else none
  | _ => none

/-- The arguments of a function that stand in a role. -/
def argumentsOf (role : ArgumentRole) (tree : PythonTree) : List String :=
  match tree.label with
  | .arguments => tree.children.filterMap (argumentOf role)
  | _ => []

def argumentNames (tree : PythonTree) : List String :=
  match tree.label with
  | .function _ _ | .lambda => argumentRoles.flatMap fun role =>
      tree.children.flatMap (argumentsOf role)
  | _ => []

/-- The name that a node of the walk binds. -/
def storedName : PythonNode → Option String
  | .name id .store => some id
  | .exceptHandler name => name
  | _ => none

def loadedName : PythonNode → Option String
  | .name id .load => some id
  | _ => none

/-- `_bound_names`. -/
def boundNames (tree : PythonTree) : List String :=
  firstOccurrences (argumentNames tree ++ tree.walk.filterMap storedName)

/-- `_loaded_external_names`. -/
def loadedExternalNames (tree : PythonTree) : List String :=
  firstOccurrences ((tree.walk.filterMap loadedName).filter (· ∉ boundNames tree))

/-! ## The normalizer -/

/-- `local_` and the place of a name among the names that a function binds. -/
def localName? (name : String) (bound : List String) : Option String :=
  if name ∈ bound then some ("local_" ++ toString (bound.idxOf name)) else none

section Normalizer

variable (external : String → Option String)

/-- The innermost scope comes first. -/
def visitName (scopes : List (List String)) (id : String) : String :=
  ((scopes.findSome? (localName? id)).or (external id)).getD id

/-- `visit_arg` and `visit_ExceptHandler` look at the innermost scope only. -/
def visitTarget (scopes : List (List String)) (name : String) : String :=
  (scopes.head?.bind (localName? name)).getD name

def visitNode (scopes : List (List String)) : PythonNode → PythonNode
  | .name id context => .name (visitName external scopes id) context
  | .argument arg role => .argument (visitTarget scopes arg) role
  | .function name asynchronous => .function ((external name).getD name) asynchronous
  | .classDef name => .classDef ((external name).getD name)
  | .exceptHandler name => .exceptHandler (name.map (visitTarget scopes))
  | node => node

/-- The scopes in which the parts of a tree are visited. -/
def innerScopes (scopes : List (List String)) (tree : PythonTree) : List (List String) :=
  match tree.label with
  | .function _ _ => boundNames tree :: scopes
  | _ => scopes

mutual

/-- `_BehaviorNormalizer.visit`. -/
def normalize (scopes : List (List String)) : PythonTree → PythonTree
  | .node label children =>
      let inner := innerScopes scopes (.node label children)
      .node (visitNode external inner label) (normalizeAll inner children)

def normalizeAll (scopes : List (List String)) : List PythonTree → List PythonTree
  | [] => []
  | tree :: trees => normalize scopes tree :: normalizeAll scopes trees

end

end Normalizer

/-! ## Candidates -/

/-- The top level of a candidate: what it imports, and its other statements in order. -/
structure CandidateModule where
  imports : List PythonNode
  statements : List PythonTree

namespace CandidateModule

variable (module : CandidateModule) (testFunction : String)

/-- A later import takes a name over. -/
def importBinding? (name : String) : Option String :=
  (module.imports.flatMap importBindingsOf).reverse.lookup name

/-- `node.name == test_function`, of a function. -/
def isTest (tree : PythonTree) : Bool :=
  match tree.label with
  | .function name _ => name == testFunction
  | _ => false

def nameOf? (tree : PythonTree) : Option String :=
  match tree.label with
  | .name id _ => some id
  | _ => none

/-- The names that a statement defines, unless it is the test. -/
def definedBy (tree : PythonTree) : List String :=
  match tree.label with
  | .function name _ => if name = testFunction then [] else [name]
  | .classDef name => [name]
  | .assign _ targets => (tree.children.take targets).filterMap nameOf?
  | _ => []

/-- The statements that define a name, the last one first. -/
def definitions : List (String × Nat) :=
  (module.statements.zipIdx.flatMap fun entry =>
    (definedBy testFunction entry.1).map (·, entry.2)).reverse

def definition? (name : String) : Option Nat := (module.definitions testFunction).lookup name

/-- The names that a statement reads from outside. -/
def loadedBy (index : Nat) : List String :=
  (module.statements[index]?.map loadedExternalNames).getD []

/-- The definitions of names that were not reached yet. -/
def unreached (seen : List String) : List (String × Nat) :=
  (module.definitions testFunction).filter (·.1 ∉ seen)

variable {module testFunction}

/-- Reaching a name that is defined leaves fewer definitions. -/
theorem length_unreached_lt {seen : List String} {name : String} {index : Nat}
    (fresh : name ∉ seen) (found : module.definition? testFunction name = some index) :
    (module.unreached testFunction (seen ++ [name])).length <
      (module.unreached testFunction seen).length := by
  obtain ⟨before, after, split, -⟩ := List.lookup_eq_some_iff.mp found
  have remaining : (name, index) ∈ module.unreached testFunction seen := by
    simp [unreached, split, fresh]
  have shrunk : module.unreached testFunction (seen ++ [name]) =
      (module.unreached testFunction seen).filter (·.1 ≠ name) := by
    rw [unreached, unreached, List.filter_filter]
    apply List.filter_congr
    intro entry _
    simp [and_comm]
  rw [shrunk, List.length_filter_lt_length_iff_exists]
  exact ⟨_, remaining, by simp⟩

/-- Reaching a name that is not defined leaves all definitions. -/
theorem unreached_of_undefined {seen : List String} {name : String}
    (missing : module.definition? testFunction name = none) :
    module.unreached testFunction (seen ++ [name]) = module.unreached testFunction seen := by
  have absent : ∀ entry ∈ module.definitions testFunction, name ≠ entry.1 := by
    simpa [definition?, List.lookup_eq_none_iff] using missing
  apply List.filter_congr
  intro entry mem
  simp [(absent entry mem).symm]

variable (module testFunction)

/-- The names that are imported or defined, in the order in which the pending ones reach them. -/
def reachNames (seen pending : List String) : List String :=
  match pending with
  | [] => seen
  | name :: pending =>
      if name ∈ seen then reachNames seen pending
      else
        match _found : module.definition? testFunction name with
        | some index => reachNames (seen ++ [name]) (pending ++ module.loadedBy index)
        | none =>
            if (module.importBinding? name).isSome then reachNames (seen ++ [name]) pending
            else reachNames seen pending
termination_by ((module.unreached testFunction seen).length, pending.length)
decreasing_by
  · exact Prod.Lex.right _ (Nat.lt_succ_self _)
  · exact Prod.Lex.left _ _ (length_unreached_lt ‹_› _found)
  · rw [unreached_of_undefined _found]
    exact Prod.Lex.right _ (Nat.lt_succ_self _)
  · exact Prod.Lex.right _ (Nat.lt_succ_self _)

/-- The dependencies of the test. -/
def dependencyNames (test : PythonTree) : List String :=
  module.reachNames testFunction [] (loadedExternalNames test)

/-- The statements of the helpers, each at the place where it is first reached. -/
def helperStatements (test : PythonTree) : List Nat :=
  firstOccurrences ((module.dependencyNames testFunction test).filterMap
    (module.definition? testFunction))

/-- `external_bindings`: a helper takes its name from an import. -/
def externalBinding? (test : PythonTree) (name : String) : Option String :=
  if name ∈ module.dependencyNames testFunction test then
    match module.definition? testFunction name with
    | some index =>
        some ("helper_" ++ toString ((module.helperStatements testFunction test).idxOf index))
    | none => (module.importBinding? name).map ("import_binding:" ++ ·)
  else none

/-- The function whose name the fingerprint forgets. -/
def generatedTest : PythonTree → PythonTree
  | .node (.function _ asynchronous) children =>
      .node (.function "generated_test" asynchronous) children
  | tree => tree

/-- The helpers and the test, as they are rendered. -/
def canonical (test : PythonTree) : List PythonTree :=
  let external := module.externalBinding? testFunction test
  ((module.helperStatements testFunction test).filterMap (module.statements[·]?)).map
    (normalize external []) ++ [generatedTest (normalize external [] test)]

/-- `candidate_behavior_fingerprint`, after the parser: the digest stands for the rendering
of a list of statements and its hash. -/
def behaviorFingerprint (digest : List PythonTree → Sha256) : Except RaisedException Sha256 :=
  match module.statements.filter (isTest testFunction) with
  | [test] => .ok (digest (module.canonical testFunction test))
  | _ => .error (.value "behavior fingerprint requires exactly one declared test function")

end CandidateModule

/-- `candidate_behavior_fingerprint`. -/
def candidateBehaviorFingerprint (parse : String → Except RaisedException CandidateModule)
    (digest : List PythonTree → Sha256) (source testFunction : String) :
    Except RaisedException Sha256 :=
  match parse source with
  | .ok module => module.behaviorFingerprint testFunction digest
  | .error exception => .error exception

/-! ## Rewritings -/

/-- New texts for the identifiers of a statement and for the keywords of its calls. -/
structure Renaming where
  identifier : String → String
  keyword : String → String

def ImportAlias.rename (identifier : String → String) (item : ImportAlias) : ImportAlias :=
  { item with asname := item.asname.map identifier }

namespace PythonNode

def renameAliases (identifier : String → String) : PythonNode → PythonNode
  | .importNames names => .importNames (names.map (·.rename identifier))
  | .importFrom level module names => .importFrom level module (names.map (·.rename identifier))
  | node => node

def rename (ρ : Renaming) : PythonNode → PythonNode
  | .name id context => .name (ρ.identifier id) context
  | .argument arg role => .argument (ρ.identifier arg) role
  | .function id asynchronous => .function (ρ.identifier id) asynchronous
  | .classDef id => .classDef (ρ.identifier id)
  | .exceptHandler target => .exceptHandler (target.map ρ.identifier)
  | .keyword arg => .keyword (arg.map ρ.keyword)
  | .identifiers construct names => .identifiers construct (names.map ρ.identifier)
  | node => node.renameAliases ρ.identifier

/-- The names that an import binds without an alias. -/
def unaliasedNames : PythonNode → List String
  | .importNames names =>
      (names.filter (·.asname.isNone)).map fun item => rootName item.name
  | .importFrom _ _ names => (names.filter (·.asname.isNone)).map (·.name)
  | _ => []

end PythonNode

/-- An identifier that the normalizer leaves as it is. -/
inductive Verbatim where
  | name (id : String)
  | target (id : String)
  | keyword (arg : String)

section Verbatim

variable (external : String → Option String)

/-- A name that no function binds and the fingerprint does not know. -/
def looseName (scopes : List (List String)) (id : String) : List Verbatim :=
  if ((scopes.findSome? (localName? id)).or (external id)).isSome then [] else [.name id]

/-- A target that the innermost function does not bind. -/
def looseTarget (scopes : List (List String)) (name : String) : List Verbatim :=
  if (scopes.head?.bind (localName? name)).isSome then [] else [.target name]

def verbatimOf (scopes : List (List String)) : PythonNode → List Verbatim
  | .name id _ => looseName external scopes id
  | .argument arg _ => looseTarget scopes arg
  | .function name _ | .classDef name => looseName external [] name
  | .exceptHandler name => name.toList.flatMap (looseTarget scopes)
  | .keyword arg => arg.toList.map .keyword
  | .identifiers _ names => names.map .target
  | .importNames names | .importFrom _ _ names => (names.filterMap (·.asname)).map .target
  | _ => []

mutual

/-- The identifiers of a tree that the normalizer leaves as they are. -/
def verbatim (scopes : List (List String)) : PythonTree → List Verbatim
  | .node label children =>
      let inner := innerScopes scopes (.node label children)
      verbatimOf external inner label ++ verbatimAll inner children

def verbatimAll (scopes : List (List String)) : List PythonTree → List Verbatim
  | [] => []
  | tree :: trees => verbatim scopes tree ++ verbatimAll scopes trees

end

end Verbatim

/-- The identifier keeps its text. -/
def Verbatim.IsKept (external : String → Option String) (ρ : Renaming) : Verbatim → Prop
  | .name id => (external (ρ.identifier id)).getD (ρ.identifier id) = id
  | .target id => ρ.identifier id = id
  | .keyword arg => ρ.keyword arg = arg

namespace CandidateModule

variable (module : CandidateModule) (testFunction : String)

/-- The names of the top level. -/
def IsTopLevel (name : String) : Prop :=
  (module.definition? testFunction name).isSome ∨ (module.importBinding? name).isSome

/-- The names of the imports change everywhere, and each statement has a renaming of its own. -/
def rename (shared : String → String) (within : Nat → Renaming) : CandidateModule where
  imports := module.imports.map (·.renameAliases shared)
  statements := module.statements.mapIdx fun index tree => tree.map (·.rename (within index))

/-- A consistent renaming of what the functions bind and of the aliases of the imports. -/
structure IsConsistent (shared : String → String) (within : Nat → Renaming) : Prop where
  shared_injective : Function.Injective shared
  injective : ∀ index, Function.Injective (within index).identifier
  agrees : ∀ index name, module.IsTopLevel testFunction name →
    (within index).identifier name = shared name
  test : ∀ index, (within index).identifier testFunction = testFunction
  defined : ∀ name, (module.definition? testFunction name).isSome → shared name = name
  unaliased : ∀ node ∈ module.imports, ∀ name ∈ node.unaliasedNames, shared name = name

end CandidateModule

end PatchProof
