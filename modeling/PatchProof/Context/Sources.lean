import Mathlib.Data.List.Dedup
import PatchProof.Context.Models

/-!
# Reading Python sources

What the retriever derives from the text of a source: the bounds it puts on excerpts, the
words and call forms it searches for, and the signatures it renders.  The syntax tree is
given by its definitions in the order in which a visitor comes upon them, and by the calls,
imports and functions that a walk of the tree meets.

Parameters stand for the interpreter's tables and codecs, and for its parser, which may
also fail in a way that the retriever does not handle.
-/

set_option autoImplicit false

namespace PatchProof

/-! ## Excerpts -/

/-- `_TRUNCATION_MARKER`. -/
def truncationMarker : String := "\n... [deterministically truncated by PatchProof]"

/-- `_truncate`. -/
def truncateMarked (value : String) (maximum : Nat) : String × Bool :=
  if value.length ≤ maximum then (value, false)
  else if maximum ≤ truncationMarker.length then (truncate maximum truncationMarker, true)
  else (truncate (maximum - truncationMarker.length) value ++ truncationMarker, true)

theorem length_truncateMarked_le (value : String) (maximum : Nat) :
    (truncateMarked value maximum).1.length ≤ maximum := by
  unfold truncateMarked
  split
  · assumption
  · split
    · exact length_truncate_le maximum truncationMarker
    · have front := length_truncate_le (maximum - truncationMarker.length) value
      simp only [String.length_append]
      omega

/-! ## Paths -/

/-- `PurePosixPath(path).parts`. -/
def RepositoryPath.parts (path : RepositoryPath) : List String :=
  (pathSegments path.text.toList).map String.ofList

/-- `PurePosixPath(path).name`. -/
def RepositoryPath.name (path : RepositoryPath) : String := path.parts.getLastD ""

/-- `PurePosixPath(name).stem`, of a single part. -/
def stemOf (name : String) : String :=
  if isDotted name ∧ beforeLastDot name ≠ "" ∧ leafName name ≠ "" then beforeLastDot name else name

/-- `PurePosixPath(path).stem`. -/
def RepositoryPath.stem (path : RepositoryPath) : String := stemOf path.name

/-- `path.endswith(".py")`. -/
def RepositoryPath.isPython (path : RepositoryPath) : Bool := endsWith ".py" path.text

/-- `_is_test_path`. -/
def RepositoryPath.isTest (path : RepositoryPath) : Bool :=
  path.parts.contains "tests" || startsWith "test_" path.name || endsWith "_test.py" path.name

/-! ## Words -/

/-- `needle in text`. -/
def isWithin (needle text : String) : Bool :=
  text.toList.tails.any needle.toList.isPrefixOf

/-- The characters of `[A-Za-z0-9_]`. -/
def isIdentifierChar (c : Char) : Bool := c.isAlphanum || c == '_'

/-- The characters of `[A-Za-z_]`. -/
def isIdentifierStart (c : Char) : Bool := c.isAlpha || c == '_'

/-- Whether a word stands in the text after the given character. -/
def containsWordAfter (term : List Char) (previous : Option Char) : List Char → Bool
  | [] => term.isEmpty && !previous.any isIdentifierChar
  | c :: rest =>
      (!previous.any isIdentifierChar && term.isPrefixOf (c :: rest) &&
        !((c :: rest).drop term.length).head?.any isIdentifierChar) ||
      containsWordAfter term (some c) rest

/-- `_contains_word`. -/
def containsWord (text term : String) : Bool := containsWordAfter term.toList none text.toList

/-- Increasing order of the texts, each once. -/
def sortedSet (texts : List String) : List String :=
  texts.dedup.mergeSort fun first second => decide (first ≤ second)

/-! ## Syntax -/

/-- What decides how a default value is rendered: whether it is an expression of the
static kinds without calls, lambdas, comprehensions and stars, and its text. -/
structure DefaultValue where
  isStatic : Bool
  unparsed : Option String

/-- An argument with its default value. -/
structure Argument where
  name : String
  default : Option DefaultValue

/-- The arguments of a function. -/
structure Arguments where
  posonlyargs : List Argument
  args : List Argument
  vararg : Option String
  kwonlyargs : List Argument
  kwarg : Option String

/-- A class, with the arguments of the first `__init__` of its body, or a function. -/
inductive DefinitionNode where
  | classDef (constructor : Option Arguments)
  | functionDef (isAsync : Bool) (arguments : Arguments)

/-- A definition inside the definitions of its scope, each of which is a class or not. -/
structure Definition where
  scope : List (String × Bool)
  name : String
  node : DefinitionNode
  line : Nat
  endLine : Nat
  decoratorLines : List Nat

/-- A call, with the name or the attribute it calls. -/
structure CallSite where
  line : Nat
  called : Option String

/-- A function met on the walk, with the text of its source. -/
structure WalkedFunction where
  name : String
  line : Nat
  endLine : Nat
  segment : Option String

/-- A parsed source. -/
structure SyntaxTree where
  definitions : List Definition
  calls : List CallSite
  imports : List (Nat × Nat)
  functions : List WalkedFunction

/-- How a parse ends. -/
inductive ParseOutcome where
  | tree (tree : SyntaxTree)
  | refused
  | escaped

/-- The interpreter that the retriever runs on. -/
structure PythonRuntime where
  decode : List UInt8 → Option String
  decodeReplacing : List UInt8 → String
  parse : String → ParseOutcome
  isKeyword : String → Bool
  isBuiltin : String → Bool
  isWordChar : Char → Bool
  decimal : Char → Option Nat
  lowercase : String → String

/-! ## Definitions -/

namespace Definition

def qualifiedName (definition : Definition) : String :=
  ".".intercalate (definition.scope.map Prod.fst ++ [definition.name])

/-- Whether the innermost definition around this one is a class. -/
def isInClass (definition : Definition) : Bool := definition.scope.getLast?.any Prod.snd

def isMethod (definition : Definition) : Bool :=
  match definition.node with
  | .classDef _ => false
  | .functionDef _ _ => definition.isInClass

def kind (definition : Definition) : SymbolKind :=
  match definition.node with
  | .classDef _ => .classDefinition
  | .functionDef false _ => if definition.isInClass then .method else .function
  | .functionDef true _ => if definition.isInClass then .asyncMethod else .asyncFunction

/-- `min([node.lineno, *decorator_lines])`. -/
def startLine (definition : Definition) : Nat :=
  definition.decoratorLines.foldl min definition.line

end Definition

/-! ## Signatures -/

/-- `_static_default_text`. -/
def staticDefaultText (value : DefaultValue) : Option String :=
  if value.isStatic then
    (value.unparsed.map strip).filter fun rendered => rendered ≠ "" ∧ rendered.length ≤ 100
  else none

/-- The text of an argument, unless its default value has none. -/
def Argument.render (argument : Argument) : Option String :=
  match argument.default with
  | none => some argument.name
  | some value => (staticDefaultText value).map fun text => argument.name ++ "=" ++ text

/-- The positional arguments, each with whether it is positional only. -/
def Arguments.positional (arguments : Arguments) (dropImplicitReceiver : Bool) :
    List (Argument × Bool) :=
  let all := arguments.posonlyargs.map (·, true) ++ arguments.args.map (·, false)
  if dropImplicitReceiver && all.head?.any fun first => ["self", "cls"].contains first.1.name then
    all.tail
  else all

/-- `_function_signature_text`. -/
def functionSignatureText (qualifiedName : String) (arguments : Arguments)
    (dropImplicitReceiver : Bool) : Option String := do
  let positional := arguments.positional dropImplicitReceiver
  let posonly := positional.countP Prod.snd
  let parts ← positional.foldlM (fun parts item => do
    let rendered ← item.1.render
    some (if item.2 && parts.length + 1 == posonly then parts ++ [rendered, "/"]
      else parts ++ [rendered])) []
  let star := match arguments.vararg with
    | some name => ["*" ++ name]
    | none => if arguments.kwonlyargs.isEmpty then [] else ["*"]
  let keywords ← arguments.kwonlyargs.mapM Argument.render
  let rest := arguments.kwarg.toList.map fun name => "**" ++ name
  some (qualifiedName ++ "(" ++ ", ".intercalate (parts ++ star ++ keywords ++ rest) ++ ")")

/-- `_definition_signature_text`. -/
def definitionSignatureText (definition : Definition) : Option String :=
  match definition.node with
  | .classDef none => none
  | .classDef (some constructor) =>
      functionSignatureText (definition.qualifiedName ++ ".__init__") constructor true
  | .functionDef _ arguments =>
      functionSignatureText definition.qualifiedName arguments definition.isMethod

end PatchProof
