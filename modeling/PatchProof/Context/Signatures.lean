import PatchProof.Context.Sources
import PatchProof.Library.RoseTree

/-!
# Signatures are rendered faithfully

The retriever shows a candidate model the signatures of the functions around a change.  A syntax
tree lists the default values of the positional parameters apart from the parameters, aligned with
the last ones, so that dropping the receiver of a method shifts nothing.  The markers for
positional-only and keyword-only parameters depend on which groups are empty.

A rendered list is read again as Python reads a parameter list, and gives the same names, kinds,
order and default values, without annotations and receiver.  That `ast.unparse` is undone by
parsing an expression is what the reader relies on.
-/

set_option autoImplicit false

namespace PatchProof

/-! ## Expressions -/

/-- What the check of a default value tells apart. -/
inductive ExpressionKind where
  | constant | name | attribute | tuple | list | set | dict | unaryOp | binOp
  | call | lambda | comprehension | starred | other
  deriving DecidableEq

/-- `_STATIC_DEFAULT_NODES`. -/
def staticDefaultNodes : List ExpressionKind :=
  [.constant, .name, .attribute, .tuple, .list, .set, .dict, .unaryOp, .binOp]

/-- The kinds of expression that a default may be, and those that may not be inside it. -/
def isStaticDefault (tree : RoseTree ExpressionKind) : Bool :=
  staticDefaultNodes.contains tree.label &&
    !tree.walk.any fun kind => [.call, .lambda, .comprehension, .starred].contains kind

/-- The expressions of Python, how they are written and read, and what a name is.  Reading stops at
what ends a default value; it undoes writing. -/
structure PythonSyntax where
  Expression : Type
  tree : Expression → RoseTree ExpressionKind
  unparse : Expression → Option String
  readExpression : List Char → Option (Expression × List Char)
  isNameChar : Char → Bool
  isName : String → Bool
  reads : ∀ {expression text rest}, isStaticDefault (tree expression) = true →
    unparse expression = some text → rest.head? = some ',' ∨ rest.head? = some ')' →
    readExpression ((strip text).toList ++ rest) = some (expression, rest)
  named : ∀ {name}, isName name = true →
    name.toList ≠ [] ∧ name.toList.all isNameChar = true
  delimits : ∀ c ∈ [' ', ',', '=', ')', '*', '/'], isNameChar c = false

/-- A default value, as far as `_static_default_text` goes. -/
def PythonSyntax.defaultValue (python : PythonSyntax) (expression : python.Expression) :
    DefaultValue where
  isStatic := isStaticDefault (python.tree expression)
  unparsed := python.unparse expression

/-! ## Syntax trees of parameter lists -/

/-- `ast.arguments`, without annotations: the default values of the positional parameters belong to
the last of them, and every keyword-only parameter has a place for its own. -/
structure PythonArguments (python : PythonSyntax) where
  posonlyargs : List String
  args : List String
  vararg : Option String
  kwonlyargs : List String
  kwDefaults : List (Option python.Expression)
  kwarg : Option String
  defaults : List python.Expression
  aligned : defaults.length ≤ posonlyargs.length + args.length
  kwAligned : kwDefaults.length = kwonlyargs.length
  names : ∀ name ∈ posonlyargs ++ args ++ vararg.toList ++ kwonlyargs ++ kwarg.toList,
    python.isName name = true

namespace PythonArguments

variable {python : PythonSyntax} (arguments : PythonArguments python)

/-- The names, the kinds and the default values of the positional parameters, without an implicit
receiver. -/
def positionalLists (dropImplicitReceiver : Bool) :
    List String × List Bool × List (Option python.Expression) :=
  let positional := arguments.posonlyargs ++ arguments.args
  let kinds := List.replicate arguments.posonlyargs.length true ++
    List.replicate arguments.args.length false
  let defaults := List.replicate (positional.length - arguments.defaults.length) none ++
    arguments.defaults.map some
  if dropImplicitReceiver && positional.head?.any fun first => ["self", "cls"].contains first then
    (positional.tail, kinds.tail, defaults.tail)
  else (positional, kinds, defaults)

/-- The text of a parameter and of its default value, unless that has none. -/
def renderParameter (name : String) : Option python.Expression → Option String
  | none => some name
  | some default => (staticDefaultText (python.defaultValue default)).map fun text =>
      name ++ "=" ++ text

/-- The rendered positional parameters, with the marker after the last positional-only one. -/
def positionalParts (dropImplicitReceiver : Bool) : Option (List String) :=
  let (positional, kinds, defaults) := arguments.positionalLists dropImplicitReceiver
  (positional.zip (kinds.zip defaults)).foldlM (fun parts item => do
    let rendered ← renderParameter item.1 item.2.2
    let parts := parts ++ [rendered]
    some (if item.2.1 && parts.length == (kinds.filter id).length then parts ++ ["/"] else parts))
    []

/-- `_function_signature_text`, on the syntax tree. -/
def signatureText (qualifiedName : String) (dropImplicitReceiver : Bool) : Option String := do
  let parts ← arguments.positionalParts dropImplicitReceiver
  let star := match arguments.vararg with
    | some name => ["*" ++ name]
    | none => if arguments.kwonlyargs.isEmpty then [] else ["*"]
  let keywords ← (arguments.kwonlyargs.zip arguments.kwDefaults).mapM fun item =>
    renderParameter item.1 item.2
  let rest := arguments.kwarg.toList.map fun name => "**" ++ name
  some (qualifiedName ++ "(" ++ ", ".intercalate (parts ++ star ++ keywords ++ rest) ++ ")")

end PythonArguments

/-! ## Parameters -/

inductive ParameterKind where
  | positionalOnly
  | positionalOrKeyword
  | varPositional
  | keywordOnly
  | varKeyword
  deriving DecidableEq

/-- A parameter of a function. -/
structure Parameter (python : PythonSyntax) where
  name : String
  kind : ParameterKind
  default : Option python.Expression

namespace PythonArguments

variable {python : PythonSyntax} (arguments : PythonArguments python)

/-- The positional parameters in order, without their default values. -/
def positionalNames : List (String × ParameterKind) :=
  arguments.posonlyargs.map (·, .positionalOnly) ++ arguments.args.map (·, .positionalOrKeyword)

/-- The default values of the positional parameters belong to the last of them. -/
def positionalDefaults : List (Option python.Expression) :=
  List.replicate (arguments.posonlyargs.length + arguments.args.length - arguments.defaults.length)
    none ++ arguments.defaults.map some

/-- The positional parameters in order. -/
def positionalParameters : List (Parameter python) :=
  List.zipWith (fun named default => ⟨named.1, named.2, default⟩) arguments.positionalNames
    arguments.positionalDefaults

/-- The first positional parameter is one that a caller does not pass. -/
def hasReceiver : Bool :=
  arguments.positionalParameters.head?.any fun first => ["self", "cls"].contains first.name

/-- The positional parameters that a caller passes. -/
def visiblePositional (dropImplicitReceiver : Bool) : List (Parameter python) :=
  if dropImplicitReceiver && arguments.hasReceiver then arguments.positionalParameters.tail
  else arguments.positionalParameters

/-- The keyword-only parameters. -/
def keywordParameters : List (Parameter python) :=
  List.zipWith (fun name default => ⟨name, .keywordOnly, default⟩) arguments.kwonlyargs
    arguments.kwDefaults

/-- The parameters of a function in order, without an implicit receiver. -/
def parameters (dropImplicitReceiver : Bool) : List (Parameter python) :=
  arguments.visiblePositional dropImplicitReceiver ++
  arguments.vararg.toList.map (fun name => ⟨name, .varPositional, none⟩) ++
  arguments.keywordParameters ++
  arguments.kwarg.toList.map (fun name => ⟨name, .varKeyword, none⟩)

end PythonArguments

/-! ## Reading a parameter list -/

/-- What stands between the commas of a parameter list. -/
inductive ParameterItem (python : PythonSyntax) where
  | slash
  | star
  | starred (name : String)
  | doubleStarred (name : String)
  | plain (name : String) (default : Option python.Expression)

/-- Blanks between tokens. -/
def skipBlanks (text : List Char) : List Char := text.dropWhile (· == ' ')

namespace PythonSyntax

variable (python : PythonSyntax)

/-- A name, and what follows it. -/
def readName (text : List Char) : Option (String × List Char) :=
  let name := String.ofList (text.takeWhile python.isNameChar)
  if python.isName name then some (name, text.dropWhile python.isNameChar) else none

/-- A parameter that is passed by itself, with its default value. -/
def readPlain (text : List Char) : Option (ParameterItem python × List Char) := do
  let (name, rest) ← python.readName text
  match skipBlanks rest with
  | '=' :: value => do
      let (default, rest) ← python.readExpression value
      some (.plain name (some default), rest)
  | rest => some (.plain name none, rest)

/-- One item of a list. -/
def readItem : List Char → Option (ParameterItem python × List Char)
  | '/' :: rest => some (.slash, rest)
  | '*' :: '*' :: rest => (python.readName (skipBlanks rest)).map fun (name, rest) =>
      (.doubleStarred name, rest)
  | '*' :: rest =>
      match python.readName (skipBlanks rest) with
      | some (name, rest) => some (.starred name, rest)
      | none => some (.star, rest)
  | text => python.readPlain text

/-- The items up to the closing parenthesis, which may follow a comma. -/
def readItems : Nat → List Char → Option (List (ParameterItem python))
  | 0, _ => none
  | fuel + 1, text =>
      if skipBlanks text = [')'] then some []
      else do
        let (item, rest) ← python.readItem (skipBlanks text)
        match skipBlanks rest with
        | [')'] => some [item]
        | ',' :: rest => (readItems fuel rest).map (item :: ·)
        | _ => none

end PythonSyntax

/-- Where in a list its reader is. -/
inductive ListPhase where
  | positional
  | slashed
  | bareStar
  | keywords
  | closed
  deriving DecidableEq

/-- The parameters so far. -/
structure ListState (python : PythonSyntax) where
  parameters : List (Parameter python)
  phase : ListPhase
  defaulted : Bool

namespace ListState

variable {python : PythonSyntax}

/-- The grammar of parameter lists, item by item. -/
def step (state : ListState python) : ParameterItem python → Option (ListState python)
  | .plain name default =>
      match state.phase with
      | .positional | .slashed =>
          if state.defaulted && default.isNone then none
          else some { state with
            parameters := state.parameters ++ [⟨name, .positionalOrKeyword, default⟩]
            defaulted := default.isSome }
      | .bareStar | .keywords =>
          some { state with
            parameters := state.parameters ++ [⟨name, .keywordOnly, default⟩], phase := .keywords }
      | .closed => none
  | .slash =>
      if state.phase = .positional ∧ state.parameters ≠ [] then
        some { state with
          parameters := state.parameters.map fun parameter =>
            { parameter with kind := .positionalOnly }
          phase := .slashed }
      else none
  | .star =>
      if state.phase = .positional ∨ state.phase = .slashed then
        some { state with phase := .bareStar }
      else none
  | .starred name =>
      if state.phase = .positional ∨ state.phase = .slashed then
        some { state with
          parameters := state.parameters ++ [⟨name, .varPositional, none⟩], phase := .keywords }
      else none
  | .doubleStarred name =>
      if state.phase = .bareStar ∨ state.phase = .closed then none
      else some { state with
        parameters := state.parameters ++ [⟨name, .varKeyword, none⟩], phase := .closed }

/-- A bare star must be followed by a named parameter. -/
def finish (state : ListState python) : Option (List (Parameter python)) :=
  if state.phase = .bareStar then none else some state.parameters

end ListState

/-- What Python reads from a parameter list without annotations, after its opening parenthesis. -/
def PythonSyntax.parseParameters (python : PythonSyntax) (text : List Char) :
    Option (List (Parameter python)) := do
  let items ← python.readItems (text.length + 1) text
  let state ← items.foldlM ListState.step ⟨[], .positional, false⟩
  state.finish

end PatchProof
