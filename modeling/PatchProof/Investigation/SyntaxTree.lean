import PatchProof.Investigation.ImportResolution
import PatchProof.Investigation.Investigator

/-!
# Syntax trees and what the visitors of the index take from them

The trees of the Python parser, with a constructor for every kind of node that a visitor of
the index treats on its own; all others only have children.  A visitor is given by the calls
it makes in the order in which it makes them: the collector of imports appends bindings, and
the visitor of definitions records symbols and references, each with the scopes around it.
-/

set_option autoImplicit false

namespace PatchProof

/-! ## Trees -/

/-- Whether a name is read, bound or deleted. -/
inductive NameUse where
  | load
  | store
  | delete
  deriving DecidableEq

/-- Where a node stands. -/
@[ext] structure Place where
  line : Nat
  endLine : Nat
  column : Nat
  ordered : 0 < line ∧ line ≤ endLine

instance : DecidableEq Place := fun _ _ => decidable_of_iff _ Place.ext_iff.symm

theorem Place.first_ordered : 0 < 1 ∧ 1 ≤ 1 := ⟨Nat.one_pos, Nat.le_refl 1⟩

/-- A node of the tree.  The parts of a function's signature are its annotations, defaults
and type parameters in the order in which they are visited; the names of its parameters are
apart from them, and so are those of a lambda.  The first iterable of a comprehension stands
between what is visited before and after it.  Handlers and patterns bind names that are no
nodes. -/
inductive SyntaxNode where
  | name (id : String) (context : NameUse) (place : Place)
  | attribute (value : SyntaxNode) (attr : String) (context : NameUse) (place : Place)
  | call (function : SyntaxNode) (arguments : List SyntaxNode)
  | lambda (parameters : List String) (defaults : List SyntaxNode) (body : SyntaxNode)
  | comprehension (before : List SyntaxNode) (iterable : SyntaxNode) (after : List SyntaxNode)
  | sequence (elements : List SyntaxNode)
  | functionDef (asynchronous : Bool) (name : String) (decorators : List SyntaxNode)
      (parameters : List String) (signature body : List SyntaxNode)
      (decoratorLines : List Nat) (place : Place)
  | classDef (name : String) (decorators bases body : List SyntaxNode)
      (decoratorLines : List Nat) (place : Place)
  | importNames (names : List ImportItem) (place : Place)
  | importFrom (module : Option DottedName) (level : Nat) (names : List ImportItem)
      (place : Place)
  | globalNames (names : List String)
  | assign (targets : List SyntaxNode) (value : SyntaxNode) (place : Place)
  | annAssign (target annotation : SyntaxNode) (value : Option SyntaxNode) (place : Place)
  | other (bound : List String) (children : List SyntaxNode)

namespace SyntaxNode

/-- `_dotted_name`. -/
def dottedName : SyntaxNode → Option String
  | .name id _ _ => some id
  | .attribute value attr _ _ =>
      match dottedName value with
      | some parent => some (if parent = "" then attr else parent ++ "." ++ attr)
      | none => some attr
  | _ => none

/-! ## Bindings -/

/-- The name that an import binds in a scope. -/
def boundByItem (item : ImportItem) : String :=
  item.asname.getD (beforeFirstDot item.name.text)

mutual

/-- The bindings that `_ScopeBindingCollector` collects of a node. -/
def bindings : SyntaxNode → List String
  | .name id context _ => if context = .store then [id] else []
  | .attribute value _ _ _ => bindings value
  | .call function arguments => bindings function ++ bindingsAll arguments
  | .lambda _ _ _ => []
  | .comprehension before iterable after =>
      bindingsAll before ++ bindings iterable ++ bindingsAll after
  | .sequence elements => bindingsAll elements
  | .functionDef _ defined _ _ _ _ _ _ => [defined]
  | .classDef defined _ _ _ _ _ => [defined]
  | .importNames names _ => names.map boundByItem
  | .importFrom _ _ names _ =>
      (names.filter fun item => item.name.text ≠ "*").map fun item =>
        item.asname.getD item.name.text
  | .globalNames _ => []
  | .assign targets value _ => bindingsAll targets ++ bindings value
  | .annAssign target annotation none _ => bindings target ++ bindings annotation
  | .annAssign target annotation (some value) _ =>
      bindings target ++ bindings annotation ++ bindings value
  | .other _ children => bindingsAll children

def bindingsAll : List SyntaxNode → List String
  | [] => []
  | node :: rest => bindings node ++ bindingsAll rest

end

mutual

/-- The names that it finds declared global. -/
def globals : SyntaxNode → List String
  | .attribute value _ _ _ => globals value
  | .call function arguments => globals function ++ globalsAll arguments
  | .sequence elements => globalsAll elements
  | .comprehension before iterable after =>
      globalsAll before ++ globals iterable ++ globalsAll after
  | .globalNames names => names
  | .assign targets value _ => globalsAll targets ++ globals value
  | .annAssign target annotation none _ => globals target ++ globals annotation
  | .annAssign target annotation (some value) _ =>
      globals target ++ globals annotation ++ globals value
  | .other _ children => globalsAll children
  | _ => []

def globalsAll : List SyntaxNode → List String
  | [] => []
  | node :: rest => globals node ++ globalsAll rest

end

/-- `_scope_bindings`. -/
def scopeBindings (parameters : List String) (body : List SyntaxNode) : List String :=
  (parameters ++ bindingsAll body).filter fun name => !(globalsAll body).contains name

end SyntaxNode

/-- A function or class around a node. -/
structure VisitScope where
  name : String
  isClass : Bool
  localBindings : List String

/-! ## Imports -/

/-- One call of `_append`. -/
structure ImportCall where
  scope : List String
  row : ImportRow
  place : Place

namespace SyntaxNode

mutual

/-- The calls that `_ImportCollector` makes of a node, below some scopes. -/
def importCalls (path : String) (scope : List String) : SyntaxNode → List ImportCall
  | .name _ _ _ => []
  | .attribute value _ _ _ => importCalls path scope value
  | .call function arguments =>
      importCalls path scope function ++ importCallsAll path scope arguments
  | .lambda _ defaults body =>
      importCallsAll path scope defaults ++ importCalls path scope body
  | .comprehension before iterable after =>
      importCallsAll path scope before ++ importCalls path scope iterable ++
        importCallsAll path scope after
  | .sequence elements => importCallsAll path scope elements
  | .functionDef _ defined decorators _ signature body _ _ =>
      importCallsAll path (scope ++ [defined]) signature ++
        importCallsAll path (scope ++ [defined]) body ++
        importCallsAll path (scope ++ [defined]) decorators
  | .classDef defined decorators bases body _ _ =>
      importCallsAll path (scope ++ [defined]) bases ++
        importCallsAll path (scope ++ [defined]) body ++
        importCallsAll path (scope ++ [defined]) decorators
  | .importNames names place =>
      names.map fun item => ⟨scope, (ImportedName.ofImport item).row path, place⟩
  | .importFrom module level names place =>
      names.map fun item => ⟨scope, (ImportedName.ofImportFrom module level item).row path, place⟩
  | .globalNames _ => []
  | .assign targets value _ => importCallsAll path scope targets ++ importCalls path scope value
  | .annAssign target annotation none _ =>
      importCalls path scope target ++ importCalls path scope annotation
  | .annAssign target annotation (some value) _ =>
      importCalls path scope target ++ importCalls path scope annotation ++
        importCalls path scope value
  | .other _ children => importCallsAll path scope children

def importCallsAll (path : String) (scope : List String) : List SyntaxNode → List ImportCall
  | [] => []
  | node :: rest => importCalls path scope node ++ importCallsAll path scope rest

end

/-! ## Definitions and references -/

/-- `_assignment_names`. -/
def assignmentNames : SyntaxNode → List String
  | .name id _ _ => [id]
  | .sequence elements => assignmentNamesAll elements
  | _ => []
where
  assignmentNamesAll : List SyntaxNode → List String
    | [] => []
    | node :: rest => assignmentNames node ++ assignmentNamesAll rest

/-- Where a name or an attribute stands. -/
def dottedPlace : SyntaxNode → Option Place
  | .name _ _ place => some place
  | .attribute _ _ _ place => some place
  | _ => none

end SyntaxNode

/-- One call by which the visitor of definitions records something. -/
inductive VisitorCall where
  | symbol (qualifiedName : String) (kind : ObservableSymbolKind) (startLine endLine : Nat)
  | reference (scopes : List VisitScope) (kind : ReferenceKind) (expression : String)
      (place : Place)

/-- `_IDENTIFIER.fullmatch`. -/
def isPlainIdentifier (words : WordClass) (text : String) : Bool :=
  match text.toList with
  | first :: rest => (first.isAlpha || first == '_') && rest.all words.isWord
  | [] => false

/-- The names of some scopes. -/
def scopeNames (scopes : List VisitScope) : List String := scopes.map VisitScope.name

/-- The kind of a function. -/
def functionKind (scopes : List VisitScope) (asynchronous : Bool)
    (decorators : List SyntaxNode) : ObservableSymbolKind :=
  let isMethod := scopes.getLast?.any VisitScope.isClass
  let isAccessor := decorators.any fun decorator =>
    let named := decorator.dottedName.getD ""
    named == "property" || endsWith ".getter" named || endsWith ".setter" named ||
      endsWith ".deleter" named
  if isMethod && isAccessor then .property
  else if isMethod then (if asynchronous then .asyncMethod else .method)
  else (if asynchronous then .asyncFunction else .function)

/-- `_record_symbol`. -/
def definitionCall (scopes : List VisitScope) (defined : String) (kind : ObservableSymbolKind)
    (decoratorLines : List Nat) (place : Place) : VisitorCall :=
  .symbol (joinDots (scopeNames scopes ++ [defined])) kind (decoratorLines.foldl min place.line)
    place.endLine

/-- `_record_module_value`, of each of some names. -/
def moduleValueCalls (words : WordClass) (names : List String) (place : Place) :
    List VisitorCall :=
  (names.filter (isPlainIdentifier words)).map fun name =>
    .symbol name .moduleValue place.line place.endLine

namespace SyntaxNode

variable (words : WordClass)

mutual

/-- The calls that `_DefinitionAndReferenceVisitor` makes of a node, below some scopes. -/
def visitorCalls (scopes : List VisitScope) : SyntaxNode → List VisitorCall
  | .name id context place =>
      if context = .load then [.reference scopes .name id place] else []
  | .attribute value attr context place =>
      (if context = .load then
        [.reference scopes .attribute
          (((SyntaxNode.attribute value attr context place).dottedName).getD attr) place]
       else []) ++ visitorCalls scopes value
  | .call function arguments =>
      (match function.dottedName, function.dottedPlace with
       | some expression, some place => [.reference scopes .call expression place]
       | _, _ => []) ++
      visitorCalls scopes function ++ visitorCallsAll scopes arguments
  | .lambda _ defaults body => visitorCallsAll scopes defaults ++ visitorCalls scopes body
  | .comprehension before iterable after =>
      visitorCallsAll scopes before ++ visitorCalls scopes iterable ++
        visitorCallsAll scopes after
  | .sequence elements => visitorCallsAll scopes elements
  | .functionDef asynchronous defined decorators parameters signature body decoratorLines place =>
      definitionCall scopes defined (functionKind scopes asynchronous decorators) decoratorLines
          place ::
        (visitorCallsAll scopes decorators ++ visitorCallsAll scopes signature ++
          visitorCallsAll (scopes ++ [⟨defined, false, scopeBindings parameters body⟩]) body)
  | .classDef defined decorators bases body decoratorLines place =>
      definitionCall scopes defined .classDefinition decoratorLines place ::
        (visitorCallsAll scopes decorators ++ visitorCallsAll scopes bases ++
          visitorCallsAll (scopes ++ [⟨defined, true, scopeBindings [] body⟩]) body)
  | .importNames _ _ => []
  | .importFrom _ _ _ _ => []
  | .globalNames _ => []
  | .assign targets value place =>
      (if scopes = [] then
        moduleValueCalls words (targets.flatMap assignmentNames) place else []) ++
      visitorCallsAll scopes targets ++ visitorCalls scopes value
  | .annAssign target annotation none _ =>
      visitorCalls scopes target ++ visitorCalls scopes annotation
  | .annAssign target annotation (some value) place =>
      (if scopes = [] then moduleValueCalls words (assignmentNames target) place else []) ++
      visitorCalls scopes target ++ visitorCalls scopes annotation ++ visitorCalls scopes value
  | .other _ children => visitorCallsAll scopes children

def visitorCallsAll (scopes : List VisitScope) : List SyntaxNode → List VisitorCall
  | [] => []
  | node :: rest => visitorCalls scopes node ++ visitorCallsAll scopes rest

end

end SyntaxNode

end PatchProof
