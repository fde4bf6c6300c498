import PatchProof.Models

/-!
# The static index of one revision

What an index holds of one immutable revision: the files with their sources, the symbols
defined in them, the import bindings, and the syntactic references.

The values that validation refuses are not values of the types.  One fact comes from how
symbols are recorded and not from a validator: a qualified name is joined from
identifiers of the syntax tree, in which no colon occurs.
-/

set_option autoImplicit false

namespace PatchProof

/-! ## Names -/

/-- `text.rsplit(".", maxsplit=1)[-1]`. -/
def leafName (text : String) : String :=
  String.ofList (text.toList.reverse.takeWhile (· != '.')).reverse

/-- `text.rsplit(".", maxsplit=1)[0]`. -/
def beforeLastDot (text : String) : String :=
  if '.' ∈ text.toList then
    String.ofList ((text.toList.reverse.dropWhile (· != '.')).drop 1).reverse
  else text

/-- `"." in text`. -/
def isDotted (text : String) : Bool := text.toList.contains '.'

/-- `text.startswith(start)`. -/
def startsWith (start text : String) : Bool := start.toList.isPrefixOf text.toList

/-- `text.endswith(ending)`. -/
def endsWith (ending text : String) : Bool := ending.toList.isSuffixOf text.toList

/-- The characters that end a line. -/
def isLineBreak (c : Char) : Bool :=
  (10 ≤ c.toNat && c.toNat ≤ 13) || (28 ≤ c.toNat && c.toNat ≤ 30) || c.toNat == 0x85 ||
    c.toNat == 0x2028 || c.toNat == 0x2029

/-- The lines of a text, the last of which may be unfinished. -/
def splitLinesFrom (line : List Char) : List Char → List String
  | [] => if line = [] then [] else [String.ofList line.reverse]
  | '\r' :: '\n' :: rest => String.ofList line.reverse :: splitLinesFrom [] rest
  | c :: rest =>
      if isLineBreak c then String.ofList line.reverse :: splitLinesFrom [] rest
      else splitLinesFrom (c :: line) rest

/-- `text.splitlines()`. -/
def splitLines (text : String) : List String := splitLinesFrom [] text.toList

/-- `"\n".join(lines[first - 1 : last])`. -/
def joinLines (lines : List String) (first last : Nat) : String :=
  "\n".intercalate ((lines.take last).drop (first - 1))

def hasPosixSeparators (path : String) : Bool :=
  !path.toList.contains '\\' &&
    !(match path.toList with
      | drive :: ':' :: '/' :: _ => drive.isAlpha
      | _ => false)

def isNormalizedSource (path : String) : Bool :=
  (pathSegments path.toList).all (fun segment =>
    !segment.isEmpty && segment != ['.'] && segment != ['.', '.'] &&
      segment != ['.', 'g', 'i', 't']) &&
    match (pathSegments path.toList).getLast? with
    | some name => 3 < name.length && name.drop (name.length - 3) == ['.', 'p', 'y']
    | none => false

/-- What `validate_repository_source_path` refuses in a path. -/
def repositorySourcePathProblem (path : String) : Option String :=
  if 1024 < path.length then
    some "repository path must be text within the path length limit"
  else if path.toList.any (fun c => c.toNat < 32 || c.toNat == 127) then
    some "repository path contains a control character"
  else if !hasPosixSeparators path then
    some "repository path must use POSIX separators"
  else if !isNormalizedSource path then
    some "repository path must be a normalized relative Python source path"
  else none

def isRepositorySourcePath (path : String) : Bool := (repositorySourcePathProblem path).isNone

/-! ## Entries -/

/-- Statically observable Python definition kinds supported by the index. -/
inductive ObservableSymbolKind where
  | function
  | asyncFunction
  | method
  | asyncMethod
  | classDefinition
  | property
  | moduleValue
  deriving DecidableEq

/-- Syntactic reference forms. -/
inductive ReferenceKind where
  | name
  | attribute
  | call
  deriving DecidableEq

/-- A repository path that passed `validate_repository_source_path`. -/
structure SourcePath where
  text : String
  wellFormed : isRepositorySourcePath text = true
  deriving DecidableEq

/-- Names of the syntax tree, joined by dots. -/
structure QualifiedName where
  text : String
  bounded : 1 ≤ text.length ∧ text.length ≤ 512
  colonFree : ':' ∉ text.toList
  deriving DecidableEq

/-- Content-addressed metadata for one bounded immutable Python file. -/
structure IndexedPythonFile where
  path : SourcePath
  module : String
  lineCount : Nat
  isTest : Bool
  deriving DecidableEq

/-- One observable identity aggregating every same-name definition in a file. -/
@[ext] structure IndexedSymbol where
  path : SourcePath
  module : String
  qualifiedName : QualifiedName
  kind : ObservableSymbolKind
  startLine : Nat
  endLine : Nat
  parentSymbol : Option String
  isPublic : Bool
  exported : Option Bool
  sourceSha256 : Sha256
  definitionCount : Nat := 1
  definitionKinds : List ObservableSymbolKind
  lineRange : 0 < startLine ∧ startLine ≤ endLine
  counted : 1 ≤ definitionCount
  kindsWellFormed : kind ∈ definitionKinds ∧ definitionKinds.Nodup

instance : DecidableEq IndexedSymbol := fun _ _ => decidable_of_iff _ IndexedSymbol.ext_iff.symm

/-- `(symbol.path, symbol.qualified_name)`. -/
def IndexedSymbol.key (symbol : IndexedSymbol) : String × String :=
  (symbol.path.text, symbol.qualifiedName.text)

/-- One static import binding. -/
structure IndexedImport where
  path : SourcePath
  scope : BoundedText 1 512
  module : String
  aliasName : String
  importedTarget : String
  startLine : Nat
  endLine : Nat
  deriving DecidableEq

/-- One syntactic reference with optional lexical module-import alias expansion. -/
structure IndexedReference where
  path : SourcePath
  scope : BoundedText 1 512
  kind : ReferenceKind
  name : String
  expression : String
  moduleImportAliasExpansion : Option String
  startLine : Nat
  endLine : Nat
  column : Nat
  deriving DecidableEq

/-! ## The index -/

/-- What a build reports about itself. -/
structure RepositoryIndexStats where
  syntaxErrors : Nat
  truncated : Bool
  deriving DecidableEq

/-- Immutable in-memory index of one revision. -/
structure RepositoryIndex where
  revision : Revision
  files : List IndexedPythonFile
  symbols : List IndexedSymbol
  imports : List IndexedImport
  references : List IndexedReference
  sources : String → Option String
  stats : RepositoryIndexStats
  sha256 : Sha256

namespace RepositoryIndex

variable (index : RepositoryIndex)

/-- Metadata of a file; of two files under one path, the later. -/
def file (path : String) : Option IndexedPythonFile :=
  index.files.reverse.find? fun file => file.path.text = path

def hasPath (path : String) : Bool := (index.file path).isSome

/-- The symbols that are tests. -/
def testFunctions : List IndexedSymbol :=
  index.symbols.filter fun symbol =>
    startsWith "test_" (leafName symbol.qualifiedName.text) &&
      (index.file symbol.path.text).any IndexedPythonFile.isTest &&
      [ObservableSymbolKind.function, .asyncFunction, .method, .asyncMethod].contains symbol.kind

/-- Whether some symbol of the index is this one. -/
def Defines (key : String × String) : Prop := ∃ symbol ∈ index.symbols, symbol.key = key

end RepositoryIndex

end PatchProof
