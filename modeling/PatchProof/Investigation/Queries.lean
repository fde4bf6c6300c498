import PatchProof.Investigation.Investigator

/-!
# Symbols, references, tests and source windows

The four queries that are open to a model, and the caller query of the planner.  Every
query collects its ranked matches and hands them to `result`, which keeps as many as the
limits on their number and on their source characters allow.
-/

set_option autoImplicit false

namespace PatchProof

namespace RepositoryInvestigator

variable (investigator : RepositoryInvestigator)

/-! ## Bounded results -/

/-- Shorten the source of a match. -/
def shortened (item : InvestigationMatch) (content : String) (limit : Nat) :
    InvestigationMatch :=
  { item with
    content := some (truncate limit content)
    provenance := { item.provenance with sourceTruncated := true } }

/-- Keep matches while source characters remain; whether something was lost is told with
them.  There are `available` matches in all and `kept` are kept already. -/
def keepMatches (most available : Nat) :
    Nat → Nat → List InvestigationMatch → List InvestigationMatch × Bool
  | _, _, [] => ([], false)
  | kept, chars, item :: rest =>
      match item.content with
      | none =>
          if most ≤ chars then ([item], kept + 1 < available)
          else
            let (more, lost) := keepMatches most available (kept + 1) chars rest
            (item :: more, lost)
      | some content =>
          if most ≤ chars then ([], true)
          else
            let cut := most - chars < content.length
            let item := if cut then shortened item content (most - chars) else item
            let chars := chars + min content.length (most - chars)
            if most ≤ chars then ([item], cut || kept + 1 < available)
            else
              let (more, lost) := keepMatches most available (kept + 1) chars rest
              (item :: more, cut || lost)

/-- `_result`. -/
def result (queryKind : InvestigationQueryKind) (revision : RevisionRole)
    (found : List InvestigationMatch) (limit : Nat) : InvestigationResult :=
  let (kept, lost) :=
    keepMatches investigator.budget.maxTotalSourceChars found.length 0 0 (found.take limit)
  { queryKind := queryKind
    revision := revision
    indexStats := (investigator.indexOf revision).stats
    found := kept
    truncated := limit < found.length || lost ||
      kept.any fun item => item.provenance.sourceTruncated }

/-- `_truncate_content`. -/
def truncateContent (content : String) : String × Bool :=
  if content.length ≤ investigator.budget.maxSourceChars then (content, false)
  else (truncate investigator.budget.maxSourceChars content, true)

/-! ## Symbols -/

/-- `_symbol_source`. -/
def symbolSource (index : RepositoryIndex) (symbol : IndexedSymbol) : String × Nat × Bool :=
  let source := (index.sources symbol.path.text).getD ""
  let endLine :=
    min symbol.endLine (symbol.startLine + investigator.budget.maxSymbolSourceLines - 1)
  let (content, cut) :=
    investigator.truncateContent (joinLines (splitLines source) symbol.startLine endLine)
  (content, endLine, endLine < symbol.endLine || cut)

/-- The match of one symbol. -/
def symbolMatch (index : RepositoryIndex) (revision : RevisionRole) (exact : Bool)
    (symbol : IndexedSymbol) : Except QueryFailure InvestigationMatch := do
  let (content, endLine, cut) := investigator.symbolSource index symbol
  let matchType : InvestigationMatchType :=
    if symbol.definitionCount ≠ 1 then .aggregatedSymbolDefinitions
    else if exact then .exactPathAndSymbol else .exactSymbol
  let reason := if symbol.definitionCount ≠ 1 then
      "enclosing source for " ++ toString symbol.definitionCount ++ " same-identity definitions"
    else "exact indexed symbol definition"
  let provenance ← locate .inspectSymbol revision symbol.path symbol.startLine endLine
    (some symbol.qualifiedName.text) matchType reason cut
  return { provenance := provenance, symbol := some symbol, content := some content }

/-- `inspect_symbol`. -/
def inspectSymbol (revision : RevisionRole) (path qualifiedName : Option String)
    (limit : Option Nat) : Except QueryFailure InvestigationResult := do
  let index := investigator.indexOf revision
  let path ← optionalPath index path
  let qualifiedName ← investigator.optionalSymbol qualifiedName
  if path.isNone && qualifiedName.isNone then
    .error (.contract "inspect_symbol requires path and/or qualified_name")
  else do
    let limit ← investigator.maximum limit
    let symbols := index.symbols.filter fun symbol =>
      path.all (fun path => symbol.path == path) &&
        qualifiedName.all fun query => symbolMatches symbol query
    let exact := path.isSome && qualifiedName.isSome
    let found ← (symbols.take (limit + 1)).mapM (investigator.symbolMatch index revision exact)
    return investigator.result .inspectSymbol revision found limit

/-! ## References -/

/-- A name in a call or elsewhere, by whether it is an attribute of something. -/
def nameMatchType (callersOnly : Bool) (expression : String) (dotted : InvestigationMatchType) :
    InvestigationMatchType :=
  match callersOnly, isDotted expression with
  | true, true => .possibleAttributeCall
  | true, false => .possibleNameCall
  | false, true => dotted
  | false, false => .nameSyntaxReference

/-- How a reference matches a query, if it does. -/
def rankReference (query : String) (callersOnly : Bool) (reference : IndexedReference) :
    Option (Nat × InvestigationMatchType × String) :=
  if callersOnly && reference.kind != .call then none
  else if reference.moduleImportAliasExpansion.any fun expansion =>
      expansion = query || (expansion ≠ "" && endsWith ("." ++ query) expansion) then
    some (0, if callersOnly then .staticImportAliasCall else .staticImportAliasReference,
      "module-import alias syntax expands to " ++ query ++ "; runtime rebinding is not proven")
  else if reference.expression = query then
    some (1, nameMatchType callersOnly reference.expression .qualifiedSyntaxReference,
      "exact syntax matches " ++ query ++ "; lexical and runtime identity are unresolved")
  else if reference.name = leafName query then
    some (2, nameMatchType callersOnly reference.expression .attributeSyntaxReference,
      if callersOnly then
        "syntactic call shares terminal name " ++ leafName query ++
          "; receiver/binding is unresolved"
      else
        "syntactic reference shares terminal name " ++ leafName query ++
          "; binding is unresolved")
  else none

/-- Where a reference stands. -/
def location (reference : IndexedReference) :
    String × Nat × Nat × Nat × String × Option String :=
  (reference.path.text, reference.startLine, reference.endLine, reference.column,
    reference.expression, reference.moduleImportAliasExpansion)

/-- Of the ranked references at one place, the first. -/
def firstAtLocation {α : Type} :
    List (IndexedReference × α) → List (String × Nat × Nat × Nat × String × Option String) →
      List (IndexedReference × α)
  | [], _ => []
  | (reference, rank) :: rest, seen =>
      if seen.contains (location reference) then firstAtLocation rest seen
      else (reference, rank) :: firstAtLocation rest (location reference :: seen)

/-- Whether an import binds what a query names. -/
def importBinds (query : String) (imported : IndexedImport) : Bool :=
  imported.importedTarget = query || endsWith ("." ++ query) imported.importedTarget ||
    (!isDotted query && imported.aliasName = leafName query)

/-- The order of ranked matches, by the rank and then by the texts and lines given. -/
def rankLe (text : InvestigationMatch → String) (first second : Nat × InvestigationMatch) : Bool :=
  let line (item : InvestigationMatch) : Nat := item.provenance.startLine
  first.1 < second.1 || (first.1 == second.1 &&
    (first.2.provenance.path.text < second.2.provenance.path.text ||
      (first.2.provenance.path.text == second.2.provenance.path.text &&
        (line first.2 < line second.2 ||
          (line first.2 == line second.2 && text first.2 ≤ text second.2)))))

/-- `_ranked_references`. -/
def rankedReferences (revision : RevisionRole) (query : String) (callersOnly : Bool) :
    Except QueryFailure (List InvestigationMatch) := do
  let index := investigator.indexOf revision
  let kind : InvestigationQueryKind := if callersOnly then .findCallers else .findReferences
  let ranked := index.references.filterMap fun reference =>
    (rankReference query callersOnly reference).map fun rank => (reference, rank)
  let references ← (firstAtLocation ranked []).mapM fun (reference, rank, matchType, reason) => do
    let provenance ← locate kind revision reference.path reference.startLine reference.endLine
      (some reference.scope.text) matchType reason false
    return (rank, ({ provenance := provenance, reference := some reference } : InvestigationMatch))
  let bindings := if callersOnly then [] else index.imports.filter (importBinds query)
  let imports ← bindings.mapM fun imported => do
    let provenance ← locate kind revision imported.path imported.startLine imported.endLine
      (some imported.scope.text) .syntacticImportBinding
      ("syntactic import binding targets " ++ query) false
    return (3, ({ provenance := provenance, importRecord := some imported } : InvestigationMatch))
  let ordered := (references ++ imports).insertionSort fun first second =>
    rankLe (fun item => item.provenance.matchType.value) first second = true
  return ordered.map Prod.snd

/-- `find_references`. -/
def findReferences (revision : RevisionRole) (symbol : String) (limit : Option Nat) :
    Except QueryFailure InvestigationResult := do
  let query ← investigator.symbolQuery symbol
  let limit ← investigator.maximum limit
  let found ← investigator.rankedReferences revision query false
  return investigator.result .findReferences revision found limit

/-- `find_callers`. -/
def findCallers (revision : RevisionRole) (symbol : String) (limit : Option Nat) :
    Except QueryFailure InvestigationResult := do
  let query ← investigator.symbolQuery symbol
  let limit ← investigator.maximum limit
  let found ← investigator.rankedReferences revision query true
  return investigator.result .findCallers revision found limit

/-! ## Related tests -/

/-- A scope and the scopes around it, the innermost first. -/
def enclosingScopes (scope : String) : List String :=
  ((scope.toList.splitOn '.').inits.reverse.map fun parts =>
    String.ofList (List.intercalate ['.'] parts)).filter (· ≠ "")

/-- The test in which something of a path and scope stands. -/
def enclosingTest (tests : List IndexedSymbol) (path : String) (scopes : List String) :
    Option (String × String) :=
  (scopes.find? fun scope => tests.any fun test => test.key = (path, scope)).map
    fun scope => (path, scope)

/-- Whether a term occurs with no identifier character beside it. -/
def occursAsWord (term : List Char) (afterWord : Bool) (text : List Char) : Bool :=
  let isWordChar (c : Char) : Bool := c.isAlphanum || c == '_'
  (!afterWord && term.isPrefixOf text && !(text.drop term.length).head?.any isWordChar) ||
    match text with
    | [] => false
    | c :: rest => occursAsWord term (isWordChar c) rest

/-- What a search for related tests asks for. -/
structure TestQuery where
  query : Option String
  path : Option String
  module : Option String

def TestQuery.leaf (wanted : TestQuery) : Option String := wanted.query.map leafName

def TestQuery.moduleLeaf (wanted : TestQuery) : Option String :=
  (wanted.module.map leafName).filter (· ≠ "")

/-- How a test is related to a query, if it is; the source lines are those of the test. -/
def rankTest (wanted : TestQuery) (references : List IndexedReference)
    (imports : List IndexedImport) (source : String) :
    Option (Nat × InvestigationMatchType × String) :=
  let aliased (query : String) : Bool := references.any fun reference =>
    reference.moduleImportAliasExpansion.any fun expansion =>
      expansion ≠ "" && (expansion = query || endsWith ("." ++ query) expansion)
  let spelled (query : String) : Bool := references.any fun reference => reference.expression = query
  let named (leaf : String) : Option IndexedReference :=
    references.find? fun reference => reference.name = leaf
  let bound (query : String) : Option IndexedImport := imports.find? (importBinds query)
  let imported (moduleLeaf : String) : Bool := imports.any fun item =>
    endsWith (wanted.module.getD "") (String.ofList (item.module.toList.dropWhile (· == '.'))) ||
      leafName item.module = moduleLeaf
  match wanted.query.filter aliased with
  | some query => some (0, .staticImportAliasReference,
      "test has module-import alias syntax expanding to " ++ query ++
        "; runtime rebinding is not proven")
  | none =>
    match wanted.query.filter spelled with
    | some query => some (1,
        if isDotted query then .qualifiedSyntaxReference else .nameSyntaxReference,
        "test contains exact syntax " ++ query ++ "; runtime identity is unresolved")
    | none =>
      match wanted.leaf.bind fun leaf => (named leaf).map fun reference => (leaf, reference) with
      | some (leaf, reference) => some (2,
          if isDotted reference.expression then .attributeSyntaxReference else .nameSyntaxReference,
          "test contains terminal identifier " ++ leaf ++ "; binding identity is unresolved")
      | none =>
        match wanted.query.bind fun query => (bound query).map fun item => (query, item) with
        | some (query, item) => some (3, .syntacticImportBinding,
            if item.scope.text ≠ "<module>" then
              "test scope contains a syntactic import binding for " ++ query
            else "test file contains a module import binding for " ++ query)
        | none =>
          if wanted.moduleLeaf.any imported then
            some (4, .moduleSuffixReference,
              "test import suffix matches module for " ++ wanted.path.getD "None" ++
                "; package identity is unresolved")
          else
            match wanted.leaf.or wanted.moduleLeaf with
            | some term =>
                if occursAsWord term.toList false source.toList then
                  some (5, .textualFallback,
                    "bounded textual fallback matched literal identifier " ++ term)
                else none
            | none => none

/-- `find_related_tests`. -/
def findRelatedTests (revision : RevisionRole) (symbol path : Option String)
    (limit : Option Nat) : Except QueryFailure InvestigationResult := do
  let index := investigator.indexOf revision
  let query ← investigator.optionalSymbol symbol
  let path ← optionalPath index path
  if query.isNone && path.isNone then
    .error (.contract "find_related_tests requires symbol and/or path")
  else do
    let limit ← investigator.maximum limit
    let wanted : TestQuery := {
      query := query
      path := path.map SourcePath.text
      module := (path.bind fun path => index.file path.text).map IndexedPythonFile.module }
    let tests := index.testFunctions
    let ranked := tests.filterMap fun test =>
      let references := index.references.filter fun reference =>
        enclosingTest tests reference.path.text
          ((enclosingScopes reference.scope.text).takeWhile (· ≠ "<module>")) = some test.key
      let localImports := index.imports.filter fun item => item.scope.text ≠ "<module>" &&
        enclosingTest tests item.path.text (enclosingScopes item.scope.text) = some test.key
      let moduleImports := index.imports.filter fun item =>
        item.scope.text = "<module>" && item.path = test.path
      let source := joinLines (splitLines ((index.sources test.path.text).getD ""))
        test.startLine test.endLine
      (rankTest wanted references (localImports ++ moduleImports) source).map fun rank =>
        (test, rank)
    let found ← ranked.mapM fun (test, rank, matchType, reason) => do
      let provenance ← locate .findRelatedTests revision test.path test.startLine test.endLine
        (some test.qualifiedName.text) matchType reason false
      return (rank, ({ provenance := provenance, symbol := some test } : InvestigationMatch))
    let ordered := found.insertionSort fun first second =>
      rankLe (fun item => item.provenance.symbolName.getD "") first second = true
    return investigator.result .findRelatedTests revision (ordered.map Prod.snd) limit

/-! ## Source windows -/

/-- `inspect_source_window`. -/
def inspectSourceWindow (revision : RevisionRole) (path : String) (startLine lineCount : Nat) :
    Except QueryFailure InvestigationResult := do
  let index := investigator.indexOf revision
  let path ← requiredPath index path
  if startLine = 0 then
    .error (.contract "source window start_line must be a positive integer")
  else if lineCount = 0 ∨ investigator.budget.maxSourceWindowLines < lineCount then
    .error (.contract "source window line_count exceeds its hard limit")
  else
    match index.file path.text, index.sources path.text with
    | some metadata, some source =>
        if metadata.lineCount = 0 then
          .error (.contract "source window path has no indexed text lines")
        else if metadata.lineCount < startLine then
          .error (.contract "source window starts beyond the indexed file")
        else do
          let requestedEnd := startLine + lineCount - 1
          let endLine := min metadata.lineCount requestedEnd
          let (content, cut) :=
            investigator.truncateContent (joinLines (splitLines source) startLine endLine)
          let truncated := metadata.lineCount < requestedEnd || cut
          let provenance ← locate .inspectSourceWindow revision path startLine endLine none
            .exactSourceWindow "exact bounded window from pre-indexed immutable source" truncated
          return {
            queryKind := .inspectSourceWindow
            revision := revision
            indexStats := index.stats
            found := [{ provenance := provenance, content := some content }]
            truncated := truncated }
    | _, _ => .error (.contract "source window path has no indexed text lines")

end RepositoryInvestigator

end PatchProof
