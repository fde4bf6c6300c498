import Mathlib.Algebra.GroupWithZero.Nat
import Mathlib.Data.List.Sort
import PatchProof.Library.Guard
import PatchProof.Investigation.Index

/-!
# Queries over a pair of indexes

The read-only operations by which the indexes of BASE and HEAD are investigated: symbols,
references, related tests, source windows, and the comparison of both revisions, with the
closure of the symbols that a pull request may affect.

A query is refused with a contract error, or fails where a value it builds does not
validate.  Sets of the source that are only asked for membership are lists here.

The results that later modules rest on are that a compared symbol is defined where the
comparison says it is, under the name it says.
-/

set_option autoImplicit false

namespace PatchProof

/-! ## Vocabulary -/

/-- Auditable operation names. -/
inductive InvestigationQueryKind where
  | inspectSymbol
  | compareSymbol
  | compareObservables
  | findReferences
  | findCallers
  | findRelatedTests
  | inspectSourceWindow
  deriving DecidableEq

/-- Why one deterministic query result matched. -/
inductive InvestigationMatchType where
  | exactPathAndSymbol
  | exactSymbol
  | aggregatedSymbolDefinitions
  | qualifiedSyntaxReference
  | staticImportAliasReference
  | nameSyntaxReference
  | attributeSyntaxReference
  | staticImportAliasCall
  | possibleNameCall
  | possibleAttributeCall
  | syntacticImportBinding
  | moduleSuffixReference
  | textualFallback
  | exactSourceWindow
  deriving DecidableEq

def InvestigationMatchType.value : InvestigationMatchType → String
  | .exactPathAndSymbol => "EXACT_PATH_AND_SYMBOL"
  | .exactSymbol => "EXACT_SYMBOL"
  | .aggregatedSymbolDefinitions => "AGGREGATED_SYMBOL_DEFINITIONS"
  | .qualifiedSyntaxReference => "QUALIFIED_SYNTAX_REFERENCE"
  | .staticImportAliasReference => "STATIC_IMPORT_ALIAS_REFERENCE"
  | .nameSyntaxReference => "NAME_SYNTAX_REFERENCE"
  | .attributeSyntaxReference => "ATTRIBUTE_SYNTAX_REFERENCE"
  | .staticImportAliasCall => "STATIC_IMPORT_ALIAS_CALL"
  | .possibleNameCall => "POSSIBLE_NAME_CALL"
  | .possibleAttributeCall => "POSSIBLE_ATTRIBUTE_CALL"
  | .syntacticImportBinding => "SYNTACTIC_IMPORT_BINDING"
  | .moduleSuffixReference => "MODULE_SUFFIX_REFERENCE"
  | .textualFallback => "TEXTUAL_FALLBACK"
  | .exactSourceWindow => "EXACT_SOURCE_WINDOW"

/-- Why a query did not answer. -/
inductive QueryFailure where
  | contract (message : String)
  | value (message : String)
  deriving DecidableEq

/-- The word characters of patterns; on ASCII they are the usual ones. -/
structure WordClass where
  isWord : Char → Bool
  ascii : ∀ c, c.toNat < 128 → isWord c = (c.isAlphanum || c == '_')

/-- Hard query and result limits. -/
structure InvestigationBudget where
  defaultMaxResults : Nat := 20
  hardMaxResults : Nat := 50
  maxSymbolQueryChars : Nat := 256
  maxSymbolSourceLines : Nat := 120
  maxSourceWindowLines : Nat := 120
  maxSourceChars : Nat := 12000
  maxTotalSourceChars : Nat := 24000
  maxRelevanceHops : Nat := 3
  positive : 0 < defaultMaxResults ∧ 0 < hardMaxResults ∧ 0 < maxSymbolQueryChars ∧
    0 < maxSymbolSourceLines ∧ 0 < maxSourceWindowLines ∧ 0 < maxSourceChars ∧
    0 < maxTotalSourceChars ∧ 0 < maxRelevanceHops := by decide
  resultsBounded : defaultMaxResults ≤ hardMaxResults ∧ hardMaxResults ≤ 100 := by decide
  symbolBounded : maxSymbolQueryChars ≤ 512 := by decide
  linesBounded : maxSymbolSourceLines ≤ 300 ∧ maxSourceWindowLines ≤ 300 := by decide
  charsBounded : maxSourceChars ≤ 32000 ∧ maxSourceChars ≤ maxTotalSourceChars ∧
    maxTotalSourceChars ≤ 64000 := by decide
  hopsBounded : maxRelevanceHops ≤ 5 := by decide

/-! ## Results -/

/-- Location and deterministic reason attached to every returned match. -/
@[ext] structure InvestigationProvenance where
  queryKind : InvestigationQueryKind
  revision : RevisionRole
  path : SourcePath
  startLine : Nat
  endLine : Nat
  symbolName : Option String
  matchType : InvestigationMatchType
  reason : BoundedText 1 500
  sourceTruncated : Bool
  lineRange : 0 < startLine ∧ startLine ≤ endLine

instance : DecidableEq InvestigationProvenance := fun _ _ => decidable_of_iff _ InvestigationProvenance.ext_iff.symm

/-- Typed match payload plus auditable provenance and optional bounded source. -/
structure InvestigationMatch where
  provenance : InvestigationProvenance
  symbol : Option IndexedSymbol := none
  reference : Option IndexedReference := none
  importRecord : Option IndexedImport := none
  content : Option String := none
  deriving DecidableEq

/-- Bounded ordered matches for one revision-scoped query. -/
structure InvestigationResult where
  queryKind : InvestigationQueryKind
  revision : RevisionRole
  indexStats : RepositoryIndexStats
  found : List InvestigationMatch
  truncated : Bool
  deriving DecidableEq

/-- The location of a match, when it validates. -/
def locate (queryKind : InvestigationQueryKind) (revision : RevisionRole) (path : SourcePath)
    (startLine endLine : Nat) (symbolName : Option String) (matchType : InvestigationMatchType)
    (reason : String) (sourceTruncated : Bool) : Except QueryFailure InvestigationProvenance :=
  if bounded : 1 ≤ reason.length ∧ reason.length ≤ 500 then
    if lineRange : 0 < startLine ∧ startLine ≤ endLine then
      .ok { queryKind, revision, path, startLine, endLine, symbolName, matchType,
            reason := ⟨reason, bounded⟩, sourceTruncated, lineRange }
    else .error (.value "provenance end line cannot precede its start line")
  else .error (.value "match reason is out of bounds")

/-! ## Comparisons -/

/-- Cross-revision availability of one observable identity. -/
inductive ObservablePresence where
  | presentOnBoth
  | newOnHead
  | removedFromHead
  deriving DecidableEq

/-- The symbols that the two revisions have under one identity; where both have one,
whether its implementation changed. -/
inductive RevisionViews where
  | presentOnBoth (base head : IndexedSymbol) (implementationChanged : Bool)
  | newOnHead (head : IndexedSymbol)
  | removedFromHead (base : IndexedSymbol)
  deriving DecidableEq

/-- BASE and HEAD views of one path and qualified name. -/
structure SymbolComparison where
  path : String
  qualifiedName : String
  views : RevisionViews
  deriving DecidableEq

namespace SymbolComparison

variable (comparison : SymbolComparison)

def key : String × String := (comparison.path, comparison.qualifiedName)

def presence : ObservablePresence :=
  match comparison.views with
  | .presentOnBoth _ _ _ => .presentOnBoth
  | .newOnHead _ => .newOnHead
  | .removedFromHead _ => .removedFromHead

def base : Option IndexedSymbol :=
  match comparison.views with
  | .presentOnBoth base _ _ | .removedFromHead base => some base
  | .newOnHead _ => none

def head : Option IndexedSymbol :=
  match comparison.views with
  | .presentOnBoth _ head _ | .newOnHead head => some head
  | .removedFromHead _ => none

def implementationChanged : Option Bool :=
  match comparison.views with
  | .presentOnBoth _ _ changed => some changed
  | _ => none

/-- New on HEAD, or changed there. -/
def isChangeOrAddition : Bool :=
  match comparison.views with
  | .presentOnBoth _ _ changed => changed
  | .newOnHead _ => true
  | .removedFromHead _ => false

end SymbolComparison

/-- The partition of the observables of both revisions. -/
structure CrossRevisionObservables where
  presentOnBoth : List SymbolComparison
  newOnHead : List IndexedSymbol
  removedFromHead : List IndexedSymbol
  truncated : Bool

/-! ## The investigator -/

/-- The two prebuilt immutable indexes and the limits of their queries. -/
structure RepositoryInvestigator where
  base : RepositoryIndex
  head : RepositoryIndex
  budget : InvestigationBudget
  words : WordClass
  baseRole : base.revision.role = .base
  headRole : head.revision.role = .head
  revisionsDistinct : base.revision.sha ≠ head.revision.sha

namespace RepositoryInvestigator

variable (investigator : RepositoryInvestigator)

/-- `_index`. -/
def indexOf : RevisionRole → RepositoryIndex
  | .base => investigator.base
  | .head => investigator.head

/-- `_maximum`. -/
def maximum : Option Nat → Except QueryFailure Nat
  | none => .ok investigator.budget.defaultMaxResults
  | some value =>
      if 0 < value ∧ value ≤ investigator.budget.hardMaxResults then .ok value
      else .error (.contract "requested result count exceeds its hard limit")

/-- An identifier: a letter or an underscore, then word characters. -/
def isIdentifier : List Char → Bool
  | first :: rest => (first.isAlpha || first == '_') && rest.all investigator.words.isWord
  | [] => false

/-- Identifiers joined by dots. -/
def isQualifiedIdentifier (text : String) : Bool :=
  (text.toList.splitOn '.').all investigator.isIdentifier

/-- `_symbol`. -/
def symbolQuery (value : String) : Except QueryFailure String :=
  if value ≠ "" ∧ value.length ≤ investigator.budget.maxSymbolQueryChars ∧
      investigator.isQualifiedIdentifier value = true then .ok value
  else .error (.contract "symbol query must be a bounded dotted identifier")

/-- `_optional_symbol`. -/
def optionalSymbol : Option String → Except QueryFailure (Option String)
  | some value => do return some (← investigator.symbolQuery value)
  | none => .ok none

/-- `_symbol_matches`. -/
def symbolMatches (symbol : IndexedSymbol) (query : String) : Bool :=
  query = symbol.qualifiedName.text || query = symbol.module ++ "." ++ symbol.qualifiedName.text

/-- `_required_path`. -/
def requiredPath (index : RepositoryIndex) (value : String) : Except QueryFailure SourcePath :=
  match passed : repositorySourcePathProblem value with
  | some problem => .error (.contract problem)
  | none =>
      if index.hasPath value = true then
        .ok ⟨value, by rw [isRepositorySourcePath, passed, Option.isNone_none]⟩
      else .error (.contract "path is absent from the bounded immutable index")

/-- `_optional_path`. -/
def optionalPath (index : RepositoryIndex) :
    Option String → Except QueryFailure (Option SourcePath)
  | some value => do return some (← requiredPath index value)
  | none => .ok none

/-- `_optional_pair_path`. -/
def optionalPairPath : Option String → Except QueryFailure (Option String)
  | none => .ok none
  | some value =>
      match repositorySourcePathProblem value with
      | some problem => .error (.contract problem)
      | none =>
          if investigator.base.hasPath value = true ∨ investigator.head.hasPath value = true then
            .ok (some value)
          else .error (.contract "path is absent from both immutable indexes")

/-! ## Comparing the revisions -/

/-- Whether one pair of texts sorts before another or is it. -/
def keyLe (first second : String × String) : Bool :=
  first.1 < second.1 || (first.1 == second.1 && first.2 ≤ second.2)

/-- The symbols of an index that a comparison is asked for. -/
def selected (path qualifiedName : Option String) (index : RepositoryIndex) :
    List IndexedSymbol :=
  index.symbols.filter fun symbol =>
    path.all (fun path => symbol.path.text == path) &&
      qualifiedName.all fun query => symbolMatches symbol query

/-- Of the symbols under one key, the last. -/
def underKey (symbols : List IndexedSymbol) (key : String × String) : Option IndexedSymbol :=
  symbols.reverse.find? fun symbol => symbol.key = key

/-- Whether two definitions of one identity differ. -/
def definitionChanged (base head : IndexedSymbol) : Bool :=
  base.sourceSha256 != head.sourceSha256 || base.kind != head.kind ||
    base.definitionKinds != head.definitionKinds || base.definitionCount != head.definitionCount

/-- The comparison under one key; a key comes from one of the two selections. -/
def compareAt (base head : List IndexedSymbol) (key : String × String) :
    Option SymbolComparison :=
  match underKey base key, underKey head key with
  | some inBase, some inHead =>
      some ⟨key.1, key.2, .presentOnBoth inBase inHead (definitionChanged inBase inHead)⟩
  | none, some inHead => some ⟨key.1, key.2, .newOnHead inHead⟩
  | some inBase, none => some ⟨key.1, key.2, .removedFromHead inBase⟩
  | none, none => none

/-- `_comparisons`. -/
def comparisons (path qualifiedName : Option String) : List SymbolComparison :=
  let base := selected path qualifiedName investigator.base
  let head := selected path qualifiedName investigator.head
  let keys := (base.map IndexedSymbol.key ++ head.map IndexedSymbol.key).dedup
  (keys.insertionSort fun first second => keyLe first second = true).filterMap
    (compareAt base head)

/-- `compare_symbol`; the comparisons of the result. -/
def compareSymbol (path qualifiedName : Option String) (limit : Option Nat) :
    Except QueryFailure (List SymbolComparison) := do
  let path ← investigator.optionalPairPath path
  let qualifiedName ← investigator.optionalSymbol qualifiedName
  if path.isNone && qualifiedName.isNone then
    .error (.contract "compare_symbol requires path and/or qualified_name")
  else do
    let limit ← investigator.maximum limit
    return (investigator.comparisons path qualifiedName).take limit

/-! ## Relevance -/

/-- `_changed_symbol_names`. -/
def changedSymbolNames : List String :=
  (((investigator.comparisons none none).filter SymbolComparison.isChangeOrAddition).map
    fun comparison => leafName comparison.qualifiedName).dedup

/-- The order of observables: public, then exported, then by identity. -/
def priorityLe (first second : SymbolComparison) : Bool :=
  let rank (comparison : SymbolComparison) : Nat × Nat :=
    match comparison.head.or comparison.base with
    | some symbol =>
        (if symbol.isPublic then 0 else 1, if symbol.exported = some true then 0 else 1)
    | none => (2, 1)
  (rank first).1 < (rank second).1 || ((rank first).1 == (rank second).1 &&
    ((rank first).2 < (rank second).2 || ((rank first).2 == (rank second).2 &&
      keyLe first.key second.key)))

/-- The dotted names that an import may give a symbol. -/
def expansions (target : IndexedSymbol) : List String :=
  (target.module ++ "." ++ target.qualifiedName.text) ::
    if startsWith "src/" target.path.text && startsWith "src." target.module then
      [String.ofList (target.module.toList.drop 4) ++ "." ++ target.qualifiedName.text]
    else []

/-- `_same_file_reference_name`. -/
def sameFileReferenceName (symbol : IndexedSymbol) (reference : IndexedReference) :
    Option String :=
  if !isDotted reference.expression then some reference.name
  else if ["self", "cls"].contains (beforeLastDot reference.expression) then
    let parent := if symbol.kind = .classDefinition then symbol.qualifiedName.text
      else beforeLastDot symbol.qualifiedName.text
    some (parent ++ "." ++ reference.name)
  else none

/-- The identities that one reference of a symbol may stand for. -/
def referenceTargets (compared : List SymbolComparison) (symbol : IndexedSymbol)
    (reference : IndexedReference) : List (String × String) :=
  match reference.moduleImportAliasExpansion with
  | some expansion =>
      (compared.filter fun target =>
        target.head.any fun head => (expansions head).contains expansion).map SymbolComparison.key
  | none =>
      match sameFileReferenceName symbol reference with
      | some localName =>
          (compared.filter fun target => target.head.any fun head =>
            head.path.text == symbol.path.text && head.qualifiedName.text == localName).map
              SymbolComparison.key
      | none => []

/-- The identities that the HEAD definition of a shared symbol depends on. -/
def dependencies (compared : List SymbolComparison) (comparison : SymbolComparison) :
    List (String × String) :=
  match comparison.views with
  | .presentOnBoth _ symbol _ =>
      (investigator.head.references.filter fun reference =>
        reference.path.text == symbol.path.text && symbol.startLine ≤ reference.startLine &&
          reference.startLine ≤ symbol.endLine).flatMap (referenceTargets compared symbol)
  | _ => []

/-- Add what depends on something relevant, so many times or until nothing is added. -/
def expandRelevance (compared : List SymbolComparison) :
    Nat → List (String × String) → List (String × String)
  | 0, relevant => relevant
  | hops + 1, relevant =>
      let additions := ((compared.filter fun comparison =>
        (investigator.dependencies compared comparison).any relevant.contains).map
          SymbolComparison.key).filter fun key => !relevant.contains key
      if additions = [] then relevant else expandRelevance compared hops (relevant ++ additions)

/-- `_relevance_identities`. -/
def relevanceKeys (compared : List SymbolComparison) : List (String × String) :=
  investigator.expandRelevance compared investigator.budget.maxRelevanceHops
    ((compared.filter SymbolComparison.isChangeOrAddition).map SymbolComparison.key)

/-- `relevance_identities`. -/
def relevanceIdentities : List String :=
  (investigator.relevanceKeys (investigator.comparisons none none)).map
    fun key => key.1 ++ "::" ++ key.2

/-! ## The observables of both revisions -/

/-- The first of every group, then the second of every group, and so on. -/
def interleave {α : Type} (groups : List (List α)) : List α :=
  (List.range (groups.map List.length).sum).flatMap fun offset =>
    groups.filterMap fun group => group[offset]?

/-- `_prioritized_observable_comparisons`. -/
def prioritizedObservableComparisons (compared : List SymbolComparison) :
    List SymbolComparison :=
  let relevant := investigator.relevanceKeys compared
  let shared := compared.filter fun comparison => comparison.presence = .presentOnBoth
  let unchanged := shared.filter fun comparison => comparison.implementationChanged = some false
  let ordered (group : List SymbolComparison) : List SymbolComparison :=
    group.insertionSort fun first second => priorityLe first second = true
  interleave [
    ordered (shared.filter fun comparison => comparison.implementationChanged = some true),
    ordered (compared.filter fun comparison => comparison.presence = .newOnHead),
    ordered (compared.filter fun comparison => comparison.presence = .removedFromHead),
    ordered (unchanged.filter fun comparison => relevant.contains comparison.key)] ++
  ordered (unchanged.filter fun comparison => !relevant.contains comparison.key)

/-- `compare_observables`. -/
def compareObservables (limit : Option Nat) : Except QueryFailure CrossRevisionObservables := do
  let limit ← investigator.maximum limit
  let compared := investigator.comparisons none none
  let kept := (investigator.prioritizedObservableComparisons compared).take limit
  return {
    presentOnBoth := kept.filter fun comparison => comparison.presence = .presentOnBoth
    newOnHead := (kept.filter fun comparison => comparison.presence = .newOnHead).filterMap
      SymbolComparison.head
    removedFromHead := (kept.filter fun comparison =>
      comparison.presence = .removedFromHead).filterMap SymbolComparison.base
    truncated := limit < compared.length }

end RepositoryInvestigator

/-! ## Where compared symbols are defined -/

namespace SymbolComparison

/-- The symbols of a comparison are defined where they are said to be, under its key. -/
structure Defined (comparison : SymbolComparison) (base head : RepositoryIndex) : Prop where
  inBase : ∀ symbol, comparison.base = some symbol →
    symbol ∈ base.symbols ∧ symbol.key = comparison.key
  inHead : ∀ symbol, comparison.head = some symbol →
    symbol ∈ head.symbols ∧ symbol.key = comparison.key

end SymbolComparison

namespace RepositoryInvestigator

variable {investigator : RepositoryInvestigator}

/-- Both revisions define a symbol under this key. -/
def Shares (investigator : RepositoryInvestigator) (key : String × String) : Prop :=
  investigator.base.Defines key ∧ investigator.head.Defines key

theorem underKey_eq_some {symbols : List IndexedSymbol} {key : String × String}
    {symbol : IndexedSymbol} (found : underKey symbols key = some symbol) :
    symbol ∈ symbols ∧ symbol.key = key := by
  have mem := List.mem_of_find?_eq_some found
  have same := List.find?_some found
  exact ⟨List.mem_reverse.mp mem, of_decide_eq_true same⟩

theorem mem_of_mem_selected {path qualifiedName : Option String} {index : RepositoryIndex}
    {symbol : IndexedSymbol} (mem : symbol ∈ selected path qualifiedName index) :
    symbol ∈ index.symbols := (List.mem_filter.mp mem).1

theorem comparisons_defined {path qualifiedName : Option String} {comparison : SymbolComparison}
    (mem : comparison ∈ investigator.comparisons path qualifiedName) :
    comparison.Defined investigator.base investigator.head := by
  obtain ⟨key, _, compared⟩ := List.mem_filterMap.mp mem
  unfold compareAt at compared
  split at compared
  · rename_i inBase inHead foundBase foundHead
    cases compared
    obtain ⟨baseMem, baseKey⟩ := underKey_eq_some foundBase
    obtain ⟨headMem, headKey⟩ := underKey_eq_some foundHead
    constructor
    · intro symbol same
      cases same
      exact ⟨mem_of_mem_selected baseMem, baseKey⟩
    · intro symbol same
      cases same
      exact ⟨mem_of_mem_selected headMem, headKey⟩
  · rename_i inHead _ foundHead
    cases compared
    obtain ⟨headMem, headKey⟩ := underKey_eq_some foundHead
    constructor
    · intro symbol same
      cases same
    · intro symbol same
      cases same
      exact ⟨mem_of_mem_selected headMem, headKey⟩
  · rename_i inBase foundBase _
    cases compared
    obtain ⟨baseMem, baseKey⟩ := underKey_eq_some foundBase
    constructor
    · intro symbol same
      cases same
      exact ⟨mem_of_mem_selected baseMem, baseKey⟩
    · intro symbol same
      cases same
  · cases compared

theorem key_of_compareAt {base head : List IndexedSymbol} {key : String × String}
    {comparison : SymbolComparison} (compared : compareAt base head key = some comparison) :
    comparison.key = key := by
  unfold compareAt at compared
  split at compared
  · cases compared
    rfl
  · cases compared
    rfl
  · cases compared
    rfl
  · cases compared

/-- The comparisons of one query are told apart by their keys. -/
theorem eq_of_key_eq {path qualifiedName : Option String} {first second : SymbolComparison}
    (inFirst : first ∈ investigator.comparisons path qualifiedName)
    (inSecond : second ∈ investigator.comparisons path qualifiedName)
    (same : first.key = second.key) : first = second := by
  obtain ⟨key, _, comparedFirst⟩ := List.mem_filterMap.mp inFirst
  obtain ⟨other, _, comparedSecond⟩ := List.mem_filterMap.mp inSecond
  rw [key_of_compareAt comparedFirst, key_of_compareAt comparedSecond] at same
  rw [same, comparedSecond] at comparedFirst
  exact (Option.some.inj comparedFirst).symm

/-- What is present on both revisions is shared under its key. -/
theorem shares_of_presentOnBoth {path qualifiedName : Option String}
    {comparison : SymbolComparison} {base head : IndexedSymbol} {changed : Bool}
    (mem : comparison ∈ investigator.comparisons path qualifiedName)
    (views : comparison.views = .presentOnBoth base head changed) :
    investigator.Shares comparison.key ∧ head.key = comparison.key := by
  have defined := comparisons_defined mem
  obtain ⟨baseMem, baseKey⟩ := defined.inBase base (by rw [SymbolComparison.base, views])
  obtain ⟨headMem, headKey⟩ := defined.inHead head (by rw [SymbolComparison.head, views])
  exact ⟨⟨⟨base, baseMem, baseKey⟩, head, headMem, headKey⟩, headKey⟩

theorem mem_of_mem_interleave {α : Type} {groups : List (List α)} {item : α}
    (mem : item ∈ interleave groups) : ∃ group ∈ groups, item ∈ group := by
  obtain ⟨offset, _, served⟩ := List.mem_flatMap.mp mem
  obtain ⟨group, inGroups, found⟩ := List.mem_filterMap.mp served
  exact ⟨group, inGroups, List.mem_of_getElem? found⟩

theorem mem_of_mem_prioritized {compared : List SymbolComparison} {comparison : SymbolComparison}
    (mem : comparison ∈ investigator.prioritizedObservableComparisons compared) :
    comparison ∈ compared := by
  simp only [prioritizedObservableComparisons, List.mem_append, List.mem_insertionSort,
    List.mem_filter] at mem
  rcases mem with served | unrelated
  · obtain ⟨group, inGroups, found⟩ := mem_of_mem_interleave served
    simp only [List.mem_cons, List.not_mem_nil, or_false] at inGroups
    rcases inGroups with rfl | rfl | rfl | rfl
    all_goals simp only [List.mem_insertionSort, List.mem_filter] at found
    · exact found.1.1
    · exact found.1
    · exact found.1
    · exact found.1.1.1
  · exact unrelated.1.1.1

theorem mem_of_compareObservables {limit : Option Nat} {observables : CrossRevisionObservables}
    (compared : investigator.compareObservables limit = .ok observables)
    {comparison : SymbolComparison} (mem : comparison ∈ observables.presentOnBoth) :
    comparison ∈ investigator.comparisons none none := by
  obtain ⟨most, _, returned⟩ := Guard.bind_eq_ok_iff.mp compared
  cases returned
  exact mem_of_mem_prioritized (List.mem_of_mem_take (List.mem_filter.mp mem).1)

/-! ## What a query names -/

theorem mem_segment {c : Char} {text : List Char} (separator : Char) (mem : c ∈ text)
    (notSeparator : c ≠ separator) : ∃ segment ∈ text.splitOn separator, c ∈ segment := by
  have joined : [separator].intercalate (text.splitOn separator) = text :=
    List.intercalate_splitOn separator
  rw [← joined] at mem
  generalize text.splitOn separator = segments at mem
  induction segments with
  | nil => simp [List.intercalate] at mem
  | cons segment rest ih =>
      cases rest with
      | nil => exact ⟨segment, List.mem_cons_self, by simpa [List.intercalate] using mem⟩
      | cons next more =>
          have split : c ∈ segment ∨ c ∈ [separator].intercalate (next :: more) := by
            simp only [List.intercalate, List.intersperse, List.flatten_cons,
              List.mem_append, List.mem_singleton] at mem ⊢
            tauto
          rcases split with here | later
          · exact ⟨segment, List.mem_cons_self, here⟩
          · obtain ⟨found, inRest, inFound⟩ := ih later
            exact ⟨found, List.mem_cons_of_mem _ inRest, inFound⟩

theorem colonFree_of_isIdentifier {segment : List Char}
    (identifier : investigator.isIdentifier segment = true) : ':' ∉ segment := by
  have notWord : investigator.words.isWord ':' = false := by
    rw [investigator.words.ascii ':' (by decide)]
    decide
  cases segment with
  | nil => exact List.not_mem_nil
  | cons first rest =>
      simp only [isIdentifier, Bool.and_eq_true, List.all_eq_true] at identifier
      intro mem
      rcases List.mem_cons.mp mem with rfl | inRest
      · simp at identifier
      · exact Bool.false_ne_true (notWord.symm.trans (identifier.2 ':' inRest))

theorem colonFree_of_symbolQuery {value query : String}
    (accepted : investigator.symbolQuery value = .ok query) : query = value ∧ ':' ∉ value.toList := by
  unfold symbolQuery at accepted
  split at accepted
  · rename_i checks
    cases accepted
    refine ⟨rfl, fun mem => ?_⟩
    obtain ⟨segment, inText, inSegment⟩ := mem_segment '.' mem (by decide)
    exact colonFree_of_isIdentifier (List.all_eq_true.mp checks.2.2 segment inText) inSegment
  · cases accepted

theorem compareSymbol_eq_ok {path qualifiedName : String} {limit : Option Nat}
    {compared : List SymbolComparison}
    (answered : investigator.compareSymbol (some path) (some qualifiedName) limit = .ok compared) :
    ':' ∉ qualifiedName.toList ∧ ∃ asked name, ∀ comparison ∈ compared,
      comparison ∈ investigator.comparisons asked name := by
  obtain ⟨asked, _, answered⟩ := Guard.bind_eq_ok_iff.mp answered
  obtain ⟨name, named, answered⟩ := Guard.bind_eq_ok_iff.mp answered
  obtain ⟨query, accepted, _⟩ := Guard.bind_eq_ok_iff.mp named
  refine ⟨(colonFree_of_symbolQuery accepted).2, asked, name, ?_⟩
  intro comparison mem
  split at answered
  · cases answered
  · obtain ⟨most, _, returned⟩ := Guard.bind_eq_ok_iff.mp answered
    cases returned
    exact List.mem_of_mem_take mem

end RepositoryInvestigator

end PatchProof
