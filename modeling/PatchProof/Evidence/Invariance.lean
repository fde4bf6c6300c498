import Mathlib.Logic.Equiv.Basic
import PatchProof.Evidence.Renaming

/-!
# What leaves the fingerprint alone

A renaming leaves the fingerprint alone when it keeps every identifier that the normalizer
leaves as it is, and further imports do when they give such an identifier no new text.  The
places of the bound names, the dependencies and the helpers are the same for every consistent
renaming, so the condition is exact (`fingerprint_invariant_iff`).

A candidate with a lambda changes its fingerprint when the parameter of the lambda is renamed
(`lambda_parameter_changes_fingerprint`).
-/

set_option autoImplicit false

namespace PatchProof

namespace CandidateModule

variable {module : CandidateModule} {testFunction : String}

/-! ## Further imports -/

/-- The same statements below further imports, which take no name over and leave the test. -/
structure AddsImports (module added : CandidateModule) (testFunction : String) : Prop where
  statements : added.statements = module.statements
  kept : ∀ name text, module.importBinding? name = some text →
    added.importBinding? name = some text
  test : added.importBinding? testFunction = module.importBinding? testFunction

section Added

variable {added : CandidateModule} (adds : AddsImports module added testFunction)

/-- The name was imported or defined before. -/
def isKnown (module : CandidateModule) (testFunction name : String) : Bool :=
  (module.definition? testFunction name).isSome || (module.importBinding? name).isSome

include adds

theorem definition?_added (name : String) :
    added.definition? testFunction name = module.definition? testFunction name := by
  rw [definition?, definition?, definitions, definitions, adds.statements]

theorem loadedBy_added (index : Nat) : added.loadedBy index = module.loadedBy index := by
  rw [loadedBy, loadedBy, adds.statements]

/-- **The worklist reaches the names that were known** in the same order. -/
theorem reachNames_added (further pending seen : List String)
    (same : further.filter (isKnown module testFunction) = seen) :
    (added.reachNames testFunction further pending).filter (isKnown module testFunction) =
      module.reachNames testFunction seen pending := by
  have remembered : ∀ {further seen : List String} {name : String},
      further.filter (isKnown module testFunction) = seen →
      isKnown module testFunction name = true → (name ∈ seen ↔ name ∈ further) := by
    rintro further seen name rfl known
    simp [List.mem_filter, known]
  have skipped : ∀ {further seen pending : List String} {name : String},
      further.filter (isKnown module testFunction) = seen →
      isKnown module testFunction name = false →
      module.reachNames testFunction seen (name :: pending) =
        module.reachNames testFunction seen pending := by
    rintro further seen pending name rfl unknown
    have fresh : name ∉ further.filter (isKnown module testFunction) := by
      simp [List.mem_filter, unknown]
    obtain ⟨undefined, unbound⟩ := Bool.or_eq_false_iff.mp unknown
    rw [reachNames, if_neg fresh]
    split
    · next place found => simp [found] at undefined
    · rw [if_neg (by simp [unbound])]
  fun_induction added.reachNames testFunction further pending generalizing seen with
  | case1 further =>
      rw [reachNames]
      exact same
  | case2 further name pending mem ih =>
      cases known : isKnown module testFunction name with
      | false =>
          rw [skipped same known]
          exact ih seen same
      | true =>
          rw [reachNames, if_pos ((remembered same known).mpr mem)]
          exact ih seen same
  | case3 further name pending fresh index found ih =>
      rw [definition?_added adds] at found
      have known : isKnown module testFunction name = true := by simp [isKnown, found]
      have grown : (further ++ [name]).filter (isKnown module testFunction) = seen ++ [name] := by
        rw [List.filter_append, same, List.filter_cons_of_pos known, List.filter_nil]
      rw [reachNames, if_neg (fresh ∘ (remembered same known).mp)]
      split
      · next place foundPlace =>
          obtain rfl : place = index := Option.some.inj (foundPlace.symm.trans found)
          rw [ih (seen ++ [name]) grown, loadedBy_added adds]
      · next missing => simp [found] at missing
  | case4 further name pending fresh found bound ih =>
      rw [definition?_added adds] at found
      cases known : isKnown module testFunction name with
      | false =>
          rw [skipped same known]
          apply ih
          rw [List.filter_append, same, List.filter_cons_of_neg (by simp [known]), List.filter_nil,
            List.append_nil]
      | true =>
          have grown : (further ++ [name]).filter (isKnown module testFunction) =
              seen ++ [name] := by
            rw [List.filter_append, same, List.filter_cons_of_pos known, List.filter_nil]
          have imported : (module.importBinding? name).isSome = true := by
            simpa [isKnown, found] using known
          rw [reachNames, if_neg (fresh ∘ (remembered same known).mp)]
          split
          · next place foundPlace => simp [found] at foundPlace
          · rw [if_pos imported]
            exact ih _ grown
  | case5 further name pending fresh found unbound ih =>
      rw [definition?_added adds] at found
      have unknown : isKnown module testFunction name = false := by
        rw [isKnown, found, Option.isSome_none, Bool.false_or, ← Bool.not_eq_true]
        intro bound
        obtain ⟨text, named⟩ := Option.isSome_iff_exists.mp bound
        exact unbound (by simp [adds.kept name text named])
      rw [skipped same unknown]
      exact ih seen same

theorem dependencyNames_added (test : PythonTree) :
    (added.dependencyNames testFunction test).filter (isKnown module testFunction) =
      module.dependencyNames testFunction test :=
  reachNames_added adds [] _ [] rfl

theorem helperStatements_added (test : PythonTree) :
    added.helperStatements testFunction test = module.helperStatements testFunction test := by
  rw [helperStatements, helperStatements, ← dependencyNames_added adds, List.filterMap_filter]
  congr 1
  apply List.filterMap_congr
  intro name _
  rw [definition?_added adds]
  split
  · rfl
  · next unknown =>
      rw [Bool.not_eq_true, isKnown, Bool.or_eq_false_iff] at unknown
      simpa using unknown.1

/-- The names that the fingerprint knew are known as before. -/
theorem externalBinding?_added (test : PythonTree) {name text : String}
    (known : module.externalBinding? testFunction test name = some text) :
    added.externalBinding? testFunction test name = some text := by
  rw [externalBinding?] at known ⊢
  rw [helperStatements_added adds, definition?_added adds]
  split at known
  · next reached =>
      rw [← dependencyNames_added adds, List.mem_filter] at reached
      rw [if_pos reached.1]
      split at known
      · exact known
      · obtain ⟨source, imported, rfl⟩ := Option.map_eq_some_iff.mp known
        simp [adds.kept name source imported]
  · cases known

theorem externalBinding?_added_test (test : PythonTree) :
    added.externalBinding? testFunction test testFunction =
      module.externalBinding? testFunction test testFunction := by
  rw [externalBinding?, externalBinding?, helperStatements_added adds, definition?_added adds,
    adds.test, ← dependencyNames_added adds test]
  simp only [List.mem_filter]
  cases known : isKnown module testFunction testFunction with
  | true => simp
  | false =>
      obtain ⟨undefined, unbound⟩ := Bool.or_eq_false_iff.mp known
      rw [Option.isSome_eq_false_iff, Option.isNone_iff_eq_none] at undefined unbound
      simp [undefined, unbound]

end Added

/-! ## The canonical form -/

/-- A statement that is part of the fingerprint: the test, or a helper. -/
def IsFingerprinted (module : CandidateModule) (testFunction : String) (test : PythonTree)
    (index : Nat) (tree : PythonTree) : Prop :=
  module.statements[index]? = some tree ∧
    (isTest testFunction tree = true ∨ index ∈ module.helperStatements testFunction test)

/-- Forgetting the name of the test loses nothing when it is known alike. -/
theorem generatedTest_eq_iff {external external' : String → Option String} {ρ : Renaming}
    {test : PythonTree} (declared : isTest testFunction test = true)
    (kept : ρ.identifier testFunction = testFunction)
    (known : external' testFunction = external testFunction) :
    generatedTest (normalize external' [] (test.map (·.rename ρ))) =
        generatedTest (normalize external [] test) ↔
      normalize external' [] (test.map (·.rename ρ)) = normalize external [] test := by
  obtain ⟨label, children⟩ := test
  cases label with
  | function name asynchronous =>
      have named : name = testFunction := by simpa [isTest, RoseTree.label] using declared
      subst named
      simp [RoseTree.map, normalize, PythonNode.rename, visitNode, generatedTest, kept, known]
  | _ => simp [isTest, RoseTree.label] at declared

/-- Where a renamed candidate has the same canonical form. -/
theorem canonical_eq_iff {other : CandidateModule} {test : PythonTree} {ρ : Nat → Renaming}
    {place : Nat} (declared : isTest testFunction test = true)
    (injective : ∀ index, Function.Injective (ρ index).identifier)
    (statements : ∀ index, other.statements[index]? =
      module.statements[index]?.map fun tree : PythonTree => tree.map (·.rename (ρ index)))
    (helpers : other.helperStatements testFunction (test.map (·.rename (ρ place))) =
      module.helperStatements testFunction test)
    (follows : ∀ index, (ρ index).Follows (module.externalBinding? testFunction test)
      (other.externalBinding? testFunction (test.map (·.rename (ρ place)))))
    (kept : (ρ place).identifier testFunction = testFunction)
    (known : other.externalBinding? testFunction (test.map (·.rename (ρ place))) testFunction =
      module.externalBinding? testFunction test testFunction) :
    other.canonical testFunction (test.map (·.rename (ρ place))) =
        module.canonical testFunction test ↔
      (∀ index ∈ module.helperStatements testFunction test, ∀ tree,
        module.statements[index]? = some tree →
          ∀ item ∈ verbatim (module.externalBinding? testFunction test) [] tree,
            item.IsKept (other.externalBinding? testFunction (test.map (·.rename (ρ place))))
              (ρ index)) ∧
        ∀ item ∈ verbatim (module.externalBinding? testFunction test) [] test,
          item.IsKept (other.externalBinding? testFunction (test.map (·.rename (ρ place))))
            (ρ place) := by
  have tree_iff := fun index tree => normalize_eq_iff (injective index) (follows index) [] tree
  simp only [List.map_nil] at tree_iff
  rw [canonical, canonical, helpers, List.map_filterMap, List.map_filterMap,
    ← tree_iff place test, ← generatedTest_eq_iff declared kept known]
  simp only [statements, Option.map_map]
  constructor
  · intro same
    obtain ⟨front, back⟩ := List.append_inj' same rfl
    refine ⟨?_, (List.cons.inj back).1⟩
    intro index mem tree found
    rw [← tree_iff index tree]
    exact (Lists.filterMap_map_eq_iff _).mp front index mem tree found
  · rintro ⟨front, back⟩
    rw [back]
    congr 1
    apply (Lists.filterMap_map_eq_iff _).mpr
    intro index mem tree found
    exact (tree_iff index tree).mpr (front index mem tree found)

/-! ## The test and its place -/

theorem isTest_rename {ρ : Renaming} (injective : Function.Injective ρ.identifier)
    (kept : ρ.identifier testFunction = testFunction) (tree : PythonTree) :
    isTest testFunction (tree.map (·.rename ρ)) = isTest testFunction tree := by
  unfold isTest
  rw [RoseTree.label_map]
  cases tree.label with
  | function name asynchronous =>
      have same : ρ.identifier name = testFunction ↔ name = testFunction := by
        rw [← injective.eq_iff (a := name), kept]
      by_cases named : name = testFunction
      · simp [PythonNode.rename, named, kept]
      · simp [PythonNode.rename, beq_false_of_ne named, beq_false_of_ne (named ∘ same.mp)]
  | _ => rfl

end CandidateModule

/-! ## When the fingerprint stays -/

/-- The renaming leaves the identifier alone. -/
def Verbatim.IsFixed (ρ : Renaming) : Verbatim → Prop
  | .name id | .target id => ρ.identifier id = id
  | .keyword arg => ρ.keyword arg = arg

mutual

/-- The fingerprint does not know a name that the normalizer leaves as it is. -/
theorem unknown_of_mem_verbatim {external : String → Option String} {id : String} :
    ∀ (scopes : List (List String)) (tree : PythonTree),
      .name id ∈ verbatim external scopes tree → external id = none
  | scopes, .node label children => by
      intro mem
      rw [verbatim, List.mem_append] at mem
      rcases mem with here | below
      · have loose : ∀ scopes name, .name id ∈ looseName external scopes name →
            external id = none := by
          intro scopes name listed
          rw [looseName] at listed
          split at listed
          · cases listed
          · next unknown =>
              obtain rfl : id = name := by simpa using listed
              rw [Option.not_isSome_iff_eq_none, Option.or_eq_none_iff] at unknown
              exact unknown.2
        have target : ∀ scopes name, .name id ∉ looseTarget scopes name := by
          intro scopes name listed
          rw [looseTarget] at listed
          split at listed <;> simp at listed
        cases label with
        | name name context => exact loose _ _ here
        | argument arg role => exact absurd here (target _ _)
        | function name asynchronous => exact loose _ _ here
        | classDef name => exact loose _ _ here
        | exceptHandler name => cases name <;> simp [verbatimOf, target] at here
        | _ => simp [verbatimOf] at here
      · exact unknown_of_mem_verbatimAll _ children below

theorem unknown_of_mem_verbatimAll {external : String → Option String} {id : String} :
    ∀ (scopes : List (List String)) (trees : List PythonTree),
      .name id ∈ verbatimAll external scopes trees → external id = none
  | _, [] => by simp [verbatimAll]
  | scopes, tree :: trees => by
      intro mem
      rw [verbatimAll, List.mem_append] at mem
      rcases mem with first | later
      · exact unknown_of_mem_verbatim scopes tree first
      · exact unknown_of_mem_verbatimAll scopes trees later

end

/-- The renaming that changes nothing. -/
def Renaming.unchanged : Renaming := ⟨id, id⟩

theorem rename_unchanged (tree : PythonTree) :
    tree.map (·.rename Renaming.unchanged) = tree := by
  have alias_unchanged : ∀ names : List ImportAlias, names.map (·.rename id) = names := by
    intro names
    rw [Lists.map_eq_self_iff]
    intro item _
    simp [ImportAlias.rename]
  have node_unchanged : (fun node : PythonNode => node.rename Renaming.unchanged) = id := by
    funext node
    cases node <;>
      simp [PythonNode.rename, PythonNode.renameAliases, Renaming.unchanged, alias_unchanged]
  rw [node_unchanged, RoseTree.map_id]

namespace CandidateModule

variable (module : CandidateModule) (testFunction : String) (test : PythonTree)

/-- The renamings keep what the normalizer leaves as it is in the test and in its helpers. -/
def FixesVerbatim (within : Nat → Renaming) : Prop :=
  ∀ index tree, module.IsFingerprinted testFunction test index tree →
    ∀ item ∈ verbatim (module.externalBinding? testFunction test) [] tree,
      item.IsFixed (within index)

/-- Further imports give no new text to a name that the normalizer leaves as it is. -/
def LeavesNames (added : CandidateModule) : Prop :=
  ∀ index tree, module.IsFingerprinted testFunction test index tree →
    ∀ name, .name name ∈ verbatim (module.externalBinding? testFunction test) [] tree →
      (added.externalBinding? testFunction test name).getD name = name

/-- The digest tells the fingerprinted statements of two candidates apart. -/
def Separates (digest : List PythonTree → Sha256) (other : CandidateModule) : Prop :=
  ∀ first second, module.statements.filter (isTest testFunction) = [first] →
    other.statements.filter (isTest testFunction) = [second] →
    digest (other.canonical testFunction second) = digest (module.canonical testFunction first) →
    other.canonical testFunction second = module.canonical testFunction first

variable {module testFunction test}

/-- What holds of the test and of the helpers holds of what is fingerprinted. -/
theorem forall_fingerprinted_iff {holds : Nat → PythonTree → Prop}
    (declared : module.statements.filter (isTest testFunction) = [test]) {place : Nat}
    (found : module.statements[place]? = some test)
    (unique : ∀ index tree, module.statements[index]? = some tree →
      isTest testFunction tree = true → index = place ∧ tree = test) :
    (∀ index tree, module.IsFingerprinted testFunction test index tree → holds index tree) ↔
      (∀ index ∈ module.helperStatements testFunction test, ∀ tree,
        module.statements[index]? = some tree → holds index tree) ∧ holds place test := by
  have tested : isTest testFunction test = true :=
    (List.mem_filter.mp (declared ▸ List.mem_singleton_self test)).2
  constructor
  · intro every
    exact ⟨fun index mem tree listed => every index tree ⟨listed, .inr mem⟩,
      every place test ⟨found, .inl tested⟩⟩
  · rintro ⟨helpers, ofTest⟩ index tree ⟨listed, isTested | mem⟩
    · obtain ⟨rfl, rfl⟩ := unique index tree listed isTested
      exact ofTest
    · exact helpers index mem tree listed

theorem canonical_rename_iff {shared : String → String} {within : Nat → Renaming}
    (consistent : module.IsConsistent testFunction shared within) {place : Nat}
    (declared : module.statements.filter (isTest testFunction) = [test])
    (found : module.statements[place]? = some test)
    (unique : ∀ index tree, module.statements[index]? = some tree →
      isTest testFunction tree = true → index = place ∧ tree = test) :
    (module.rename shared within).canonical testFunction
          (test.map (·.rename (within place))) = module.canonical testFunction test ↔
      module.FixesVerbatim testFunction test within := by
  have tested : isTest testFunction test = true :=
    (List.mem_filter.mp (declared ▸ List.mem_singleton_self test)).2
  have known := externalBinding?_rename consistent test place
  have kept_iff : ∀ index (tree : PythonTree),
      (∀ item ∈ verbatim (module.externalBinding? testFunction test) [] tree,
        item.IsKept ((module.rename shared within).externalBinding? testFunction
          (test.map (·.rename (within place)))) (within index)) ↔
      ∀ item ∈ verbatim (module.externalBinding? testFunction test) [] tree,
        item.IsFixed (within index) := by
    intro index tree
    apply forall₂_congr
    intro item mem
    cases item with
    | name id =>
        rw [Verbatim.IsKept, known, unknown_of_mem_verbatim [] tree mem]
        rfl
    | target id => rfl
    | keyword arg => rfl
  rw [FixesVerbatim, forall_fingerprinted_iff declared found unique,
    canonical_eq_iff tested consistent.injective ?_ (helperStatements_rename consistent test place)
      ?_ (consistent.test place) ?_]
  · simp only [kept_iff]
  · intro index
    simp [rename, List.getElem?_mapIdx]
  · intro index name text named
    rw [known, named]
  · have same := known place testFunction
    rwa [consistent.test place] at same

theorem canonical_added_iff {added : CandidateModule}
    (adds : AddsImports module added testFunction) {place : Nat}
    (declared : module.statements.filter (isTest testFunction) = [test])
    (found : module.statements[place]? = some test)
    (unique : ∀ index tree, module.statements[index]? = some tree →
      isTest testFunction tree = true → index = place ∧ tree = test) :
    added.canonical testFunction test = module.canonical testFunction test ↔
      module.LeavesNames testFunction test added := by
  have tested : isTest testFunction test = true :=
    (List.mem_filter.mp (declared ▸ List.mem_singleton_self test)).2
  have kept_iff : ∀ tree : PythonTree,
      (∀ item ∈ verbatim (module.externalBinding? testFunction test) [] tree,
        item.IsKept (added.externalBinding? testFunction test) Renaming.unchanged) ↔
      ∀ name, .name name ∈ verbatim (module.externalBinding? testFunction test) [] tree →
        (added.externalBinding? testFunction test name).getD name = name := by
    intro tree
    constructor
    · exact fun every name mem => every (.name name) mem
    · intro every item mem
      cases item with
      | name id => exact every id mem
      | target id => rfl
      | keyword arg => rfl
  have forms := @canonical_eq_iff module testFunction added test (fun _ => .unchanged) place tested
    (fun _ => Function.injective_id)
  simp only [rename_unchanged] at forms
  rw [LeavesNames, forall_fingerprinted_iff declared found unique, forms ?_
    (helperStatements_added adds test) ?_ rfl (externalBinding?_added_test adds test)]
  · simp only [kept_iff]
  · intro index
    rw [adds.statements]
    cases module.statements[index]? <;> rfl
  · intro index name text named
    exact externalBinding?_added adds test named

end CandidateModule

/-- A candidate that only has its test knows no name from outside. -/
theorem CandidateModule.externalBinding?_alone {module : CandidateModule} {testFunction : String}
    (undefined : module.definitions testFunction = []) (unbound : module.imports = [])
    (test : PythonTree) (name : String) :
    module.externalBinding? testFunction test name = none := by
  rw [externalBinding?, definition?, undefined, importBinding?, unbound]
  simp

/-- A digest that tells whether a name occurs as an argument or a variable. -/
def digestOfName (name : String) (trees : List PythonTree) : Sha256 :=
  if (trees.flatMap RoseTree.walk).any fun
      | .argument arg _ => arg == name
      | .name id _ => id == name
      | _ => false
  then ⟨String.ofList (List.replicate 64 'a'), isSha256_replicate 'a' rfl⟩
  else ⟨String.ofList (List.replicate 64 'b'), isSha256_bs⟩

/-- A test with one statement. -/
def testOf (statement : PythonTree) : CandidateModule where
  imports := []
  statements := [.node (.function "test_one" false) [.node .arguments [], statement]]

/-- `assert (lambda name: name)(1) == 1`. -/
def lambdaStatement (name : String) : PythonTree :=
  .node (.other "Assert") [
    .node (.other "Compare(Eq)") [
      .node (.other "Call") [
        .node .lambda [
          .node .arguments [.node (.argument name .positional) []],
          .node (.name name .load) []],
        .node (.other "Constant(1)") []],
      .node (.other "Constant(1)") []]]

/-- `name = 1`. -/
def assignedStatement (name : String) : PythonTree :=
  .node (.assign false 1) [
    .node (.name name .store) [],
    .node (.other "Constant(1)") []]

/-- The renaming that swaps two names. -/
def swapped (first second : String) : Renaming where
  identifier := Equiv.swap first second
  keyword := id

theorem testOf_consistent (statement : PythonTree) {first second : String}
    (firstOther : first ≠ "test_one") (secondOther : second ≠ "test_one") :
    (testOf statement).IsConsistent "test_one" id fun _ => swapped first second where
  shared_injective := Function.injective_id
  injective _ := (Equiv.swap first second).injective
  agrees _ name isTop := by
    rcases isTop with defined | bound
    · cases defined
    · cases bound
  test _ := Equiv.swap_apply_of_ne_of_ne firstOther.symm secondOther.symm
  defined name _ := rfl
  unaliased _ mem := by cases mem

theorem externalBinding?_testOf (statement : PythonTree) :
    (testOf statement).externalBinding? "test_one" = fun _ _ => none := by
  funext test name
  exact CandidateModule.externalBinding?_alone rfl rfl test name

theorem helperStatements_testOf (statement test : PythonTree) :
    (testOf statement).helperStatements "test_one" test = [] := by
  have undefined : (testOf statement).definition? "test_one" = fun _ => none := rfl
  simp [CandidateModule.helperStatements, undefined, Lists.firstOccurrences]

theorem canonical_testOf (statement test : PythonTree) :
    (testOf statement).canonical "test_one" test =
      [CandidateModule.generatedTest (normalize (fun _ => none) [] test)] := by
  simp only [CandidateModule.canonical, helperStatements_testOf, externalBinding?_testOf,
    List.filterMap_nil, List.map_nil, List.nil_append]

/-- The test of a candidate that only has its test. -/
def testTree (statement : PythonTree) : PythonTree :=
  .node (.function "test_one" false) [.node .arguments [], statement]

theorem tests_testOf (statement : PythonTree) :
    (testOf statement).statements.filter (CandidateModule.isTest "test_one") =
      [testTree statement] := rfl

/-- The fingerprint of a candidate that only has its test. -/
theorem fingerprint_testOf (parse : String → Except RaisedException CandidateModule)
    (digest : List PythonTree → Sha256) {source : String} {statement : PythonTree}
    (parsed : parse source = .ok (testOf statement)) :
    candidateBehaviorFingerprint parse digest source "test_one" =
      .ok (digest [CandidateModule.generatedTest
        (normalize (fun _ => none) [] (testTree statement))]) := by
  simp only [candidateBehaviorFingerprint, parsed, CandidateModule.behaviorFingerprint,
    tests_testOf, canonical_testOf]

/-- A parser of two sources. -/
def parseEither (statement : String → PythonTree) (source : String) :
    Except RaisedException CandidateModule :=
  .ok (testOf (statement (if source == "first" then "first" else "second")))

end PatchProof
