import PatchProof.Evidence.Fingerprint

/-!
# Fingerprints of renamed candidates

A consistent renaming gives an identifier its new text everywhere in a statement.  It keeps
the places of the bound names, so the normalizer gives them their old texts, and it keeps the
order in which the worklist reaches the helpers.  What is left are the identifiers that the
normalizer does not touch: normalizing the renamed tree gives the old tree exactly when these
keep their texts (`normalize_eq_iff`).
-/

set_option autoImplicit false

namespace PatchProof

/-! ## Names of renamed trees -/

section Names

variable {ρ : Renaming}

theorem storedName_rename (node : PythonNode) :
    storedName (node.rename ρ) = (storedName node).map ρ.identifier := by
  cases node with
  | name id context => cases context <;> rfl
  | _ => rfl

theorem loadedName_rename (node : PythonNode) :
    loadedName (node.rename ρ) = (loadedName node).map ρ.identifier := by
  cases node with
  | name id context => cases context <;> rfl
  | _ => rfl

theorem argumentOf_rename (role : ArgumentRole) (tree : PythonTree) :
    argumentOf role (tree.map (·.rename ρ)) = (argumentOf role tree).map ρ.identifier := by
  unfold argumentOf
  rw [RoseTree.label_map]
  cases tree.label with
  | argument arg place =>
      simp only [PythonNode.rename]
      split <;> rfl
  | _ => rfl

theorem argumentsOf_rename (role : ArgumentRole) (tree : PythonTree) :
    argumentsOf role (tree.map (·.rename ρ)) = (argumentsOf role tree).map ρ.identifier := by
  unfold argumentsOf
  rw [RoseTree.label_map, RoseTree.children_map]
  cases tree.label with
  | arguments =>
      simp only [PythonNode.rename, PythonNode.renameAliases, List.filterMap_map,
        List.map_filterMap]
      exact List.filterMap_congr fun child _ => argumentOf_rename role child
  | _ => rfl

theorem argumentNames_rename (tree : PythonTree) :
    argumentNames (tree.map (·.rename ρ)) = (argumentNames tree).map ρ.identifier := by
  have gathered : (argumentRoles.flatMap fun role =>
        (tree.children.map (RoseTree.map (·.rename ρ))).flatMap (argumentsOf role)) =
      (argumentRoles.flatMap fun role => tree.children.flatMap (argumentsOf role)).map
        ρ.identifier := by
    simp only [List.map_flatMap, List.flatMap_map, argumentsOf_rename]
  unfold argumentNames
  rw [RoseTree.label_map, RoseTree.children_map]
  cases tree.label with
  | function name asynchronous => exact gathered
  | lambda => exact gathered
  | _ => rfl

variable (injective : Function.Injective ρ.identifier)

include injective

/-- **The bound names of a renamed tree** are the renamed bound names, at the same places. -/
theorem boundNames_rename (tree : PythonTree) :
    boundNames (tree.map (·.rename ρ)) = (boundNames tree).map ρ.identifier := by
  rw [boundNames, boundNames, ← Lists.firstOccurrences_map injective, List.map_append,
    argumentNames_rename, RoseTree.walk_map, List.filterMap_map, List.map_filterMap]
  congr 2
  exact List.filterMap_congr fun node _ => storedName_rename node

theorem loadedExternalNames_rename (tree : PythonTree) :
    loadedExternalNames (tree.map (·.rename ρ)) =
      (loadedExternalNames tree).map ρ.identifier := by
  have loaded : (tree.walk.map (·.rename ρ)).filterMap loadedName =
      (tree.walk.filterMap loadedName).map ρ.identifier := by
    rw [List.filterMap_map, List.map_filterMap]
    exact List.filterMap_congr fun node _ => loadedName_rename node
  rw [loadedExternalNames, loadedExternalNames, ← Lists.firstOccurrences_map injective,
    RoseTree.walk_map, loaded, boundNames_rename injective, List.filter_map]
  congr 2
  apply List.filter_congr
  intro name _
  simp only [Function.comp_apply, List.mem_map_of_injective injective]

theorem localName?_map (name : String) (bound : List String) :
    localName? (ρ.identifier name) (bound.map ρ.identifier) = localName? name bound := by
  rw [localName?, localName?, Lists.idxOf_map injective]
  simp only [List.mem_map_of_injective injective]

theorem findSome?_localName?_map (name : String) (scopes : List (List String)) :
    (scopes.map (List.map ρ.identifier)).findSome? (localName? (ρ.identifier name)) =
      scopes.findSome? (localName? name) := by
  rw [List.findSome?_map]
  congr 1
  funext bound
  exact localName?_map injective name bound

theorem innerScopes_rename (scopes : List (List String)) (tree : PythonTree) :
    innerScopes (scopes.map (List.map ρ.identifier)) (tree.map (·.rename ρ)) =
      (innerScopes scopes tree).map (List.map ρ.identifier) := by
  unfold innerScopes
  rw [RoseTree.label_map, boundNames_rename injective]
  cases tree.label <;> rfl

end Names

/-! ## Normalizing a renamed tree -/

section Normalizing

variable {external external' : String → Option String} {ρ : Renaming}
variable (injective : Function.Injective ρ.identifier)

/-- The names that the fingerprint knows are known under their new texts. -/
def Renaming.Follows (ρ : Renaming) (external external' : String → Option String) : Prop :=
  ∀ name text, external name = some text → external' (ρ.identifier name) = some text

theorem lookedUp_eq_iff (follows : ρ.Follows external external') (found : Option String)
    (name : String) :
    ((found.or (external' (ρ.identifier name))).getD (ρ.identifier name) =
        (found.or (external name)).getD name) ↔
      (found.or (external name)).isSome ∨
        (external' (ρ.identifier name)).getD (ρ.identifier name) = name := by
  cases found with
  | some text => simp
  | none =>
      cases known : external name with
      | some text => simp [follows name text known]
      | none => simp

include injective

theorem visitName_eq_iff (follows : ρ.Follows external external') (scopes : List (List String))
    (id : String) :
    visitName external' (scopes.map (List.map ρ.identifier)) (ρ.identifier id) =
        visitName external scopes id ↔
      ∀ item ∈ looseName external scopes id, item.IsKept external' ρ := by
  rw [visitName, visitName, findSome?_localName?_map injective, lookedUp_eq_iff follows, looseName]
  split
  · next known => simp [known]
  · next unknown => simp [unknown, Verbatim.IsKept]

theorem visitTarget_eq_iff (scopes : List (List String)) (name : String) :
    visitTarget (scopes.map (List.map ρ.identifier)) (ρ.identifier name) =
        visitTarget scopes name ↔
      ∀ item ∈ looseTarget scopes name, item.IsKept external' ρ := by
  have same : (scopes.map (List.map ρ.identifier)).head?.bind (localName? (ρ.identifier name)) =
      scopes.head?.bind (localName? name) := by
    cases scopes with
    | nil => rfl
    | cons scope scopes => exact localName?_map injective name scope
  rw [visitTarget, visitTarget, same, looseTarget]
  cases scopes.head?.bind (localName? name) with
  | some text => simp
  | none => simp [Verbatim.IsKept]

omit injective in
theorem aliases_eq_iff (names : List ImportAlias) :
    names.map (·.rename ρ.identifier) = names ↔
      ∀ item ∈ (names.filterMap (·.asname)).map Verbatim.target, item.IsKept external' ρ := by
  rw [Lists.map_eq_self_iff, List.forall_mem_map]
  constructor
  · intro same bound mem
    obtain ⟨item, listed, named⟩ := List.mem_filterMap.mp mem
    have kept := congrArg ImportAlias.asname (same item listed)
    simpa [ImportAlias.rename, named, Verbatim.IsKept] using kept
  · intro kept item listed
    obtain ⟨name, asname⟩ := item
    cases asname with
    | none => rfl
    | some bound =>
        have fixed : ρ.identifier bound = bound := kept bound (List.mem_filterMap.mpr ⟨_, listed, rfl⟩)
        simp [ImportAlias.rename, fixed]

theorem visitNode_eq_iff (follows : ρ.Follows external external') (scopes : List (List String))
    (node : PythonNode) :
    visitNode external' (scopes.map (List.map ρ.identifier)) (node.rename ρ) =
        visitNode external scopes node ↔
      ∀ item ∈ verbatimOf external scopes node, item.IsKept external' ρ := by
  have outside := fun name => visitName_eq_iff injective follows [] name
  simp only [visitName, List.findSome?_nil, Option.none_or, List.map_nil] at outside
  cases node with
  | name id context =>
      rw [verbatimOf, ← visitName_eq_iff injective follows]
      simp [visitNode, PythonNode.rename]
  | argument arg role =>
      rw [verbatimOf, ← visitTarget_eq_iff injective]
      simp [visitNode, PythonNode.rename]
  | function name asynchronous =>
      rw [verbatimOf, ← outside]
      simp [visitNode, PythonNode.rename]
  | classDef name =>
      rw [verbatimOf, ← outside]
      simp [visitNode, PythonNode.rename]
  | exceptHandler name =>
      cases name with
      | none => simp [visitNode, PythonNode.rename, verbatimOf]
      | some name =>
          have only : verbatimOf external scopes (.exceptHandler (some name)) =
              looseTarget scopes name := by simp [verbatimOf]
          rw [only, ← visitTarget_eq_iff injective]
          simp [visitNode, PythonNode.rename]
  | keyword arg =>
      cases arg <;> simp [visitNode, PythonNode.rename, verbatimOf, Verbatim.IsKept]
  | identifiers construct names =>
      simp [visitNode, PythonNode.rename, verbatimOf, Verbatim.IsKept, Lists.map_eq_self_iff]
  | importNames names =>
      rw [verbatimOf, ← aliases_eq_iff]
      simp [visitNode, PythonNode.rename, PythonNode.renameAliases]
  | importFrom level module names =>
      rw [verbatimOf, ← aliases_eq_iff]
      simp [visitNode, PythonNode.rename, PythonNode.renameAliases]
  | arguments | lambda | assign _ _ | other _ =>
      simp [visitNode, PythonNode.rename, PythonNode.renameAliases, verbatimOf]

omit injective

mutual

/-- **Normalizing a renamed tree** gives the same tree exactly when what the normalizer leaves
as it is keeps its text. -/
theorem normalize_eq_iff (injective : Function.Injective ρ.identifier)
    (follows : ρ.Follows external external') :
    ∀ (scopes : List (List String)) (tree : PythonTree),
      normalize external' (scopes.map (List.map ρ.identifier)) (tree.map (·.rename ρ)) =
          normalize external scopes tree ↔
        ∀ item ∈ verbatim external scopes tree, item.IsKept external' ρ
  | scopes, .node label children => by
      have inner := innerScopes_rename injective scopes (.node label children)
      rw [RoseTree.map] at inner ⊢
      rw [normalize, normalize, inner, verbatim, RoseTree.node.injEq,
        visitNode_eq_iff injective follows, normalizeAll_eq_iff injective follows, List.forall_mem_append]

theorem normalizeAll_eq_iff (injective : Function.Injective ρ.identifier)
    (follows : ρ.Follows external external') :
    ∀ (scopes : List (List String)) (trees : List PythonTree),
      normalizeAll external' (scopes.map (List.map ρ.identifier))
            (RoseTree.mapAll (·.rename ρ) trees) =
          normalizeAll external scopes trees ↔
        ∀ item ∈ verbatimAll external scopes trees, item.IsKept external' ρ
  | _, [] => by simp [RoseTree.mapAll, normalizeAll, verbatimAll]
  | scopes, tree :: trees => by
      rw [RoseTree.mapAll, normalizeAll, normalizeAll, verbatimAll, List.cons.injEq,
        normalize_eq_iff injective follows scopes tree, normalizeAll_eq_iff injective follows scopes trees,
        List.forall_mem_append]

end

end Normalizing

/-! ## The top level of a renamed candidate -/

namespace CandidateModule

theorem definedBy_rename {ρ : Renaming} {testFunction : String}
    (injective : Function.Injective ρ.identifier) (test : ρ.identifier testFunction = testFunction)
    (tree : PythonTree) :
    definedBy testFunction (tree.map (·.rename ρ)) =
      (definedBy testFunction tree).map ρ.identifier := by
  unfold definedBy
  rw [RoseTree.label_map, RoseTree.children_map]
  cases tree.label with
  | function name asynchronous =>
      have same : ρ.identifier name = testFunction ↔ name = testFunction := by
        rw [← injective.eq_iff (a := name), test]
      by_cases isTest : name = testFunction
      · simp [PythonNode.rename, isTest, test]
      · simp [PythonNode.rename, isTest, same]
  | assign annotated targets =>
      simp only [PythonNode.rename, PythonNode.renameAliases, ← List.map_take,
        List.filterMap_map, List.map_filterMap]
      apply List.filterMap_congr
      intro child _
      simp only [Function.comp_apply, nameOf?, RoseTree.label_map]
      cases child.label <;> rfl
  | _ => rfl

theorem importBindingsOf_rename {shared : String → String} (node : PythonNode)
    (unaliased : ∀ name ∈ node.unaliasedNames, shared name = name) :
    importBindingsOf (node.renameAliases shared) =
      (importBindingsOf node).map fun entry => (shared entry.1, entry.2) := by
  cases node with
  | importNames names =>
      simp only [PythonNode.renameAliases, importBindingsOf, List.map_map]
      apply List.map_congr_left
      intro item mem
      obtain ⟨name, asname⟩ := item
      cases asname with
      | some bound => rfl
      | none =>
          have fixed : shared (rootName name) = rootName name :=
            unaliased _ (List.mem_map.mpr ⟨_, List.mem_filter.mpr ⟨mem, rfl⟩, rfl⟩)
          simp [ImportAlias.rename, fixed]
  | importFrom level module names =>
      simp only [PythonNode.renameAliases, importBindingsOf, List.filter_map, List.map_map]
      apply List.map_congr_left
      intro item mem
      obtain ⟨name, asname⟩ := item
      cases asname with
      | some bound => rfl
      | none =>
          have fixed : shared name = name :=
            unaliased _ (List.mem_map.mpr
              ⟨_, List.mem_filter.mpr ⟨(List.mem_filter.mp mem).1, rfl⟩, rfl⟩)
          simp [ImportAlias.rename, fixed]
  | _ => rfl

variable {module : CandidateModule} {testFunction : String}
variable {shared : String → String} {within : Nat → Renaming}

theorem definition?_isSome_of_mem {name : String} {index : Nat}
    (mem : (name, index) ∈ module.definitions testFunction) :
    (module.definition? testFunction name).isSome := by
  rw [definition?, Option.isSome_iff_ne_none, Ne, List.lookup_eq_none_iff]
  intro absent
  simpa using absent _ mem

section Renamed

variable (consistent : module.IsConsistent testFunction shared within)

include consistent

theorem within_defined {name : String} (defined : (module.definition? testFunction name).isSome)
    (index : Nat) : (within index).identifier name = name := by
  rw [consistent.agrees index name (.inl defined), consistent.defined name defined]

/-- The definitions are those of the candidate before. -/
theorem definitions_rename :
    (module.rename shared within).definitions testFunction = module.definitions testFunction := by
  have entries : (module.rename shared within).statements.zipIdx =
      module.statements.zipIdx.map fun entry =>
        (entry.1.map (·.rename (within entry.2)), entry.2) := by
    apply List.ext_getElem?
    intro index
    simp [rename, List.getElem?_zipIdx, List.getElem?_mapIdx]
    cases module.statements[index]? <;> rfl
  rw [definitions, definitions, entries, List.flatMap_map]
  congr 1
  apply List.flatMap_congr
  intro entry mem
  have kept : definedBy testFunction (entry.1.map (·.rename (within entry.2))) =
      definedBy testFunction entry.1 := by
    rw [definedBy_rename (consistent.injective _) (consistent.test _), Lists.map_eq_self_iff]
    intro name named
    apply within_defined consistent
    refine definition?_isSome_of_mem (?_ : (name, entry.2) ∈ _)
    exact List.mem_reverse.mpr (List.mem_flatMap.mpr ⟨entry, mem, List.mem_map.mpr ⟨name, named, rfl⟩⟩)
  simp only [kept]

theorem definition?_rename (name : String) :
    (module.rename shared within).definition? testFunction name =
      module.definition? testFunction name := by
  rw [definition?, definition?, definitions_rename consistent]

theorem definition?_shared (name : String) :
    module.definition? testFunction (shared name) = module.definition? testFunction name := by
  cases found : module.definition? testFunction name with
  | some place => rw [consistent.defined name (by simp [found]), found]
  | none =>
      rw [← Option.not_isSome_iff_eq_none]
      intro defined
      rw [consistent.shared_injective (consistent.defined _ defined), found] at defined
      cases defined

theorem importBinding?_rename (name : String) :
    (module.rename shared within).importBinding? (shared name) = module.importBinding? name := by
  have bindings : (module.rename shared within).imports.flatMap importBindingsOf =
      (module.imports.flatMap importBindingsOf).map fun entry => (shared entry.1, entry.2) := by
    rw [rename, List.flatMap_map, List.map_flatMap]
    exact List.flatMap_congr fun node mem =>
      importBindingsOf_rename node (consistent.unaliased node mem)
  rw [importBinding?, importBinding?, bindings, ← List.map_reverse,
    Lists.lookup_map_key consistent.shared_injective]

omit consistent in
/-- A name of the top level of the renamed candidate is a renamed one. -/
theorem importBinding?_isSome_rename (unaliased : ∀ node ∈ module.imports,
    ∀ name ∈ node.unaliasedNames, shared name = name) {name : String}
    (bound : ((module.rename shared within).importBinding? name).isSome) :
    ∃ before, name = shared before ∧ (module.importBinding? before).isSome := by
  have bindings : (module.rename shared within).imports.flatMap importBindingsOf =
      (module.imports.flatMap importBindingsOf).map fun entry => (shared entry.1, entry.2) := by
    rw [rename, List.flatMap_map, List.map_flatMap]
    exact List.flatMap_congr fun node mem => importBindingsOf_rename node (unaliased node mem)
  obtain ⟨text, found⟩ := Option.isSome_iff_exists.mp bound
  rw [importBinding?, bindings, ← List.map_reverse] at found
  obtain ⟨front, back, split, -⟩ := List.lookup_eq_some_iff.mp found
  have mem : (name, text) ∈ (module.imports.flatMap importBindingsOf).reverse.map
      fun entry => (shared entry.1, entry.2) := by
    rw [split]
    simp
  obtain ⟨entry, listed, same⟩ := List.mem_map.mp mem
  refine ⟨entry.1, (Prod.mk.inj same).1.symm, ?_⟩
  rw [importBinding?, Option.isSome_iff_ne_none, Ne, List.lookup_eq_none_iff]
  intro absent
  simpa using absent _ listed

theorem isTopLevel_rename {name : String} :
    (module.rename shared within).IsTopLevel testFunction name ↔
      ∃ before, name = shared before ∧ module.IsTopLevel testFunction before := by
  constructor
  · rintro (defined | bound)
    · rw [definition?_rename consistent] at defined
      exact ⟨name, (consistent.defined name defined).symm, .inl defined⟩
    · obtain ⟨before, rfl, isBound⟩ := importBinding?_isSome_rename consistent.unaliased bound
      exact ⟨before, rfl, .inr isBound⟩
  · rintro ⟨before, rfl, defined | bound⟩
    · rw [IsTopLevel, definition?_rename consistent, consistent.defined before defined]
      exact .inl defined
    · rw [IsTopLevel, importBinding?_rename consistent]
      exact .inr bound

theorem isTopLevel_within (index : Nat) (name : String) :
    (module.rename shared within).IsTopLevel testFunction ((within index).identifier name) ↔
      module.IsTopLevel testFunction name := by
  rw [isTopLevel_rename consistent]
  constructor
  · rintro ⟨before, same, isTop⟩
    rw [← consistent.agrees index before isTop] at same
    exact consistent.injective index same ▸ isTop
  · exact fun isTop => ⟨name, consistent.agrees index name isTop, isTop⟩

omit consistent in
/-- Names that the worklists of both candidates treat alike. -/
def Alike (module : CandidateModule) (testFunction : String) (shared : String → String)
    (within : Nat → Renaming) (name renamed : String) : Prop :=
  (module.IsTopLevel testFunction name → renamed = shared name) ∧
    ((module.rename shared within).IsTopLevel testFunction renamed →
      module.IsTopLevel testFunction name)

theorem alike_within (index : Nat) (names : List String) :
    List.Forall₂ (Alike module testFunction shared within) names
      (names.map (within index).identifier) := by
  rw [List.forall₂_map_right_iff, List.forall₂_same]
  exact fun name _ => ⟨consistent.agrees index name, (isTopLevel_within consistent index name).mp⟩

theorem alike_loadedBy (index : Nat) :
    List.Forall₂ (Alike module testFunction shared within) (module.loadedBy index)
      ((module.rename shared within).loadedBy index) := by
  have loaded : (module.rename shared within).loadedBy index =
      (module.loadedBy index).map (within index).identifier := by
    simp only [loadedBy, rename, List.getElem?_mapIdx]
    cases module.statements[index]? with
    | none => rfl
    | some tree => exact loadedExternalNames_rename (consistent.injective index) tree
  rw [loaded]
  exact alike_within consistent index _

/-- **The worklist reaches the renamed names** in the same order. -/
theorem reachNames_rename (seen pending : List String)
    (known : ∀ name ∈ seen, module.IsTopLevel testFunction name) (renamed : List String)
    (alike : List.Forall₂ (Alike module testFunction shared within) pending renamed) :
    (module.rename shared within).reachNames testFunction (seen.map shared) renamed =
        (module.reachNames testFunction seen pending).map shared ∧
      ∀ name ∈ module.reachNames testFunction seen pending,
        module.IsTopLevel testFunction name := by
  have remembered : ∀ {seen : List String} {name renamed : String},
      (∀ name ∈ seen, module.IsTopLevel testFunction name) →
      Alike module testFunction shared within name renamed →
      (renamed ∈ seen.map shared ↔ name ∈ seen) := by
    intro seen name renamed known alike
    constructor
    · intro mem
      obtain ⟨before, listed, rfl⟩ := List.mem_map.mp mem
      have isTop := alike.2 ((isTopLevel_rename consistent).mpr ⟨before, rfl, known before listed⟩)
      exact consistent.shared_injective (alike.1 isTop) ▸ listed
    · intro mem
      rw [alike.1 (known name mem)]
      exact List.mem_map_of_mem mem
  have grown : ∀ {seen : List String} {name : String},
      (∀ name ∈ seen, module.IsTopLevel testFunction name) →
      module.IsTopLevel testFunction name →
      ∀ other ∈ seen ++ [name], module.IsTopLevel testFunction other := by
    intro seen name known isTop other mem
    rcases List.mem_append.mp mem with old | new
    · exact known other old
    · exact List.mem_singleton.mp new ▸ isTop
  fun_induction module.reachNames testFunction seen pending generalizing renamed with
  | case1 seen =>
      cases alike
      rw [reachNames]
      exact ⟨rfl, known⟩
  | case2 seen name pending mem ih =>
      cases alike with
      | cons head tail =>
          rw [reachNames, if_pos ((remembered known head).mpr mem)]
          exact ih known _ tail
  | case3 seen name pending fresh index found ih =>
      cases alike with
      | @cons _ other _ others head tail =>
          have isTop : module.IsTopLevel testFunction name := .inl (by simp [found])
          have same : other = shared name := head.1 isTop
          have defined : (module.rename shared within).definition? testFunction other =
              some index := by
            rw [definition?_rename consistent, same, definition?_shared consistent, found]
          obtain ⟨reached, top⟩ := ih (grown known isTop) _
            (List.rel_append tail (alike_loadedBy consistent index))
          rw [reachNames, if_neg (fresh ∘ (remembered known head).mp)]
          refine ⟨?_, top⟩
          split
          · next place foundPlace =>
              obtain rfl : place = index := Option.some.inj (foundPlace.symm.trans defined)
              rw [← reached, List.map_append, List.map_singleton, same]
          · next missing => simp [defined] at missing
  | case4 seen name pending fresh found bound ih =>
      cases alike with
      | @cons _ other _ others head tail =>
          have isTop : module.IsTopLevel testFunction name := .inr bound
          have same : other = shared name := head.1 isTop
          have missing : (module.rename shared within).definition? testFunction other = none := by
            rw [definition?_rename consistent, same, definition?_shared consistent, found]
          have imported : ((module.rename shared within).importBinding? other).isSome := by
            rwa [same, importBinding?_rename consistent]
          obtain ⟨reached, top⟩ := ih (grown known isTop) _ tail
          rw [reachNames, if_neg (fresh ∘ (remembered known head).mp)]
          refine ⟨?_, top⟩
          split
          · next place foundPlace => simp [missing] at foundPlace
          · rw [if_pos imported, ← reached, List.map_append, List.map_singleton, same]
  | case5 seen name pending fresh found unbound ih =>
      cases alike with
      | @cons _ other _ others head tail =>
          have notTop : ¬ (module.rename shared within).IsTopLevel testFunction other := by
            intro isTop
            rcases head.2 isTop with defined | bound
            · simp [found] at defined
            · exact unbound bound
          obtain ⟨missing, unimported⟩ := not_or.mp notTop
          obtain ⟨reached, top⟩ := ih known _ tail
          rw [reachNames, if_neg (fresh ∘ (remembered known head).mp)]
          refine ⟨?_, top⟩
          split
          · next place foundPlace => simp [foundPlace] at missing
          · rw [if_neg unimported, reached]

section Reached

variable (test : PythonTree) (index : Nat)

theorem dependencyNames_rename :
    (module.rename shared within).dependencyNames testFunction
          (test.map (·.rename (within index))) =
        (module.dependencyNames testFunction test).map shared ∧
      ∀ name ∈ module.dependencyNames testFunction test,
        module.IsTopLevel testFunction name := by
  rw [dependencyNames, dependencyNames, loadedExternalNames_rename (consistent.injective index)]
  exact reachNames_rename consistent [] _ (by simp) _ (alike_within consistent index _)

theorem helperStatements_rename :
    (module.rename shared within).helperStatements testFunction
        (test.map (·.rename (within index))) =
      module.helperStatements testFunction test := by
  rw [helperStatements, helperStatements, (dependencyNames_rename consistent test index).1,
    List.filterMap_map]
  congr 1
  apply List.filterMap_congr
  intro name _
  rw [Function.comp_apply, definition?_rename consistent, definition?_shared consistent]

/-- **The fingerprint knows a renamed name as the name before**, in whichever statement. -/
theorem externalBinding?_rename (place : Nat) (name : String) :
    (module.rename shared within).externalBinding? testFunction
        (test.map (·.rename (within index))) ((within place).identifier name) =
      module.externalBinding? testFunction test name := by
  obtain ⟨names, top⟩ := dependencyNames_rename consistent test index
  rw [externalBinding?, externalBinding?, names, helperStatements_rename consistent]
  by_cases reached : name ∈ module.dependencyNames testFunction test
  · have same := consistent.agrees place name (top name reached)
    rw [if_pos reached, same, if_pos (List.mem_map_of_mem reached),
      importBinding?_rename consistent, definition?_rename consistent,
      definition?_shared consistent]
  · have absent : (within place).identifier name ∉
        (module.dependencyNames testFunction test).map shared := by
      intro mem
      obtain ⟨before, listed, same⟩ := List.mem_map.mp mem
      rw [← consistent.agrees place before (top before listed)] at same
      exact reached (consistent.injective place same ▸ listed)
    rw [if_neg reached, if_neg absent]

end Reached

end Renamed

end CandidateModule

end PatchProof
