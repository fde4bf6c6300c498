import Mathlib
import PatchProof.Execution.InstallStrategy

/-!
# One contract for both revisions

The probe of two committed trees and the contract that is synthesized from them.  A pair
whose plans differ, or that has no plan, is refused with the error that callers expect.

The probe means to count a manifest that it cannot use as absent.  The reader, though, says
that a manifest is too large, or is no file at all, with a runtime error that the handler
does not name; a parser that runs out of stack does the same; and beside a lockfile a
manifest is present whatever is in it.  The path of a requirements file has no bound until
the contract is validated (`resolution_total_iff`).
-/

set_option autoImplicit false

namespace PatchProof

/-! ## Resolution -/

def synthesizedTestPath : String := "patchproof_generated_tests/"

section Resolution

variable {isWord : Char → Bool}

/-- The values of a contract over a probed plan. -/
def InstallPlan.contractValues (plan : InstallPlan isWord) : ContractValues where
  install := plan.commands
  testCommand := ["python", "-m", "pytest"]
  allowedTestPaths := [synthesizedTestPath]
  timeoutSeconds := 300
  installTimeoutSeconds := 900
  synthesized := true

/-- `synthesize_contract`. -/
def synthesizeContract (plan : InstallPlan isWord) :
    Except ResolutionException (ExecutionContract isWord) :=
  if plan.strategy = .unsupported then
    .error (.contractSynthesis
      ("no install strategy is available for this revision: " ++ plan.rationale))
  else if valid : plan.contractValues.isValid isWord = true then .ok ⟨plan.contractValues, valid⟩
  else .error .validation

/-- What a pair is resolved to: a contract, and the plans of the two revisions. -/
abbrev ResolvedPair (isWord : Char → Bool) :=
  ExecutionContract isWord × InstallPlan isWord × InstallPlan isWord

variable (isWord) (tomlLoads : List UInt8 → TomlOutcome) (maxMetadataBytes : Nat)

/-- `resolve_contract_for_pair`. -/
def resolveContractForPair (base head : CommittedTree) :
    Except ResolutionException (ResolvedPair isWord) := do
  let basePlan ← base.probe isWord tomlLoads maxMetadataBytes
  let headPlan ← head.probe isWord tomlLoads maxMetadataBytes
  if basePlan.strategy = .unsupported ∨ headPlan.strategy = .unsupported then
    let unsupported := if basePlan.strategy = .unsupported then basePlan else headPlan
    throw (.contractSynthesis
      ("dependency installation is unsupported for this repository: " ++ unsupported.rationale))
  if basePlan.commands ≠ headPlan.commands then
    throw (.contractSynthesis ("BASE and HEAD imply different install strategies (" ++
      basePlan.strategy.value ++ " vs " ++ headPlan.strategy.value ++ "); comparison is unsafe"))
  return (← synthesizeContract headPlan, basePlan, headPlan)

/-! ## Manifests of a tree -/

/-- What the probe can find of a manifest. -/
inductive Manifest where
  | absent
  | unavailable
  | oversized
  | malformed
  | tooDeep
  | document (entries : List (String × TomlValue))

/-- The manifest of a tree. -/
def CommittedTree.manifest (tree : CommittedTree) : Manifest :=
  if tree.committedPaths.contains manifestPath then
    match tree.blob manifestPath with
    | none => .unavailable
    | some bytes =>
        if maxMetadataBytes < bytes.length then .oversized
        else match tomlLoads bytes with
          | .document entries => .document entries
          | .malformed => .malformed
          | .tooDeep => .tooDeep
  else .absent

/-- What the probe takes from a manifest. -/
def Manifest.entries : Manifest → Option (List (String × TomlValue))
  | document entries => some entries
  | _ => none

/-- What escapes from reading a manifest. -/
def Manifest.fault? : Manifest → Option ResolutionException
  | unavailable => some (.contextRetrieval ("required committed file is unavailable: " ++ manifestPath))
  | oversized =>
      some (.contextRetrieval ("required committed file exceeds its byte budget: " ++ manifestPath))
  | tooDeep => some .recursion
  | _ => none

/-- Whether a manifest does no harm: it is not read beside a lockfile, and read otherwise. -/
def Manifest.isHandled (locked : Bool) : Manifest → Bool
  | absent | document _ => true
  | malformed => !locked
  | oversized => false
  | unavailable | tooDeep => locked

/-- A manifest that counts as absent. -/
def Manifest.isUnusable : Manifest → Bool
  | oversized | malformed => true
  | _ => false

/-- The tree without its manifest. -/
def CommittedTree.withoutManifest (tree : CommittedTree) : CommittedTree where
  paths := tree.paths.filter fun path => path.text != manifestPath
  blob := tree.blob
  withinBudget := (List.length_filter_le _ _).trans tree.withinBudget

/-- The tree is installed from a requirements file. -/
structure CommittedTree.InstallsRequirements (tree : CommittedTree) (path : RequirementsPath isWord) :
    Prop where
  unlocked : tree.isLocked = false
  installable : (projectMetadataOf tree.committedPaths
    (tree.manifest tomlLoads maxMetadataBytes).entries).installable = true
  noGroup : firstMatch testGroupPreference (projectMetadataOf tree.committedPaths
    (tree.manifest tomlLoads maxMetadataBytes).entries).dependencyGroups = none
  noExtra : firstMatch testExtraPreference (projectMetadataOf tree.committedPaths
    (tree.manifest tomlLoads maxMetadataBytes).entries).extras = none
  selected : selectRequirementsPath isWord tree.committedPaths = some path

/-- A pair yields one contract for both revisions or is refused as expected, and an unusable
manifest counts as absent. -/
structure ResolvesTotally (base head : CommittedTree) : Prop where
  resolves : match resolveContractForPair isWord tomlLoads maxMetadataBytes base head with
    | .ok (contract, basePlan, headPlan) =>
        base.probe isWord tomlLoads maxMetadataBytes = .ok basePlan ∧
          head.probe isWord tomlLoads maxMetadataBytes = .ok headPlan ∧
          contract.install = basePlan.commands ∧ contract.install = headPlan.commands
    | .error exception => ∃ message, exception = .contractSynthesis message
  degrades : ∀ tree ∈ [base, head], (tree.manifest tomlLoads maxMetadataBytes).isUnusable = true →
    tree.probe isWord tomlLoads maxMetadataBytes =
      tree.withoutManifest.probe isWord tomlLoads maxMetadataBytes

end Resolution

/-! ## Reading -/

section Reading

variable {isWord : Char → Bool} {tomlLoads : List UInt8 → TomlOutcome} {maxMetadataBytes : Nat}
variable {tree : CommittedTree}

/-- The metadata of a tree, by its manifest. -/
theorem projectMetadata_eq : tree.projectMetadata tomlLoads maxMetadataBytes =
    match (tree.manifest tomlLoads maxMetadataBytes).fault? with
    | some exception => .error exception
    | none => .ok (projectMetadataOf tree.committedPaths
        (tree.manifest tomlLoads maxMetadataBytes).entries) := by
  unfold CommittedTree.projectMetadata CommittedTree.manifest
  by_cases present : tree.committedPaths.contains manifestPath = true
  · rw [if_pos present, if_pos present]
    simp only [CommittedTree.readPyproject, CommittedTree.readCommittedFile]
    cases tree.blob manifestPath with
    | none => rfl
    | some bytes =>
        by_cases large : maxMetadataBytes < bytes.length
        · simp only [if_pos large]
          rfl
        · simp only [if_neg large, Guard.ok_bind]
          cases tomlLoads bytes <;> rfl
  · rw [if_neg present, if_neg present]
    rfl

theorem choose_locked (locked : tree.isLocked = true) :
    tree.choose isWord tomlLoads maxMetadataBytes = .ok .locked := by
  rw [CommittedTree.choose, if_pos locked]
  rfl

/-- The choice for a tree without a lockfile. -/
theorem choose_unlocked (unlocked : tree.isLocked = false) :
    tree.choose isWord tomlLoads maxMetadataBytes =
      match (tree.manifest tomlLoads maxMetadataBytes).fault? with
      | some exception => .error exception
      | none => .ok (chooseInstall isWord (projectMetadataOf tree.committedPaths
          (tree.manifest tomlLoads maxMetadataBytes).entries) tree.committedPaths) := by
  rw [CommittedTree.choose, if_neg (by simp [unlocked]), projectMetadata_eq]
  cases (tree.manifest tomlLoads maxMetadataBytes).fault? <;> rfl

theorem chooseInstall_ne_locked (metadata : ProjectMetadata) (paths : List String) :
    chooseInstall isWord metadata paths ≠ .locked := by
  unfold chooseInstall
  split
  · simp
  · split
    · simp
    · split
      · simp
      · split <;> simp

/-- What a requirements file is chosen for. -/
theorem chooseInstall_eq_requirements {metadata : ProjectMetadata} {paths : List String}
    {path : RequirementsPath isWord} :
    chooseInstall isWord metadata paths = .requirements path ↔ metadata.installable = true ∧
      firstMatch testGroupPreference metadata.dependencyGroups = none ∧
      firstMatch testExtraPreference metadata.extras = none ∧
      selectRequirementsPath isWord paths = some path := by
  unfold chooseInstall
  cases metadata.installable with
  | false => simp
  | true =>
      cases firstMatch testGroupPreference metadata.dependencyGroups with
      | some name => simp
      | none =>
          cases firstMatch testExtraPreference metadata.extras with
          | some name => simp
          | none => cases selectRequirementsPath isWord paths <;> simp

variable (isWord) in
/-- A harmless manifest lets the probe make its choice. -/
theorem chosen_of_handled
    (handled : (tree.manifest tomlLoads maxMetadataBytes).isHandled tree.isLocked = true) :
    ∃ choice, tree.choose isWord tomlLoads maxMetadataBytes = .ok choice ∧
      ∀ path, choice = .requirements path ↔
        tree.InstallsRequirements isWord tomlLoads maxMetadataBytes path := by
  cases locked : tree.isLocked with
  | true =>
      refine ⟨_, choose_locked locked, fun path => ?_⟩
      constructor
      · intro absurdity
        cases absurdity
      · intro installs
        exact absurd (locked.symm.trans installs.unlocked) (by simp)
  | false =>
      have clean : (tree.manifest tomlLoads maxMetadataBytes).fault? = none := by
        rw [locked] at handled
        cases state : tree.manifest tomlLoads maxMetadataBytes <;> rw [state] at handled <;>
          first | rfl | cases handled
      refine ⟨_, by rw [choose_unlocked locked, clean], fun path => ?_⟩
      rw [chooseInstall_eq_requirements]
      constructor
      · rintro ⟨installable, noGroup, noExtra, selected⟩
        exact ⟨locked, installable, noGroup, noExtra, selected⟩
      · intro installs
        exact ⟨installs.installable, installs.noGroup, installs.noExtra, installs.selected⟩

/-- Without its manifest a tree has no lockfile strategy. -/
theorem withoutManifest_manifest (tree : CommittedTree) :
    manifestPath ∉ tree.withoutManifest.committedPaths := by
  intro mem
  obtain ⟨path, kept, same⟩ := List.mem_map.mp mem
  have other := (List.mem_filter.mp kept).2
  rw [same] at other
  simp at other

theorem withoutManifest_unlocked : tree.withoutManifest.isLocked = false := by
  have absent := withoutManifest_manifest tree
  simp [CommittedTree.isLocked, absent]

theorem withoutManifest_absent :
    tree.withoutManifest.manifest tomlLoads maxMetadataBytes = .absent := by
  have absent := withoutManifest_manifest tree
  simp [CommittedTree.manifest, absent]

/-- Other files are committed all the same. -/
theorem withoutManifest_contains {path : String} (other : path ≠ manifestPath) :
    tree.withoutManifest.committedPaths.contains path = tree.committedPaths.contains path := by
  rw [Bool.eq_iff_iff, List.contains_iff_mem, List.contains_iff_mem]
  simp only [CommittedTree.committedPaths, CommittedTree.withoutManifest, List.mem_map,
    List.mem_filter, bne_iff_ne]
  constructor
  · rintro ⟨entry, ⟨mem, _⟩, rfl⟩
    exact ⟨entry, mem, rfl⟩
  · rintro ⟨entry, mem, rfl⟩
    exact ⟨entry, ⟨mem, other⟩, rfl⟩

/-- A manifest is no requirements file. -/
theorem requirementsPath?_manifest : requirementsPath? isWord manifestPath = none := by
  have refused : isRequirementsPath isWord manifestPath = false := by
    simp [isRequirementsPath, isRequirementsName, manifestPath]
  simp [requirementsPath?, refused]

theorem withoutManifest_selected :
    selectRequirementsPath isWord tree.withoutManifest.committedPaths =
      selectRequirementsPath isWord tree.committedPaths := by
  have same : tree.withoutManifest.committedPaths.filterMap (requirementsPath? isWord) =
      tree.committedPaths.filterMap (requirementsPath? isWord) := by
    simp only [CommittedTree.committedPaths, CommittedTree.withoutManifest]
    induction tree.paths with
    | nil => rfl
    | cons path rest ih =>
        by_cases named : path.text = manifestPath
        · simp only [List.filter_cons, named, bne_self_eq_false, Bool.false_eq_true, if_false,
            List.map_cons, List.filterMap_cons, requirementsPath?_manifest, ih]
        · have kept : (path.text != manifestPath) = true := bne_iff_ne.mpr named
          simp only [List.filter_cons, kept, if_true, List.map_cons, List.filterMap_cons, ih]
  unfold selectRequirementsPath
  rw [same]

theorem withoutManifest_chooseInstall (metadata : ProjectMetadata) :
    chooseInstall isWord metadata tree.withoutManifest.committedPaths =
      chooseInstall isWord metadata tree.committedPaths := by
  unfold chooseInstall
  rw [withoutManifest_selected]

/-- **A malformed manifest counts as absent** when no lockfile is beside it. -/
theorem probe_malformed (unlocked : tree.isLocked = false)
    (malformed : tree.manifest tomlLoads maxMetadataBytes = .malformed) :
    tree.probe isWord tomlLoads maxMetadataBytes =
      tree.withoutManifest.probe isWord tomlLoads maxMetadataBytes := by
  have metadata : projectMetadataOf tree.withoutManifest.committedPaths none =
      projectMetadataOf tree.committedPaths none := by
    simp only [projectMetadataOf, withoutManifest_contains (show "setup.py" ≠ manifestPath by decide),
      withoutManifest_contains (show "setup.cfg" ≠ manifestPath by decide)]
  rw [CommittedTree.probe, CommittedTree.probe, choose_unlocked unlocked, malformed,
    choose_unlocked withoutManifest_unlocked, withoutManifest_absent]
  simp only [Manifest.fault?, Manifest.entries, metadata, withoutManifest_chooseInstall]

theorem strategy_chooseInstall (metadata : ProjectMetadata) (paths : List String) :
    (chooseInstall isWord metadata paths).strategy ≠ .uvSyncLocked := by
  have other : chooseInstall isWord metadata paths ≠ .locked := chooseInstall_ne_locked metadata paths
  cases choice : chooseInstall isWord metadata paths with
  | locked => exact absurd choice other
  | unsupported | group _ | extra _ | requirements _ | editable => simp [InstallChoice.strategy]

/-- Beside a lockfile a manifest counts, whatever is in it. -/
theorem probe_locked_ne (locked : tree.isLocked = true) :
    tree.probe isWord tomlLoads maxMetadataBytes ≠
      tree.withoutManifest.probe isWord tomlLoads maxMetadataBytes := by
  intro same
  rw [CommittedTree.probe, CommittedTree.probe, choose_locked locked,
    choose_unlocked withoutManifest_unlocked, withoutManifest_absent] at same
  have strategies := congrArg InstallPlan.strategy (Except.ok.inj same)
  exact strategy_chooseInstall _ _ strategies.symm

end Reading

/-! ## Contracts of choices -/

section Contracts

variable {isWord : Char → Bool}

theorem isSafeToken_iff {token : String} : isSafeToken token = true ↔
    1 ≤ token.length ∧ token.length ≤ 300 ∧ ∀ c ∈ token.toList, 0x1f < c.toNat ∧ c.toNat ≠ 0x7f := by
  simp [isSafeToken, and_assoc, String.length_toList]

theorem isNameStart_bounds {c : Char} (start : isNameStart c = true) :
    0x1f < c.toNat ∧ c.toNat ≠ 0x7f := by
  simp only [isNameStart, Bool.or_eq_true, Bool.and_eq_true, decide_eq_true_eq] at start
  have lowest : ∀ {bound : Char}, bound ≤ c → bound.toNat ≤ c.toNat := fun le => le
  have highest : ∀ {bound : Char}, c ≤ bound → c.toNat ≤ bound.toNat := fun le => le
  rcases start with ⟨low, high⟩ | ⟨low, high⟩
  · have := lowest low
    have := highest high
    simp at *
    omega
  · have := lowest low
    have := highest high
    simp at *
    omega

theorem isExtraName_bounds {name : List Char} (valid : isExtraName name = true) :
    1 ≤ name.length ∧ name.length ≤ 31 ∧ ∀ c ∈ name, 0x1f < c.toNat ∧ c.toNat ≠ 0x7f := by
  cases name with
  | nil => cases valid
  | cons first rest =>
      simp only [isExtraName, Bool.and_eq_true, decide_eq_true_eq, List.all_eq_true,
        Bool.or_eq_true, beq_iff_eq] at valid
      obtain ⟨⟨start, short⟩, others⟩ := valid
      refine ⟨by simp, by simp; omega, fun c mem => ?_⟩
      rcases List.mem_cons.mp mem with rfl | mem
      · exact isNameStart_bounds start
      · rcases others c mem with ((start | rfl) | rfl) | rfl
        · exact isNameStart_bounds start
        · decide
        · decide
        · decide

/-- A requirements path is made of its two fixed parts and of what stands between them. -/
theorem isRequirementsName_split {path : List Char} (valid : isRequirementsName isWord path = true) :
    ∃ middle, path = "requirements".toList ++ (middle ++ ".txt".toList) ∧
      ∀ c ∈ middle, isWord c = true ∨ c = '.' ∨ c = '-' ∨ c = '/' := by
  simp only [isRequirementsName, Bool.and_eq_true, decide_eq_true_eq,
    List.isPrefixOf_iff_prefix, List.isSuffixOf_iff_suffix] at valid
  obtain ⟨⟨⟨⟨rest, rfl⟩, ends⟩, fits⟩, middle⟩ := valid
  have tail : ".txt".toList <:+ rest := by
    refine List.suffix_of_suffix_length_le ends (List.suffix_append _ _) ?_
    rw [List.length_append] at fits
    omega
  obtain ⟨name, rfl⟩ := tail
  have between : (("requirements".toList ++ (name ++ ".txt".toList)).drop "requirements".toList.length).take
      (("requirements".toList ++ (name ++ ".txt".toList)).length - "requirements".toList.length -
        ".txt".toList.length) = name := by
    rw [List.drop_left, List.length_append, List.length_append, Nat.add_sub_cancel_left,
      Nat.add_sub_cancel, List.take_left]
  rw [between] at middle
  refine ⟨name, rfl, fun c mem => ?_⟩
  rcases Bool.or_eq_true_iff.mp middle with plain | nested
  · have part := List.all_eq_true.mp plain c mem
    simp only [Bool.or_eq_true, beq_iff_eq, or_assoc] at part
    rcases part with word | dot | dash
    · exact .inl word
    · exact .inr (.inl dot)
    · exact .inr (.inr (.inl dash))
  · cases name with
    | nil => cases mem
    | cons separator rest =>
        simp only [Bool.and_eq_true, beq_iff_eq, List.all_eq_true, Bool.or_eq_true] at nested
        rcases List.mem_cons.mp mem with rfl | mem
        · exact .inr (.inr (.inr nested.1.1))
        · rcases nested.2 c mem with (word | dot) | dash
          · exact .inl word
          · exact .inr (.inl dot)
          · exact .inr (.inr (.inl dash))

/-- Every character of a requirements path is printable. -/
theorem isRequirementsPath_bounds {value : String} (valid : isRequirementsPath isWord value = true)
    (printable : ∀ c, isWord c = true → 0x1f < c.toNat ∧ c.toNat ≠ 0x7f) :
    1 ≤ value.length ∧ ∀ c ∈ value.toList, 0x1f < c.toNat ∧ c.toNat ≠ 0x7f := by
  simp only [isRequirementsPath, Bool.and_eq_true] at valid
  obtain ⟨middle, same, parts⟩ := isRequirementsName_split valid.2
  have stem : ∀ c ∈ "requirements".toList, 0x1f < c.toNat ∧ c.toNat ≠ 0x7f := by simp
  have ending : ∀ c ∈ ".txt".toList, 0x1f < c.toNat ∧ c.toNat ≠ 0x7f := by simp
  constructor
  · rw [← String.length_toList, same, List.length_append]
    exact Nat.le_trans (by decide) (Nat.le_add_right "requirements".toList.length _)
  · intro c mem
    rw [same, List.mem_append, List.mem_append] at mem
    rcases mem with front | between | back
    · exact stem c front
    · rcases parts c between with word | rfl | rfl | rfl
      · exact printable c word
      · decide
      · decide
      · decide
    · exact ending c back

/-- A command that ends in a value is as bounded as the value. -/
theorem isBoundedCommand_concat (fixed : Command) {value : String}
    (safe : fixed.all isSafeToken = true) (short : fixed.length ≤ 7) :
    isBoundedCommand (fixed ++ [value]) = isSafeToken value := by
  have fits : fixed.length + 1 ≤ 8 := by omega
  simp [isBoundedCommand, safe, fits]

/-- The only token of a template that may be too long is a requirements path. -/
theorem InstallTemplate.isBoundedCommand_iff (template : InstallTemplate isWord)
    (printable : ∀ c, isWord c = true → 0x1f < c.toNat ∧ c.toNat ≠ 0x7f) :
    isBoundedCommand template.command = true ↔
      ∀ path, template = .installRequirements path → path.text.length ≤ 300 := by
  cases template with
  | syncFrozen | createVenv | installPytest | installEditable =>
      refine ⟨fun _ path absurdity => (by cases absurdity), fun _ => ?_⟩
      simp only [command]
      decide
  | installExtra name =>
      refine ⟨fun _ path absurdity => (by cases absurdity), fun _ => ?_⟩
      obtain ⟨_, short, characters⟩ := isExtraName_bounds name.wellFormed
      rw [String.length_toList] at short
      have target : isSafeToken (".[" ++ name.text ++ "]") = true := by
        have front : ∀ c ∈ ".[".toList, 0x1f < c.toNat ∧ c.toNat ≠ 0x7f := by simp
        have back : ∀ c ∈ "]".toList, 0x1f < c.toNat ∧ c.toNat ≠ 0x7f := by simp
        have brackets : ".[".length = 2 ∧ "]".length = 1 := ⟨rfl, rfl⟩
        rw [isSafeToken_iff, String.length_append, String.length_append]
        refine ⟨by omega, by omega, fun c mem => ?_⟩
        rw [String.toList_append, String.toList_append, List.mem_append, List.mem_append] at mem
        rcases mem with (first | middle) | last
        · exact front c first
        · exact characters c middle
        · exact back c last
      exact (isBoundedCommand_concat ["uv", "pip", "install", "-e"] (by decide)
        (by decide)).trans target
  | installGroup name =>
      refine ⟨fun _ path absurdity => (by cases absurdity), fun _ => ?_⟩
      obtain ⟨long, short, characters⟩ := isExtraName_bounds name.wellFormed
      rw [String.length_toList] at long short
      have value : isSafeToken name.text = true :=
        isSafeToken_iff.mpr ⟨long, by omega, characters⟩
      exact (isBoundedCommand_concat ["uv", "pip", "install", "--group"] (by decide)
        (by decide)).trans value
  | installRequirements path =>
      obtain ⟨long, characters⟩ := isRequirementsPath_bounds path.wellFormed printable
      have same : isBoundedCommand (command (.installRequirements path)) = isSafeToken path.text :=
        isBoundedCommand_concat ["uv", "pip", "install", "-r"] (by decide) (by decide)
      rw [same, isSafeToken_iff]
      constructor
      · rintro ⟨_, short, _⟩ other taken
        cases taken
        exact short
      · intro short
        exact ⟨long, short path rfl, characters⟩

/-- **When a plan makes a valid contract**: when its requirements path is short enough. -/
theorem InstallChoice.contractValues_valid (choice : InstallChoice isWord)
    (supported : choice.plan.strategy ≠ .unsupported)
    (printable : ∀ c, isWord c = true → 0x1f < c.toNat ∧ c.toNat ≠ 0x7f) :
    choice.plan.contractValues.isValid isWord = true ↔
      ∀ path, choice = .requirements path → path.text.length ≤ 300 := by
  have size : 1 ≤ choice.templates.length ∧ choice.templates.length ≤ 4 := by
    cases choice with
    | unsupported => exact absurd rfl supported
    | _ => simp [templates]
  have fixed : (isBoundedCommand ["python", "-m", "pytest"] &&
      allowedTestCommands.contains ["python", "-m", "pytest"]) = true ∧
      isDirectoryPrefix synthesizedTestPath = true := by decide +kernel
  have commands_valid : choice.plan.contractValues.isValid isWord = true ↔
      ∀ template ∈ choice.templates, isBoundedCommand template.command = true := by
    have admitted : ∀ template ∈ choice.templates,
        isProbedInstallCommand isWord template.command = true :=
      fun template _ => template.command_admitted
    simp only [ContractValues.isValid, ContractValues.installsValid, InstallPlan.contractValues,
      InstallChoice.plan, fixed.1]
    norm_num [fixed.2, commands]
    constructor
    · intro valid template mem
      exact (valid.2 template mem).1
    · intro bounded
      exact ⟨size, fun template mem => ⟨bounded template mem, admitted template mem⟩⟩
  rw [commands_valid]
  constructor
  · rintro bounded path rfl
    exact ((InstallTemplate.isBoundedCommand_iff (.installRequirements path) printable).mp
      (bounded _ (by simp [templates]))) path rfl
  · intro short template mem
    rw [template.isBoundedCommand_iff printable]
    rintro path rfl
    cases choice <;> simp [templates] at mem
    exact short path (by rw [mem])

theorem synthesizeContract_of_short {choice : InstallChoice isWord}
    (supported : choice.plan.strategy ≠ .unsupported)
    (printable : ∀ c, isWord c = true → 0x1f < c.toNat ∧ c.toNat ≠ 0x7f)
    (short : ∀ path, choice = .requirements path → path.text.length ≤ 300) :
    ∃ contract, synthesizeContract choice.plan = .ok contract ∧
      contract.install = choice.plan.commands := by
  have valid := (choice.contractValues_valid supported printable).mpr short
  exact ⟨⟨choice.plan.contractValues, valid⟩, by
    rw [synthesizeContract, if_neg supported, dif_pos valid], rfl⟩

/-- A path that is too long for a token is found by the validation. -/
theorem synthesizeContract_of_long {path : RequirementsPath isWord}
    (printable : ∀ c, isWord c = true → 0x1f < c.toNat ∧ c.toNat ≠ 0x7f)
    (long : ¬ path.text.length ≤ 300) :
    synthesizeContract (InstallChoice.requirements path).plan = .error .validation := by
  have supported : (InstallChoice.requirements path).plan.strategy ≠ .unsupported := by
    simp [InstallChoice.plan, InstallChoice.strategy]
  have invalid : ¬ (InstallChoice.requirements path).plan.contractValues.isValid isWord = true := by
    intro valid
    exact long ((InstallChoice.contractValues_valid _ supported printable).mp valid path rfl)
  rw [synthesizeContract, if_neg supported, dif_neg invalid]

/-- Plans with the same commands install from the same requirements file. -/
theorem InstallChoice.requirements_of_commands {choice : InstallChoice isWord}
    {path : RequirementsPath isWord}
    (same : choice.commands = (InstallChoice.requirements path).commands) :
    choice = .requirements path := by
  cases choice with
  | locked | unsupported | group _ | extra _ | editable =>
      simp [commands, templates, InstallTemplate.command] at same
  | requirements other =>
      simp only [commands, templates, InstallTemplate.command, List.map_cons, List.cons.injEq,
        true_and, and_true] at same
      cases other
      cases path
      simp_all

end Contracts

/-! ## Pairs -/

section Pairs

variable {isWord : Char → Bool} {tomlLoads : List UInt8 → TomlOutcome} {maxMetadataBytes : Nat}
variable {base head : CommittedTree}

/-- A pair of choices is resolved by their plans. -/
theorem resolve_of_chosen {first second : InstallChoice isWord}
    (baseChosen : base.choose isWord tomlLoads maxMetadataBytes = .ok first)
    (headChosen : head.choose isWord tomlLoads maxMetadataBytes = .ok second) :
    resolveContractForPair isWord tomlLoads maxMetadataBytes base head =
      (if first.plan.strategy = .unsupported ∨ second.plan.strategy = .unsupported then
        .error (.contractSynthesis ("dependency installation is unsupported for this repository: " ++
          (if first.plan.strategy = .unsupported then first.plan else second.plan).rationale))
      else if first.plan.commands ≠ second.plan.commands then
        .error (.contractSynthesis ("BASE and HEAD imply different install strategies (" ++
          first.plan.strategy.value ++ " vs " ++ second.plan.strategy.value ++
          "); comparison is unsafe"))
      else (synthesizeContract second.plan).map fun contract =>
        (contract, first.plan, second.plan)) := by
  have baseProbed : base.probe isWord tomlLoads maxMetadataBytes = .ok first.plan := by
    rw [CommittedTree.probe, baseChosen]
    rfl
  have headProbed : head.probe isWord tomlLoads maxMetadataBytes = .ok second.plan := by
    rw [CommittedTree.probe, headChosen]
    rfl
  simp only [resolveContractForPair, baseProbed, headProbed, Guard.ok_bind, Guard.throw_eq_error]
  split
  · rfl
  · split
    · rfl
    · cases synthesizeContract second.plan <;> rfl

theorem probe_of_fault {tree : CommittedTree} {exception : ResolutionException}
    (unlocked : tree.isLocked = false)
    (fault : (tree.manifest tomlLoads maxMetadataBytes).fault? = some exception) :
    tree.probe isWord tomlLoads maxMetadataBytes = .error exception := by
  rw [CommittedTree.probe, choose_unlocked unlocked, fault]
  rfl

/-- The probe never raises the error that callers expect. -/
theorem probe_error_unexpected {tree : CommittedTree} {exception : ResolutionException}
    (raised : tree.probe isWord tomlLoads maxMetadataBytes = .error exception) (message : String) :
    exception ≠ .contractSynthesis message := by
  cases locked : tree.isLocked with
  | true =>
      rw [CommittedTree.probe, choose_locked locked] at raised
      cases raised
  | false =>
      cases fault : (tree.manifest tomlLoads maxMetadataBytes).fault? with
      | none =>
          rw [CommittedTree.probe, choose_unlocked locked, fault] at raised
          cases raised
      | some found =>
          rw [probe_of_fault locked fault] at raised
          cases raised
          rintro rfl
          cases state : tree.manifest tomlLoads maxMetadataBytes <;> rw [state] at fault <;>
            cases fault

/-- A resolution that is total finds no fault in a manifest it reads. -/
theorem ResolvesTotally.fault_none (total : ResolvesTotally isWord tomlLoads maxMetadataBytes base head)
    {tree : CommittedTree} (member : tree ∈ [base, head]) (unlocked : tree.isLocked = false) :
    (tree.manifest tomlLoads maxMetadataBytes).fault? = none := by
  have resolves := total.resolves
  cases fault : (tree.manifest tomlLoads maxMetadataBytes).fault? with
  | none => rfl
  | some exception =>
      have raised : tree.probe isWord tomlLoads maxMetadataBytes = .error exception :=
        probe_of_fault unlocked fault
      cases basePlan : base.probe isWord tomlLoads maxMetadataBytes with
      | error first =>
          simp only [resolveContractForPair, basePlan, Guard.error_bind] at resolves
          obtain ⟨message, same⟩ := resolves
          exact absurd same (probe_error_unexpected basePlan message)
      | ok plan =>
          rcases List.mem_pair.mp member with rfl | rfl
          · rw [raised] at basePlan
            cases basePlan
          · simp only [resolveContractForPair, basePlan, raised, Guard.ok_bind, Guard.error_bind]
              at resolves
            obtain ⟨message, same⟩ := resolves
            exact absurd same (probe_error_unexpected raised message)

/-- A resolution that is total handles the manifest of each tree. -/
theorem ResolvesTotally.handled (total : ResolvesTotally isWord tomlLoads maxMetadataBytes base head)
    {tree : CommittedTree} (member : tree ∈ [base, head]) :
    (tree.manifest tomlLoads maxMetadataBytes).isHandled tree.isLocked = true := by
  cases locked : tree.isLocked with
  | false =>
      have clean := total.fault_none member locked
      cases state : tree.manifest tomlLoads maxMetadataBytes <;> rw [state] at clean <;>
        first | rfl | cases clean
  | true =>
      have degrades := total.degrades tree member
      cases state : tree.manifest tomlLoads maxMetadataBytes with
      | absent | unavailable | tooDeep | document _ => rfl
      | oversized | malformed =>
          rw [state] at degrades
          exact absurd (degrades rfl) (probe_locked_ne locked)

end Pairs

/-- A parser of manifests that hold comments only. -/
def commentsOnly (bytes : List UInt8) : TomlOutcome :=
  if bytes.all (· == 0x23) then .document [] else .malformed

def setupPath : RepositoryPath := ⟨"setup.py", by decide +kernel⟩

def pyprojectPath : RepositoryPath := ⟨manifestPath, by decide +kernel⟩

/-- A project without a manifest. -/
def setupTree : CommittedTree := ⟨[setupPath], fun _ => some [], by decide⟩

/-- A project whose manifest is one comment of some size. -/
def commentTree (size : Nat) : CommittedTree :=
  ⟨[setupPath, pyprojectPath], fun _ => some (List.replicate size 0x23), by decide⟩

theorem isIdentifierChar_printable {c : Char} (word : isIdentifierChar c = true) :
    0x1f < c.toNat ∧ c.toNat ≠ 0x7f := by
  have between : ∀ {low high : Char}, low.val ≤ c.val → c.val ≤ high.val →
      low.toNat ≤ c.toNat ∧ c.toNat ≤ high.toNat := fun above below => ⟨above, below⟩
  simp only [isIdentifierChar, Char.isAlphanum, Char.isAlpha, Char.isUpper, Char.isLower,
    Char.isDigit, Bool.or_eq_true, Bool.and_eq_true, decide_eq_true_eq, beq_iff_eq] at word
  rcases word with ((⟨low, high⟩ | ⟨low, high⟩) | ⟨low, high⟩) | rfl
  · have bounds := between low high
    simp at bounds
    omega
  · have bounds := between low high
    simp at bounds
    omega
  · have bounds := between low high
    simp at bounds
    omega
  · decide

theorem commentTree_unlocked (size : Nat) : (commentTree size).isLocked = false := by
  simp [CommittedTree.isLocked, CommittedTree.committedPaths, commentTree, setupPath,
    pyprojectPath, manifestPath]

theorem commentTree_oversized {size : Nat} (large : 262144 < size) :
    (commentTree size).manifest commentsOnly 262144 = .oversized := by
  have present : (commentTree size).committedPaths.contains manifestPath = true := by
    simp [commentTree, CommittedTree.committedPaths, pyprojectPath]
  have blob : (commentTree size).blob manifestPath = some (List.replicate size 0x23) := rfl
  rw [CommittedTree.manifest, if_pos present, blob]
  simp only [List.length_replicate, if_pos large]

end PatchProof
