import PatchProof.Context.Models
import PatchProof.Context.Sources
import PatchProof.Execution.Contract

/-!
# Which install commands a revision implies

The probe of one committed tree: it looks at the names of a few files, reads the manifest,
and chooses one of six strategies.  A strategy is a list of templates, and a template is
filled with nothing but a name or a path that has passed its pattern, so every command of
a plan is an instance of a template by its construction.

The gate in front of execution does not know the templates.  It admits every short list of
the right tokens, in any order, as long as a value stands after the flag that admits it
(`probed_templates_iff`).
-/

set_option autoImplicit false

namespace PatchProof

/-! ## Templates -/

/-- A name of an extra or of a dependency group. -/
structure DeclaredName where
  text : String
  wellFormed : isExtraName text.toList = true
  deriving DecidableEq

section Templates

variable (isWord : Char → Bool)

/-- A normalized path of a committed requirements file. -/
structure RequirementsPath where
  text : String
  wellFormed : isRequirementsPath isWord text = true
  deriving DecidableEq

/-- The commands that a plan is made of. -/
inductive InstallTemplate where
  | syncFrozen
  | createVenv
  | installPytest
  | installEditable
  | installExtra (name : DeclaredName)
  | installGroup (name : DeclaredName)
  | installRequirements (path : RequirementsPath isWord)

variable {isWord}

def InstallTemplate.command : InstallTemplate isWord → Command
  | .syncFrozen => ["uv", "sync", "--frozen"]
  | .createVenv => ["uv", "venv"]
  | .installPytest => ["uv", "pip", "install", "pytest"]
  | .installEditable => ["uv", "pip", "install", "-e", "."]
  | .installExtra name => ["uv", "pip", "install", "-e", ".[" ++ name.text ++ "]"]
  | .installGroup name => ["uv", "pip", "install", "--group", name.text]
  | .installRequirements path => ["uv", "pip", "install", "-r", path.text]

variable (isWord)

/-- A command that instantiates a template. -/
def InstantiatesTemplate (command : Command) : Prop :=
  ∃ template : InstallTemplate isWord, command = template.command

/-- A token of the fixed vocabulary, or a value after the flag that admits it. -/
def MayFollow (previous token : String) : Prop :=
  token ∈ allowedFixedTokens ∨ (previous = "-r" ∧ isRequirementsPath isWord token = true) ∨
    (previous = "-e" ∧ isEditableWithExtra token = true) ∨
    (previous = "--group" ∧ isExtraName token.toList = true)

/-- At most six tokens from `uv` on, each admitted after the one before it, that do not
make up an instance of a template. -/
structure Recombines (command : Command) : Prop where
  starts : command.head? = some "uv"
  short : command.length ≤ 6
  admitted : command.IsChain (MayFollow isWord)
  shapeless : ¬ InstantiatesTemplate isWord command

end Templates

/-! ## The gate -/

section Gate

variable {isWord : Char → Bool}

theorem areProbedTokens_iff {tokens : List String} {previous : String} :
    areProbedTokens isWord previous tokens = true ↔ (previous :: tokens).IsChain (MayFollow isWord) := by
  induction tokens generalizing previous with
  | nil => simp [areProbedTokens]
  | cons token rest ih =>
      rw [List.isChain_cons_cons, ← ih]
      simp [areProbedTokens, MayFollow, or_assoc]

/-- **What the gate admits**: at most six tokens from `uv` on, each admitted after the one
before it. -/
theorem isProbedInstallCommand_iff {command : Command} :
    isProbedInstallCommand isWord command = true ↔ command.head? = some "uv" ∧
      command.length ≤ 6 ∧ command.IsChain (MayFollow isWord) := by
  cases command with
  | nil => simp [isProbedInstallCommand]
  | cons token rest =>
      have uv : MayFollow isWord "" "uv" := .inl (by decide)
      simp only [isProbedInstallCommand, areProbedTokens_iff, List.isChain_cons_cons,
        Bool.and_eq_true, decide_eq_true_eq, beq_iff_eq, List.isEmpty_cons, Bool.not_false,
        List.head?_cons, Option.some.injEq, true_and]
      constructor
      · rintro ⟨⟨short, first⟩, _, chain⟩
        exact ⟨first, short, chain⟩
      · rintro ⟨rfl, short, chain⟩
        exact ⟨⟨short, rfl⟩, uv, chain⟩

/-- The target of an extra. -/
theorem isEditableWithExtra_of_name (name : DeclaredName) :
    isEditableWithExtra (".[" ++ name.text ++ "]") = true := by
  have front : ".[".toList = ['.', '['] := rfl
  have back : "]".toList = [']'] := rfl
  have last : ('.' :: '[' :: (name.text.toList ++ [']'])).getLast? = some ']' := by
    rw [← List.cons_append, ← List.cons_append, List.getLast?_concat]
  simp only [isEditableWithExtra, String.toList_append, front, back]
  simp [name.wellFormed, last]

/-- **Every instance of a template is admitted.** -/
theorem InstallTemplate.command_admitted (template : InstallTemplate isWord) :
    isProbedInstallCommand isWord template.command = true := by
  rw [isProbedInstallCommand_iff]
  have fixed : ∀ {previous token : String}, token ∈ allowedFixedTokens →
      MayFollow isWord previous token := fun mem => .inl mem
  cases template with
  | syncFrozen | createVenv | installPytest | installEditable =>
      refine ⟨rfl, by simp [command], ?_⟩
      simp only [command, List.isChain_cons_cons, List.IsChain.singleton, and_true]
      repeat' apply And.intro
      all_goals exact fixed (by decide)
  | installExtra name =>
      refine ⟨rfl, by simp [command], ?_⟩
      simp only [command, List.isChain_cons_cons, List.IsChain.singleton, and_true]
      refine ⟨fixed (by decide), fixed (by decide), fixed (by decide), ?_⟩
      exact .inr (.inr (.inl ⟨rfl, isEditableWithExtra_of_name name⟩))
  | installGroup name =>
      refine ⟨rfl, by simp [command], ?_⟩
      simp only [command, List.isChain_cons_cons, List.IsChain.singleton, and_true]
      refine ⟨fixed (by decide), fixed (by decide), fixed (by decide), ?_⟩
      exact .inr (.inr (.inr ⟨rfl, name.wellFormed⟩))
  | installRequirements path =>
      refine ⟨rfl, by simp [command], ?_⟩
      simp only [command, List.isChain_cons_cons, List.IsChain.singleton, and_true]
      refine ⟨fixed (by decide), fixed (by decide), fixed (by decide), ?_⟩
      exact .inr (.inl ⟨rfl, path.wellFormed⟩)

end Gate

/-! ## Manifests -/

/-- What the probe looks at in a TOML value. -/
inductive TomlValue where
  | table (entries : List (String × TomlValue))
  | other

/-- `value.get(key)`, of a table. -/
def TomlValue.get? (key : String) : TomlValue → Option TomlValue
  | .table entries => entries.lookup key
  | .other => none

def TomlValue.isTable : TomlValue → Bool
  | .table _ => true
  | .other => false

/-- The name that a key declares. -/
def declaredName? (key : String) : Option DeclaredName :=
  let normalized := lower (strip key)
  if wellFormed : isExtraName normalized.toList = true then some ⟨normalized, wellFormed⟩ else none

/-- `_declared_names`, in no order. -/
def declaredNames : Option TomlValue → List DeclaredName
  | some (.table entries) => entries.filterMap fun entry => declaredName? entry.1
  | _ => []

/-- `_first_match`. -/
def firstMatch (preference : List String) (declared : List DeclaredName) : Option DeclaredName :=
  preference.findSome? fun name => declared.find? fun found => found.text == name

def testExtraPreference : List String := ["test", "tests", "testing", "dev", "develop", "development"]

def testGroupPreference : List String := ["test", "tests", "dev", "testing"]

/-! ## Requirements files -/

section Requirements

variable (isWord : Char → Bool)

/-- `PurePosixPath(path).name`. -/
def fileName (path : String) : String :=
  String.ofList ((pathSegments path.toList).getLast?.getD [])

def developmentMarkers : List String := ["dev", "test", "testing", "docs", "lint", "typing"]

def requirementsPath? (path : String) : Option (RequirementsPath isWord) :=
  if wellFormed : isRequirementsPath isWord path = true then some ⟨path, wellFormed⟩ else none

/-- Shorter paths first, then by their characters. -/
def isShorterPath (first second : String) : Bool :=
  first.length < second.length || (first.length == second.length && decide (first < second))

variable {isWord}

/-- `min`, by length and characters. -/
def shortestPath : List (RequirementsPath isWord) → Option (RequirementsPath isWord)
  | [] => none
  | first :: rest => some (rest.foldl (fun least path =>
      if isShorterPath path.text least.text then path else least) first)

variable (isWord)

/-- `_select_requirements_path`. -/
def selectRequirementsPath (paths : List String) : Option (RequirementsPath isWord) :=
  let runtime := (paths.filterMap (requirementsPath? isWord)).filter fun path =>
    !developmentMarkers.any fun marker => isWithin marker (lower (fileName path.text))
  (runtime.find? fun path => path.text == "requirements.txt").or (shortestPath runtime)

end Requirements

/-! ## Plans -/

/-- How dependencies are installed. -/
inductive InstallStrategy where
  | uvSyncLocked
  | uvPipEditableWithTestExtra
  | uvPipEditableWithRequirements
  | uvPipEditable
  | unsupported
  deriving DecidableEq

def InstallStrategy.value : InstallStrategy → String
  | .uvSyncLocked => "UV_SYNC_LOCKED"
  | .uvPipEditableWithTestExtra => "UV_PIP_EDITABLE_WITH_TEST_EXTRA"
  | .uvPipEditableWithRequirements => "UV_PIP_EDITABLE_WITH_REQUIREMENTS"
  | .uvPipEditable => "UV_PIP_EDITABLE"
  | .unsupported => "UNSUPPORTED"

section Plans

variable (isWord : Char → Bool)

/-- What the probe decides on. -/
inductive InstallChoice where
  | locked
  | unsupported
  | group (name : DeclaredName)
  | extra (name : DeclaredName)
  | requirements (path : RequirementsPath isWord)
  | editable

variable {isWord}

namespace InstallChoice

def strategy : InstallChoice isWord → InstallStrategy
  | locked => .uvSyncLocked
  | unsupported => .unsupported
  | group _ | extra _ => .uvPipEditableWithTestExtra
  | requirements _ => .uvPipEditableWithRequirements
  | editable => .uvPipEditable

def templates : InstallChoice isWord → List (InstallTemplate isWord)
  | locked => [.syncFrozen, .installPytest]
  | unsupported => []
  | group name => [.createVenv, .installEditable, .installGroup name, .installPytest]
  | extra name => [.createVenv, .installExtra name, .installPytest]
  | requirements path => [.createVenv, .installRequirements path, .installEditable, .installPytest]
  | editable => [.createVenv, .installEditable, .installPytest]

def rationale : InstallChoice isWord → String
  | locked => "committed uv.lock and pyproject.toml reproduce the frozen default " ++
      "environment without unrelated dependency groups"
  | unsupported => "no committed pyproject.toml, setup.py, or setup.cfg declares an " ++
      "installable project at this revision"
  | group name => "project declares PEP 735 dependency group '" ++ name.text ++ "'"
  | extra name => "project declares optional-dependency extra '" ++ name.text ++ "'"
  | requirements path => "committed requirements file '" ++ path.text ++ "' declares dependencies"
  | editable => "installable project with no separately declared test requirements"

def commands (choice : InstallChoice isWord) : List Command :=
  choice.templates.map InstallTemplate.command

end InstallChoice

/-- A validated sequence of commands. -/
structure InstallPlan (isWord : Char → Bool) where
  strategy : InstallStrategy
  commands : List Command
  rationale : String
  wellFormed : if strategy = .unsupported then commands = [] else
    1 ≤ commands.length ∧ commands.length ≤ 4 ∧
      ∀ command ∈ commands, isProbedInstallCommand isWord command = true

/-- The plan of a choice. -/
def InstallChoice.plan (choice : InstallChoice isWord) : InstallPlan isWord where
  strategy := choice.strategy
  commands := choice.commands
  rationale := choice.rationale
  wellFormed := by
    have admitted : ∀ command ∈ choice.commands, isProbedInstallCommand isWord command = true := by
      intro command mem
      obtain ⟨template, _, rfl⟩ := List.mem_map.mp mem
      exact template.command_admitted
    cases choice with
    | unsupported => rfl
    | _ => exact ⟨by simp [commands, templates], by simp [commands, templates], admitted⟩

end Plans

/-! ## The committed files of a revision -/

/-- The files of an immutable tree that is small enough for its reader. -/
structure CommittedTree where
  paths : List RepositoryPath
  -- What Git shows of a path; it shows nothing of a submodule.
  blob : String → Option (List UInt8)
  withinBudget : paths.length ≤ 20000

/-- `committed_paths`. -/
def CommittedTree.committedPaths (tree : CommittedTree) : List String :=
  tree.paths.map RepositoryPath.text

/-- What the TOML parser makes of the bytes of a manifest. -/
inductive TomlOutcome where
  | document (entries : List (String × TomlValue))
  | malformed
  -- Values are nested more deeply than the interpreter can follow.
  | tooDeep

/-- What can escape the resolution of a contract. -/
inductive ResolutionException where
  | contractSynthesis (message : String)
  | contextRetrieval (message : String)
  | recursion
  | validation
  deriving DecidableEq

def manifestPath : String := "pyproject.toml"

/-- Facts read from committed packaging metadata. -/
structure ProjectMetadata where
  installable : Bool
  extras : List DeclaredName
  dependencyGroups : List DeclaredName

/-- What the other files and a manifest say. -/
def projectMetadataOf (paths : List String) : Option (List (String × TomlValue)) → ProjectMetadata
  | some entries =>
      let project := (entries.lookup "project").filter TomlValue.isTable
      { installable := paths.contains "setup.py" || paths.contains "setup.cfg" ||
          project.isSome || (entries.lookup "build-system").isSome
        extras := declaredNames (project.bind (TomlValue.get? "optional-dependencies"))
        dependencyGroups := declaredNames (entries.lookup "dependency-groups") }
  | none =>
      { installable := paths.contains "setup.py" || paths.contains "setup.cfg"
        extras := []
        dependencyGroups := [] }

section Probe

variable (isWord : Char → Bool) (tomlLoads : List UInt8 → TomlOutcome) (maxMetadataBytes : Nat)

/-- `read_committed_file`. -/
def CommittedTree.readCommittedFile (tree : CommittedTree) (path : String) :
    Except ResolutionException (List UInt8) :=
  match tree.blob path with
  | none => .error (.contextRetrieval ("required committed file is unavailable: " ++ path))
  | some bytes =>
      if maxMetadataBytes < bytes.length then
        .error (.contextRetrieval ("required committed file exceeds its byte budget: " ++ path))
      else .ok bytes

/-- `_read_pyproject`.  The error of the reader is a runtime error, which the handler does
not name, and so is the one for too many nested values. -/
def CommittedTree.readPyproject (tree : CommittedTree) :
    Except ResolutionException (Option (List (String × TomlValue))) := do
  match tomlLoads (← tree.readCommittedFile maxMetadataBytes manifestPath) with
  | .document entries => return some entries
  | .malformed => return none
  | .tooDeep => throw .recursion

/-- `_project_metadata`. -/
def CommittedTree.projectMetadata (tree : CommittedTree) :
    Except ResolutionException ProjectMetadata := do
  if tree.committedPaths.contains manifestPath then
    return projectMetadataOf tree.committedPaths (← tree.readPyproject tomlLoads maxMetadataBytes)
  else return projectMetadataOf tree.committedPaths none

/-- Whether the tree has a lockfile and a manifest. -/
def CommittedTree.isLocked (tree : CommittedTree) : Bool :=
  tree.committedPaths.contains "uv.lock" && tree.committedPaths.contains manifestPath

/-- What metadata and file names imply. -/
def chooseInstall (metadata : ProjectMetadata) (paths : List String) : InstallChoice isWord :=
  if !metadata.installable then .unsupported
  else match firstMatch testGroupPreference metadata.dependencyGroups with
    | some name => .group name
    | none => match firstMatch testExtraPreference metadata.extras with
      | some name => .extra name
      | none => match selectRequirementsPath isWord paths with
        | some path => .requirements path
        | none => .editable

/-- The choice of `probe`. -/
def CommittedTree.choose (tree : CommittedTree) :
    Except ResolutionException (InstallChoice isWord) := do
  if tree.isLocked then return .locked
  else return chooseInstall isWord (← tree.projectMetadata tomlLoads maxMetadataBytes) tree.committedPaths

/-- `probe`. -/
def CommittedTree.probe (tree : CommittedTree) : Except ResolutionException (InstallPlan isWord) :=
  (tree.choose isWord tomlLoads maxMetadataBytes).map InstallChoice.plan

variable {isWord tomlLoads maxMetadataBytes}

theorem plan_of_probe {tree : CommittedTree} {plan : InstallPlan isWord}
    (probed : tree.probe isWord tomlLoads maxMetadataBytes = .ok plan) :
    ∃ choice : InstallChoice isWord, tree.choose isWord tomlLoads maxMetadataBytes = .ok choice ∧
      plan = choice.plan := by
  rw [CommittedTree.probe] at probed
  cases chosen : tree.choose isWord tomlLoads maxMetadataBytes with
  | error exception =>
      rw [chosen] at probed
      cases probed
  | ok choice =>
      rw [chosen] at probed
      cases probed
      exact ⟨choice, rfl, rfl⟩

end Probe

end PatchProof
