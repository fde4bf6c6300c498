import PatchProof.Execution.Contract

/-!
# Preparing an execution

How the executor comes by the contract whose install commands it runs
(`prepareChallenge`), and how the product path chooses a plan
(`resolveProductExecutionPlan`).  Both read the committed file at BASE and HEAD.  The
product path refuses a file that claims to be synthesized; the executor compares the
two files and the requested contract and does not look at the claim.

So the executor keeps to the allow-list of a repository exactly for files that do not
use the claim to install with something else (`repository_installs_allowed_iff`).
-/

set_option autoImplicit false

namespace PatchProof

/-! ## Requests -/

/-- Who an execution contract comes from. -/
inductive ExecutionContractOrigin where
  | repository
  | patchproofProbe
  | patchproofManifest
  deriving DecidableEq

section Executor

variable (isWord : Char → Bool)

/-- Immutable repository and setup contract crossing into the executor. -/
structure ExecutorEnvironmentRequest where
  repository : RepositoryName
  pullRequestNumber : PositiveInt
  baseSha : GitSha
  headSha : GitSha
  contract : ExecutionContract isWord
  contractOrigin : ExecutionContractOrigin := .repository
  repositoryPythonPaths : List String := []

/-- The exceptions of the preparation: a Git command that failed, an unreadable
contract, or a refusal. -/
inductive PrepareException where
  | git (message : String)
  | contract (error : ExecutionContractError)
  | value (message : String)
  | permission (message : String)
  deriving DecidableEq

/-- The fetched repository: whether it could be fetched and checked out to the
requested commits, and the bytes of the committed contract file. -/
structure FetchedRepository where
  prepare : RepositoryName → PositiveInt → GitSha → GitSha → Except PrepareException Unit
  showContract : GitSha → Except PrepareException (List UInt8)

/-- A prepared comparison: the runner with its contract, and the paths it puts first. -/
structure PreparedChallenge where
  contract : ExecutionContract isWord
  repositoryPythonPaths : List String

variable {isWord} (safeLoad : List UInt8 → YamlOutcome) (repository : FetchedRepository)

/-- The contract committed at one revision. -/
def loadCommitted (sha : GitSha) : Except PrepareException (ExecutionContract isWord) := do
  let raw ← repository.showContract sha
  match ExecutionContract.loadBytes isWord safeLoad raw with
  | .ok contract => .ok contract
  | .error error => .error (.contract error)

/-- The check of the requested contract against where it is said to come from. -/
def checkOrigin (request : ExecutorEnvironmentRequest isWord) : Except PrepareException Unit :=
  match request.contractOrigin with
  | .repository => do
      let baseContract ← loadCommitted safeLoad repository request.baseSha
      let headContract ← loadCommitted safeLoad repository request.headSha
      Guard.require (baseContract = headContract ∧ headContract = request.contract)
        (.value "immutable BASE/HEAD execution contracts do not match")
  | .patchproofProbe | .patchproofManifest =>
      Guard.require (request.contract.synthesized = true)
        (.value "PatchProof-supplied execution requires a synthesized contract")

/-- `_prepare_challenge`. -/
def prepareChallenge (request : ExecutorEnvironmentRequest isWord) :
    Except PrepareException (PreparedChallenge isWord) := do
  repository.prepare request.repository request.pullRequestNumber request.baseSha request.headSha
  checkOrigin safeLoad repository request
  return ⟨request.contract, request.repositoryPythonPaths⟩

/-- `prepare_environment` and `execute`, up to the prepared challenge. -/
def prepareAllowed (allowedRepositories : List RepositoryName)
    (request : ExecutorEnvironmentRequest isWord) :
    Except PrepareException (PreparedChallenge isWord) := do
  Guard.require (request.repository ∈ allowedRepositories)
    (.permission "repository is not allowlisted")
  prepareChallenge safeLoad repository request

/-- The commands `_install` runs: one after another until one fails. -/
def installRuns (succeeds : Command → Bool) : List Command → List Command
  | [] => []
  | command :: rest => command :: if succeeds command then installRuns succeeds rest else []

theorem mem_of_mem_installRuns {succeeds : Command → Bool} {commands : List Command}
    {command : Command} (ran : command ∈ installRuns succeeds commands) : command ∈ commands := by
  induction commands with
  | nil => cases ran
  | cons first rest ih =>
      rcases List.mem_cons.mp ran with rfl | later
      · exact List.mem_cons_self ..
      · split at later
        · exact List.mem_cons_of_mem _ (ih later)
        · cases later

theorem installRuns_of_success (commands : List Command) :
    installRuns (fun _ => true) commands = commands := by
  induction commands with
  | nil => rfl
  | cons first rest ih => rw [installRuns, if_pos rfl, ih]

/-! ## The accepted contract -/

variable {safeLoad repository}

theorem loadCommitted_eq_ok {sha : GitSha} {contract : ExecutionContract isWord}
    (loaded : loadCommitted safeLoad repository sha = .ok contract) :
    ∃ raw, repository.showContract sha = .ok raw ∧
      ExecutionContract.loadBytes isWord safeLoad raw = .ok contract := by
  obtain ⟨raw, shown, returned⟩ := Guard.bind_eq_ok_iff.mp loaded
  cases outcome : ExecutionContract.loadBytes isWord safeLoad raw with
  | ok other =>
      rw [outcome] at returned
      cases returned
      exact ⟨raw, shown, outcome⟩
  | error error =>
      rw [outcome] at returned
      cases returned

/-- The file committed at a revision declares these fields. -/
def DeclaresAt (safeLoad : List UInt8 → YamlOutcome) (repository : FetchedRepository) (sha : GitSha)
    (fields : ContractFields) : Prop :=
  ∃ raw, repository.showContract sha = .ok raw ∧ safeLoad raw = .mapping (some fields)

/-- A prepared challenge of repository origin runs the contract committed at HEAD. -/
theorem declared_of_prepareChallenge {request : ExecutorEnvironmentRequest isWord}
    {challenge : PreparedChallenge isWord}
    (prepared : prepareChallenge safeLoad repository request = .ok challenge)
    (origin : request.contractOrigin = .repository) :
    ∃ fields, DeclaresAt safeLoad repository request.headSha fields ∧
      challenge.contract.toContractValues = fields.values := by
  simp only [prepareChallenge, checkOrigin, origin, Guard.bind_eq_ok_iff,
    Guard.require_eq_ok_iff] at prepared
  obtain ⟨_, _, _, ⟨base, _, head, headLoaded, _, sameHead⟩, returned⟩ := prepared
  cases returned
  obtain ⟨raw, shown, loaded⟩ := loadCommitted_eq_ok headLoaded
  obtain ⟨fields, parsed, values⟩ := ExecutionContract.values_of_loadBytes loaded
  exact ⟨fields, ⟨raw, shown, parsed⟩, sameHead ▸ values⟩

/-- A file that claims synthesized provenance for a command outside the allow-list. -/
def ContractFields.ClaimsProbed (fields : ContractFields) : Prop :=
  fields.synthesized = some true ∧ ∃ command ∈ fields.install, command ∉ allowedInstallCommands

/-- **When installs stay within the allow-list.**  Whatever installs succeed, a prepared
execution of repository origin runs allowed install commands only, if and only if the
committed file does not claim synthesized provenance for another command. -/
theorem repository_installs_allowed_iff {request : ExecutorEnvironmentRequest isWord}
    {challenge : PreparedChallenge isWord}
    (prepared : prepareChallenge safeLoad repository request = .ok challenge)
    (origin : request.contractOrigin = .repository) {fields : ContractFields}
    (declared : DeclaresAt safeLoad repository request.headSha fields) :
    ((∀ command ∈ challenge.contract.install, command ∈ allowedInstallCommands) ↔
      ¬ fields.ClaimsProbed) ∧
    ((∀ succeeds, ∀ command ∈ installRuns succeeds challenge.contract.install,
      command ∈ allowedInstallCommands) ↔ ¬ fields.ClaimsProbed) := by
  obtain ⟨other, ⟨raw, shown, parsed⟩, values⟩ := declared_of_prepareChallenge prepared origin
  obtain ⟨same, shownSame, parsedSame⟩ := declared
  obtain rfl := Except.ok.inj (shown.symm.trans shownSame)
  obtain rfl : fields = other := by
    have outcomes := parsedSame.symm.trans parsed
    cases outcomes
    rfl
  have installs : challenge.contract.install = fields.install :=
    congrArg ContractValues.install values
  have mark : challenge.contract.synthesized = fields.synthesized.getD false :=
    congrArg ContractValues.synthesized values
  have accepted : (∀ command ∈ challenge.contract.install, command ∈ allowedInstallCommands) ↔
      ¬ fields.ClaimsProbed := by
    constructor
    · rintro allowed ⟨_, command, mem, outside⟩
      exact outside (allowed command (installs ▸ mem))
    · intro honest
      cases claimed : fields.synthesized.getD false with
      | false => exact challenge.contract.installs_allowed (mark.trans claimed)
      | true =>
          have isClaimed : fields.synthesized = some true := by
            cases provenance : fields.synthesized with
            | none =>
                rw [provenance] at claimed
                cases claimed
            | some value =>
                rw [provenance] at claimed
                exact congrArg some claimed
          intro command mem
          by_contra outside
          exact honest ⟨isClaimed, command, installs ▸ mem, outside⟩
  refine ⟨accepted, Iff.trans ⟨fun allowed command mem => ?_, fun allowed succeeds command ran => ?_⟩
    accepted⟩
  · exact allowed (fun _ => true) command ((installRuns_of_success _).symm ▸ mem)
  · exact allowed command (mem_of_mem_installRuns ran)

/-! ## The product path -/

/-- Deterministic provenance of a product execution contract. -/
inductive ProductExecutionPlanSource where
  | repositoryContract
  | deterministicProbe
  deriving DecidableEq

/-- What the product path reads: which revisions commit a contract file, its bytes, and
the contract the dependency probe synthesizes for the pair. -/
structure ProductReader (isWord : Char → Bool) where
  declares : GitSha → Bool
  readContract : GitSha → Except PrepareException (List UInt8)
  probe : GitSha → GitSha → Option (ExecutionContract isWord)

/-- `UnsupportedExecutionPlanError`, with its message. -/
structure UnsupportedExecutionPlanError where
  message : String
  deriving DecidableEq

/-- The contract of one revision, every error of reading or loading it made one. -/
def loadDeclared (safeLoad : List UInt8 → YamlOutcome) (reader : ProductReader isWord)
    (sha : GitSha) : Except UnsupportedExecutionPlanError (ExecutionContract isWord) :=
  match reader.readContract sha with
  | .ok raw =>
      match ExecutionContract.loadBytes isWord safeLoad raw with
      | .ok contract => .ok contract
      | .error _ => .error ⟨"repository execution contract is invalid"⟩
  | .error _ => .error ⟨"repository execution contract is invalid"⟩

/-- Prefer an identical explicit contract, otherwise require symmetric safe probing. -/
def resolveProductExecutionPlan (safeLoad : List UInt8 → YamlOutcome)
    (reader : ProductReader isWord) (baseSha headSha : GitSha) :
    Except UnsupportedExecutionPlanError
      (ExecutionContract isWord × ProductExecutionPlanSource) :=
  if reader.declares baseSha || reader.declares headSha then do
    Guard.require ((reader.declares baseSha && reader.declares headSha) = true)
      ⟨"BASE and HEAD do not both declare the repository execution contract"⟩
    let baseContract ← loadDeclared safeLoad reader baseSha
    let headContract ← loadDeclared safeLoad reader headSha
    Guard.require ((baseContract.synthesized || headContract.synthesized) = false)
      ⟨"repository execution contract cannot claim synthesized provenance"⟩
    Guard.require (baseContract = headContract)
      ⟨"BASE and HEAD repository execution contracts differ"⟩
    return (headContract, .repositoryContract)
  else
    match reader.probe baseSha headSha with
    | some contract => .ok (contract, .deterministicProbe)
    | none => .error ⟨"no supported equivalent BASE/HEAD execution plan is available"⟩

/-- The product path keeps to the allow-list of a repository for every file. -/
theorem product_plan_installs_allowed {reader : ProductReader isWord} {baseSha headSha : GitSha}
    {contract : ExecutionContract isWord}
    (resolved : resolveProductExecutionPlan safeLoad reader baseSha headSha =
      .ok (contract, .repositoryContract)) :
    ∀ command ∈ contract.install, command ∈ allowedInstallCommands := by
  unfold resolveProductExecutionPlan at resolved
  split at resolved
  · simp only [Guard.require_bind_eq_ok_iff] at resolved
    obtain ⟨_, resolved⟩ := resolved
    simp only [Guard.bind_eq_ok_iff, Guard.require_eq_ok_iff] at resolved
    obtain ⟨base, _, declared, _, _, honest, _, _, returned⟩ := resolved
    cases returned
    exact contract.installs_allowed (Bool.or_eq_false_iff.mp honest).2
  · split at resolved
    · cases resolved
    · cases resolved

end Executor

/-! ## A file that claims synthesized provenance -/

/-- The ASCII word characters, for evaluating the definitions. -/
def isAsciiWord (c : Char) : Bool := c.isAlphanum || c == '_'

/-- A repository whose contract file is the same at every revision. -/
def sampleRepository : FetchedRepository where
  prepare _ _ _ _ := .ok ()
  showContract _ := .ok [0]

/-- A request of repository origin for a contract. -/
def sampleEnvironmentRequest (contract : ExecutionContract isAsciiWord) :
    ExecutorEnvironmentRequest isAsciiWord where
  repository := ⟨"octo/service", isRepositoryName_octo⟩
  pullRequestNumber := ⟨7, seven_positive⟩
  baseSha := ⟨String.ofList (List.replicate 40 'a'), isGitSha_as⟩
  headSha := ⟨String.ofList (List.replicate 40 'b'), isGitSha_bs⟩
  contract := contract

/-- A valid file that both revisions commit is prepared as it stands. -/
theorem prepareChallenge_sample (fields : ContractFields)
    (valid : fields.values.isValid isAsciiWord = true) :
    prepareChallenge (fun _ => .mapping (some fields)) sampleRepository
        (sampleEnvironmentRequest ⟨fields.values, valid⟩) =
      .ok ⟨⟨fields.values, valid⟩, []⟩ := by
  have loaded : ∀ sha, loadCommitted (fun _ => .mapping (some fields)) sampleRepository sha =
      .ok ⟨fields.values, valid⟩ := by
    intro sha
    simp [loadCommitted, sampleRepository, ExecutionContract.loadBytes,
      ExecutionContract.modelValidate, valid]
  have checked : checkOrigin (fun _ => .mapping (some fields)) sampleRepository
      (sampleEnvironmentRequest ⟨fields.values, valid⟩) = .ok () := by
    simp [checkOrigin, sampleEnvironmentRequest, loaded, Guard.require]
  simp only [prepareChallenge, checked]
  rfl

/-- A file that claims to be synthesized and installs an editable project. -/
def claimingFields : ContractFields where
  install := [["uv", "venv"], ["uv", "pip", "install", "-e", "."]]
  testCommand := ["uv", "run", "pytest"]
  allowedTestPaths := ["tests/"]
  timeoutSeconds := 30
  synthesized := some true

theorem claimingFields_valid : claimingFields.values.isValid isAsciiWord = true := by
  decide +kernel

/-- The executor accepts the file as the repository's and runs its editable install. -/
theorem claimed_install_runs :
    ∃ contract challenge,
      prepareChallenge (fun _ => .mapping (some claimingFields)) sampleRepository
          (sampleEnvironmentRequest contract) = .ok challenge ∧
        (sampleEnvironmentRequest contract).contractOrigin = .repository ∧
        ["uv", "pip", "install", "-e", "."] ∈
          installRuns (fun _ => true) challenge.contract.install ∧
        ["uv", "pip", "install", "-e", "."] ∉ allowedInstallCommands := by
  have valid : claimingFields.values.isValid isAsciiWord = true := by decide +kernel
  refine ⟨⟨claimingFields.values, valid⟩, ⟨⟨claimingFields.values, valid⟩, []⟩,
    prepareChallenge_sample claimingFields valid, rfl, ?_, by decide⟩
  rw [installRuns_of_success]
  exact List.mem_cons_of_mem _ (List.mem_cons_self ..)

/-- A file that declares a lockfile install makes no such claim. -/
theorem repository_installs_allowed_lockfile :
    ∃ challenge : PreparedChallenge isAsciiWord,
      ∀ command ∈ challenge.contract.install, command ∈ allowedInstallCommands := by
  let fields : ContractFields := { claimingFields with
    install := [["uv", "sync", "--frozen"]], synthesized := none }
  have valid : fields.values.isValid isAsciiWord = true := by decide +kernel
  refine ⟨_, (repository_installs_allowed_iff (prepareChallenge_sample fields valid) rfl
    ⟨[0], rfl, rfl⟩).1.mpr ?_⟩
  rintro ⟨absurdity, _⟩
  cases absurdity

end PatchProof
