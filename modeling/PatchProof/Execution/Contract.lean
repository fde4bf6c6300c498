import Mathlib.Data.Rat.Defs
import PatchProof.Library.Guard
import PatchProof.Models

/-!
# The repository's execution contract

The contents of `.patchproof.yaml`: the fields a repository may declare, the
validators of `ExecutionContract`, and the loader.  The YAML parser and the type
coercion of the fields are parameters; what they return is either typed fields or
one of the ways in which they refuse.  The messages of single validators are dropped,
because the loader replaces them all by one.

A contract that is not marked as synthesized may install with the two lockfile
commands only.  A synthesized one is checked against the wider templates of the
dependency probe instead, and the mark is an ordinary field of the file.
-/

set_option autoImplicit false

namespace PatchProof

/-- One argument vector. -/
abbrev Command := List String

/-! ## Allow-lists -/

/-- Install commands a repository may declare literally. -/
def allowedInstallCommands : List Command :=
  [["uv", "sync", "--frozen"], ["uv", "sync", "--frozen", "--all-groups"]]

def allowedTestCommands : List Command :=
  [["python", "-m", "pytest"], ["uv", "run", "pytest"]]

/-- The install tokens the dependency probe may emit. -/
def allowedFixedTokens : List String :=
  ["uv", "sync", "venv", "pip", "install", "--frozen", "--all-groups", "--group", "-e", "-r", ".",
    "pytest"]

/-! ## Tokens and paths -/

/-- One to 300 characters, none of them a control character. -/
def isSafeToken (token : String) : Bool :=
  1 ≤ token.toList.length && token.toList.length ≤ 300 &&
    token.toList.all fun c => 0x1f < c.toNat && c.toNat ≠ 0x7f

/-- A command of one to eight bounded tokens. -/
def isBoundedCommand (command : Command) : Bool :=
  !command.isEmpty && command.length ≤ 8 && command.all isSafeToken

/-- Characters that no path of a contract may contain. -/
def isUnsupportedPathChar (c : Char) : Bool :=
  c == '\\' || c == '\x00' || c == '\n' || c == '\r'

/-- Every segment names something. -/
def hasProperSegments (path : List Char) : Bool :=
  (pathSegments path).all fun segment =>
    !segment.isEmpty && segment != ['.'] && segment != ['.', '.']

/-- A normalized relative directory with a trailing slash.  The path library has no
segments for the current directory, so that one passes too. -/
def isDirectoryPrefix (value : String) : Bool :=
  let stripped := (value.toList.reverse.dropWhile (· == '/')).reverse
  !value.toList.any isUnsupportedPathChar && value.toList.getLast? == some '/' &&
    !stripped.isEmpty && (stripped == ['.'] || hasProperSegments stripped)

/-- A lowercase letter or a digit. -/
def isNameStart (c : Char) : Bool := ('a' ≤ c && c ≤ 'z') || ('0' ≤ c && c ≤ '9')

/-- The pattern of an extra or a dependency group. -/
def isExtraName (name : List Char) : Bool :=
  match name with
  | first :: rest => isNameStart first && rest.length ≤ 30 &&
      rest.all fun c => isNameStart c || c == '.' || c == '_' || c == '-'
  | [] => false

/-- An editable target that carries a declared extra. -/
def isEditableWithExtra (token : String) : Bool :=
  token.toList.take 2 == ['.', '['] && token.toList.getLast? == some ']' &&
    isExtraName ((token.toList.drop 2).dropLast)

section Probe

-- The word characters of the patterns are those of the Unicode database.
variable (isWord : Char → Bool)

/-- A text file whose name starts with `requirements`, or a text file in the directory `requirements`. -/
def isRequirementsName (path : List Char) : Bool :=
  let stem := "requirements".toList
  let ending := ".txt".toList
  let isPart := fun c => isWord c || c == '.' || c == '-'
  let middle := (path.drop stem.length).take (path.length - stem.length - ending.length)
  stem.isPrefixOf path && ending.isSuffixOf path && stem.length + ending.length ≤ path.length &&
    (middle.all isPart ||
      match middle with
      | separator :: name => separator == '/' && !name.isEmpty && name.all isPart
      | [] => false)

/-- A normalized relative path of a committed requirements file. -/
def isRequirementsPath (value : String) : Bool :=
  !value.toList.any isUnsupportedPathChar && hasProperSegments value.toList &&
    isRequirementsName isWord value.toList

/-- Whether every token is fixed vocabulary or stands where a value may stand. -/
def areProbedTokens (previous : String) : List String → Bool
  | [] => true
  | token :: rest =>
      (allowedFixedTokens.contains token ||
        (previous == "-r" && isRequirementsPath isWord token) ||
        (previous == "-e" && isEditableWithExtra token) ||
        (previous == "--group" && isExtraName token.toList)) && areProbedTokens token rest

/-- `validate_probed_install_command`: whether it accepts a command. -/
def isProbedInstallCommand (command : Command) : Bool :=
  !command.isEmpty && command.length ≤ 6 && command.head? == some "uv" &&
    areProbedTokens isWord "" command

end Probe

/-! ## Contracts -/

/-- The fields of a contract file after type coercion.  The two fields that admit one
value each are not kept. -/
structure ContractFields where
  install : List Command
  testCommand : Command
  allowedTestPaths : List String
  timeoutSeconds : ℚ
  installTimeoutSeconds : Option ℚ := none
  synthesized : Option Bool := none
  deriving DecidableEq

/-- The values of a contract, with the defaults in place. -/
structure ContractValues where
  install : List Command
  testCommand : Command
  allowedTestPaths : List String
  timeoutSeconds : ℚ
  installTimeoutSeconds : ℚ
  synthesized : Bool
  deriving DecidableEq

def ContractFields.values (fields : ContractFields) : ContractValues where
  install := fields.install
  testCommand := fields.testCommand
  allowedTestPaths := fields.allowedTestPaths
  timeoutSeconds := fields.timeoutSeconds
  installTimeoutSeconds := fields.installTimeoutSeconds.getD 900
  synthesized := fields.synthesized.getD false

section Contract

variable (isWord : Char → Bool)

/-- `validate_install_commands`. -/
def ContractValues.installsValid (values : ContractValues) : Bool :=
  (values.synthesized || decide (values.install.length ≤ 2)) &&
    values.install.all fun command => isBoundedCommand command &&
      if values.synthesized then isProbedInstallCommand isWord command
      else allowedInstallCommands.contains command

/-- The bounds and validators of every field. -/
def ContractValues.isValid (values : ContractValues) : Bool :=
  (1 ≤ values.install.length && values.install.length ≤ 4) &&
    (isBoundedCommand values.testCommand && allowedTestCommands.contains values.testCommand) &&
    (1 ≤ values.allowedTestPaths.length && values.allowedTestPaths.length ≤ 4) &&
    values.allowedTestPaths.all isDirectoryPrefix && decide values.allowedTestPaths.Nodup &&
    (decide (1 / 20 ≤ values.timeoutSeconds) && decide (values.timeoutSeconds ≤ 300)) &&
    (decide (1 ≤ values.installTimeoutSeconds) && decide (values.installTimeoutSeconds ≤ 1800)) &&
    values.installsValid isWord

/-- Validated contents of one repository's contract. -/
structure ExecutionContract extends ContractValues where
  valid : toContractValues.isValid isWord = true
  deriving DecidableEq

variable {isWord}

/-- A contract that is not marked as synthesized installs with allowed commands only. -/
theorem ExecutionContract.installs_allowed (contract : ExecutionContract isWord)
    (declared : contract.synthesized = false) :
    ∀ command ∈ contract.install, command ∈ allowedInstallCommands := by
  intro command mem
  have valid := contract.valid
  simp only [ContractValues.isValid, ContractValues.installsValid, declared, Bool.and_eq_true,
    List.all_eq_true, Bool.false_eq_true, if_false] at valid
  exact List.contains_iff_mem.mp (valid.2.2 command mem).2

/-! ## Loading -/

/-- What the YAML parser and the field coercion make of the bytes of a file. -/
inductive YamlOutcome where
  | malformed
  | notMapping
  | mapping (fields : Option ContractFields)

/-- `ExecutionContractError`, with its message. -/
structure ExecutionContractError where
  message : String
  deriving DecidableEq

variable (isWord) (safeLoad : List UInt8 → YamlOutcome)

/-- `ExecutionContract.model_validate`, the error of the loader in place of its own. -/
def ExecutionContract.modelValidate (fields : Option ContractFields) :
    Except ExecutionContractError (ExecutionContract isWord) :=
  match fields with
  | some fields =>
      if valid : fields.values.isValid isWord = true then .ok ⟨fields.values, valid⟩
      else .error ⟨"repository execution contract failed validation"⟩
  | none => .error ⟨"repository execution contract failed validation"⟩

/-- Validate contract bytes read from an immutable Git object. -/
def ExecutionContract.loadBytes (raw : List UInt8) :
    Except ExecutionContractError (ExecutionContract isWord) :=
  if raw.isEmpty || 8192 < raw.length then
    .error ⟨"repository execution contract is empty or oversized"⟩
  else match safeLoad raw with
    | .malformed => .error ⟨"repository execution contract is not valid UTF-8 YAML"⟩
    | .notMapping => .error ⟨"repository execution contract must be a YAML mapping"⟩
    | .mapping fields => ExecutionContract.modelValidate isWord fields

variable {isWord safeLoad}

/-- A loaded contract has the values of the declared fields. -/
theorem ExecutionContract.values_of_loadBytes {raw : List UInt8}
    {contract : ExecutionContract isWord}
    (loaded : ExecutionContract.loadBytes isWord safeLoad raw = .ok contract) :
    ∃ fields, safeLoad raw = .mapping (some fields) ∧
      contract.toContractValues = fields.values := by
  unfold loadBytes at loaded
  split at loaded
  · cases loaded
  · cases outcome : safeLoad raw with
    | malformed =>
        rw [outcome] at loaded
        cases loaded
    | notMapping =>
        rw [outcome] at loaded
        cases loaded
    | mapping declared =>
        rw [outcome] at loaded
        cases declared with
        | none => cases loaded
        | some fields =>
            simp only [modelValidate] at loaded
            split at loaded
            · cases loaded
              exact ⟨fields, rfl, rfl⟩
            · cases loaded

end Contract

end PatchProof
