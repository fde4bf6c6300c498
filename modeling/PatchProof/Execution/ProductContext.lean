import Mathlib.Algebra.GroupWithZero.Nat
import Mathlib.Data.List.Nodup
import PatchProof.Execution.Contract
import PatchProof.Worker.Exceptions

/-!
# The contract of a product run

A product run does not read the contract file again.  Its retriever keeps the contract that
was resolved and answers requests for the file with the contract written as JSON, within
the same budget of bytes that the loader has for files.

The JSON document has every default written out, and characters that JSON escapes, so it
can be longer than the file.  `contractBytes` is its size as a sum over the fields.  With the
size in the budget the document is loaded as the contract it was written from, for both
revisions; beyond it the retriever raises, however small the file was.

The YAML parser and the printer of numbers are parameters.
-/

set_option autoImplicit false

namespace PatchProof

/-! ## JSON texts -/

/-- The lowercase hexadecimal digit of a number below 16. -/
def hexDigitChar (value : Nat) : Char :=
  if value < 10 then Char.ofNat (48 + value) else Char.ofNat (87 + value)

/-- A character inside a JSON string. -/
def escapedChar (c : Char) : List Char :=
  if c = '"' then ['\\', '"']
  else if c = '\\' then ['\\', '\\']
  else if c = '\n' then ['\\', 'n']
  else if c = '\r' then ['\\', 'r']
  else if c = '\t' then ['\\', 't']
  else if c = '\x08' then ['\\', 'b']
  else if c = '\x0c' then ['\\', 'f']
  else if c.toNat < 0x20 then
    ['\\', 'u', '0', '0', hexDigitChar (c.toNat / 16), hexDigitChar (c.toNat % 16)]
  else [c]

def quoted (text : String) : List Char := ['"'] ++ text.toList.flatMap escapedChar ++ ['"']

def commaSeparated : List (List Char) → List Char
  | [] => []
  | [item] => item
  | item :: other :: rest => item ++ [','] ++ commaSeparated (other :: rest)

def jsonArray (items : List (List Char)) : List Char := ['['] ++ commaSeparated items ++ [']']

/-- `text.encode("utf-8")`. -/
def encodeText (text : List Char) : List UInt8 := text.flatMap String.utf8EncodeChar

/-- How many bytes a text takes. -/
def textBytes (text : List Char) : Nat := (text.map Char.utf8Size).sum

theorem length_encodeText (text : List Char) : (encodeText text).length = textBytes text := by
  rw [encodeText, List.length_flatMap, textBytes]
  simp only [String.length_utf8EncodeChar]

theorem textBytes_append (front back : List Char) :
    textBytes (front ++ back) = textBytes front + textBytes back := by
  rw [textBytes, List.map_append, List.sum_append]
  rfl

/-- How many bytes a character takes inside a JSON string. -/
def escapedBytes (c : Char) : Nat :=
  if c ∈ ['"', '\\', '\n', '\r', '\t', '\x08', '\x0c'] then 2
  else if c.toNat < 0x20 then 6
  else c.utf8Size

def quotedBytes (text : String) : Nat := 2 + (text.toList.map escapedBytes).sum

/-- Brackets, and a comma between each two. -/
def arrayBytes (sizes : List Nat) : Nat := 2 + sizes.sum + (sizes.length - 1)

theorem utf8Size_hexDigitChar {value : Nat} (digit : value < 16) :
    (hexDigitChar value).utf8Size = 1 := by
  have every : ∀ value < 16, (hexDigitChar value).utf8Size = 1 := by decide
  exact every value digit

theorem textBytes_escapedChar (c : Char) : textBytes (escapedChar c) = escapedBytes c := by
  by_cases short : c ∈ ['"', '\\', '\n', '\r', '\t', '\x08', '\x0c']
  · rw [escapedBytes, if_pos short]
    simp only [List.mem_cons, List.not_mem_nil, or_false] at short
    rcases short with rfl | rfl | rfl | rfl | rfl | rfl | rfl <;> decide
  · rw [escapedBytes, if_neg short]
    simp only [List.mem_cons, List.not_mem_nil, or_false, not_or] at short
    obtain ⟨quote, backslash, newline, carriage, tab, backspace, feed⟩ := short
    rw [escapedChar, if_neg quote, if_neg backslash, if_neg newline, if_neg carriage, if_neg tab,
      if_neg backspace, if_neg feed]
    split
    · have high := utf8Size_hexDigitChar (show c.toNat / 16 < 16 by omega)
      have low := utf8Size_hexDigitChar (show c.toNat % 16 < 16 by omega)
      simp only [textBytes, List.map_cons, List.map_nil, high, low]
      decide
    · simp [textBytes]

theorem textBytes_quoted (text : String) : textBytes (quoted text) = quotedBytes text := by
  have inside : ∀ characters : List Char, textBytes (characters.flatMap escapedChar) =
      (characters.map escapedBytes).sum := by
    intro characters
    induction characters with
    | nil => rfl
    | cons c rest ih =>
        rw [List.flatMap_cons, textBytes_append, textBytes_escapedChar, ih, List.map_cons,
          List.sum_cons]
  have mark : textBytes ['"'] = 1 := by decide
  rw [quoted, textBytes_append, textBytes_append, inside, mark, quotedBytes]
  omega

theorem textBytes_commaSeparated (items : List (List Char)) :
    textBytes (commaSeparated items) = (items.map textBytes).sum + (items.length - 1) := by
  have comma : textBytes [','] = 1 := by decide
  induction items with
  | nil => rfl
  | cons item rest ih =>
      cases rest with
      | nil => simp [commaSeparated]
      | cons other rest =>
          rw [commaSeparated, textBytes_append, textBytes_append, ih, comma]
          simp only [List.map_cons, List.sum_cons, List.length_cons]
          omega

theorem textBytes_jsonArray (items : List (List Char)) :
    textBytes (jsonArray items) = arrayBytes (items.map textBytes) := by
  have opening : textBytes ['['] = 1 := by decide
  have closing : textBytes [']'] = 1 := by decide
  rw [jsonArray, textBytes_append, textBytes_append, textBytes_commaSeparated, opening, closing,
    arrayBytes, List.length_map]
  omega

theorem textBytes_quotedArray (texts : List String) :
    textBytes (jsonArray (texts.map quoted)) = arrayBytes (texts.map quotedBytes) := by
  rw [textBytes_jsonArray, List.map_map]
  congr 1
  exact List.map_congr_left fun text _ => textBytes_quoted text

/-! ## The document -/

section Document

variable (printFloat : ℚ → List Char)

/-- `ExecutionContract.model_dump_json`. -/
def ContractValues.modelDumpJson (values : ContractValues) : List Char :=
  "\x7b\"version\":1,\"python\":\"3.12\",\"install\":".toList ++
    jsonArray (values.install.map fun command => jsonArray (command.map quoted)) ++
  ",\"test\":\x7b\"command\":".toList ++ jsonArray (values.testCommand.map quoted) ++
  "\x7d,\"allowed_test_paths\":".toList ++ jsonArray (values.allowedTestPaths.map quoted) ++
  ",\"timeout_seconds\":".toList ++ printFloat values.timeoutSeconds ++
  ",\"install_timeout_seconds\":".toList ++ printFloat values.installTimeoutSeconds ++
  ",\"synthesized\":".toList ++ (if values.synthesized then "true" else "false").toList ++
  "\x7d".toList

/-- The fields that the document declares: all of them. -/
def ContractValues.declared (values : ContractValues) : ContractFields where
  install := values.install
  testCommand := values.testCommand
  allowedTestPaths := values.allowedTestPaths
  timeoutSeconds := values.timeoutSeconds
  installTimeoutSeconds := some values.installTimeoutSeconds
  synthesized := some values.synthesized

/-- The size of the document. -/
def ContractValues.contractBytes (values : ContractValues) : Nat :=
  143 + arrayBytes (values.install.map fun command => arrayBytes (command.map quotedBytes)) +
    arrayBytes (values.testCommand.map quotedBytes) +
    arrayBytes (values.allowedTestPaths.map quotedBytes) +
    textBytes (printFloat values.timeoutSeconds) +
    textBytes (printFloat values.installTimeoutSeconds) +
    (if values.synthesized then 4 else 5)

theorem ContractValues.arrayBytes_le_contractBytes (values : ContractValues) :
    arrayBytes (values.allowedTestPaths.map quotedBytes) ≤ values.contractBytes printFloat := by
  unfold contractBytes
  omega

theorem ContractValues.textBytes_modelDumpJson (values : ContractValues) :
    textBytes (values.modelDumpJson printFloat) = values.contractBytes printFloat := by
  have version : textBytes "\x7b\"version\":1,\"python\":\"3.12\",\"install\":".toList = 39 := by
    decide +kernel
  have command : textBytes ",\"test\":\x7b\"command\":".toList = 19 := by decide +kernel
  have paths : textBytes "\x7d,\"allowed_test_paths\":".toList = 23 := by decide +kernel
  have timeout : textBytes ",\"timeout_seconds\":".toList = 19 := by decide +kernel
  have install : textBytes ",\"install_timeout_seconds\":".toList = 27 := by decide +kernel
  have synthesized : textBytes ",\"synthesized\":".toList = 15 := by decide +kernel
  have closing : textBytes "\x7d".toList = 1 := by decide +kernel
  have yes : textBytes "true".toList = 4 := by decide +kernel
  have no : textBytes "false".toList = 5 := by decide +kernel
  have installs : textBytes (jsonArray (values.install.map fun command =>
      jsonArray (command.map quoted))) =
        arrayBytes (values.install.map fun command => arrayBytes (command.map quotedBytes)) := by
    rw [textBytes_jsonArray, List.map_map]
    exact congrArg arrayBytes (List.map_congr_left fun command _ => textBytes_quotedArray command)
  have flag : textBytes (if values.synthesized then "true" else "false").toList =
      if values.synthesized then 4 else 5 := by
    split
    · exact yes
    · exact no
  unfold modelDumpJson contractBytes
  simp only [textBytes_append, textBytes_quotedArray, installs, flag, version, command, paths,
    timeout, install, synthesized, closing]
  omega

end Document

/-! ## The retriever -/

section Product

variable {isWord : Char → Bool} (printFloat : ℚ → List Char) (safeLoad : List UInt8 → YamlOutcome)

/-- A retriever with the contract of the plan and the two revisions it holds for. -/
structure ProductExecutionContextRetriever (isWord : Char → Bool) where
  productContract : ExecutionContract isWord
  productRevisions : List String
  two : productRevisions.length = 2 ∧ productRevisions.Nodup

/-- `read_committed_file`; other files are read by the general retriever. -/
def ProductExecutionContextRetriever.readCommittedFile
    (retriever : ProductExecutionContextRetriever isWord)
    (general : String → String → Nat → Except RaisedException (List UInt8))
    (revisionSha path : String) (maxBytes : Nat) : Except RaisedException (List UInt8) :=
  if path ≠ ".patchproof.yaml" then general revisionSha path maxBytes
  else do
    Guard.require (revisionSha ∈ retriever.productRevisions)
      (.value "product contract requested for an unexpected revision")
    let content := encodeText (retriever.productContract.modelDumpJson printFloat)
    Guard.require (content.length ≤ maxBytes)
      (.value "product execution contract exceeds its byte budget")
    return content

/-- The contract file of a revision, read and loaded. -/
def loadProductContract (retriever : ProductExecutionContextRetriever isWord)
    (general : String → String → Nat → Except RaisedException (List UInt8))
    (revisionSha : String) : Except RaisedException (ExecutionContract isWord) := do
  let raw ← retriever.readCommittedFile printFloat general revisionSha ".patchproof.yaml" 8192
  match ExecutionContract.loadBytes isWord safeLoad raw with
  | .ok contract => return contract
  | .error error => throw (.value error.message)

/-- The contract comparison of `EvidenceWorkflow.execute`. -/
def compareContracts (retriever : ProductExecutionContextRetriever isWord)
    (general : String → String → Nat → Except RaisedException (List UInt8))
    (runnerContract : ExecutionContract isWord) (baseSha headSha : String) :
    Except RaisedException (ExecutionContract isWord) := do
  let baseContract ← loadProductContract printFloat safeLoad retriever general baseSha
  let contract ← loadProductContract printFloat safeLoad retriever general headSha
  Guard.require (baseContract = contract)
    (.runtime "BASE and HEAD execution contracts differ; comparison is unsafe")
  Guard.require (runnerContract = contract)
    (.runtime "executor contract does not match the immutable repository contract")
  return contract

variable {printFloat safeLoad} {retriever : ProductExecutionContextRetriever isWord}
  {general : String → String → Nat → Except RaisedException (List UInt8)} {revisionSha : String}

/-- A document is at least as long as its fixed parts. -/
theorem contractBytes_pos (printFloat : ℚ → List Char) (values : ContractValues) :
    0 < values.contractBytes printFloat := by
  unfold ContractValues.contractBytes
  omega

/-- For one of its revisions the retriever answers with the document when it is in the
budget, and raises when it is not. -/
theorem readCommittedFile_eq_ok_iff (known : revisionSha ∈ retriever.productRevisions)
    {bytes : List UInt8} :
    retriever.readCommittedFile printFloat general revisionSha ".patchproof.yaml" 8192 =
        .ok bytes ↔
      retriever.productContract.contractBytes printFloat ≤ 8192 ∧
        bytes = encodeText (retriever.productContract.modelDumpJson printFloat) := by
  unfold ProductExecutionContextRetriever.readCommittedFile
  rw [if_neg (fun other => other rfl), Guard.require_bind_eq_ok_iff]
  dsimp only
  rw [Guard.require_bind_eq_ok_iff, length_encodeText, ContractValues.textBytes_modelDumpJson]
  constructor
  · rintro ⟨-, within, returned⟩
    exact ⟨within, (Except.ok.inj returned).symm⟩
  · rintro ⟨within, rfl⟩
    exact ⟨known, within, rfl⟩

/-- Beyond the budget it raises. -/
theorem readCommittedFile_of_large (known : revisionSha ∈ retriever.productRevisions)
    (large : 8192 < retriever.productContract.contractBytes printFloat) :
    retriever.readCommittedFile printFloat general revisionSha ".patchproof.yaml" 8192 =
      .error (.value "product execution contract exceeds its byte budget") := by
  have refused : ¬ (encodeText (retriever.productContract.modelDumpJson printFloat)).length ≤
      8192 := by
    rw [length_encodeText, ContractValues.textBytes_modelDumpJson]
    omega
  unfold ProductExecutionContextRetriever.readCommittedFile
  rw [if_neg (fun other => other rfl), Guard.require_of_holds known, Guard.ok_bind]
  dsimp only
  rw [Guard.require_of_fails refused]
  rfl

/-- Bytes within the budget load as the valid fields they are read as. -/
theorem loadBytes_of_fields {raw : List UInt8} {fields : ContractFields}
    (bounded : 0 < raw.length ∧ raw.length ≤ 8192)
    (read : safeLoad raw = .mapping (some fields)) (valid : fields.values.isValid isWord = true) :
    ExecutionContract.loadBytes isWord safeLoad raw = .ok ⟨fields.values, valid⟩ := by
  have within : ¬ (raw.isEmpty || decide (8192 < raw.length)) = true := by
    rw [Bool.or_eq_true, decide_eq_true_eq, List.isEmpty_iff_length_eq_zero]
    omega
  rw [ExecutionContract.loadBytes, if_neg within, read]
  exact dif_pos valid

/-- A document within the budget loads as the contract it was written from. -/
theorem loadBytes_modelDumpJson {contract : ExecutionContract isWord}
    (readsJson : safeLoad (encodeText (contract.modelDumpJson printFloat)) =
      .mapping (some contract.declared))
    (within : contract.contractBytes printFloat ≤ 8192) :
    ExecutionContract.loadBytes isWord safeLoad (encodeText (contract.modelDumpJson printFloat)) =
      .ok contract := by
  have length : (encodeText (contract.modelDumpJson printFloat)).length =
      contract.contractBytes printFloat := by
    rw [length_encodeText, ContractValues.textBytes_modelDumpJson]
  have positive := contractBytes_pos printFloat contract.toContractValues
  exact loadBytes_of_fields (by omega) readsJson contract.valid

/-- The file of a revision is read and loaded exactly when the document is in the budget. -/
theorem loadProductContract_eq (known : revisionSha ∈ retriever.productRevisions)
    (readsJson : safeLoad (encodeText (retriever.productContract.modelDumpJson printFloat)) =
      .mapping (some retriever.productContract.declared))
    (within : retriever.productContract.contractBytes printFloat ≤ 8192) :
    loadProductContract printFloat safeLoad retriever general revisionSha =
      .ok retriever.productContract := by
  rw [loadProductContract, (readCommittedFile_eq_ok_iff known).mpr ⟨within, rfl⟩, Guard.ok_bind,
    loadBytes_modelDumpJson readsJson within]
  rfl

end Product

/-- **For both revisions the contract is re-encoded to bytes that load as it, and the
comparison before an execution passes, exactly when the document is in the budget.** -/
theorem product_contract_reencoded_iff {isWord : Char → Bool} (printFloat : ℚ → List Char)
    (safeLoad : List UInt8 → YamlOutcome)
    (general : String → String → Nat → Except RaisedException (List UInt8))
    (retriever : ProductExecutionContextRetriever isWord) {baseSha headSha : String}
    (base : baseSha ∈ retriever.productRevisions) (head : headSha ∈ retriever.productRevisions)
    (readsJson : safeLoad (encodeText (retriever.productContract.modelDumpJson printFloat)) =
      .mapping (some retriever.productContract.declared)) :
    ((∀ revisionSha ∈ retriever.productRevisions, ∃ bytes,
        retriever.readCommittedFile printFloat general revisionSha ".patchproof.yaml" 8192 =
            .ok bytes ∧
          ExecutionContract.loadBytes isWord safeLoad bytes = .ok retriever.productContract) ∧
      compareContracts printFloat safeLoad retriever general retriever.productContract
        baseSha headSha = .ok retriever.productContract) ↔
      retriever.productContract.contractBytes printFloat ≤ 8192 := by
  constructor
  · rintro ⟨reencoded, -⟩
    obtain ⟨bytes, answered, -⟩ := reencoded baseSha base
    exact ((readCommittedFile_eq_ok_iff base).mp answered).1
  · intro within
    refine ⟨fun revisionSha known => ?_, ?_⟩
    · exact ⟨_, (readCommittedFile_eq_ok_iff known).mpr ⟨within, rfl⟩,
        loadBytes_modelDumpJson readsJson within⟩
    · rw [compareContracts, loadProductContract_eq base readsJson within, Guard.ok_bind,
        loadProductContract_eq head readsJson within, Guard.ok_bind,
        Guard.require_of_holds rfl, Guard.ok_bind, Guard.require_of_holds rfl]
      rfl

/-! ## A file that grows -/

/-- How a whole number is printed. -/
def printWhole (value : ℚ) : List Char := (toString value.num).toList ++ ['.', '0']

/-- A contract with these test directories. -/
def directoryFields (directories : List String) : ContractFields where
  install := [["uv", "sync", "--frozen"]]
  testCommand := ["python", "-m", "pytest"]
  allowedTestPaths := directories
  timeoutSeconds := 30

theorem directoryFields_valid :
    (directoryFields ["tests/"]).values.isValid Char.isAlphanum = true := by decide +kernel

/-- The retriever of a contract with one short directory. -/
def shortRetriever : ProductExecutionContextRetriever Char.isAlphanum where
  productContract := ⟨(directoryFields ["tests/"]).values, directoryFields_valid⟩
  productRevisions := ["base", "head"]
  two := by decide

theorem product_contract_reencoded_iff_short :
    ((∀ revisionSha ∈ shortRetriever.productRevisions, ∃ bytes,
        shortRetriever.readCommittedFile printWhole (fun _ _ _ => .ok []) revisionSha
            ".patchproof.yaml" 8192 = .ok bytes ∧
          ExecutionContract.loadBytes Char.isAlphanum
            (fun _ => .mapping (some shortRetriever.productContract.declared)) bytes =
              .ok shortRetriever.productContract) ∧
      compareContracts printWhole
        (fun _ => .mapping (some shortRetriever.productContract.declared)) shortRetriever
        (fun _ _ _ => .ok []) shortRetriever.productContract "base" "head" =
          .ok shortRetriever.productContract) ↔
      shortRetriever.productContract.contractBytes printWhole ≤ 8192 :=
  product_contract_reencoded_iff printWhole _ _ shortRetriever (by decide) (by decide) rfl

/-- A directory of 347 characters, all but two of them the bell character. -/
def bellDirectory (first : Char) : String :=
  String.ofList (first :: (List.replicate 345 '\x07' ++ ['/']))

def bellDirectories : List String := ['a', 'b', 'c', 'd'].map bellDirectory

/-- Only the directories have to be looked at. -/
theorem directoryFields_isValid {directories : List String}
    (few : 1 ≤ directories.length ∧ directories.length ≤ 4)
    (prefixes : directories.all isDirectoryPrefix = true) (distinct : directories.Nodup) :
    (directoryFields directories).values.isValid Char.isAlphanum = true := by
  have valid := directoryFields_valid
  simp only [ContractValues.isValid, Bool.and_eq_true, decide_eq_true_eq] at valid ⊢
  obtain ⟨⟨⟨⟨⟨⟨first, -⟩, -⟩, -⟩, seconds⟩, installSeconds⟩, installs⟩ := valid
  exact ⟨⟨⟨⟨⟨⟨first, few⟩, prefixes⟩, distinct⟩, seconds⟩, installSeconds⟩, installs⟩

theorem isDirectoryPrefix_bellDirectory {first : Char} (known : first ∈ ['a', 'b', 'c', 'd']) :
    isDirectoryPrefix (bellDirectory first) = true := by
  unfold isDirectoryPrefix bellDirectory
  simp only [String.toList_ofList]
  simp only [List.mem_cons, List.not_mem_nil, or_false] at known
  rcases known with rfl | rfl | rfl | rfl <;> decide +kernel

theorem quotedBytes_bellDirectory {first : Char} (known : first ∈ ['a', 'b', 'c', 'd']) :
    quotedBytes (bellDirectory first) = 2074 := by
  unfold quotedBytes bellDirectory
  simp only [String.toList_ofList]
  simp only [List.mem_cons, List.not_mem_nil, or_false] at known
  rcases known with rfl | rfl | rfl | rfl <;> decide +kernel

theorem bellFields_valid :
    (directoryFields bellDirectories).values.isValid Char.isAlphanum = true := by
  refine directoryFields_isValid ⟨by decide, by decide⟩ ?_ ?_
  · rw [bellDirectories, List.all_map, List.all_eq_true]
    intro first known
    exact isDirectoryPrefix_bellDirectory known
  · refine List.Nodup.map (fun first other same => ?_) (by decide)
    exact (List.cons.inj (String.ofList_injective same)).1

def bellContract : ExecutionContract Char.isAlphanum :=
  ⟨(directoryFields bellDirectories).values, bellFields_valid⟩

/-- The contract file, with the bell character written as YAML writes it. -/
def bellFile : List UInt8 :=
  let directory : Char → List Char := fun first =>
    ['"', first] ++ (List.replicate 345 ['\\', 'a']).flatten ++ ['/', '"']
  encodeText ("version: 1\npython: \"3.12\"\ninstall: [[uv, sync, --frozen]]\n".toList ++
    "test: \x7bcommand: [python, -m, pytest]\x7d\nallowed_test_paths: [".toList ++
    commaSeparated (['a', 'b', 'c', 'd'].map directory) ++ "]\ntimeout_seconds: 30\n".toList)

/-- What the parser reads of the file, and of any other document. -/
def loadBells (raw : List UInt8) : YamlOutcome :=
  if raw = bellFile then .mapping (some (directoryFields bellDirectories))
  else .mapping (some bellContract.declared)

def bellRetriever : ProductExecutionContextRetriever Char.isAlphanum where
  productContract := bellContract
  productRevisions := ["base", "head"]
  two := by decide

theorem bellFile_length : 0 < bellFile.length ∧ bellFile.length < 3000 := by
  rw [bellFile, length_encodeText]
  decide +kernel

theorem bellRetriever_large :
    8192 < bellRetriever.productContract.contractBytes printWhole := by
  have sizes : bellDirectories.map quotedBytes = [2074, 2074, 2074, 2074] := by
    rw [bellDirectories, List.map_map]
    exact List.map_congr_left fun first known => quotedBytes_bellDirectory known
  have directories : arrayBytes (bellDirectories.map quotedBytes) = 8301 := by
    rw [sizes]
    decide
  have within := bellContract.arrayBytes_le_contractBytes printWhole
  change arrayBytes (bellDirectories.map quotedBytes) ≤ _ at within
  exact lt_of_lt_of_le (by omega) within

theorem loadBytes_bellFile :
    ExecutionContract.loadBytes Char.isAlphanum loadBells bellFile = .ok bellContract := by
  have bounded : 0 < bellFile.length ∧ bellFile.length ≤ 8192 := by
    have lengths := bellFile_length
    omega
  exact loadBytes_of_fields bounded (if_pos rfl) bellFields_valid

/-- A file of less than 3000 bytes is accepted, and its contract is not handed out. -/
theorem accepted_contract_exceeds_budget :
    bellFile.length < 3000 ∧
      ExecutionContract.loadBytes Char.isAlphanum loadBells bellFile = .ok bellContract ∧
      bellRetriever.readCommittedFile printWhole (fun _ _ _ => .ok []) "base" ".patchproof.yaml"
        8192 = .error (.value "product execution contract exceeds its byte budget") := by
  have known : "base" ∈ bellRetriever.productRevisions := List.mem_cons_self
  exact ⟨bellFile_length.2, loadBytes_bellFile,
    readCommittedFile_of_large known bellRetriever_large⟩

end PatchProof
