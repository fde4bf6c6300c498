import Mathlib.Data.Rat.Defs
import PatchProof.HardMode.Protocol
import PatchProof.Library.Program

/-!
# A declared live run

`run_live` looks whether the journal or the result is there, prepares what the run needs, and
declares the run as started by its first line in the journal.  The journal is opened to append,
so the first opening creates it, and every line is written and synchronised before the run goes
on.

The program asks its surroundings one step at a time, so that other processes can come in between
any two of its steps.
-/

set_option autoImplicit false

namespace PatchProof

/-! ## What a run asks -/

inductive GeminiProviderSurface where
  | geminiDeveloperApi
  | vertexAi
  deriving DecidableEq

inductive HardModePacingPolicy where
  | none
  | betweenCases
  deriving DecidableEq

/-- The manifest of a run, with what `run_live` itself reads of it. -/
structure LiveRunManifest extends HardModeManifest where
  declaredRunId : String
  modelName : String
  providerSurface : Option GeminiProviderSurface
  pacingPolicy : HardModePacingPolicy
  interCaseDelaySeconds : ℚ

/-- What a live run raises: an exception of the harness, or one of what it calls. -/
inductive LiveRunFailure where
  | hardMode (failure : HardModeFailure)
  | surroundings (type message : String)
  deriving DecidableEq

/-- The exception is a `HardModeConfigurationError`. -/
def LiveRunFailure.isConfiguration : LiveRunFailure → Bool
  | .hardMode (.configuration _) => true
  | _ => false

/-- An accepted case of the oracle gate. -/
structure GatedCase where
  caseId : String
  accepted : Bool
  contextSha256 : String

/-- The document of the oracle gate. -/
structure OracleGate where
  accepted : Bool
  manifestSha256 : String
  caseCount : Nat
  cases : List GatedCase

/-- The document of one case: what the case reported, or that the harness failed. -/
inductive LiveCaseDocument where
  | reported (document : String)
  | harnessError (case : HardModeCase) (type message : String)

/-- The first line of a journal. -/
structure RunStarted where
  declaredRunId : String
  manifestSha256 : String
  modelName : String
  providerSurface : GeminiProviderSurface
  caseIds : List String
  callBudget : HardModeCallBudgetPreflight

inductive JournalEntry where
  | runStarted (started : RunStarted)
  | interCasePacingStarted (completedCaseId nextCaseId : String) (declaredDelay : ℚ)
  | interCasePacingCompleted (completedCaseId nextCaseId : String) (declaredDelay : ℚ)
  | caseStarted (caseId : String)
  | caseCompleted (result : LiveCaseDocument)
  | runCompleted (rawSha256 : String)

/-- The result of a run. -/
structure RawRun where
  declaredRunId : String
  manifestSha256 : String
  oracleGateSha256 : String
  modelName : String
  providerSurface : GeminiProviderSurface
  callBudget : HardModeCallBudgetPreflight
  cases : List LiveCaseDocument

/-- The two files that processes share. -/
inductive LiveRunFile where
  | journal
  | raw
  deriving DecidableEq

inductive LiveRunCall where
  | pathExists (file : LiveRunFile)
  | loadHardModeManifest
  | providerFromEnvironment
  | configuredModel
  | preflightVertexAuthentication
  | readGate
  | prepareRepository (case : HardModeCase)
  | makeParent
  | openJournal
  | writeJournal (entry : JournalEntry)
  | sleep (seconds : ℚ)
  | runLiveCase (case : HardModeCase) (modelName expectedContextSha256 : String)
  | hashGate
  | writeRaw (raw : RawRun)
  | hashRaw

/-- What a run is told.  A gate that cannot be read or parsed is none. -/
@[reducible]
def LiveRunReply : LiveRunCall → Type
  | .pathExists _ => Bool
  | .loadHardModeManifest => Except LiveRunFailure (LiveRunManifest × String)
  | .providerFromEnvironment => Except LiveRunFailure GeminiProviderSurface
  | .configuredModel => Option String
  | .preflightVertexAuthentication => Except LiveRunFailure Unit
  | .readGate => Except LiveRunFailure (Option OracleGate)
  | .prepareRepository _ => Except LiveRunFailure Unit
  | .makeParent => Except LiveRunFailure Unit
  | .openJournal => Except LiveRunFailure Unit
  | .writeJournal _ => Except LiveRunFailure Unit
  | .sleep _ => Unit
  | .runLiveCase _ _ _ => Except (String × String) String
  | .hashGate => Except LiveRunFailure String
  | .writeRaw _ => Except LiveRunFailure Unit
  | .hashRaw => Except LiveRunFailure String

/-- A step of a live run. -/
abbrev LiveRun (α : Type) : Type := Program LiveRunReply LiveRunFailure α

/-- Raise a `HardModeConfigurationError`. -/
def LiveRun.misconfigured {α : Type} (message : String) : LiveRun α :=
  .raise (.hardMode (.configuration message))

/-! ## The preparation -/

/-- `_load_gate`. -/
def loadGate (manifestSha256 : String) (caseCount : Nat) : LiveRun OracleGate := do
  match ← .ask .readGate .done with
  | none => LiveRun.misconfigured "oracle gate is unavailable or invalid"
  | some gate =>
      if !gate.accepted || gate.manifestSha256 ≠ manifestSha256 || gate.caseCount ≠ caseCount ||
          !gate.cases.all GatedCase.accepted then
        LiveRun.misconfigured "oracle gate does not authorize this manifest"
      else return gate

/-- What a run has when it opens its journal. -/
structure PreparedRun where
  manifest : LiveRunManifest
  manifestSha256 : String
  callBudget : HardModeCallBudgetPreflight
  providerSurface : GeminiProviderSurface
  gate : OracleGate

/-- `provider_config or GeminiProviderConfig.from_environment()`. -/
def resolveProvider : Option GeminiProviderSurface → LiveRun GeminiProviderSurface
  | some surface => pure surface
  | none => .ask .providerFromEnvironment .done

/-- Only the Vertex path has credentials to look for. -/
def preflightAuthentication : GeminiProviderSurface → LiveRun Unit
  | .vertexAi => .ask .preflightVertexAuthentication .done
  | .geminiDeveloperApi => pure ()

/-- The gate, the repositories and the directory of the journal. -/
def prepareRepositories (manifest : LiveRunManifest) (manifestSha256 : String) :
    LiveRun OracleGate := do
  let gate ← loadGate manifestSha256 manifest.cases.length
  manifest.cases.foldlM (fun _ case => .ask (.prepareRepository case) .done) ()
  .ask .makeParent .done
  return gate

/-- `run_live`, from the manifest to the prepared repositories. -/
def prepareRun (providerConfig : Option GeminiProviderSurface) : LiveRun PreparedRun := do
  let loaded ← .ask .loadHardModeManifest .done
  let manifest := loaded.1
  let callBudget ← .done ((modelCallBudgetPreflight manifest.toHardModeManifest).mapError .hardMode)
  match manifest.providerSurface with
  | none =>
      LiveRun.misconfigured
        "new hard-mode live runs must declare an explicit Gemini provider surface"
  | some declaredSurface =>
      let resolvedSurface ← resolveProvider providerConfig
      let configuredModel ← .ask .configuredModel pure
      if configuredModel.any fun model => !model.isEmpty && model ≠ manifest.modelName then
        LiveRun.misconfigured "configured Gemini model does not match the hard-mode manifest"
      else if resolvedSurface ≠ declaredSurface then
        LiveRun.misconfigured
          "configured Gemini provider surface does not match the hard-mode manifest"
      else
        preflightAuthentication resolvedSurface
        let gate ← prepareRepositories manifest loaded.2
        return ⟨manifest, loaded.2, callBudget, resolvedSurface, gate⟩

/-! ## The journal and the cases -/

/-- `_append_journal`. -/
def appendJournal (entry : JournalEntry) : LiveRun Unit := do
  .ask .openJournal .done
  .ask (.writeJournal entry) .done

namespace PreparedRun

variable (prepared : PreparedRun)

/-- The line that declares the run as started. -/
def started : RunStarted where
  declaredRunId := prepared.manifest.declaredRunId
  manifestSha256 := prepared.manifestSha256
  modelName := prepared.manifest.modelName
  providerSurface := prepared.providerSurface
  caseIds := prepared.manifest.cases.map HardModeCase.caseId
  callBudget := prepared.callBudget

/-- `_pace_between_cases`. -/
def paceBetweenCases (completedCaseId nextCaseId : String) : LiveRun Unit :=
  match prepared.manifest.pacingPolicy with
  | .none => pure ()
  | .betweenCases => do
      let delay := prepared.manifest.interCaseDelaySeconds
      appendJournal (.interCasePacingStarted completedCaseId nextCaseId delay)
      .ask (.sleep delay) pure
      appendJournal (.interCasePacingCompleted completedCaseId nextCaseId delay)

/-- There is no pause before the first case. -/
def paceBefore (nextCaseId : String) : Option String → LiveRun Unit
  | none => pure ()
  | some completedCaseId => prepared.paceBetweenCases completedCaseId nextCaseId

/-- The document of a case; what the case raises, an absent gate included, is part of it. -/
def caseResult (case : HardModeCase) : LiveRun LiveCaseDocument :=
  match prepared.gate.cases.reverse.find? fun gated => gated.caseId == case.caseId with
  | none => pure (.harnessError case "KeyError" ("'" ++ case.caseId ++ "'"))
  | some gated => .ask (.runLiveCase case prepared.manifest.modelName gated.contextSha256) fun
      | .ok document => pure (.reported document)
      | .error (type, message) =>
          pure (.harnessError case type (String.ofList (message.toList.take 2000)))

/-- One case, after the one before it. -/
def runCase (done : Option String × List LiveCaseDocument) (case : HardModeCase) :
    LiveRun (Option String × List LiveCaseDocument) := do
  prepared.paceBefore case.caseId done.1
  appendJournal (.caseStarted case.caseId)
  let result ← prepared.caseResult case
  appendJournal (.caseCompleted result)
  return (some case.caseId, done.2 ++ [result])

/-- `run_live`, from the first line of the journal to the last. -/
def execute : LiveRun RawRun := do
  appendJournal (.runStarted prepared.started)
  let (_, results) ← prepared.manifest.cases.foldlM prepared.runCase (none, [])
  let oracleGateSha256 ← .ask .hashGate .done
  let raw : RawRun := ⟨prepared.manifest.declaredRunId, prepared.manifestSha256, oracleGateSha256,
    prepared.manifest.modelName, prepared.providerSurface, prepared.callBudget, results⟩
  .ask (.writeRaw raw) .done
  let rawSha256 ← .ask .hashRaw .done
  appendJournal (.runCompleted rawSha256)
  return raw

end PreparedRun

/-- What a run raises when it finds the journal or the result. -/
def alreadyStarted : String :=
  "declared live run has already started; refusing retry or result replacement"

/-- `run_live`. -/
def runLive (providerConfig : Option GeminiProviderSurface) : LiveRun RawRun := do
  if ← .ask (.pathExists .journal) pure then
    LiveRun.misconfigured alreadyStarted
  else if ← .ask (.pathExists .raw) pure then
    LiveRun.misconfigured alreadyStarted
  else
    let prepared ← prepareRun providerConfig
    prepared.execute

end PatchProof
