import PatchProof.ClaimAgent
import PatchProof.Workflow.Run

/-!
# Exceptions of the worker and their failure categories

What can be raised while a run is worked on.  The exceptions of the surroundings
(model providers, Git, the executor, the file system) are an enumeration of their
own, since an answer from outside cannot be, say, a store conflict.

`classify` maps whatever was raised to one of eight sanitized categories, which is
all that is ever persisted about a failure.
-/

set_option autoImplicit false

namespace PatchProof

/-! ## Exceptions -/

/-- Exceptions raised by what the service calls outside its own process. -/
inductive SurroundingException where
  | permission (message : String)
  | modelInvocation (message : String) (retryable : Bool)
  | invalidClaimAgentOutput (message : String) (usage : Option ModelUsage)
      (rawResponseSha256 : Option Sha256)
  | contextRetrieval (message : String)
  | executionContract (message : String)
  | unsupportedExecutionPlan (message : String)
  | gitWorkspace (message : String)
  | other (description : String)
  deriving DecidableEq

/-- Stable sanitized failure categories. -/
inductive WorkerFailureCode where
  | modelRetryExhausted
  | modelOutputInvalid
  | repositoryContextFailed
  | executionContractInvalid
  | unsupportedExecutionPlan
  | workspaceFailed
  | candidateBudgetViolation
  | internalWorkerFailure
  deriving DecidableEq

def WorkerFailureCode.value : WorkerFailureCode → String
  | .modelRetryExhausted => "MODEL_RETRY_EXHAUSTED"
  | .modelOutputInvalid => "MODEL_OUTPUT_INVALID"
  | .repositoryContextFailed => "REPOSITORY_CONTEXT_FAILED"
  | .executionContractInvalid => "EXECUTION_CONTRACT_INVALID"
  | .unsupportedExecutionPlan => "UNSUPPORTED_EXECUTION_PLAN"
  | .workspaceFailed => "WORKSPACE_FAILED"
  | .candidateBudgetViolation => "CANDIDATE_BUDGET_VIOLATION"
  | .internalWorkerFailure => "INTERNAL_WORKER_FAILURE"

/-- A failure as it may be persisted and shown. -/
structure ClassifiedWorkerFailure where
  code : WorkerFailureCode
  summary : String
  retryable : Bool
  modelUsage : Option ModelUsage := none
  rawResponseSha256 : Option Sha256 := none
  deriving DecidableEq

/-- Everything that the worker, the publisher and the task endpoint may raise. -/
inductive RaisedException where
  | store (exception : StoreException)
  | surrounding (exception : SurroundingException)
  | runtime (message : String)
  | value (message : String)
  | assertion
  | candidateBudgetExceeded (message : String)
  | candidateGenerationState (message : String)
  | permission (message : String)
  | checkRetryable (message : String)
  | checkTerminal (message : String)
  | evidenceWorker (failure : ClassifiedWorkerFailure)
  deriving DecidableEq

/-- Whether the exception is a `PermissionError`. -/
def RaisedException.isPermission : RaisedException → Bool
  | .permission _ => true
  | .surrounding (.permission _) => true
  | _ => false

/-! ## Classification -/

/-- `ReliableEvidenceWorker.classify`. -/
def classify : RaisedException → ClassifiedWorkerFailure
  | .surrounding (.modelInvocation _ retryable) => {
      code := .modelRetryExhausted
      summary := "The bounded semantic provider attempt budget was exhausted."
      retryable := retryable }
  | .surrounding (.invalidClaimAgentOutput _ usage rawResponseSha256) => {
      code := .modelOutputInvalid
      summary := "A semantic task returned invalid or ungrounded structured output."
      retryable := false
      modelUsage := usage
      rawResponseSha256 := rawResponseSha256 }
  | .surrounding (.contextRetrieval _) => {
      code := .repositoryContextFailed
      summary := "Immutable repository context could not be retrieved safely."
      retryable := false }
  | .surrounding (.executionContract _) => {
      code := .executionContractInvalid
      summary := "The immutable repository execution contract is invalid."
      retryable := false }
  | .surrounding (.unsupportedExecutionPlan _) => {
      code := .unsupportedExecutionPlan
      summary := "BASE and HEAD do not have one supported equivalent execution plan."
      retryable := false }
  | .surrounding (.gitWorkspace _) => {
      code := .workspaceFailed
      summary := "Immutable revision workspaces could not be prepared or cleaned up."
      retryable := true }
  | .candidateBudgetExceeded _ => {
      code := .candidateBudgetViolation
      summary := "The bounded candidate-attempt policy was violated."
      retryable := false }
  | _ => {
      code := .internalWorkerFailure
      summary := "The verification worker failed closed."
      retryable := false }

/-- Every category is a code that the store accepts. -/
theorem WorkerFailureCode.isErrorCode_value (code : WorkerFailureCode) :
    isErrorCode code.value = true := by
  cases code <;> decide

/-- A hash that has passed its check passes it again as text. -/
theorem all_isSha256_text (hash : Option Sha256) :
    (hash.map Sha256.text).all isSha256 = true := by
  cases hash with
  | none => rfl
  | some sha256 => simpa using sha256.wellFormed

end PatchProof
