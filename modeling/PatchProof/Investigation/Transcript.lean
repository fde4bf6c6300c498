import PatchProof.Evidence.Candidate
import PatchProof.Library.Json

/-!
# The transcript of a claim investigation

What is kept of an investigation: how many turns it took, one record per tool call,
and the hashes of the starting context and of the model's responses.  The arguments of a
call are a document of their own, kept as they were given.
-/

set_option autoImplicit false

namespace PatchProof

/-- The four capabilities exposed to the model. -/
inductive InvestigationToolName where
  | inspectSymbol
  | findReferences
  | findRelatedTests
  | inspectSourceWindow
  deriving DecidableEq

def InvestigationToolName.value : InvestigationToolName → String
  | .inspectSymbol => "inspect_symbol"
  | .findReferences => "find_references"
  | .findRelatedTests => "find_related_tests"
  | .inspectSourceWindow => "inspect_source_window"

/-- Disposition of one tool call. -/
inductive ToolCallStatus where
  | ok
  | invalidArguments
  | budgetExhausted
  | unavailable
  deriving DecidableEq

def ToolCallStatus.value : ToolCallStatus → String
  | .ok => "OK"
  | .invalidArguments => "INVALID_ARGUMENTS"
  | .budgetExhausted => "BUDGET_EXHAUSTED"
  | .unavailable => "UNAVAILABLE"

/-- The arguments of a tool call, under distinct names. -/
structure ToolArguments where
  fields : List (String × Json)
  distinct : (Json.object fields).Distinct

/-- One auditable entry in the investigation transcript. -/
structure ToolCallRecord where
  sequence : PositiveInt
  turn : PositiveInt
  tool : InvestigationToolName
  arguments : ToolArguments
  status : ToolCallStatus
  matchCount : Nat := 0
  truncated : Bool := false
  sourceChars : Nat := 0
  detail : BoundedText 1 500

/-- Auditable record of one complete claim-investigation run. -/
structure InvestigationTranscript where
  turns : PositiveInt
  toolCalls : BoundedList 16 ToolCallRecord
  startingContextSha256 : Sha256
  responseSha256 : BoundedList 8 String

end PatchProof
