import PatchProof.Worker.Service

/-!
# Candidate generation

The bounded generator of candidate tests: one initial model call and at most two
repairs, each consuming one slot of the model-call budget, each answer judged
deterministically and recorded as an attempt.  The state of the source's generator
object is passed along explicitly.  Calls on one generator come one after another
here, so the source's guard against overlapping calls has no counterpart.
-/

set_option autoImplicit false

namespace PatchProof

variable {p : Platform}

/-! ## Bounded retries -/

/-- The usage with the number of provider attempts filled in. -/
def ModelUsage.withProviderAttempts (usage : ModelUsage) (attempts : Nat)
    (bounded : 1 ≤ attempts ∧ attempts ≤ 2) : ModelUsage :=
  { usage with providerAttempts := attempts, attemptsBounded := bounded }

/-- `BoundedRetryingModel.invoke`: one logical call is tried again at most once, and
only after a failure that is explicitly transient. -/
def boundedRetry {α : Type} (invoke : Activity p α)
    (account : (attempts : Nat) → 1 ≤ attempts ∧ attempts ≤ 2 → α → α) : Activity p α :=
  (do
    let response ← invoke
    return account 1 one_attempt_bounded response).catching fun
      | .surrounding (.modelInvocation _ true) => do
          let response ← invoke
          return account 2 (by decide) response
      | exception => Program.raise exception

/-! ## The generator -/

def maxCandidateModelCalls : Nat := 3
def maxRepairs : Nat := 2
def maxCandidateInputChars : Nat := 64000
def maxCandidateResponseChars : Nat := 20000

/-- What a generator was built with and what it has consumed. -/
structure CandidateGenerator (p : Platform) where
  claim : BehavioralClaim
  context : p.Context
  contract : p.Contract
  existingPaths : List String
  installedImportRoots : List String
  repositorySignatures : RepositorySignatureContext
  attempts : List CandidateAttempt := []
  modelCalls : Nat := 0
  initialStarted : Bool := false
  repairCount : Nat := 0

namespace CandidateGenerator

/-- The names under which the answer to a call is normalized. -/
def suffixes (generator : CandidateGenerator p) : CandidateOrigin → String × String
  | .initial => ("initial", "initial")
  | .repair => ("repair-" ++ toString generator.repairCount,
      "repair_" ++ toString generator.repairCount)

/-- Judge the text of one response. -/
def judgeResponse (generator : CandidateGenerator p) (origin : CandidateOrigin) (text : String) :
    Except RaisedException CandidateJudgement :=
  if maxCandidateResponseChars < text.length then
    .ok (.refuse .invalidModelOutput none none .responseTooLarge
      oversizedResponseMessage invalidModelOutput_ne_validated)
  else match p.decodeDraft text with
    | none => .ok (.refuse .invalidModelOutput none none .malformedOutput
        unstructuredOutputMessage invalidModelOutput_ne_validated)
    | some draft =>
        match draft.propose (p.firstTestPath generator.contract) (generator.suffixes origin).1
            (generator.suffixes origin).2 with
        | none => .ok (.refuse .invalidModelOutput none none .malformedOutput
            unsafeOutputMessage invalidModelOutput_ne_validated)
        | some proposal =>
            judgeProposal (p.validateCandidate generator.installedImportRoots generator.context
              generator.contract generator.existingPaths) generator.attempts origin proposal

/-- The attempt that records one judged response. -/
def record (generator : CandidateGenerator p) (origin : CandidateOrigin)
    (feedback : Option CandidateFeedback) (response : RawCandidateModelResponse)
    (judgement : CandidateJudgement) : CandidateAttempt where
  sequence := generator.attempts.length + 1
  origin := origin
  parentCandidateId := if origin = .repair then
      (generator.attempts.getLast?.bind CandidateAttempt.proposal).map
        CandidateTestProposal.candidateId
    else none
  parentArtifactSha256 := (generator.attempts.getLast?.bind CandidateAttempt.validated).map
    fun candidate => p.digest candidate.artifact.content
  status := judgement.status
  proposal := judgement.proposal
  validated := judgement.validated
  issues := judgement.issues
  feedback := feedback
  usage := response.usage
  rawResponseSha256 := p.digest response.text
  behaviorFingerprint := judgement.behaviorFingerprint
  signatures := generator.repositorySignatures
  validatedIff := judgement.validatedIff

/-- `_invoke`. -/
def invoke (generator : CandidateGenerator p) (origin : CandidateOrigin)
    (feedback : Option CandidateFeedback) : Activity p (CandidateAttempt × CandidateGenerator p) := do
  Program.demand (generator.modelCalls < maxCandidateModelCalls)
    (.candidateBudgetExceeded "candidate model-call budget is exhausted")
  let request : CandidateModelRequest p.Context := {
    claim := generator.claim
    context := generator.context
    repositorySignatures := generator.repositorySignatures
    allowedTestPath := p.firstTestPath generator.contract
    previousCandidate := if origin = .repair then
        generator.attempts.getLast?.bind CandidateAttempt.proposal
      else none
    feedback := feedback }
  Program.demand (p.requestChars request ≤ maxCandidateInputChars)
    (.value "candidate-agent input exceeds the configured character budget")
  let response ← boundedRetry (external .invokeCandidateModel request)
    fun attempts bounded (response : RawCandidateModelResponse) =>
      { response with usage := response.usage.withProviderAttempts attempts bounded }
  let judgement ← attempt (generator.judgeResponse origin response.text)
  let recorded := generator.record origin feedback response judgement
  return (recorded, { generator with
    attempts := generator.attempts ++ [recorded]
    modelCalls := generator.modelCalls + 1 })

/-- `generate_initial`. -/
def generateInitial (generator : CandidateGenerator p) :
    Activity p (CandidateAttempt × CandidateGenerator p) := do
  Program.demand (generator.initialStarted = false)
    (.candidateGenerationState "initial candidate generation already started")
  invoke { generator with initialStarted := true } .initial none

/-- `repair`. -/
def repair (generator : CandidateGenerator p) (feedback : CandidateFeedback) :
    Activity p (CandidateAttempt × CandidateGenerator p) := do
  Program.demand (generator.attempts ≠ [])
    (.candidateGenerationState "repair requires a completed initial attempt")
  Program.demand (generator.repairCount < maxRepairs ∧
      generator.modelCalls < maxCandidateModelCalls)
    (.candidateBudgetExceeded "candidate repair budget is exhausted")
  invoke { generator with repairCount := generator.repairCount + 1 } .repair (some feedback)

end CandidateGenerator

/-! ## Feedback -/

/-- `CandidateFeedback.from_validation_issues`. -/
def CandidateFeedback.fromValidationIssues (issues : List CandidateValidationIssue) :
    Except RaisedException CandidateFeedback := do
  let observations ← (issues.take 4).mapM fun issue =>
    BoundedText.check 1 900 (issue.code.value ++ ": " ++ issue.message.text)
  let observations ← BoundedList.check 5 observations
  if observationsNotBlank : observations.items.all (fun item => strip item.text != "") = true then
    return ⟨⟨"VALIDATION", by decide⟩,
      ⟨"The previous candidate failed deterministic validation.", by decide⟩, observations,
      observationsNotBlank⟩
  else .error (.value "repair observations must contain bounded non-empty text")

/-- `_repair_feedback`. -/
def repairFeedback (p : Platform) (previous : CandidateAttempt)
    (challenge : Option ChallengeResult) : Except RaisedException CandidateFeedback :=
  if previous.status ≠ .validated then
    if previous.issues ≠ [] then CandidateFeedback.fromValidationIssues previous.issues
    else .ok ⟨⟨"VALIDATION", by decide⟩,
      ⟨"The previous candidate did not produce a valid executable artifact.", by decide⟩,
      .empty 5 _, CandidateFeedback.noObservations_notBlank⟩
  else match challenge with
    | some result => p.executionFeedback previous result
    | none => .error .assertion

end PatchProof
