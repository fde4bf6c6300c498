import PatchProof.ClaimAgent
import PatchProof.Worker.Exceptions

/-!
# Candidate tests and their lineage

The values that pass between the candidate model, the validator and the workflow:
drafts, normalized proposals, validation issues, repair feedback, validated
candidates, and the attempt that records one consumed model call.

An attempt is validated exactly when it carries a validated candidate.  The source
keeps the two fields apart and sets them together; here their agreement is a proof
field of the attempt.
-/

set_option autoImplicit false

namespace PatchProof

/-! ## Bounded lists -/

/-- A list with at most so many items. -/
structure BoundedList (most : Nat) (α : Type) where
  items : List α
  bounded : items.length ≤ most
  deriving DecidableEq

/-- The list without items. -/
def BoundedList.empty (most : Nat) (α : Type) : BoundedList most α := ⟨[], Nat.zero_le most⟩

/-- Text that passes its length bounds, or a validation error. -/
def BoundedText.check (least most : Nat) (text : String) :
    Except RaisedException (BoundedText least most) :=
  if bounded : least ≤ text.length ∧ text.length ≤ most then .ok ⟨text, bounded⟩
  else .error (.value "text length is out of bounds")

/-- A list that passes its length bound, or a validation error. -/
def BoundedList.check {α : Type} (most : Nat) (items : List α) :
    Except RaisedException (BoundedList most α) :=
  if bounded : items.length ≤ most then .ok ⟨items, bounded⟩
  else .error (.value "too many items")

theorem BoundedText.check_eq_ok_iff {least most : Nat} {text : String}
    {checked : BoundedText least most} :
    BoundedText.check least most text = .ok checked ↔ checked.text = text := by
  unfold BoundedText.check
  split
  · constructor
    · intro same
      cases same
      rfl
    · intro same
      cases checked
      cases same
      rfl
  · rename_i unbounded
    constructor
    · intro absurdity
      cases absurdity
    · intro same
      exact absurd (same ▸ checked.bounded) unbounded

theorem BoundedList.check_eq_ok_iff {α : Type} {most : Nat} {items : List α}
    {checked : BoundedList most α} :
    BoundedList.check most items = .ok checked ↔ checked.items = items := by
  unfold BoundedList.check
  split
  · constructor
    · intro same
      cases same
      rfl
    · intro same
      cases checked
      cases same
      rfl
  · rename_i unbounded
    constructor
    · intro absurdity
      cases absurdity
    · intro same
      exact absurd (same ▸ checked.bounded) unbounded

/-! ## Proposals -/

/-- Why a candidate model invocation occurred. -/
inductive CandidateOrigin where
  | initial
  | repair
  deriving DecidableEq

def CandidateOrigin.value : CandidateOrigin → String
  | .initial => "INITIAL"
  | .repair => "REPAIR"

/-- Disposition of one model-produced candidate. -/
inductive CandidateAttemptStatus where
  | validated
  | rejected
  | invalidModelOutput
  deriving DecidableEq

def CandidateAttemptStatus.value : CandidateAttemptStatus → String
  | .validated => "VALIDATED"
  | .rejected => "REJECTED"
  | .invalidModelOutput => "INVALID_MODEL_OUTPUT"

/-- Stable reasons a proposal cannot become an executable artifact. -/
inductive CandidateIssueCode where
  | responseTooLarge
  | malformedOutput
  | pathNotAllowed
  | pathAlreadyExists
  | sourceTooLarge
  | syntaxError
  | testFunctionMismatch
  | multipleTests
  | relativeImport
  | wildcardImport
  | blockedImport
  | ungroundedImport
  | forbiddenCall
  | duplicateCandidateId
  | duplicateCandidateSource
  | noBehavioralRepairChange
  | broadExceptionHandler
  | ungroundedExceptionType
  | swallowedOutcome
  | headOnlyInterface
  deriving DecidableEq

def CandidateIssueCode.value : CandidateIssueCode → String
  | .responseTooLarge => "RESPONSE_TOO_LARGE"
  | .malformedOutput => "MALFORMED_OUTPUT"
  | .pathNotAllowed => "PATH_NOT_ALLOWED"
  | .pathAlreadyExists => "PATH_ALREADY_EXISTS"
  | .sourceTooLarge => "SOURCE_TOO_LARGE"
  | .syntaxError => "SYNTAX_ERROR"
  | .testFunctionMismatch => "TEST_FUNCTION_MISMATCH"
  | .multipleTests => "MULTIPLE_TESTS"
  | .relativeImport => "RELATIVE_IMPORT"
  | .wildcardImport => "WILDCARD_IMPORT"
  | .blockedImport => "BLOCKED_IMPORT"
  | .ungroundedImport => "UNGROUNDED_IMPORT"
  | .forbiddenCall => "FORBIDDEN_CALL"
  | .duplicateCandidateId => "DUPLICATE_CANDIDATE_ID"
  | .duplicateCandidateSource => "DUPLICATE_CANDIDATE_SOURCE"
  | .noBehavioralRepairChange => "NO_BEHAVIORAL_REPAIR_CHANGE"
  | .broadExceptionHandler => "BROAD_EXCEPTION_HANDLER"
  | .ungroundedExceptionType => "UNGROUNDED_EXCEPTION_TYPE"
  | .swallowedOutcome => "SWALLOWED_OUTCOME"
  | .headOnlyInterface => "HEAD_ONLY_INTERFACE"

/-- One bounded deterministic reason for rejecting candidate source. -/
structure CandidateValidationIssue where
  code : CandidateIssueCode
  message : BoundedText 1 500
  deriving DecidableEq

/-- Provider-visible output of the candidate model. -/
structure CandidateTestDraft where
  source : BoundedText 1 16000
  rationale : BoundedText 1 700
  deriving DecidableEq

def isWordChar (c : Char) : Bool :=
  ('a' ≤ c && c ≤ 'z') || ('A' ≤ c && c ≤ 'Z') || ('0' ≤ c && c ≤ '9') || c == '_'

/-- The pattern of a candidate identifier. -/
def isCandidateId (text : String) : Bool :=
  let slugChar (c : Char) : Bool := ('a' ≤ c && c ≤ 'z') || ('0' ≤ c && c ≤ '9')
  "candidate-".toList.isPrefixOf text.toList &&
    match text.toList.drop 10 with
    | first :: rest => slugChar first && rest.length ≤ 58 && rest.all fun c => slugChar c || c == '-'
    | [] => false

/-- A normalized relative path to a `test_*.py` file. -/
def isCandidatePath (path : String) : Bool :=
  path.toList.all (fun c => c != '\\' && c != '\x00' && c != '\n' && c != '\r') &&
    (pathSegments path.toList).all (fun segment =>
      !segment.isEmpty && segment != ['.'] && segment != ['.', '.']) &&
    match (pathSegments path.toList).getLast? with
    | some name =>
        "test_".toList.isPrefixOf name && ".py".toList.isSuffixOf name && 8 < name.length &&
          ((name.drop 5).take (name.length - 8)).all isWordChar
    | none => false

/-- The pattern of a test function name. -/
def isTestFunction (text : String) : Bool :=
  "test_".toList.isPrefixOf text.toList && 6 ≤ text.toList.length && text.toList.length ≤ 125 &&
    (text.toList.drop 5).all isWordChar

/-- The only test source shape the semantic agent may propose. -/
structure CandidateTestProposal where
  candidateId : String
  targetPath : String
  testFunction : String
  source : BoundedText 1 16000
  rationale : BoundedText 1 700
  wellFormed : isCandidateId candidateId = true ∧ isCandidatePath targetPath = true ∧
    isTestFunction testFunction = true
  deriving DecidableEq

def generatedTestFunction : String := "test_patchproof_generated_behavior"

/-- The proposal that a draft is normalized to; `suffix` names the identifier and
`pathSuffix` the file. -/
def CandidateTestDraft.propose (draft : CandidateTestDraft) (directory suffix pathSuffix : String) :
    Option CandidateTestProposal :=
  let candidateId := "candidate-" ++ suffix
  let targetPath := directory ++ "test_patchproof_generated_" ++ pathSuffix ++ ".py"
  if wellFormed : isCandidateId candidateId = true ∧ isCandidatePath targetPath = true ∧
      isTestFunction generatedTestFunction = true then
    some ⟨candidateId, targetPath, generatedTestFunction, draft.source, draft.rationale, wellFormed⟩
  else none

/-- A validated proposal tied to one immutable artifact and its imports. -/
structure ValidatedCandidate where
  proposal : CandidateTestProposal
  artifact : TestArtifact
  importedRoots : List String
  behaviorFingerprint : Sha256
  deriving DecidableEq

/-! ## Feedback -/

/-- Bounded feedback available to one repair invocation. -/
structure CandidateFeedback where
  category : BoundedText 1 80
  summary : BoundedText 1 1500
  observations : BoundedList 5 (BoundedText 1 900)
  observationsNotBlank : observations.items.all (fun item => strip item.text != "") = true
  deriving DecidableEq

theorem CandidateFeedback.noObservations_notBlank :
    (BoundedList.empty 5 (BoundedText 1 900)).items.all (fun item => strip item.text != "") =
      true := rfl

/-! ## Attempts -/

/-- Untrusted structured text and usage facts from one candidate invocation. -/
@[ext] structure RawCandidateModelResponse where
  text : String
  notEmpty : text ≠ ""
  usage : ModelUsage

instance : DecidableEq RawCandidateModelResponse := fun _ _ => decidable_of_iff _ RawCandidateModelResponse.ext_iff.symm

/-- Metadata of the signatures that were given to the candidate model. -/
structure RepositorySignatureContext where
  count : Nat
  countBounded : count ≤ 8
  truncated : Bool
  sha256 : Sha256
  deriving DecidableEq

/-- No signature was given. -/
def RepositorySignatureContext.absent (sha256 : Sha256) : RepositorySignatureContext :=
  ⟨0, Nat.zero_le 8, false, sha256⟩

/-- Lineage of one consumed model-call budget slot. -/
structure CandidateAttempt where
  sequence : Nat
  origin : CandidateOrigin
  parentCandidateId : Option String
  parentArtifactSha256 : Option Sha256
  status : CandidateAttemptStatus
  proposal : Option CandidateTestProposal
  validated : Option ValidatedCandidate
  issues : List CandidateValidationIssue
  feedback : Option CandidateFeedback
  usage : ModelUsage
  rawResponseSha256 : Sha256
  behaviorFingerprint : Option Sha256
  signatures : RepositorySignatureContext
  validatedIff : status = .validated ↔ validated.isSome = true
  deriving DecidableEq

/-- How the text of one model response was judged: the status, what was kept of the
response, and why it was refused. -/
structure CandidateJudgement where
  status : CandidateAttemptStatus
  proposal : Option CandidateTestProposal := none
  validated : Option ValidatedCandidate := none
  issues : List CandidateValidationIssue := []
  behaviorFingerprint : Option Sha256 := none
  validatedIff : status = .validated ↔ validated.isSome = true := by decide
  deriving DecidableEq

/-- Why the validator did not accept a proposal: issues it reports, or an exception
that is not one of its own. -/
inductive CandidateValidationFailure where
  | issues (issues : List CandidateValidationIssue)
  | raised (exception : RaisedException)
  deriving DecidableEq

theorem rejected_ne_validated : CandidateAttemptStatus.rejected ≠ .validated := by
  decide

theorem invalidModelOutput_ne_validated :
    CandidateAttemptStatus.invalidModelOutput ≠ .validated := by
  decide

theorem rejected_unvalidated : CandidateAttemptStatus.rejected = .validated ↔
    (none : Option ValidatedCandidate).isSome = true := by
  decide

theorem validated_iff_some (candidate : ValidatedCandidate) :
    CandidateAttemptStatus.validated = .validated ↔ (some candidate).isSome = true :=
  ⟨fun _ => rfl, fun _ => rfl⟩

/-- A response that is refused with one issue. -/
def CandidateJudgement.refuse (status : CandidateAttemptStatus)
    (proposal : Option CandidateTestProposal) (behaviorFingerprint : Option Sha256)
    (code : CandidateIssueCode) (message : BoundedText 1 500)
    (refused : status ≠ .validated := by decide) : CandidateJudgement where
  status := status
  proposal := proposal
  issues := [⟨code, message⟩]
  behaviorFingerprint := behaviorFingerprint
  validatedIff := ⟨fun absurdity => absurd absurdity refused, fun absurdity => by cases absurdity⟩

/-! ### The messages of a refusal -/

def repeatedSourceMessage : BoundedText 1 500 :=
  ⟨"repair source must differ byte-for-byte from the previous source", by decide⟩

def repeatedIdMessage : BoundedText 1 500 :=
  ⟨"candidate IDs must be unique within one generation run", by decide⟩

def unchangedBehaviorMessage : BoundedText 1 500 :=
  ⟨"repair must materially change executable test behavior, " ++
    "not only formatting, comments, or unused imports", by decide⟩

def oversizedResponseMessage : BoundedText 1 500 :=
  ⟨"candidate model response exceeds the configured budget", by decide⟩

def unstructuredOutputMessage : BoundedText 1 500 :=
  ⟨"candidate model returned invalid structured output", by decide⟩

def unsafeOutputMessage : BoundedText 1 500 :=
  ⟨"candidate model output could not be normalized safely", by decide⟩

/-- Judge a proposal against the attempts before it, then by the validator. -/
def judgeProposal (validate : CandidateTestProposal →
      Except CandidateValidationFailure ValidatedCandidate)
    (attempts : List CandidateAttempt) (origin : CandidateOrigin)
    (proposal : CandidateTestProposal) : Except RaisedException CandidateJudgement :=
  let previous := if origin = .repair then attempts.getLast? else none
  if (previous.bind CandidateAttempt.proposal).any fun earlier =>
      earlier.source.text = proposal.source.text then
    .ok (.refuse .rejected (some proposal) none .duplicateCandidateSource
      repeatedSourceMessage rejected_ne_validated)
  else if attempts.any fun attempt =>
      attempt.proposal.any fun earlier => earlier.candidateId = proposal.candidateId then
    .ok (.refuse .rejected (some proposal) none .duplicateCandidateId
      repeatedIdMessage rejected_ne_validated)
  else match validate proposal with
    | .error (.raised exception) => .error exception
    | .error (.issues issues) => .ok
        { status := .rejected
          proposal := some proposal
          issues := issues
          validatedIff := rejected_unvalidated }
    | .ok candidate =>
        if (previous.bind CandidateAttempt.behaviorFingerprint).any fun earlier =>
            candidate.behaviorFingerprint = earlier then
          .ok (.refuse .rejected (some proposal) (some candidate.behaviorFingerprint)
            .noBehavioralRepairChange unchangedBehaviorMessage rejected_ne_validated)
        else .ok
          { status := .validated
            proposal := some proposal
            validated := some candidate
            behaviorFingerprint := some candidate.behaviorFingerprint
            validatedIff := validated_iff_some candidate }

end PatchProof
