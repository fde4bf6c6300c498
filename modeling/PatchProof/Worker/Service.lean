import PatchProof.Library.Pool
import PatchProof.Publication.Check
import PatchProof.Storage.Operations

/-!
# What the service talks to

The worker, the publisher and the task endpoint are programs over two kinds of
calls: operations of the run store, and calls to the surroundings (Git, the model
providers, the executor, GitHub).  The store is the shared object, one transaction
a call.  The surroundings answer from the schedule: a moment says what the clock
reads, which identifier is fresh, and what the next call of each kind gets.

`Platform` collects what the programs use without looking inside: the types they
pass on, the digests, the document codec, and the deterministic code of the
candidate validator, the contract loader and the execution feedback.  Of all these
only the codec's round trip is relied on.
-/

set_option autoImplicit false

namespace PatchProof

/-! ## The platform -/

/-- Bounded semantic input of one candidate invocation. -/
structure CandidateModelRequest (Context : Type) where
  claim : BehavioralClaim
  context : Context
  repositorySignatures : RepositorySignatureContext
  allowedTestPath : String
  previousCandidate : Option CandidateTestProposal
  feedback : Option CandidateFeedback

/-- The types and functions that the programs use and do not define. -/
structure Platform where
  /-- Serialized evidence documents. -/
  Document : Type
  [documentEq : DecidableEq Document]
  /-- Pull-request context retrieved from two revisions. -/
  Context : Type
  /-- Execution contracts. -/
  Contract : Type
  [contractEq : DecidableEq Contract]
  /-- Investigation transcripts. -/
  Transcript : Type
  digest : String → Sha256
  documentSha256 : Document → Sha256
  payloadSha256 : GitHubCheckPayload → Sha256
  /-- `canonical_json`. -/
  encode : EvidenceReport Transcript → Document
  /-- `EvidenceReport.model_validate_json`. -/
  decode : Document → Except RaisedException (EvidenceReport Transcript)
  decode_encode : ∀ report, decode (encode report) = .ok report
  /-- `ExecutionContractLoader.load_bytes`. -/
  loadContract : List UInt8 → Except RaisedException Contract
  /-- The first of the contract's allowed test paths. -/
  firstTestPath : Contract → String
  /-- `CandidateTestDraft.model_validate_json`. -/
  decodeDraft : String → Option CandidateTestDraft
  /-- The length of a candidate request as JSON. -/
  requestChars : CandidateModelRequest Context → Nat
  /-- `CandidateTestValidator.validate`. -/
  validateCandidate : List String → Context → Contract → List String →
    CandidateTestProposal → Except CandidateValidationFailure ValidatedCandidate
  /-- `_repair_feedback` after a validated candidate was executed. -/
  executionFeedback : CandidateAttempt → ChallengeResult →
    Except RaisedException CandidateFeedback

attribute [instance] Platform.documentEq Platform.contractEq

variable (p : Platform)

/-- The reports of a platform. -/
abbrev Platform.Report : Type := EvidenceReport p.Transcript

/-- The digest by which the store checks documents. -/
def Platform.sha256Of (document : p.Document) : String := (p.documentSha256 document).text

/-- `report.sha256`. -/
def Platform.reportSha256 (report : p.Report) : Sha256 := p.documentSha256 (p.encode report)

/-- The payload that a report is published as. -/
def Platform.payload (report : p.Report) : GitHubCheckPayload :=
  formatGithubCheck (p.reportSha256 report) report

/-! ## Calls to the surroundings -/

/-- The pull request and the revisions that a call is about. -/
structure PullRequestRevisions where
  repository : RepositoryName
  prNumber : PositiveInt
  baseSha : GitSha
  headSha : GitSha
  deriving DecidableEq

def VerificationRun.revisions (run : VerificationRun) : PullRequestRevisions :=
  ⟨run.repository, run.prNumber, run.baseSha, run.headSha⟩

/-- The kinds of calls to the surroundings. -/
inductive ExternalKind where
  | createTemporaryDirectory
  | prepareRepository
  | preparePullRequest
  | removeTemporaryDirectory
  | readCommittedFile
  | committedPaths
  | retrieveContext
  | retrieveCallableSignatures
  | selectClaim
  | investigate
  | enterSession
  | leaveSession
  | prepareEnvironment
  | installedImportRoots
  | executeArtifact
  | challengeRemotely
  | invokeCandidateModel
  | assess
  | readClock
  | installationToken
  | listCheckRuns
  | updateCheckRun
  | createCheckRun
  deriving DecidableEq

/-- What a token provider answers with. -/
inductive TokenReply where
  | token (token : String)
  | retryable (message : String)
  | terminal (message : String)
  deriving DecidableEq

/-- What one HTTP request is answered with; a body that cannot be used is absent. -/
inductive HttpReply (Body : Type) where
  | unavailable
  | response (status : Nat) (body : Option Body)

/-- One listed Check: its external identifier and its identifier, when usable. -/
structure ListedCheck where
  externalId : Option String
  checkRunId : Option Int
  deriving DecidableEq

/-- What a call of each kind sends. -/
def ExternalKind.Request : ExternalKind → Type
  | .createTemporaryDirectory => Unit
  | .prepareRepository => PullRequestRevisions
  | .preparePullRequest => PullRequestRevisions
  | .removeTemporaryDirectory => Unit
  | .readCommittedFile => GitSha × String
  | .committedPaths => GitSha
  | .retrieveContext => GitSha × GitSha
  | .retrieveCallableSignatures => GitSha × p.Context × List (String × String)
  | .selectClaim => p.Context × PullRequestNarrative
  | .investigate => GitSha × GitSha × PullRequestNarrative × p.Context
  | .enterSession => GitSha × GitSha
  | .leaveSession => Unit
  | .prepareEnvironment => GitSha × GitSha
  | .installedImportRoots => Unit
  | .executeArtifact => RevisionRole × TestArtifact
  | .challengeRemotely => GitSha × GitSha × TestArtifact
  | .invokeCandidateModel => CandidateModelRequest p.Context
  | .assess => BehavioralClaim × String × ChallengeResult
  | .readClock => Unit
  | .installationToken => PositiveInt × RepositoryName
  | .listCheckRuns => RepositoryName × String
  | .updateCheckRun => RepositoryName × Int × GitHubCheckPayload
  | .createCheckRun => RepositoryName × GitHubCheckPayload

/-- What a call of each kind returns when it does not raise. -/
def ExternalKind.Result : ExternalKind → Type
  | .createTemporaryDirectory => Unit
  | .prepareRepository => Unit
  | .preparePullRequest => p.Contract
  | .removeTemporaryDirectory => Unit
  | .readCommittedFile => List UInt8
  | .committedPaths => List String
  | .retrieveContext => p.Context
  | .retrieveCallableSignatures => RepositorySignatureContext
  | .selectClaim => ClaimAgentResult
  | .investigate => ClaimAgentResult × p.Transcript
  | .enterSession => Unit
  | .leaveSession => Unit
  | .prepareEnvironment => EnvironmentReadiness
  | .installedImportRoots => List String
  | .executeArtifact => ExecutionResult
  | .challengeRemotely => ChallengeResult
  | .invokeCandidateModel => RawCandidateModelResponse
  | .assess => SemanticAssessmentResult
  | .readClock => Int
  | .installationToken => TokenReply
  | .listCheckRuns => HttpReply (List ListedCheck)
  | .updateCheckRun => HttpReply Int
  | .createCheckRun => HttpReply Int

/-- The semantic phase: the claim model, the claim investigator and the candidate
generator. -/
def ExternalKind.isSemantic : ExternalKind → Bool
  | .selectClaim | .investigate | .invokeCandidateModel => true
  | _ => false

/-! ## Calls, moments and activities -/

/-- A call of the service. -/
inductive ServiceCall where
  | store (call : StoreCall p.Document)
  | external (kind : ExternalKind) (request : kind.Request p)

/-- What a call is answered with. -/
abbrev ServiceCall.Reply : ServiceCall p → Type
  | .store call => Except StoreException call.Result
  | .external kind _ => Except SurroundingException (kind.Result p)

/-- What the surroundings contribute to one answer. -/
structure Moment where
  now : Int
  freshRunId : RunId
  answer : (kind : ExternalKind) → Except SurroundingException (kind.Result p)

def Moment.storeInput {p : Platform} (moment : Moment p) : StoreInput :=
  ⟨moment.now, moment.freshRunId⟩

/-- The run store, answering one call at a moment. -/
def service : SharedObject (ServiceCall.Reply p) (SqliteStore p.Document) (Moment p) where
  answer store moment
    | .store call => store.perform p.sha256Of moment.storeInput call
    | .external kind _ => (moment.answer kind, store)

/-- A routine of the service. -/
abbrev Activity (α : Type) : Type := Program (ServiceCall.Reply p) RaisedException α

section Activities

variable {p} {α : Type}

/-- Perform an operation of the store. -/
def perform (call : StoreCall p.Document) : Activity p call.Result :=
  .ask (.store call) fun
    | .ok result => .done (.ok result)
    | .error exception => .done (.error (.store exception))

/-- Call the surroundings. -/
def external (kind : ExternalKind) (request : kind.Request p) : Activity p (kind.Result p) :=
  .ask (.external kind request) fun
    | .ok result => .done (.ok result)
    | .error exception => .done (.error (.surrounding exception))

/-- Return or raise what a computation within the process came to. -/
def attempt (outcome : Except RaisedException α) : Activity p α := .done outcome

/-- Run a routine with a resource that is released however the routine ends; an
exception of the release replaces the routine's own end. -/
def releasing (body : Activity p α) (release : Activity p Unit) : Activity p α := do
  let value ← body.catching fun exception => do
    release
    Program.raise exception
  release
  return value

end Activities

/-! ## A sample platform -/

def sampleSha256 : Sha256 := ⟨String.ofList (List.replicate 64 '0'), isSha256_zeros⟩

def sampleUsage : ModelUsage := .single

/-- The report of an abstention, for evaluating the definitions. -/
def sampleReport (runId : RunId) (createdAt : Int) : EvidenceReport Unit where
  runId := runId
  repository := ⟨"octo/service", isRepositoryName_octo⟩
  prNumber := ⟨7, seven_positive⟩
  baseSha := sampleSha '0' isLowerHex_zero
  headSha := sampleSha 'a' isLowerHex_a
  claimDisposition := .insufficientEvidence
  claim := none
  claimUsage := sampleUsage
  claimResponseSha256 := sampleSha256
  environmentReadiness := none
  investigationTranscript := none
  candidateAttempts := ⟨[], by decide⟩
  candidateEvaluations := ⟨[], by decide⟩
  selectedArtifactSha256 := none
  baseExecution := none
  headExecution := none
  mechanicalStatus := .invalidTest
  differentialPattern := .notComparable
  mechanicalReason := ⟨"nothing was executed", by decide⟩
  semanticAssessment := none
  claimOutcome := .insufficientEvidence
  conclusion := ⟨"PatchProof abstained.", abstained_bounded⟩
  createdAt := createdAt
  executionsPaired := rfl
  discriminatingComplete := fun absurdity => by cases absurdity
  abstentionInsufficient := fun _ => rfl

/-- A platform whose documents are the reports themselves. -/
def samplePlatform : Platform where
  Document := EvidenceReport Unit
  Context := Unit
  Contract := Unit
  Transcript := Unit
  digest _ := sampleSha256
  documentSha256 _ := sampleSha256
  payloadSha256 _ := sampleSha256
  encode report := report
  decode report := .ok report
  decode_encode _ := rfl
  loadContract _ := .ok ()
  firstTestPath _ := "tests"
  decodeDraft _ := none
  requestChars _ := 0
  validateCandidate _ _ _ _ _ := .error (.issues [])
  executionFeedback _ _ := .error .assertion

end PatchProof
