import Mathlib.Data.Rat.Defs
import PatchProof.Text

/-!
# Domain models of one BASE/HEAD comparison

The facts a comparison of two revisions is made of: the revision roles, the
candidate artifact, what one execution reports, and the vocabulary in which a
pair of executions is classified.  Every enumeration keeps the text by which the
source prints it, because messages are built from those texts.

Constructor checks of the source are proof fields, so an execution result with a
malformed hash or a negative duration is not a value of the type.  Durations
are exact rationals; nothing computes with them.
-/

set_option autoImplicit false

namespace PatchProof

/-! ## Vocabulary -/

/-- The counterfactual role played by an immutable Git revision. -/
inductive RevisionRole where
  | base
  | head
  deriving DecidableEq

def RevisionRole.value : RevisionRole → String
  | .base => "BASE"
  | .head => "HEAD"

/-- Mechanically observed result for one selected pytest node. -/
inductive TestExecutionStatus where
  | passed
  | assertionFailed
  | testError
  | collectionError
  | notCollected
  | multipleTestsCollected
  | skipped
  | xfailed
  | xpassed
  | invalidArtifact
  | timedOut
  | environmentSetupFailed
  | processError
  deriving DecidableEq

def TestExecutionStatus.value : TestExecutionStatus → String
  | .passed => "PASSED"
  | .assertionFailed => "ASSERTION_FAILED"
  | .testError => "TEST_ERROR"
  | .collectionError => "COLLECTION_ERROR"
  | .notCollected => "NOT_COLLECTED"
  | .multipleTestsCollected => "MULTIPLE_TESTS_COLLECTED"
  | .skipped => "SKIPPED"
  | .xfailed => "XFAILED"
  | .xpassed => "XPASSED"
  | .invalidArtifact => "INVALID_ARTIFACT"
  | .timedOut => "TIMED_OUT"
  | .environmentSetupFailed => "ENVIRONMENT_SETUP_FAILED"
  | .processError => "PROCESS_ERROR"

/-- Evidence status derived only from execution facts. -/
inductive MechanicalEvidenceStatus where
  | discriminating
  | nonDiscriminating
  | invalidTest
  | environmental
  | uncaughtExceptionOnOneRevision
  | counterfactualNotApplicable
  deriving DecidableEq

def MechanicalEvidenceStatus.value : MechanicalEvidenceStatus → String
  | .discriminating => "DISCRIMINATING"
  | .nonDiscriminating => "NON_DISCRIMINATING"
  | .invalidTest => "INVALID_TEST"
  | .environmental => "ENVIRONMENTAL"
  | .uncaughtExceptionOnOneRevision => "UNCAUGHT_EXCEPTION_ON_ONE_REVISION"
  | .counterfactualNotApplicable => "COUNTERFACTUAL_NOT_APPLICABLE"

/-- The comparable BASE/HEAD outcome pattern, when one exists. -/
inductive DifferentialPattern where
  | baseAssertionFailedHeadPassed
  | basePassedHeadAssertionFailed
  | bothPassed
  | bothAssertionFailed
  | notComparable
  deriving DecidableEq

def DifferentialPattern.value : DifferentialPattern → String
  | .baseAssertionFailedHeadPassed => "BASE_ASSERTION_FAILED_HEAD_PASSED"
  | .basePassedHeadAssertionFailed => "BASE_PASSED_HEAD_ASSERTION_FAILED"
  | .bothPassed => "BOTH_PASSED"
  | .bothAssertionFailed => "BOTH_ASSERTION_FAILED"
  | .notComparable => "NOT_COMPARABLE"

/-- The semantic conclusion of a run. -/
inductive ClaimOutcome where
  | claimSupportedForScenario
  | claimNotSupportedForScenario
  | potentialRegression
  | insufficientEvidence
  deriving DecidableEq

/-- Deterministic readiness of the immutable BASE/HEAD repository environments. -/
inductive EnvironmentReadinessStatus where
  | ready
  | baseSetupFailed
  | headSetupFailed
  deriving DecidableEq

/-! ## Values -/

/-- A resolved immutable Git commit used in a verification challenge. -/
structure Revision where
  role : RevisionRole
  sha : GitSha
  deriving DecidableEq

/-- The segments of a path, split at each slash. -/
def pathSegments : List Char → List (List Char)
  | [] => [[]]
  | c :: rest =>
      if c = '/' then [] :: pathSegments rest
      else match pathSegments rest with
        | segment :: more => (c :: segment) :: more
        | [] => [[c]]

/-- A normalized relative POSIX path to a Python file: no backslash or NUL, no
empty, `.` or `..` segment, and a last segment with a stem before `.py`. -/
def isArtifactPath (path : String) : Bool :=
  path.toList.all (fun c => c != '\\' && c != '\x00') &&
    (pathSegments path.toList).all (fun segment =>
      !segment.isEmpty && segment != ['.'] && segment != ['.', '.']) &&
    match (pathSegments path.toList).getLast? with
    | some name => 3 < name.length && name.drop (name.length - 3) == ['.', 'p', 'y']
    | none => false

/-- A node identifier selects something inside the artifact path and holds no
control character that would end the argument. -/
def isNodeIdOf (path nodeId : String) : Bool :=
  (path.toList ++ [':', ':']).isPrefixOf nodeId.toList &&
    (path.toList ++ [':', ':']).length < nodeId.toList.length &&
    nodeId.toList.all fun c => c != '\x00' && c != '\n' && c != '\r'

/-- Immutable candidate-test content and the single pytest node it selects. -/
structure TestArtifact where
  relativePath : String
  nodeId : String
  content : String
  wellFormed : content ≠ "" ∧ isArtifactPath relativePath = true ∧
    isNodeIdOf relativePath nodeId = true
  deriving DecidableEq

/-- Result of validating repository-declared setup before candidate generation. -/
structure EnvironmentReadiness where
  status : EnvironmentReadinessStatus
  reason : String
  deriving DecidableEq

def EnvironmentReadiness.ready (readiness : EnvironmentReadiness) : Bool :=
  readiness.status == .ready

/-- A nonnegative number of seconds. -/
structure Duration where
  seconds : ℚ
  nonnegative : 0 ≤ seconds
  deriving DecidableEq

theorem Duration.one_nonnegative : (0 : ℚ) ≤ 1 := by
  decide

/-- Bounded facts captured from one revision's candidate-test execution. -/
structure ExecutionResult where
  revision : Revision
  testNodeId : String
  expectedArtifactSha256 : Sha256
  artifactSha256Before : Option Sha256
  artifactSha256After : Option Sha256
  status : TestExecutionStatus
  collectedCount : Nat
  exitCode : Option Int
  durationSeconds : Duration
  stdout : String := ""
  stderr : String := ""
  detail : Option String := none
  deriving DecidableEq

/-- Whether the expected bytes existed before and after pytest execution. -/
def ExecutionResult.artifactWasUnchanged (result : ExecutionResult) : Bool :=
  result.artifactSha256Before == some result.expectedArtifactSha256 &&
    result.artifactSha256After == some result.expectedArtifactSha256

/-- Mechanical classification kept separate from the semantic outcome. -/
structure EvidenceAssessment where
  mechanicalStatus : MechanicalEvidenceStatus
  pattern : DifferentialPattern
  reason : String
  deriving DecidableEq

/-- The result of challenging one artifact on BASE and HEAD. -/
structure ChallengeResult where
  artifact : TestArtifact
  base : ExecutionResult
  head : ExecutionResult
  assessment : EvidenceAssessment
  baseRole : base.revision.role = .base
  headRole : head.revision.role = .head
  deriving DecidableEq

end PatchProof
