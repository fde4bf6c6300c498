import PatchProof.Library.Guard
import PatchProof.Worker.Exceptions

/-!
# Mechanical classification of paired executions

The classifier looks at two execution results and nothing else.  It checks, in
order, the declared identity of the executions, whether either is not an ordinary
collected test, a one-sided escaping exception, an environmental status, and
whether the artifact bytes were intact; only then are the two outcomes compared.

The two status tables together leave out exactly the comparable statuses, so the
guard by which the source refuses any further status never fires and has no branch
here.

`assess_discriminates` says what a discriminating classification establishes.
The roles of the two executions are checked where the challenge result is built.
-/

set_option autoImplicit false

namespace PatchProof

/-! ## Status tables -/

def invalidTestStatuses : List TestExecutionStatus :=
  [.invalidArtifact, .notCollected, .multipleTestsCollected, .skipped, .xfailed, .xpassed]

def environmentalStatuses : List TestExecutionStatus :=
  [.collectionError, .testError, .timedOut, .environmentSetupFailed, .processError]

def ordinaryStatuses : List TestExecutionStatus := [.passed, .assertionFailed]

/-- Every status is in one of the tables. -/
theorem ordinary_of_neither {status : TestExecutionStatus}
    (valid : status ∉ invalidTestStatuses) (settled : status ∉ environmentalStatuses) :
    status = .passed ∨ status = .assertionFailed := by
  cases status <;> simp_all [invalidTestStatuses, environmentalStatuses]

namespace MechanicalEvidenceClassifier

variable (digest : String → Sha256)

/-! ## The checks -/

/-- `_declared_identity_problem`. -/
def declaredIdentityProblem (artifact : TestArtifact) (base head : ExecutionResult) :
    Option String :=
  if base.testNodeId ≠ artifact.nodeId ∨ head.testNodeId ≠ artifact.nodeId then
    some "BASE and HEAD did not use the artifact's identical pytest node ID"
  else if base.expectedArtifactSha256 ≠ digest artifact.content ∨
      head.expectedArtifactSha256 ≠ digest artifact.content then
    some "BASE and HEAD did not declare the same expected artifact hash"
  else none

/-- `_is_one_sided_uncaught_exception`. -/
def isOneSidedUncaughtException (base head : ExecutionResult) : Bool :=
  (base.status = .testError ∧ head.status ∈ ordinaryStatuses) ∨
    (head.status = .testError ∧ base.status ∈ ordinaryStatuses)

/-- `_artifact_integrity_problem`. -/
def artifactIntegrityProblem (base head : ExecutionResult) : Option String :=
  if !base.artifactWasUnchanged || !head.artifactWasUnchanged then
    some "candidate bytes were missing, mismatched, or changed during execution"
  else none

/-- `BASE=…, HEAD=…`. -/
def statusPair (base head : ExecutionResult) : String :=
  "BASE=" ++ base.status.value ++ ", HEAD=" ++ head.status.value

/-- The comparison of two ordinary outcomes on intact bytes. -/
def compareOutcomes (base head : ExecutionResult) : EvidenceAssessment :=
  if base.status = .passed ∧ head.status = .passed then
    ⟨.nonDiscriminating, .bothPassed, "the identical selected test passed on both BASE and HEAD"⟩
  else if base.status = .assertionFailed ∧ head.status = .assertionFailed then
    ⟨.nonDiscriminating, .bothAssertionFailed,
      "the identical selected test asserted unsuccessfully on both revisions"⟩
  else if base.status = .assertionFailed ∧ head.status = .passed then
    ⟨.discriminating, .baseAssertionFailedHeadPassed,
      "the identical selected test assertion failed on BASE and passed on HEAD; " ++
      "semantic claim support has not been assessed"⟩
  else
    ⟨.discriminating, .basePassedHeadAssertionFailed,
      "the identical selected test passed on BASE and asserted unsuccessfully on HEAD; " ++
      "semantic regression relevance has not been assessed"⟩

/-- `MechanicalEvidenceClassifier.classify` of a pair whose roles are right. -/
def assess (artifact : TestArtifact) (base head : ExecutionResult) : EvidenceAssessment :=
  match declaredIdentityProblem digest artifact base head with
  | some problem => ⟨.invalidTest, .notComparable, problem⟩
  | none =>
      if base.status ∈ invalidTestStatuses ∨ head.status ∈ invalidTestStatuses then
        ⟨.invalidTest, .notComparable,
          "candidate did not execute as one ordinary collected test on both revisions: " ++
          statusPair base head⟩
      else if isOneSidedUncaughtException base head then
        ⟨.uncaughtExceptionOnOneRevision, .notComparable,
          "exactly one revision let an exception escape the generated test while " ++
          "the other produced an ordinary outcome: " ++ statusPair base head ++
          "; an escaping exception is not assertion evidence"⟩
      else if base.status ∈ environmentalStatuses ∨ head.status ∈ environmentalStatuses then
        ⟨.environmental, .notComparable,
          "execution environments did not produce comparable assertion outcomes: " ++
          statusPair base head⟩
      else match artifactIntegrityProblem base head with
        | some problem => ⟨.invalidTest, .notComparable, problem⟩
        | none => compareOutcomes base head

/-- The challenge result of two executions of one artifact. -/
def challenge (artifact : TestArtifact) (base head : ExecutionResult) :
    Except RaisedException ChallengeResult :=
  if roles : base.revision.role = .base ∧ head.revision.role = .head then
    .ok ⟨artifact, base, head, assess digest artifact base head, roles.1, roles.2⟩
  else .error (.value "evidence classification requires BASE and HEAD execution roles")

/-! ## What a discriminating classification establishes -/

/-- One execution ran the artifact: its node, and its bytes before and after. -/
structure RanArtifact (artifact : TestArtifact) (result : ExecutionResult) : Prop where
  node : result.testNodeId = artifact.nodeId
  expected : result.expectedArtifactSha256 = digest artifact.content
  before : result.artifactSha256Before = some (digest artifact.content)
  after : result.artifactSha256After = some (digest artifact.content)

/-- The comparable patterns and the outcomes they stand for. -/
inductive Contrast : DifferentialPattern → TestExecutionStatus → TestExecutionStatus → Prop
  | supports : Contrast .baseAssertionFailedHeadPassed .assertionFailed .passed
  | contradicts : Contrast .basePassedHeadAssertionFailed .passed .assertionFailed

variable {digest} {artifact : TestArtifact} {base head : ExecutionResult}

theorem declaredIdentityProblem_eq_none
    (sound : declaredIdentityProblem digest artifact base head = none) :
    (base.testNodeId = artifact.nodeId ∧ head.testNodeId = artifact.nodeId) ∧
      base.expectedArtifactSha256 = digest artifact.content ∧
      head.expectedArtifactSha256 = digest artifact.content := by
  unfold declaredIdentityProblem at sound
  split at sound
  · cases sound
  · rename_i nodes
    split at sound
    · cases sound
    · rename_i hashes
      exact ⟨by simpa [not_or] using nodes, by simpa [not_or] using hashes⟩

theorem artifactIntegrityProblem_eq_none
    (sound : artifactIntegrityProblem base head = none) :
    base.artifactWasUnchanged = true ∧ head.artifactWasUnchanged = true := by
  unfold artifactIntegrityProblem at sound
  split at sound
  · cases sound
  · rename_i intact
    simpa using intact

theorem ranArtifact_of_unchanged {result : ExecutionResult}
    (node : result.testNodeId = artifact.nodeId)
    (expected : result.expectedArtifactSha256 = digest artifact.content)
    (unchanged : result.artifactWasUnchanged = true) : RanArtifact digest artifact result := by
  simp only [ExecutionResult.artifactWasUnchanged, Bool.and_eq_true, beq_iff_eq] at unchanged
  exact ⟨node, expected, unchanged.1.trans (congrArg some expected),
    unchanged.2.trans (congrArg some expected)⟩

theorem compareOutcomes_discriminates
    (baseOrdinary : base.status = .passed ∨ base.status = .assertionFailed)
    (headOrdinary : head.status = .passed ∨ head.status = .assertionFailed)
    (discriminates : (compareOutcomes base head).mechanicalStatus = .discriminating) :
    Contrast (compareOutcomes base head).pattern base.status head.status := by
  rcases baseOrdinary with baseIs | baseIs <;> rcases headOrdinary with headIs | headIs
  · simp [compareOutcomes, baseIs, headIs] at discriminates
  · simpa [compareOutcomes, baseIs, headIs] using Contrast.contradicts
  · simpa [compareOutcomes, baseIs, headIs] using Contrast.supports
  · simp [compareOutcomes, baseIs, headIs] at discriminates

/-- **A discriminating pair ran the same bytes at the same node with opposite
outcomes.** -/
theorem assess_discriminates
    (discriminates : (assess digest artifact base head).mechanicalStatus = .discriminating) :
    RanArtifact digest artifact base ∧ RanArtifact digest artifact head ∧
      Contrast (assess digest artifact base head).pattern base.status head.status := by
  unfold assess at discriminates ⊢
  split at discriminates
  · cases discriminates
  · rename_i sound
    split at discriminates
    · cases discriminates
    · rename_i valid
      split at discriminates
      · cases discriminates
      · rename_i bothSided
        split at discriminates
        · cases discriminates
        · rename_i comparable
          split at discriminates
          · cases discriminates
          · rename_i intact
            simp only [if_neg valid, if_neg bothSided, if_neg comparable]
            rw [not_or] at valid comparable
            obtain ⟨nodes, hashes⟩ := declaredIdentityProblem_eq_none sound
            obtain ⟨baseIntact, headIntact⟩ := artifactIntegrityProblem_eq_none intact
            exact ⟨ranArtifact_of_unchanged nodes.1 hashes.1 baseIntact,
              ranArtifact_of_unchanged nodes.2 hashes.2 headIntact,
              compareOutcomes_discriminates (ordinary_of_neither valid.1 comparable.1)
                (ordinary_of_neither valid.2 comparable.2) discriminates⟩

theorem challenge_eq_ok_iff {result : ChallengeResult} :
    challenge digest artifact base head = .ok result ↔
      result.artifact = artifact ∧ result.base = base ∧ result.head = head ∧
        result.assessment = assess digest artifact base head := by
  unfold challenge
  split
  · constructor
    · intro same
      cases same
      exact ⟨rfl, rfl, rfl, rfl⟩
    · intro ⟨sameArtifact, sameBase, sameHead, sameAssessment⟩
      subst sameArtifact sameBase sameHead
      simp only [← sameAssessment]
  · rename_i roles
    constructor
    · intro absurdity
      cases absurdity
    · intro ⟨_, sameBase, sameHead, _⟩
      have right : base.revision.role = .base ∧ head.revision.role = .head :=
        ⟨sameBase ▸ result.baseRole, sameHead ▸ result.headRole⟩
      exact absurd right roles

end MechanicalEvidenceClassifier

end PatchProof
