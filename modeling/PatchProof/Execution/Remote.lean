import PatchProof.Evidence.Classifier
import PatchProof.Execution.Challenge

/-!
# The remote challenge

The control plane sends one candidate to the private executor and takes the challenge
result from its answer.  The executor runs the candidate and classifies the executions;
the answer carries its classification, and the control plane does not repeat it.

What comes back is checked to be a challenge result at all: a well-formed artifact under
its own hash, executions of the two roles, and the bytes that were sent.  An executor that
answers with the result of its local challenge is therefore believed to the letter
(`remote_run_refines_local`), and so is one that answers with other revisions, another
node or another verdict.

The wire library and the transport are parameters.
-/

set_option autoImplicit false

namespace PatchProof

/-! ## Documents -/

/-- JSON-safe execution facts returned without credentials or repository state. -/
structure ExecutionResultDocument where
  role : RevisionRole
  revisionSha : String
  testNodeId : String
  expectedArtifactSha256 : String
  artifactSha256Before : Option String
  artifactSha256After : Option String
  status : TestExecutionStatus
  collectedCount : Int
  exitCode : Option Int
  durationSeconds : ℚ
  stdout : String
  stderr : String
  detail : Option String
  deriving DecidableEq

/-- Complete paired result produced inside one ephemeral executor instance. -/
structure ExecutorChallengeResponse where
  artifactPath : String
  nodeId : String
  artifactSource : String
  artifactSha256 : String
  base : ExecutionResultDocument
  head : ExecutionResultDocument
  mechanicalStatus : MechanicalEvidenceStatus
  differentialPattern : DifferentialPattern
  mechanicalReason : String
  deriving DecidableEq

/-! ## Checked values -/

/-- `Revision`. -/
def Revision.check (role : RevisionRole) (sha : String) : Except RaisedException Revision :=
  if wellFormed : isGitSha (lower sha) = true then .ok ⟨role, ⟨lower sha, wellFormed⟩⟩
  else .error (.value "revision SHA must be a full 40- or 64-character hexadecimal hash")

/-- `TestArtifact.from_text`. -/
def TestArtifact.fromText (relativePath nodeId content : String) :
    Except RaisedException TestArtifact :=
  if notEmpty : content ≠ "" then
    if relativePath.toList.any fun c => c == '\\' || c == '\x00' then
      .error (.value "test artifact path must be a safe POSIX-style relative path")
    else if path : isArtifactPath relativePath = true then
      if nodeId.toList.any fun c => c == '\x00' || c == '\n' || c == '\r' then
        .error (.value "pytest node ID contains an invalid control character")
      else if node : isNodeIdOf relativePath nodeId = true then
        .ok ⟨relativePath, nodeId, content, notEmpty, path, node⟩
      else .error (.value "pytest node ID must select a test inside the artifact path")
    else .error (.value "test artifact path must be a normalized relative Python path")
  else .error (.value "test artifact content must not be empty")

/-- A hash that an execution states. -/
def Sha256.check (message text : String) : Except RaisedException Sha256 :=
  if wellFormed : isSha256 text = true then .ok ⟨text, wellFormed⟩ else .error (.value message)

/-- A hash that may be absent. -/
def Sha256.checkObserved : Option String → Except RaisedException (Option Sha256)
  | none => .ok none
  | some text => do
      return some (← Sha256.check "observed artifact hash must be a lowercase SHA-256 value" text)

/-- A number of collected tests. -/
def checkCount (count : Int) : Except RaisedException Nat :=
  if count < 0 then .error (.value "collected test count cannot be negative") else .ok count.toNat

def Duration.check (seconds : ℚ) : Except RaisedException Duration :=
  if nonnegative : 0 ≤ seconds then .ok ⟨seconds, nonnegative⟩
  else .error (.value "execution duration cannot be negative")

namespace ExecutionResultDocument

/-- `from_domain`. -/
def fromDomain (result : ExecutionResult) : ExecutionResultDocument where
  role := result.revision.role
  revisionSha := result.revision.sha.text
  testNodeId := result.testNodeId
  expectedArtifactSha256 := result.expectedArtifactSha256.text
  artifactSha256Before := result.artifactSha256Before.map Sha256.text
  artifactSha256After := result.artifactSha256After.map Sha256.text
  status := result.status
  collectedCount := result.collectedCount
  exitCode := result.exitCode
  durationSeconds := result.durationSeconds.seconds
  stdout := result.stdout
  stderr := result.stderr
  detail := result.detail

/-- `to_domain`. -/
def toDomain (document : ExecutionResultDocument) : Except RaisedException ExecutionResult := do
  let revision ← Revision.check document.role document.revisionSha
  let expected ← Sha256.check "expected artifact hash must be a lowercase SHA-256 value"
    document.expectedArtifactSha256
  let before ← Sha256.checkObserved document.artifactSha256Before
  let after ← Sha256.checkObserved document.artifactSha256After
  let collectedCount ← checkCount document.collectedCount
  let durationSeconds ← Duration.check document.durationSeconds
  return {
    revision := revision
    testNodeId := document.testNodeId
    expectedArtifactSha256 := expected
    artifactSha256Before := before
    artifactSha256After := after
    status := document.status
    collectedCount := collectedCount
    exitCode := document.exitCode
    durationSeconds := durationSeconds
    stdout := document.stdout
    stderr := document.stderr
    detail := document.detail }

end ExecutionResultDocument

namespace ExecutorChallengeResponse

variable (digest : String → Sha256)

/-- `from_domain`. -/
def fromDomain (result : ChallengeResult) : ExecutorChallengeResponse where
  artifactPath := result.artifact.relativePath
  nodeId := result.artifact.nodeId
  artifactSource := result.artifact.content
  artifactSha256 := (digest result.artifact.content).text
  base := .fromDomain result.base
  head := .fromDomain result.head
  mechanicalStatus := result.assessment.mechanicalStatus
  differentialPattern := result.assessment.pattern
  mechanicalReason := result.assessment.reason

/-- `to_domain`. -/
def toDomain (document : ExecutorChallengeResponse) : Except RaisedException ChallengeResult := do
  let artifact ← TestArtifact.fromText document.artifactPath document.nodeId
    document.artifactSource
  Guard.require ((digest artifact.content).text = document.artifactSha256)
    (.value "executor response artifact hash is inconsistent")
  let base ← document.base.toDomain
  let head ← document.head.toDomain
  if baseRole : base.revision.role = .base then
    if headRole : head.revision.role = .head then
      return {
        artifact := artifact
        base := base
        head := head
        assessment := ⟨document.mechanicalStatus, document.differentialPattern,
          document.mechanicalReason⟩
        baseRole := baseRole
        headRole := headRole }
    else .error (.value "head execution must use the HEAD revision role")
  else .error (.value "base execution must use the BASE revision role")

end ExecutorChallengeResponse

/-! ## The request -/

/-- Bounded candidate data crossing from the credentialed control plane. -/
structure ExecutorChallengeRequest (isWord : Char → Bool) extends
    ExecutorEnvironmentRequest isWord where
  artifactPath : BoundedText 1 300
  nodeId : BoundedText 1 500
  artifactSource : BoundedText 1 16000
  artifactSha256 : Sha256

/-- What comes back from the executor. -/
inductive ExecutorAnswer (Body : Type) where
  | unavailable
  | raised (exception : SurroundingException)
  | answered (status : Nat) (body : Body)

/-- How documents are printed and validated on the wire. -/
structure ExecutorWire (Body : Type) where
  modelDumpJson : ExecutorChallengeResponse → Body
  modelValidateJson : Body → Option ExecutorChallengeResponse
  validate_dump : ∀ document, modelValidateJson (modelDumpJson document) = some document

/-- The adapter for the credentialless private executor. -/
structure RemoteBaseHeadChallenge (isWord : Char → Bool) (Body : Type) where
  repository : RepositoryName
  pullRequestNumber : PositiveInt
  contract : ExecutionContract isWord
  contractOrigin : ExecutionContractOrigin := .repository
  repositoryPythonPaths : List String := []
  post : ExecutorChallengeRequest isWord → ExecutorAnswer Body
  wire : ExecutorWire Body

namespace RemoteBaseHeadChallenge

variable {isWord : Char → Bool} {Body : Type} (digest : String → Sha256)
  (remote : RemoteBaseHeadChallenge isWord Body)

/-- The request for one candidate, when it validates. -/
def request (baseRef headRef : GitSha) (artifact : TestArtifact) :
    Except RaisedException (ExecutorChallengeRequest isWord) :=
  if checks : (1 ≤ artifact.relativePath.length ∧ artifact.relativePath.length ≤ 300) ∧
      (1 ≤ artifact.nodeId.length ∧ artifact.nodeId.length ≤ 500) ∧
      1 ≤ artifact.content.length ∧ artifact.content.length ≤ 16000 then
    .ok {
      repository := remote.repository
      pullRequestNumber := remote.pullRequestNumber
      baseSha := baseRef
      headSha := headRef
      contract := remote.contract
      contractOrigin := remote.contractOrigin
      repositoryPythonPaths := remote.repositoryPythonPaths
      artifactPath := ⟨artifact.relativePath, checks.1⟩
      nodeId := ⟨artifact.nodeId, checks.2.1⟩
      artifactSource := ⟨artifact.content, checks.2.2⟩
      artifactSha256 := digest artifact.content }
  else .error (.value "executor challenge request does not validate")

/-- The result of an answer. -/
def accept (artifact : TestArtifact) (status : Nat) (body : Body) :
    Except RaisedException ChallengeResult :=
  if 200 ≤ status ∧ status < 300 then
    match remote.wire.modelValidateJson body with
    | none => .error (.value "executor challenge response does not validate")
    | some document => do
        let result ← document.toDomain digest
        Guard.require (digest result.artifact.content = digest artifact.content)
          (.runtime "private executor returned a different artifact")
        return result
  else .error (.runtime ("private executor returned HTTP " ++ toString status))

/-- `run`. -/
def run (baseRef headRef : GitSha) (artifact : TestArtifact) :
    Except RaisedException ChallengeResult := do
  let request ← remote.request digest baseRef headRef artifact
  match remote.post request with
  | .unavailable => .error (.runtime "private executor is temporarily unavailable")
  | .raised exception => .error (.surrounding exception)
  | .answered status body => remote.accept digest artifact status body

end RemoteBaseHeadChallenge

/-! ## Documents of domain values -/

theorem isRepositoryChar_of_isLowerHex {c : Char} (hex : isLowerHex c = true) :
    isRepositoryChar c = true := by
  simp only [isLowerHex, Bool.or_eq_true, Bool.and_eq_true, decide_eq_true_eq] at hex
  simp only [isRepositoryChar, Bool.or_eq_true, Bool.and_eq_true, decide_eq_true_eq]
  rcases hex with digit | ⟨low, high⟩
  · exact .inl (.inl (.inl (.inr digit)))
  · exact .inl (.inl (.inl (.inl ⟨low, Char.le_trans high (by decide)⟩)))

theorem lower_gitSha (sha : GitSha) : lower sha.text = sha.text := by
  have hex := sha.wellFormed
  simp only [isGitSha, Bool.and_eq_true, List.all_eq_true] at hex
  have unchanged : sha.text.toList.map lowerChar = sha.text.toList := by
    rw [List.map_congr_left fun c mem => lowerChar_of_isRepositoryChar
      (isRepositoryChar_of_isLowerHex (hex.2 c mem))]
    exact List.map_id' _
  rw [lower, unchanged, String.ofList_toList]

theorem Revision.check_text (role : RevisionRole) (sha : GitSha) :
    Revision.check role sha.text = .ok ⟨role, sha⟩ := by
  have wellFormed : isGitSha (lower sha.text) = true := by
    rw [lower_gitSha]
    exact sha.wellFormed
  rw [Revision.check, dif_pos wellFormed]
  simp only [lower_gitSha]

theorem Revision.eq_of_check {role : RevisionRole} {sha : String} {revision : Revision}
    (checked : Revision.check role sha = .ok revision) :
    revision.role = role ∧ revision.sha.text = lower sha := by
  unfold check at checked
  split at checked
  · cases checked
    exact ⟨rfl, rfl⟩
  · cases checked

theorem Revision.check_lower (role : RevisionRole) (sha : String) :
    Revision.check role (lower sha) = Revision.check role sha := by
  simp only [check, lower_idem]

theorem Sha256.check_text (message : String) (hash : Sha256) :
    Sha256.check message hash.text = .ok hash :=
  dif_pos hash.wellFormed

theorem Sha256.eq_of_check {message text : String} {hash : Sha256}
    (checked : Sha256.check message text = .ok hash) : hash.text = text := by
  unfold check at checked
  split at checked
  · cases checked
    rfl
  · cases checked

theorem Sha256.checkObserved_text (observed : Option Sha256) :
    Sha256.checkObserved (observed.map Sha256.text) = .ok observed := by
  cases observed with
  | none => rfl
  | some hash =>
      rw [Option.map_some, checkObserved, Sha256.check_text]
      rfl

theorem Sha256.eq_of_checkObserved {text : Option String} {observed : Option Sha256}
    (checked : Sha256.checkObserved text = .ok observed) : observed.map Sha256.text = text := by
  cases text with
  | none =>
      cases checked
      rfl
  | some text =>
      obtain ⟨hash, checks, returned⟩ := Guard.bind_eq_ok_iff.mp checked
      cases returned
      rw [Option.map_some, Sha256.eq_of_check checks]

theorem checkCount_natCast (count : Nat) : checkCount count = .ok count := by
  unfold checkCount
  rw [if_neg (by omega)]
  rfl

theorem eq_of_checkCount {count : Int} {checked : Nat} (checks : checkCount count = .ok checked) :
    (checked : Int) = count := by
  unfold checkCount at checks
  split at checks
  · cases checks
  · cases checks
    omega

theorem Duration.check_seconds (duration : Duration) :
    Duration.check duration.seconds = .ok duration :=
  dif_pos duration.nonnegative

theorem Duration.eq_of_check {seconds : ℚ} {duration : Duration}
    (checks : Duration.check seconds = .ok duration) : duration.seconds = seconds := by
  unfold check at checks
  split at checks
  · cases checks
    rfl
  · cases checks

theorem TestArtifact.fromText_self (artifact : TestArtifact) :
    TestArtifact.fromText artifact.relativePath artifact.nodeId artifact.content =
      .ok artifact := by
  obtain ⟨notEmpty, path, node⟩ := artifact.wellFormed
  have safePath : (artifact.relativePath.toList.any fun c => c == '\\' || c == '\x00') = false := by
    simp only [isArtifactPath, Bool.and_eq_true, List.all_eq_true] at path
    rw [List.any_eq_false]
    intro c mem
    have safe := path.1.1 c mem
    simpa using safe
  have safeNode : (artifact.nodeId.toList.any fun c => c == '\x00' || c == '\n' || c == '\r') =
      false := by
    simp only [isNodeIdOf, Bool.and_eq_true, List.all_eq_true] at node
    rw [List.any_eq_false]
    intro c mem
    have safe := node.2 c mem
    simpa [and_assoc] using safe
  simp [fromText, notEmpty, safePath, path, safeNode, node]

theorem TestArtifact.eq_of_fromText {path node content : String} {artifact : TestArtifact}
    (checked : TestArtifact.fromText path node content = .ok artifact) :
    artifact.relativePath = path ∧ artifact.nodeId = node ∧ artifact.content = content := by
  unfold fromText at checked
  split at checked
  · split at checked
    · cases checked
    · split at checked
      · split at checked
        · cases checked
        · split at checked
          · cases checked
            exact ⟨rfl, rfl, rfl⟩
          · cases checked
      · cases checked
  · cases checked

namespace ExecutionResultDocument

/-- The document with its commit name in lower case. -/
def normalized (document : ExecutionResultDocument) : ExecutionResultDocument :=
  { document with revisionSha := lower document.revisionSha }

theorem toDomain_normalized (document : ExecutionResultDocument) :
    document.normalized.toDomain = document.toDomain := by
  simp only [toDomain, normalized, Revision.check_lower]

/-- The document of a result is read as this result. -/
theorem toDomain_fromDomain (result : ExecutionResult) :
    (fromDomain result).toDomain = .ok result := by
  simp only [toDomain, fromDomain, Revision.check_text, Sha256.check_text,
    Sha256.checkObserved_text, checkCount_natCast, Duration.check_seconds, Guard.ok_bind]
  rfl

/-- A result is spelled by the document that it was read from. -/
theorem fromDomain_of_toDomain {document : ExecutionResultDocument} {result : ExecutionResult}
    (read : document.toDomain = .ok result) : fromDomain result = document.normalized := by
  obtain ⟨revision, isRevision, read⟩ := Guard.bind_eq_ok_iff.mp read
  obtain ⟨expected, isExpected, read⟩ := Guard.bind_eq_ok_iff.mp read
  obtain ⟨before, isBefore, read⟩ := Guard.bind_eq_ok_iff.mp read
  obtain ⟨after, isAfter, read⟩ := Guard.bind_eq_ok_iff.mp read
  obtain ⟨count, isCount, read⟩ := Guard.bind_eq_ok_iff.mp read
  obtain ⟨duration, isDuration, read⟩ := Guard.bind_eq_ok_iff.mp read
  obtain ⟨sameRole, sameSha⟩ := Revision.eq_of_check isRevision
  cases read
  simp only [fromDomain, normalized, sameRole, sameSha, Sha256.eq_of_check isExpected,
    Sha256.eq_of_checkObserved isBefore, Sha256.eq_of_checkObserved isAfter,
    eq_of_checkCount isCount, Duration.eq_of_check isDuration]

end ExecutionResultDocument

namespace ExecutorChallengeResponse

variable {digest : String → Sha256}

/-- The response with its commit names in lower case. -/
def normalized (document : ExecutorChallengeResponse) : ExecutorChallengeResponse :=
  { document with base := document.base.normalized, head := document.head.normalized }

theorem toDomain_normalized (document : ExecutorChallengeResponse) :
    document.normalized.toDomain digest = document.toDomain digest := by
  simp only [toDomain, normalized, ExecutionResultDocument.toDomain_normalized]
  rfl

/-- The response of a challenge result is read as this result. -/
theorem toDomain_fromDomain (result : ChallengeResult) :
    (fromDomain digest result).toDomain digest = .ok result := by
  simp only [toDomain, fromDomain, TestArtifact.fromText_self,
    ExecutionResultDocument.toDomain_fromDomain, Guard.ok_bind, Guard.require, if_true,
    dif_pos result.baseRole, dif_pos result.headRole]
  rfl

/-- A challenge result is spelled by the response that it was read from. -/
theorem fromDomain_of_toDomain {document : ExecutorChallengeResponse} {result : ChallengeResult}
    (read : document.toDomain digest = .ok result) :
    fromDomain digest result = document.normalized := by
  obtain ⟨artifact, isArtifact, read⟩ := Guard.bind_eq_ok_iff.mp read
  obtain ⟨consistent, read⟩ := Guard.require_bind_eq_ok_iff.mp read
  obtain ⟨base, isBase, read⟩ := Guard.bind_eq_ok_iff.mp read
  obtain ⟨head, isHead, read⟩ := Guard.bind_eq_ok_iff.mp read
  obtain ⟨samePath, sameNode, sameSource⟩ := TestArtifact.eq_of_fromText isArtifact
  split at read
  · split at read
    · cases read
      simp only [fromDomain, normalized, samePath, sameNode,
        ExecutionResultDocument.fromDomain_of_toDomain isBase,
        ExecutionResultDocument.fromDomain_of_toDomain isHead, consistent]
      rw [sameSource]
    · cases read
  · cases read

/-- A response reads as the one result that spells it. -/
theorem toDomain_eq_ok_iff {document : ExecutorChallengeResponse} {result : ChallengeResult} :
    document.toDomain digest = .ok result ↔ document.normalized = fromDomain digest result := by
  constructor
  · intro read
    exact (fromDomain_of_toDomain read).symm
  · intro spelled
    rw [← toDomain_normalized, spelled]
    exact toDomain_fromDomain result

end ExecutorChallengeResponse

/-! ## Results of the remote challenge -/

namespace RemoteBaseHeadChallenge

variable {isWord : Char → Bool} {Body : Type} (digest : String → Sha256)
  (remote : RemoteBaseHeadChallenge isWord Body) (baseRef headRef : GitSha)
  (artifact : TestArtifact)

/-- An accepted answer: a success status, a response that spells the result, and the bytes
that were requested, by their hash. -/
def Accepts (result : ChallengeResult) : Prop :=
  ∃ request status body document, remote.request digest baseRef headRef artifact = .ok request ∧
    remote.post request = .answered status body ∧ (200 ≤ status ∧ status < 300) ∧
    remote.wire.modelValidateJson body = some document ∧
    document.normalized = .fromDomain digest result ∧
    digest result.artifact.content = digest artifact.content

variable {digest remote baseRef headRef artifact}

theorem accept_eq_ok_iff {status : Nat} {body : Body} {result : ChallengeResult} :
    remote.accept digest artifact status body = .ok result ↔ (200 ≤ status ∧ status < 300) ∧
      ∃ document, remote.wire.modelValidateJson body = some document ∧
        document.normalized = .fromDomain digest result ∧
        digest result.artifact.content = digest artifact.content := by
  unfold accept
  constructor
  · intro accepted
    split at accepted
    · rename_i success
      split at accepted
      · cases accepted
      · rename_i document validated
        obtain ⟨read, isRead, accepted⟩ := Guard.bind_eq_ok_iff.mp accepted
        obtain ⟨same, accepted⟩ := Guard.require_bind_eq_ok_iff.mp accepted
        cases accepted
        exact ⟨success, document, validated,
          ExecutorChallengeResponse.toDomain_eq_ok_iff.mp isRead, same⟩
    · cases accepted
  · rintro ⟨success, document, validated, spelled, same⟩
    rw [if_pos success, validated]
    dsimp only
    rw [ExecutorChallengeResponse.toDomain_eq_ok_iff.mpr spelled, Guard.ok_bind,
      Guard.require_of_holds same]
    rfl

theorem run_eq_ok_iff {result : ChallengeResult} :
    remote.run digest baseRef headRef artifact = .ok result ↔
      remote.Accepts digest baseRef headRef artifact result := by
  constructor
  · intro ran
    obtain ⟨request, requested, ran⟩ := Guard.bind_eq_ok_iff.mp ran
    split at ran
    · cases ran
    · cases ran
    · rename_i status body answered
      obtain ⟨success, document, accepted⟩ := accept_eq_ok_iff.mp ran
      exact ⟨request, status, body, document, requested, answered, success, accepted⟩
  · rintro ⟨request, status, body, document, requested, answered, success, accepted⟩
    rw [run, requested, Guard.ok_bind, answered]
    exact accept_eq_ok_iff.mpr ⟨success, document, accepted⟩

/-- **The result is what an accepted answer spells, and every other answer is refused; an
executor that answers with the result of its local challenge is taken at its word.** -/
theorem remote_run_faithful (digest : String → Sha256)
    (remote : RemoteBaseHeadChallenge isWord Body) (baseRef headRef : GitSha)
    (artifact : TestArtifact) :
    (∀ result, remote.run digest baseRef headRef artifact = .ok result ↔
      remote.Accepts digest baseRef headRef artifact result) ∧
    ∀ request base head result,
      remote.request digest baseRef headRef artifact = .ok request →
      MechanicalEvidenceClassifier.challenge digest artifact base head = .ok result →
      remote.post request = .answered 200
        (remote.wire.modelDumpJson (.fromDomain digest result)) →
      remote.run digest baseRef headRef artifact = .ok result := by
  refine ⟨fun result => run_eq_ok_iff, fun request base head result requested classified answered =>
    run_eq_ok_iff.mpr ?_⟩
  obtain ⟨sameArtifact, _⟩ := MechanicalEvidenceClassifier.challenge_eq_ok_iff.mp classified
  refine ⟨request, 200, _, _, requested, answered, by decide, remote.wire.validate_dump _, ?_, ?_⟩
  · exact (ExecutorChallengeResponse.fromDomain_of_toDomain
      (ExecutorChallengeResponse.toDomain_fromDomain result)).symm
  · rw [sameArtifact]

end RemoteBaseHeadChallenge

/-! ## An answer about something else -/

/-- A candidate with one test, under a node name. -/
def sampleArtifact (nodeId : String)
    (node : isNodeIdOf "tests/test_app.py" nodeId = true := by decide +kernel) : TestArtifact where
  relativePath := "tests/test_app.py"
  nodeId := nodeId
  content := "def test_behavior(): assert True"
  wellFormed := ⟨by decide, by decide +kernel, node⟩

/-- A digest of 64 zeros. -/
def zeroDigest : Sha256 := ⟨String.ofList (List.replicate 64 '0'), isSha256_zeros⟩

/-- A commit name of one repeated digit. -/
def repeatedSha (digit : Char) (isHex : isLowerHex digit = true := by decide) : GitSha where
  text := String.ofList (List.replicate 40 digit)
  wellFormed := isGitSha_replicate digit isHex

/-- A passing execution on a commit. -/
def samplePassed (role : RevisionRole) (sha : GitSha) (nodeId : String) : ExecutionResult where
  revision := ⟨role, sha⟩
  testNodeId := nodeId
  expectedArtifactSha256 := zeroDigest
  artifactSha256Before := some zeroDigest
  artifactSha256After := some zeroDigest
  status := .passed
  collectedCount := 1
  exitCode := some 0
  durationSeconds := ⟨1, Duration.one_nonnegative⟩

/-- A result for another node on one commit twice, both passing, with a verdict that
discriminates. -/
def unrelatedResult (sha : GitSha) : ChallengeResult where
  artifact := sampleArtifact "tests/test_app.py::test_other"
  base := samplePassed .base sha "tests/test_app.py::test_other"
  head := samplePassed .head sha "tests/test_app.py::test_other"
  assessment := ⟨.discriminating, .baseAssertionFailedHeadPassed, "believe me"⟩
  baseRole := rfl
  headRole := rfl

/-- An executor that answers every request with this result. -/
def unrelatedRemote (sha : GitSha) :
    RemoteBaseHeadChallenge isAsciiWord ExecutorChallengeResponse where
  repository := ⟨"octo/service", isRepositoryName_octo⟩
  pullRequestNumber := ⟨7, seven_positive⟩
  contract := ⟨claimingFields.values, claimingFields_valid⟩
  post _ := .answered 200 (.fromDomain (fun _ => zeroDigest) (unrelatedResult sha))
  wire := ⟨id, some, fun _ => rfl⟩

/-- Other commits, another node and another verdict than the classifier's are accepted. -/
theorem unrelated_result_accepted :
    ∃ (baseRef headRef : GitSha) (artifact : TestArtifact) (result : ChallengeResult),
      (unrelatedRemote (repeatedSha 'c')).run (fun _ => zeroDigest) baseRef headRef artifact =
          .ok result ∧
        result.base.revision.sha ≠ baseRef ∧ result.head.revision.sha ≠ headRef ∧
        result.artifact.nodeId ≠ artifact.nodeId ∧
        result.assessment ≠ MechanicalEvidenceClassifier.assess (fun _ => zeroDigest)
          result.artifact result.base result.head := by
  refine ⟨repeatedSha 'a', repeatedSha 'b', sampleArtifact "tests/test_app.py::test_behavior",
    unrelatedResult (repeatedSha 'c'), RemoteBaseHeadChallenge.run_eq_ok_iff.mpr ?_,
    by decide +kernel, by decide +kernel, by decide +kernel, by decide +kernel⟩
  refine ⟨_, 200, _, _, dif_pos (by decide +kernel), rfl, by decide, rfl, ?_, rfl⟩
  exact (ExecutorChallengeResponse.fromDomain_of_toDomain
    (ExecutorChallengeResponse.toDomain_fromDomain _)).symm

end PatchProof
