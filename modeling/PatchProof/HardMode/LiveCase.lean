import PatchProof.Evidence.Document
import PatchProof.HardMode.Protocol
import PatchProof.Library.CallCounts
import PatchProof.Worker.Execute

/-!
# One live case

A live case of a hard-mode run prepares a session, selects one claim, tries candidates on BASE
and HEAD, and has a discriminating result assessed.  The candidates come from a loop of their
own, which yields every attempt together with its challenge; what the case does with them is
the body of the loop.

The selection of the claim is one call of the claim model, whose answer is decoded in it.  Of
the result document the terminal status, the final statuses and the exception are kept.
-/

set_option autoImplicit false

namespace PatchProof

variable {p : Platform}

/-! ## The candidate loop -/

section Loop

variable {σ : Type} (session : TestArtifact → Activity p ChallengeResult)
  (body : σ → CandidateAttempt → Option ChallengeResult → Activity p (σ × Bool))

/-- Whether a challenge has shown a difference between the revisions. -/
def isDiscriminating (challenge : Option ChallengeResult) : Bool :=
  challenge.any fun result => result.assessment.mechanicalStatus = .discriminating

/-- The challenge of a candidate, which is executed when it is validated. -/
def challengeOf (candidate : CandidateAttempt) (challenge : Option ChallengeResult) :
    Activity p (Option ChallengeResult) :=
  match candidate.validated with
  | some validated => do
      let result ← session validated.artifact
      return some result
  | none => return challenge

/-- The passes of `_bounded_candidate_challenges`; the number is how many are left.  The body is
run for what is yielded, and stops the iteration by returning true. -/
def candidateChallenges : Nat → CandidateGenerator p → CandidateAttempt →
    Option ChallengeResult → σ → Activity p (σ × Option ChallengeResult)
  | 0, _, _, challenge, state => return (state, challenge)
  | remaining + 1, generator, candidate, challenge, state => do
      let challenge ← challengeOf session candidate challenge
      let (state, stops) ← body state candidate challenge
      if stops then return (state, challenge)
      else if isDiscriminating challenge then return (state, challenge)
      else if maxRepairs ≤ maxCandidateModelCalls - (remaining + 1) then return (state, challenge)
      else do
        let feedback ← attempt (repairFeedback p candidate challenge)
        let (next, generator) ← generator.repair feedback
        candidateChallenges remaining generator next none state

/-- `_bounded_candidate_challenges`. -/
def boundedCandidateChallenges (generator : CandidateGenerator p) (state : σ) :
    Activity p (σ × Option ChallengeResult) := do
  let (first, generator) ← generator.generateInitial
  candidateChallenges session body maxCandidateModelCalls generator first none state

end Loop

/-! ## The case -/

/-- What a live case is about, with its execution plan. -/
structure LiveCase (p : Platform) where
  baseSha : GitSha
  headSha : GitSha
  narrative : PullRequestNarrative
  contract : p.Contract
  installDependencies : Bool
  contextSha256 : p.Context → Sha256
  expectedContextSha256 : Sha256

/-- How a live case ended. -/
structure LiveCaseResult where
  terminalStatus : String
  finalMechanical : Option MechanicalEvidenceStatus := none
  finalOutcome : Option ClaimOutcome := none
  error : Option RaisedException := none
  deriving DecidableEq

/-- `session.run` on local worktrees. -/
def worktreeSession (artifact : TestArtifact) : Activity p ChallengeResult := do
  let base ← external .executeArtifact (.base, artifact)
  let head ← external .executeArtifact (.head, artifact)
  attempt (MechanicalEvidenceClassifier.challenge p.digest artifact base head)

namespace LiveCase

variable (case : LiveCase p)

/-- The claim, or how the case ends without an answer. -/
def selectClaim (context : p.Context) : Activity p (LiveCaseResult ⊕ ClaimAgentResult) :=
  (do
    let claimResult ← boundedRetry (external .selectClaim (context, case.narrative))
      fun attempts bounded (result : ClaimAgentResult) =>
        { result with usage := result.usage.withProviderAttempts attempts bounded }
    return .inr claimResult : Activity p (LiveCaseResult ⊕ ClaimAgentResult)).catching
    fun exception =>
      match exception with
      | .surrounding (.invalidClaimAgentOutput _ _ _) =>
          return .inl { terminalStatus := "CLAIM_INVALID_OUTPUT", error := some exception }
      | .surrounding (.modelInvocation _ _) =>
          return .inl { terminalStatus := "CLAIM_INVOCATION_ERROR", error := some exception }
      | exception => Program.raise exception

/-- What the case does with an attempt and its challenge: a discriminating one is assessed. -/
def considerChallenge (claim : BehavioralClaim) (result : Option LiveCaseResult)
    (candidate : CandidateAttempt) (challenge : Option ChallengeResult) :
    Activity p (Option LiveCaseResult × Bool) := do
  let _ ← attempt (candidate.evidence p.digest)
  match challenge with
  | none => return (result, false)
  | some challenge => do
      let _ ← attempt (challenge.evidence p.digest candidate.sequence)
      if challenge.assessment.mechanicalStatus = .discriminating then
        match candidate.validated with
        -- Not reached: only a validated candidate is executed.
        | none => Program.raise .assertion
        | some validated => do
            let semantic ← assessChallenge claim validated.proposal.source.text challenge
            attempt (validateSemanticDecision challenge semantic.decision)
            return (some {
              terminalStatus := semantic.decision.outcome.value
              finalMechanical := some challenge.assessment.mechanicalStatus
              finalOutcome := some semantic.decision.outcome }, true)
      else return (result, false)

/-- Try candidates for the claim. -/
def tryCandidates (claim : BehavioralClaim) (generator : CandidateGenerator p) :
    Activity p LiveCaseResult :=
  (do
    let (finished, challenge) ←
      boundedCandidateChallenges worktreeSession (considerChallenge claim) generator none
    match finished, challenge with
    | some result, _ => return result
    | none, some challenge =>
        return {
          terminalStatus := challenge.assessment.mechanicalStatus.value
          finalMechanical := some challenge.assessment.mechanicalStatus
          finalOutcome := some .insufficientEvidence }
    | none, none =>
        return {
          terminalStatus := "INVALID_TEST"
          finalMechanical := some .invalidTest
          finalOutcome := some .insufficientEvidence }).catching fun exception =>
      match exception with
      | .surrounding (.modelInvocation _ _) =>
          return { terminalStatus := "MODEL_INVOCATION_ERROR", error := some exception }
      | exception => Program.raise exception

/-- `_run_ready_live_case`, without an investigator. -/
def runReady (context : p.Context) : Activity p LiveCaseResult := do
  match ← case.selectClaim context with
  | .inl result => return result
  | .inr claimResult =>
      match claimResult.selection.claim with
      | none =>
          return {
            terminalStatus := "CLAIM_" ++ claimResult.selection.disposition.value
            finalOutcome := some .insufficientEvidence }
      | some claim => do
          let signatures ← external .retrieveCallableSignatures (case.headSha, context,
            claim.affectedSymbols.map fun symbol => (symbol.path, symbol.qualifiedName.text))
          let roots ← if case.installDependencies then external .installedImportRoots ()
            else pure []
          let existingPaths ← external .committedPaths case.headSha
          tryCandidates claim {
            claim := claim
            context := context
            contract := case.contract
            existingPaths := existingPaths
            installedImportRoots := roots
            repositorySignatures := signatures }

/-- Retrieve the context that was gated, and run the case on it. -/
def runInSession : Activity p LiveCaseResult := do
  let context ← external .retrieveContext (case.baseSha, case.headSha)
  Program.demand (case.contextSha256 context = case.expectedContextSha256)
    (.value "live context differs from the preflight-gated context")
  case.runReady context

/-- `_run_live_case`, as `run_live` calls it. -/
def run : Activity p LiveCaseResult := do
  external .enterSession (case.baseSha, case.headSha)
  releasing (do
    if case.installDependencies then do
      let readiness ← external .prepareEnvironment (case.baseSha, case.headSha)
      if readiness.ready then case.runInSession
      else return {
        terminalStatus := "ENVIRONMENT_NOT_READY"
        finalMechanical := some .environmental
        finalOutcome := some .insufficientEvidence }
    else case.runInSession) (external .leaveSession ())

end LiveCase

end PatchProof
