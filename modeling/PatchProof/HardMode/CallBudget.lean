import Mathlib.Algebra.GroupWithZero.Nat
import PatchProof.HardMode.LiveCase
import PatchProof.Worker.FailClosed

/-!
# The provider calls of a live case

Each logical call is retried at most once, so one claim, three candidates and one assessment
cost at most ten provider calls.  The retry is made by the adapters whatever the protocol
declares: the preflight compares the declared number of candidate calls with that of the
product, and does not look at the declared number of retries.  With one retry declared, the
derived capacity is these ten calls; with none, it is five, and a case may need more.
-/

set_option autoImplicit false

namespace PatchProof

variable {p : Platform}

/-! ## What one case may cost -/

/-- The calls that reach a model provider. -/
def ExternalKind.reachesProvider : ExternalKind → Bool
  | .selectClaim | .invokeCandidateModel | .assess => true
  | _ => false

def ServiceCall.reachesProvider : ServiceCall p → Bool
  | .store _ => false
  | .external kind _ => kind.reachesProvider

/-- Enough provider calls are left for what comes after. -/
abbrev AffordsCalls {α : Type} (needed : α → Nat) (limit : Nat) (activity : Activity p α) : Prop :=
  activity.Affords ServiceCall.reachesProvider needed (fun _ => 0) limit

theorem affords_attempt {α : Type} {outcome : Except RaisedException α} {limit : Nat} :
    AffordsCalls (fun _ => limit) limit (attempt outcome : Activity p α) := by
  cases outcome with
  | ok value => exact Nat.le_refl limit
  | error exception => exact Nat.zero_le limit

theorem affords_demand {condition : Prop} {_ : Decidable condition} {exception : RaisedException}
    {limit : Nat} :
    AffordsCalls (fun _ => limit) limit (Program.demand condition exception : Activity p Unit) :=
  Program.affords_demand (Nat.zero_le _)

theorem affords_external {kind : ExternalKind} {request : kind.Request p} {limit : Nat}
    (free : kind.reachesProvider = false) :
    AffordsCalls (fun _ => limit) limit (external kind request) := by
  intro reply _
  refine ⟨limit, .free free, ?_⟩
  cases reply with
  | ok result => exact Nat.le_refl limit
  | error exception => exact Nat.zero_le limit

/-- A call of a provider costs one, whether it returns or raises. -/
theorem affords_provider {kind : ExternalKind} {request : kind.Request p} {left : Nat}
    (reaches : kind.reachesProvider = true) :
    (external kind request).Affords ServiceCall.reachesProvider (fun _ => left) (fun _ => left)
      (left + 1) := by
  intro reply _
  refine ⟨left, .paid reaches, ?_⟩
  cases reply <;> exact Nat.le_refl left

/-- **A logical call costs two provider calls at most.** -/
theorem affords_boundedRetry {kind : ExternalKind} {request : kind.Request p} {left : Nat}
    {account : (attempts : Nat) → 1 ≤ attempts ∧ attempts ≤ 2 → kind.Result p → kind.Result p}
    (reaches : kind.reachesProvider = true) :
    AffordsCalls (fun _ => left) (left + 2) (boundedRetry (external kind request) account) := by
  have first : (do
      let response ← external kind request
      return account 1 (by decide) response).Affords ServiceCall.reachesProvider (fun _ => left)
        (fun _ => left + 1) (left + 2) :=
    (affords_provider reaches).bind fun _ => Nat.le_succ left
  refine first.catching fun exception => ?_
  split
  · have again : AffordsCalls (fun _ => left) (left + 1) (external kind request) := by
      intro reply _
      refine ⟨left, .paid reaches, ?_⟩
      cases reply with
      | ok result => exact Nat.le_refl left
      | error exception => exact Nat.zero_le left
    exact again.bind fun _ => Nat.le_refl left
  · exact Nat.zero_le _

/-! ## The parts of a case -/

section Parts

variable {left : Nat}

theorem affords_invoke {generator : CandidateGenerator p} {origin : CandidateOrigin}
    {feedback : Option CandidateFeedback} :
    AffordsCalls (fun _ => left) (left + 2) (generator.invoke origin feedback) := by
  refine affords_demand.bind fun _ => ?_
  refine affords_demand.bind fun _ => ?_
  refine (affords_boundedRetry rfl).bind fun response => ?_
  exact affords_attempt.bind fun judgement => Nat.le_refl left

theorem affords_generateInitial {generator : CandidateGenerator p} :
    AffordsCalls (fun _ => left) (left + 2) generator.generateInitial := by
  refine affords_demand.bind fun _ => ?_
  exact affords_invoke

theorem affords_repair {generator : CandidateGenerator p} {feedback : CandidateFeedback} :
    AffordsCalls (fun _ => left) (left + 2) (generator.repair feedback) := by
  refine affords_demand.bind fun _ => ?_
  refine affords_demand.bind fun _ => ?_
  exact affords_invoke

theorem affords_worktreeSession (artifact : TestArtifact) :
    AffordsCalls (fun _ => left) left (@worktreeSession p artifact) := by
  refine (affords_external rfl).bind fun base => ?_
  refine (affords_external rfl).bind fun head => ?_
  exact affords_attempt

theorem affords_challengeOf {session : TestArtifact → Activity p ChallengeResult}
    (executes : ∀ artifact, AffordsCalls (fun _ => left) left (session artifact))
    (candidate : CandidateAttempt) (challenge : Option ChallengeResult) :
    AffordsCalls (fun _ => left) left (challengeOf session candidate challenge) := by
  unfold challengeOf
  split
  · exact (executes _).bind fun result => Nat.le_refl left
  · exact Nat.le_refl left

/-- The body spends calls only in a pass that is the last. -/
theorem affords_considerChallenge (claim : BehavioralClaim) (result : Option LiveCaseResult)
    (candidate : CandidateAttempt) (challenge : Option ChallengeResult) :
    AffordsCalls (fun next => if next.2 then left else left + 2) (left + 2)
      (@LiveCase.considerChallenge p claim result candidate challenge) := by
  refine affords_attempt.bind fun _ => ?_
  cases challenge with
  | none => exact Nat.le_refl _
  | some challenge =>
      refine affords_attempt.bind fun _ => ?_
      split
      · split
        · exact Nat.zero_le _
        · refine (affords_boundedRetry rfl).bind fun semantic => ?_
          exact affords_attempt.bind fun _ => Nat.le_refl left
      · exact Nat.le_refl _

/-- The passes that are left cost two calls each. -/
theorem affords_candidateChallenges (claim : BehavioralClaim) (remaining : Nat)
    (generator : CandidateGenerator p) (candidate : CandidateAttempt)
    (challenge : Option ChallengeResult) (result : Option LiveCaseResult) :
    AffordsCalls (fun _ => 0) (2 * remaining)
      (candidateChallenges worktreeSession (LiveCase.considerChallenge claim) remaining generator
        candidate challenge result) := by
  induction remaining generalizing generator candidate challenge result with
  | zero => exact Nat.le_refl 0
  | succ remaining ih =>
      unfold candidateChallenges
      refine (affords_challengeOf affords_worktreeSession candidate challenge).bind fun _ => ?_
      refine (@affords_considerChallenge p (2 * remaining) claim result candidate _).bind
        fun next => ?_
      dsimp only
      split
      · exact Nat.zero_le _
      · split
        · exact Nat.zero_le _
        · split
          · exact Nat.zero_le _
          · refine affords_attempt.bind fun feedback => ?_
            refine affords_repair.bind fun repaired => ?_
            exact ih _ _ _ _

end Parts

/-! ## The case as a whole -/

namespace LiveCase

variable {case : LiveCase p}

/-- What is needed behind the claim: nothing when the case has ended without one. -/
def neededAfterClaim (left : Nat) : LiveCaseResult ⊕ ClaimAgentResult → Nat
  | .inl _ => 0
  | .inr _ => left

theorem affords_selectClaim {context : p.Context} {left : Nat} :
    AffordsCalls (neededAfterClaim left) (left + 2) (case.selectClaim context) := by
  have asks : AffordsCalls (neededAfterClaim left) (left + 2) (do
      let claimResult ← boundedRetry (external .selectClaim (context, case.narrative))
        fun attempts bounded (result : ClaimAgentResult) =>
          { result with usage := result.usage.withProviderAttempts attempts bounded }
      return .inr claimResult : Activity p (LiveCaseResult ⊕ ClaimAgentResult)) :=
    (affords_boundedRetry rfl).bind fun _ => Nat.le_refl left
  refine asks.catching fun exception => ?_
  split <;> exact Nat.zero_le _

theorem affords_tryCandidates {claim : BehavioralClaim} {generator : CandidateGenerator p} :
    AffordsCalls (fun _ => 0) 8 (tryCandidates claim generator) := by
  have loops : AffordsCalls (fun _ => 0) 8 (boundedCandidateChallenges worktreeSession
      (considerChallenge claim) generator none) := by
    refine affords_generateInitial.bind fun first => ?_
    exact affords_candidateChallenges claim maxCandidateModelCalls _ _ _ _
  refine (loops.bind fun finished => ?_).catching fun exception => ?_
  · dsimp only
    split <;> exact Nat.zero_le _
  · split <;> exact Nat.zero_le _

theorem affords_runReady {context : p.Context} :
    AffordsCalls (fun _ => 0) 10 (case.runReady context) := by
  refine affords_selectClaim.bind fun selected => ?_
  cases selected with
  | inl result => exact Nat.zero_le _
  | inr claimResult =>
      dsimp only
      split
      · exact Nat.zero_le _
      · refine (affords_external rfl).bind fun signatures => ?_
        split
        · refine (affords_external rfl).bind fun roots => ?_
          exact (affords_external rfl).bind fun existingPaths => affords_tryCandidates
        · have none : AffordsCalls (fun _ => 8) 8 (pure [] : Activity p (List String)) :=
            Nat.le_refl 8
          refine none.bind fun roots => ?_
          exact (affords_external rfl).bind fun existingPaths => affords_tryCandidates

theorem affords_runInSession : AffordsCalls (fun _ => 0) 10 case.runInSession := by
  refine (affords_external rfl).bind fun context => ?_
  refine affords_demand.bind fun _ => ?_
  exact affords_runReady

theorem affords_releasing {α : Type} {body : Activity p α} {limit : Nat}
    (affords : AffordsCalls (fun _ => 0) limit body) :
    AffordsCalls (fun _ => 0) limit (releasing body (external .leaveSession ())) := by
  have release : AffordsCalls (p := p) (fun _ => 0) 0 (external .leaveSession ()) :=
    affords_external rfl
  refine (affords.catching fun exception => ?_).bind fun value => ?_
  · exact release.bind fun _ => Nat.zero_le 0
  · exact release.bind fun _ => Nat.zero_le 0

/-- **A live case costs ten provider calls at most.** -/
theorem affords_run : AffordsCalls (fun _ => 0) 10 case.run := by
  refine (affords_external rfl).bind fun _ => ?_
  apply affords_releasing
  split
  · refine (affords_external rfl).bind fun readiness => ?_
    split
    · exact affords_runInSession
    · exact Nat.zero_le _
  · exact affords_runInSession

end LiveCase

/-! ## The approved capacity -/

/-- A manifest that has passed the preflight. -/
structure ApprovedManifest where
  manifest : HardModeManifest
  preflight : HardModeCallBudgetPreflight
  passes : modelCallBudgetPreflight manifest = .ok preflight

/-- A live case on some platform, with the answers to its calls. -/
structure CaseRun where
  platform : Platform
  case : LiveCase platform
  answers : Nat → (call : ServiceCall platform) → call.Reply

/-- How often the case has called a provider. -/
def CaseRun.providerCalls (run : CaseRun) : Nat :=
  (run.case.run.calls run.answers 0).countP ServiceCall.reachesProvider

theorem CaseRun.providerCalls_le (run : CaseRun) : run.providerCalls ≤ 10 :=
  LiveCase.affords_run.countP_calls_le run.answers 0

theorem sum_providerCalls_le (runs : List CaseRun) :
    (runs.map CaseRun.providerCalls).sum ≤ 10 * runs.length := by
  induction runs with
  | nil => exact Nat.le_refl 0
  | cons run rest ih =>
      have most := run.providerCalls_le
      rw [List.map_cons, List.sum_cons, List.length_cons]
      omega

namespace ApprovedManifest

variable (approved : ApprovedManifest)

/-- No case needs more than is derived for one case, and no complete run more than the declared
capacity. -/
structure KeepsBudget : Prop where
  perCase : ∀ (run : CaseRun) (most : Nat),
    approved.manifest.protocol.deriveMaximumPossibleProviderCalls 1 = .ok most →
      run.providerCalls ≤ most
  complete : ∀ runs : List CaseRun, runs.length = approved.manifest.cases.length →
    (runs.map CaseRun.providerCalls).sum ≤ approved.preflight.declaredAvailableProviderCalls

/-- The protocol declares the retry that the adapters make. -/
def DeclaresRetry : Prop :=
  approved.manifest.protocol.transientProviderRetriesPerLogicalCall = 1

theorem derived_one : approved.manifest.protocol.deriveMaximumPossibleProviderCalls 1 =
    .ok (5 * (1 + approved.manifest.protocol.transientProviderRetriesPerLogicalCall)) := by
  have product := (preflight_spec approved.passes).1
  rw [HardModeProtocol.deriveMaximumPossibleProviderCalls_succ, product]
  rfl

theorem keepsBudget_of_declaresRetry (declares : approved.DeclaresRetry) :
    approved.KeepsBudget := by
  unfold DeclaresRetry at declares
  constructor
  · intro run most derived
    rw [approved.derived_one, declares] at derived
    cases derived
    exact run.providerCalls_le
  · intro runs all
    obtain ⟨product, derived, funded⟩ := preflight_spec approved.passes
    obtain ⟨others, count⟩ : ∃ others, approved.manifest.cases.length = others + 1 :=
      Nat.exists_eq_succ_of_ne_zero (by have := approved.manifest.counted.1; omega)
    rw [count, HardModeProtocol.deriveMaximumPossibleProviderCalls_succ, product, declares]
      at derived
    injection derived with required
    have most := sum_providerCalls_le runs
    have three : maxCandidateModelCalls = 3 := rfl
    rw [three] at required
    omega

end ApprovedManifest

/-! ## A case that retries -/

/-- A case without dependencies on the sample platform. -/
def plainCase : LiveCase samplePlatform where
  baseSha := sampleSha '0' isLowerHex_zero
  headSha := sampleSha 'a' isLowerHex_a
  narrative := .fromUntrusted "title" "body"
  contract := ()
  installDependencies := false
  contextSha256 _ := sampleSha256
  expectedContextSha256 := sampleSha256

/-- A provider that is throttled at every first request, and a candidate model without sense. -/
def throttledAnswers (asked : Nat) : (call : ServiceCall samplePlatform) → call.Reply
  | .store _ => .error .integrity
  | .external kind _ =>
      if kind.reachesProvider && asked % 2 == 0 then .error (.modelInvocation "throttled" true)
      else match kind with
        | .enterSession | .leaveSession => .ok ()
        | .retrieveContext => .ok ()
        | .selectClaim => .ok ⟨sampleSelection, sampleUsage, sampleSha256⟩
        | .retrieveCallableSignatures => .ok (.absent sampleSha256)
        | .committedPaths => .ok []
        | .invokeCandidateModel => .ok ⟨"none", by decide, sampleUsage⟩
        | _ => .error (.other "not asked")

def throttledRun : CaseRun := ⟨samplePlatform, plainCase, throttledAnswers⟩

/-- One claim and three candidates, each asked for twice. -/
theorem providerCalls_throttledRun : throttledRun.providerCalls = 8 := by
  decide +kernel

namespace ApprovedManifest

variable (approved : ApprovedManifest)

/-- Without a declared retry, five calls are derived for a case, and a throttled one needs more. -/
theorem declaresRetry_of_keepsBudget (keeps : approved.KeepsBudget) : approved.DeclaresRetry := by
  rcases approved.manifest.protocol.retries with none | one
  · have derived := approved.derived_one
    rw [none] at derived
    have most := keeps.perCase throttledRun 5 derived
    rw [providerCalls_throttledRun] at most
    omega
  · exact one

/-- **The approved capacity suffices exactly when the protocol declares the retry.**  Whatever the
platform, the case and the answers, a case then makes at most the calls derived for one case,
and a complete run at most the declared ones. -/
theorem keepsBudget_iff : approved.KeepsBudget ↔ approved.DeclaresRetry :=
  ⟨approved.declaresRetry_of_keepsBudget, approved.keepsBudget_of_declaresRetry⟩

end ApprovedManifest

/-! ## A manifest without retries -/

/-- A protocol for five cases that declares no retry. -/
def unretriedProtocol : HardModeProtocol where
  claimCallsPerCase := 1
  candidateCallsPerCase := 3
  assessmentCallsPerDiscriminatingCase := 1
  transientProviderRetriesPerLogicalCall := 0
  maximumPossibleLogicalModelCalls := some 25
  maximumPossibleProviderCalls := some 25
  declaredAvailableProviderCalls := some 25
  modelCallBudgetPreflightPassed := some true
  oneClaimCall := HardModeProtocol.one_call
  candidateCalls := HardModeProtocol.three_calls
  oneAssessmentCall := HardModeProtocol.one_call
  retries := .inl rfl

/-- A manifest that passes the preflight with this protocol. -/
def unretriedManifest : ApprovedManifest where
  manifest :=
    { protocol := unretriedProtocol
      cases := [⟨"first", .historicalPr, "octo/service"⟩, ⟨"second", .historicalPr, "octo/service"⟩,
        ⟨"third", .historicalPr, "octo/library"⟩, ⟨"fourth", .historicalPr, "octo/library"⟩,
        ⟨"fifth", .localSynthetic, "octo/fixture"⟩]
      counted := by decide
      budgetConsistent := rfl
      covered := by decide
      declared := .inr ⟨rfl, rfl⟩ }
  preflight := ⟨25, 25, 25⟩
  passes := rfl

/-- A case of this manifest may make eight provider calls, three more than were derived. -/
theorem unretried_exceeds_budget : ¬ unretriedManifest.KeepsBudget := by
  intro keeps
  have most := keeps.perCase throttledRun 5 rfl
  rw [providerCalls_throttledRun] at most
  omega

end PatchProof
