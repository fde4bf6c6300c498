import Mathlib.Logic.Relation
import PatchProof.Worker.Candidates

/-!
# Sessions of one candidate generator

The calls of `generate_initial` and `repair` on one generator, overlapping in any order.
A call runs without interruption until it awaits the model, and again from the model's
answer to its end; in between other calls may run.  A step of a session is one such
stretch, so that the runs of a session are all the interleavings.

Through every run the counted model calls and repairs stay within their limits, and the
attempts form one lineage: numbered in order, under distinct names, each repair pointing
at the attempt before it (`session_invariants`).

A repair is compared with the fingerprint of the attempt before it.  When that attempt was
rejected before it had one, a repair that behaves as the candidate that was executed last
is validated (`repairs_change_behavior`).
-/

set_option autoImplicit false

namespace PatchProof

/-! ## Generators -/

/-- Judge a proposal against the attempts before it, then by the validator; `previous` is
the last attempt at the time of the call. -/
def judgeProposalAfter (validate : CandidateTestProposal →
      Except CandidateValidationFailure ValidatedCandidate)
    (previous : Option CandidateAttempt) (attempts : List CandidateAttempt)
    (origin : CandidateOrigin) (proposal : CandidateTestProposal) :
    Except RaisedException CandidateJudgement :=
  let compared := if origin = .repair then previous else none
  if (compared.bind CandidateAttempt.proposal).any fun earlier =>
      earlier.source.text = proposal.source.text then
    .ok (.refuse .rejected (some proposal) none .duplicateCandidateSource
      repeatedSourceMessage rejected_ne_validated)
  else if attempts.any fun attempt =>
      attempt.proposal.any fun earlier => earlier.candidateId = proposal.candidateId then
    .ok (.refuse .rejected (some proposal) none .duplicateCandidateId
      repeatedIdMessage rejected_ne_validated)
  else match validate proposal with
    | .error (.raised exception) => .error exception
    | .error (.issues issues) => .ok
        { status := .rejected
          proposal := some proposal
          issues := issues
          validatedIff := rejected_unvalidated }
    | .ok candidate =>
        if (compared.bind CandidateAttempt.behaviorFingerprint).any fun earlier =>
            candidate.behaviorFingerprint = earlier then
          .ok (.refuse .rejected (some proposal) (some candidate.behaviorFingerprint)
            .noBehavioralRepairChange unchangedBehaviorMessage rejected_ne_validated)
        else .ok
          { status := .validated
            proposal := some proposal
            validated := some candidate
            behaviorFingerprint := some candidate.behaviorFingerprint
            validatedIff := validated_iff_some candidate }

/-- Calls that come one after another are judged against the last attempt. -/
theorem judgeProposal_eq (validate : CandidateTestProposal →
      Except CandidateValidationFailure ValidatedCandidate) (attempts : List CandidateAttempt)
    (origin : CandidateOrigin) (proposal : CandidateTestProposal) :
    judgeProposal validate attempts origin proposal =
      judgeProposalAfter validate attempts.getLast? attempts origin proposal :=
  rfl

/-- What a generator is built with.  Reading a response that is no draft also describes
it, which may raise. -/
structure GeneratorSettings where
  directory : String
  maxResponseChars : Nat := 20000
  signatures : RepositorySignatureContext
  requestFits : Option CandidateTestProposal → Option CandidateFeedback → Bool
  digest : String → Sha256
  decodeDraft : String → Except RaisedException (Option CandidateTestDraft)
  describe : String → Except RaisedException Unit
  validate : CandidateTestProposal → Except CandidateValidationFailure ValidatedCandidate

/-- A model call that is under way. -/
structure CandidateInvocation where
  origin : CandidateOrigin
  feedback : Option CandidateFeedback
  previous : Option CandidateAttempt

/-- What a generator has consumed. -/
structure CandidateSession where
  attempts : List CandidateAttempt := []
  modelCalls : Nat := 0
  initialStarted : Bool := false
  repairCount : Nat := 0
  invoking : Option CandidateInvocation := none

/-- The names of the answer to a call, by the number of repairs. -/
def candidateSuffixes : CandidateOrigin → Nat → String × String
  | .initial, _ => ("initial", "initial")
  | .repair, repairs => ("repair-" ++ toString repairs, "repair_" ++ toString repairs)

namespace CandidateSession

variable (settings : GeneratorSettings) (session : CandidateSession)

/-! ## Calls -/

/-- `_invoke`, until it awaits the model. -/
def invoke (origin : CandidateOrigin) (feedback : Option CandidateFeedback) :
    Except RaisedException CandidateSession :=
  if session.invoking.isSome then
    .error (.candidateGenerationState "candidate model invocation already in progress")
  else if maxCandidateModelCalls ≤ session.modelCalls then
    .error (.candidateBudgetExceeded "candidate model-call budget is exhausted")
  else
    let previous := session.attempts.getLast?
    let proposal := if origin = .repair then previous.bind CandidateAttempt.proposal else none
    if settings.requestFits proposal feedback then
      .ok { session with
        modelCalls := session.modelCalls + 1
        invoking := some ⟨origin, feedback, previous⟩ }
    else .error (.value "candidate-agent input exceeds the configured character budget")

/-- `generate_initial`, until it awaits the model; what it has set stays when it raises. -/
def generateInitial : CandidateSession × Option RaisedException :=
  if session.initialStarted then
    (session, some (.candidateGenerationState "initial candidate generation already started"))
  else
    let session := { session with initialStarted := true }
    match session.invoke settings .initial none with
    | .ok next => (next, none)
    | .error exception => (session, some exception)

/-- `repair`, until it awaits the model; what it has counted stays when it raises. -/
def repair (feedback : CandidateFeedback) : CandidateSession × Option RaisedException :=
  if session.attempts = [] then
    (session, some (.candidateGenerationState "repair requires a completed initial attempt"))
  else if maxRepairs ≤ session.repairCount ∨ maxCandidateModelCalls ≤ session.modelCalls then
    (session, some (.candidateBudgetExceeded "candidate repair budget is exhausted"))
  else
    let session := { session with repairCount := session.repairCount + 1 }
    match session.invoke settings .repair (some feedback) with
    | .ok next => (next, none)
    | .error exception => (session, some exception)

/-- Judge a draft: normalize it to a proposal and judge that. -/
def judgeDraft (invocation : CandidateInvocation) (text : String) (draft : CandidateTestDraft) :
    Except RaisedException CandidateJudgement :=
  match draft.propose settings.directory
      (candidateSuffixes invocation.origin session.repairCount).1
      (candidateSuffixes invocation.origin session.repairCount).2 with
  | none => do
      settings.describe text
      return .refuse .invalidModelOutput none none .malformedOutput
        unsafeOutputMessage invalidModelOutput_ne_validated
  | some proposal => judgeProposalAfter settings.validate invocation.previous session.attempts
      invocation.origin proposal

/-- Judge the text of a response. -/
def judge (invocation : CandidateInvocation) (text : String) :
    Except RaisedException CandidateJudgement :=
  if settings.maxResponseChars < text.length then
    .ok (.refuse .invalidModelOutput none none .responseTooLarge
      oversizedResponseMessage invalidModelOutput_ne_validated)
  else
    match settings.decodeDraft text with
    | .error exception => .error exception
    | .ok none => .ok (.refuse .invalidModelOutput none none .malformedOutput
        unstructuredOutputMessage invalidModelOutput_ne_validated)
    | .ok (some draft) => session.judgeDraft settings invocation text draft

/-- The attempt that records one judged response. -/
def record (invocation : CandidateInvocation) (response : RawCandidateModelResponse)
    (judgement : CandidateJudgement) : CandidateAttempt where
  sequence := session.attempts.length + 1
  origin := invocation.origin
  parentCandidateId := if invocation.origin = .repair then
      (invocation.previous.bind CandidateAttempt.proposal).map CandidateTestProposal.candidateId
    else none
  parentArtifactSha256 := (invocation.previous.bind CandidateAttempt.validated).map
    fun candidate => settings.digest candidate.artifact.content
  status := judgement.status
  proposal := judgement.proposal
  validated := judgement.validated
  issues := judgement.issues
  feedback := invocation.feedback
  usage := response.usage
  rawResponseSha256 := settings.digest response.text
  behaviorFingerprint := judgement.behaviorFingerprint
  signatures := settings.signatures
  validatedIff := judgement.validatedIff

/-- The end of a call, from the model's response. -/
def answer (invocation : CandidateInvocation) (response : RawCandidateModelResponse) :
    CandidateSession × Except RaisedException CandidateAttempt :=
  let session := { session with invoking := none }
  match session.judge settings invocation response.text with
  | .error exception => (session, .error exception)
  | .ok judgement =>
      let attempt := session.record settings invocation response judgement
      ({ session with attempts := session.attempts ++ [attempt] }, .ok attempt)

/-- What starts a stretch: a call, or the end of the model call that is under way. -/
inductive SessionEvent where
  | generateInitial
  | repair (feedback : CandidateFeedback)
  | answered (response : RawCandidateModelResponse)
  | failed

/-- One stretch of one call. -/
inductive Step : CandidateSession → SessionEvent → CandidateSession → Prop where
  | generateInitial (session : CandidateSession) :
      Step session .generateInitial (session.generateInitial settings).1
  | repair (session : CandidateSession) (feedback : CandidateFeedback) :
      Step session (.repair feedback) (session.repair settings feedback).1
  | answered (session : CandidateSession) (invocation : CandidateInvocation)
      (response : RawCandidateModelResponse) (invoking : session.invoking = some invocation) :
      Step session (.answered response) (session.answer settings invocation response).1
  | failed (session : CandidateSession) (invocation : CandidateInvocation)
      (invoking : session.invoking = some invocation) :
      Step session .failed { session with invoking := none }

/-- The sessions of a generator. -/
def Reaches (session : CandidateSession) : Prop :=
  Relation.ReflTransGen (fun before after => ∃ event, Step settings before event after) {} session

/-! ## Names -/

/-- The names of the initial candidate and of the repairs. -/
def slotSuffixes : Nat → String × String
  | 0 => candidateSuffixes .initial 0
  | repairs => candidateSuffixes .repair repairs

/-- A proposal under the names of a slot. -/
structure NamedBy (slot : Nat) (proposal : CandidateTestProposal) : Prop where
  candidateId : proposal.candidateId = "candidate-" ++ (slotSuffixes slot).1
  targetPath : proposal.targetPath =
    settings.directory ++ "test_patchproof_generated_" ++ (slotSuffixes slot).2 ++ ".py"

variable {settings session}

theorem append_text_cancel {front text other back : String}
    (same : front ++ text ++ back = front ++ other ++ back) : text = other := by
  have lists := congrArg String.toList same
  simp only [String.toList_append, List.append_assoc] at lists
  exact String.toList_injective (List.append_cancel_right (List.append_cancel_left lists))

theorem slotSuffixes_ne {slot other : Nat} (bounded : slot ≤ 2) (otherBounded : other ≤ 2)
    (different : slot ≠ other) : (slotSuffixes slot).1 ≠ (slotSuffixes other).1 ∧
      (slotSuffixes slot).2 ≠ (slotSuffixes other).2 := by
  have apart : ∀ first second : Fin 3, first ≠ second →
      (slotSuffixes first).1 ≠ (slotSuffixes second).1 ∧
        (slotSuffixes first).2 ≠ (slotSuffixes second).2 := by
    decide +kernel
  exact apart ⟨slot, by omega⟩ ⟨other, by omega⟩ fun same => different (Fin.mk.inj same)

/-- Proposals of different slots have different names. -/
theorem names_ne {slot other : Nat} {proposal earlier : CandidateTestProposal}
    (named : NamedBy settings slot proposal) (otherNamed : NamedBy settings other earlier)
    (bounded : slot ≤ 2) (otherBounded : other ≤ 2) (different : slot ≠ other) :
    proposal.candidateId ≠ earlier.candidateId ∧ proposal.targetPath ≠ earlier.targetPath := by
  obtain ⟨suffixes, pathSuffixes⟩ := slotSuffixes_ne bounded otherBounded different
  constructor
  · rw [named.candidateId, otherNamed.candidateId]
    intro same
    have lists := congrArg String.toList same
    rw [String.toList_append, String.toList_append] at lists
    exact suffixes (String.toList_injective (List.append_cancel_left lists))
  · rw [named.targetPath, otherNamed.targetPath]
    intro same
    exact pathSuffixes (append_text_cancel same)

theorem propose_eq_some {draft : CandidateTestDraft} {directory suffix pathSuffix : String}
    {proposal : CandidateTestProposal}
    (proposed : draft.propose directory suffix pathSuffix = some proposal) :
    proposal.candidateId = "candidate-" ++ suffix ∧ proposal.targetPath =
      directory ++ "test_patchproof_generated_" ++ pathSuffix ++ ".py" := by
  unfold CandidateTestDraft.propose at proposed
  dsimp only at proposed
  split at proposed
  · cases proposed
    exact ⟨rfl, rfl⟩
  · cases proposed

/-! ## Judgements -/

/-- A judged proposal is the proposal that was judged. -/
theorem judgeProposalAfter_proposal {validate : CandidateTestProposal →
      Except CandidateValidationFailure ValidatedCandidate}
    {previous : Option CandidateAttempt} {attempts : List CandidateAttempt}
    {origin : CandidateOrigin} {proposal : CandidateTestProposal}
    {judgement : CandidateJudgement}
    (judged : judgeProposalAfter validate previous attempts origin proposal = .ok judgement) :
    judgement.proposal = some proposal := by
  unfold judgeProposalAfter at judged
  dsimp only at judged
  generalize (if origin = .repair then previous else none) = compared at judged
  split at judged
  · cases judged
    rfl
  · split at judged
    · cases judged
      rfl
    · split at judged
      · cases judged
      · cases judged
        rfl
      · split at judged
        · cases judged
          rfl
        · cases judged
          rfl

/-- What is recorded of a response bears the names of its call. -/
theorem judge_named {invocation : CandidateInvocation} {text : String}
    {judgement : CandidateJudgement} {proposal : CandidateTestProposal}
    (judged : session.judge settings invocation text = .ok judgement)
    (kept : judgement.proposal = some proposal) :
    proposal.candidateId =
        "candidate-" ++ (candidateSuffixes invocation.origin session.repairCount).1 ∧
      proposal.targetPath = settings.directory ++ "test_patchproof_generated_" ++
        (candidateSuffixes invocation.origin session.repairCount).2 ++ ".py" := by
  unfold judge at judged
  split at judged
  · cases judged
    cases kept
  · split at judged
    · cases judged
    · cases judged
      cases kept
    · unfold judgeDraft at judged
      split at judged
      · obtain ⟨_, _, returned⟩ := Guard.bind_eq_ok_iff.mp judged
        cases returned
        cases kept
      · rename_i proposed
        rw [judgeProposalAfter_proposal judged] at kept
        cases kept
        exact propose_eq_some proposed

/-! ## Lineage -/

/-- Attempts as they follow one another, up to a slot. -/
inductive Lineage (settings : GeneratorSettings) : List CandidateAttempt → Nat → Prop where
  | empty : Lineage settings [] 0
  | snoc {attempts : List CandidateAttempt} {used slot : Nat} {attempt : CandidateAttempt}
      (earlier : Lineage settings attempts used)
      (sequence : attempt.sequence = attempts.length + 1)
      (named : ∀ proposal, attempt.proposal = some proposal → NamedBy settings slot proposal)
      (later : attempts = [] ∨ used < slot)
      (parent : attempt.origin = .repair → ∃ previous, attempts.getLast? = some previous ∧
        attempt.parentCandidateId = previous.proposal.map CandidateTestProposal.candidateId) :
      Lineage settings (attempts ++ [attempt]) slot

theorem Lineage.named {attempts : List CandidateAttempt} {used : Nat}
    (lineage : Lineage settings attempts used) {attempt : CandidateAttempt}
    {proposal : CandidateTestProposal} (mem : attempt ∈ attempts)
    (proposed : attempt.proposal = some proposal) :
    ∃ slot, slot ≤ used ∧ NamedBy settings slot proposal := by
  induction lineage with
  | empty => cases mem
  | snoc earlier _ named later _ ih =>
      rcases List.mem_append.mp mem with before | last
      · obtain ⟨slot, bounded, isNamed⟩ := ih before
        refine ⟨slot, ?_, isNamed⟩
        rcases later with rfl | above
        · cases before
        · omega
      · obtain rfl := List.mem_singleton.mp last
        exact ⟨_, Nat.le_refl _, named proposal proposed⟩

theorem getElem?_snoc {α : Type} {items : List α} {item found : α} {index : Nat}
    (at_ : (items ++ [item])[index]? = some found) :
    (index < items.length ∧ items[index]? = some found) ∨
      (index = items.length ∧ found = item) := by
  rw [List.getElem?_append] at at_
  split at at_
  · rename_i within
    exact .inl ⟨within, at_⟩
  · rename_i beyond
    obtain ⟨bounded, same⟩ := List.getElem?_eq_some_iff.mp at_
    rw [List.length_singleton] at bounded
    have zero : index - items.length = 0 := by omega
    refine .inr ⟨by omega, ?_⟩
    simp only [zero, List.getElem_singleton] at same
    exact same.symm

theorem Lineage.sequence {attempts : List CandidateAttempt} {used : Nat}
    (lineage : Lineage settings attempts used) {index : Nat} {attempt : CandidateAttempt}
    (found : attempts[index]? = some attempt) : attempt.sequence = index + 1 := by
  induction lineage with
  | empty => cases found
  | snoc earlier sequence _ _ _ ih =>
      rcases getElem?_snoc found with ⟨_, before⟩ | ⟨rfl, rfl⟩
      · exact ih before
      · exact sequence

theorem Lineage.names_ne {attempts : List CandidateAttempt} {used : Nat}
    (lineage : Lineage settings attempts used) (bounded : used ≤ 2) {index later : Nat}
    (order : index < later) {attempt other : CandidateAttempt}
    {proposal otherProposal : CandidateTestProposal} (found : attempts[index]? = some attempt)
    (otherFound : attempts[later]? = some other) (proposed : attempt.proposal = some proposal)
    (otherProposed : other.proposal = some otherProposal) :
    proposal.candidateId ≠ otherProposal.candidateId ∧
      proposal.targetPath ≠ otherProposal.targetPath := by
  induction lineage with
  | empty => cases found
  | @snoc attempts used slot last earlier _ named above _ ih =>
      rcases getElem?_snoc otherFound with ⟨within, before⟩ | ⟨rfl, rfl⟩
      · rcases getElem?_snoc found with ⟨_, alsoBefore⟩ | ⟨rfl, _⟩
        · rcases above with rfl | above
          · cases alsoBefore
          · exact ih (by omega) alsoBefore before
        · omega
      · rcases getElem?_snoc found with ⟨_, before⟩ | ⟨rfl, _⟩
        · obtain ⟨earlierSlot, below, isNamed⟩ :=
            earlier.named (List.mem_of_getElem? before) proposed
          rcases above with rfl | above
          · cases before
          · exact CandidateSession.names_ne isNamed (named _ otherProposed) (by omega) bounded
              (by omega)
        · omega

theorem Lineage.parent {attempts : List CandidateAttempt} {used : Nat}
    (lineage : Lineage settings attempts used) {index : Nat} {attempt : CandidateAttempt}
    (found : attempts[index]? = some attempt) (repairs : attempt.origin = .repair) :
    ∃ before previous, index = before + 1 ∧ attempts[before]? = some previous ∧
      attempt.parentCandidateId = previous.proposal.map CandidateTestProposal.candidateId := by
  induction lineage with
  | empty => cases found
  | @snoc attempts used slot last earlier _ _ _ parent ih =>
      rcases getElem?_snoc found with ⟨within, before⟩ | ⟨rfl, rfl⟩
      · obtain ⟨place, previous, rfl, isPrevious, named⟩ := ih before
        refine ⟨place, previous, rfl, ?_, named⟩
        rw [List.getElem?_append_left (by omega)]
        exact isPrevious
      · obtain ⟨previous, isLast, named⟩ := parent repairs
        rw [List.getLast?_eq_getElem?] at isLast
        have some := List.getElem?_eq_some_iff.mp isLast
        obtain ⟨bounded, _⟩ := some
        refine ⟨attempts.length - 1, previous, by omega, ?_, named⟩
        rw [List.getElem?_append_left bounded]
        exact isLast

/-! ## What every stretch keeps -/

/-- What holds of a session between any two stretches of its calls. -/
structure Sound (settings : GeneratorSettings) (session : CandidateSession) : Prop where
  calls : session.modelCalls ≤ maxCandidateModelCalls
  repairs : session.repairCount ≤ maxRepairs
  counted : session.attempts.length + (if session.invoking.isSome then 1 else 0) ≤
    session.modelCalls
  fresh : session.initialStarted = false → session.attempts = [] ∧ session.invoking = none
  previous : ∀ invocation, session.invoking = some invocation →
    invocation.previous = session.attempts.getLast?
  answering : ∀ invocation, session.invoking = some invocation →
    (invocation.origin = .initial → session.attempts = []) ∧
      (invocation.origin = .repair → session.attempts ≠ [])
  lineage : ∃ used, Lineage settings session.attempts used ∧ used ≤ session.repairCount ∧
    ∀ invocation, session.invoking = some invocation → invocation.origin = .repair →
      used < session.repairCount

theorem sound_empty : Sound settings {} where
  calls := by decide
  repairs := by decide
  counted := by decide
  fresh := fun _ => ⟨rfl, rfl⟩
  previous := fun _ absent => by cases absent
  answering := fun _ absent => by cases absent
  lineage := ⟨0, .empty, Nat.le_refl 0, fun _ absent => by cases absent⟩

/-- A call that awaits the model is the only one. -/
theorem invoke_eq_ok {origin : CandidateOrigin} {feedback : Option CandidateFeedback}
    {next : CandidateSession} (invoked : session.invoke settings origin feedback = .ok next) :
    session.invoking = none ∧ session.modelCalls < maxCandidateModelCalls ∧
      next = { session with
        modelCalls := session.modelCalls + 1
        invoking := some ⟨origin, feedback, session.attempts.getLast?⟩ } := by
  unfold invoke at invoked
  split at invoked
  · cases invoked
  · rename_i idle
    split at invoked
    · cases invoked
    · rename_i budget
      dsimp only at invoked
      generalize settings.requestFits _ feedback = fits at invoked
      split at invoked
      · cases invoked
        exact ⟨Option.not_isSome_iff_eq_none.mp idle, Nat.lt_of_not_le budget, rfl⟩
      · cases invoked

theorem Sound.invoke (sound : Sound settings session) {origin : CandidateOrigin}
    {feedback : Option CandidateFeedback} {next : CandidateSession}
    (started : session.initialStarted = true)
    (initial : origin = .initial → session.attempts = [])
    (repairs : origin = .repair → session.attempts ≠ [] ∧
      ∃ used, Lineage settings session.attempts used ∧ used < session.repairCount)
    (invoked : session.invoke settings origin feedback = .ok next) : Sound settings next := by
  obtain ⟨idle, budget, rfl⟩ := invoke_eq_ok invoked
  have counted := sound.counted
  simp only [idle, Option.isSome_none, Bool.false_eq_true, if_false] at counted
  refine { calls := budget, repairs := sound.repairs, counted := ?_, fresh := ?_, previous := ?_,
           answering := ?_, lineage := ?_ }
  · simp only [Option.isSome_some, if_true]
    omega
  · intro fresh
    rw [started] at fresh
    cases fresh
  · intro invocation pending
    cases pending
    rfl
  · intro invocation pending
    cases pending
    exact ⟨initial, fun isRepair => (repairs isRepair).1⟩
  · cases origin with
    | initial =>
        obtain ⟨used, lineage, bounded, _⟩ := sound.lineage
        refine ⟨used, lineage, bounded, fun invocation pending isRepair => ?_⟩
        cases pending
        cases isRepair
    | repair =>
        obtain ⟨_, used, lineage, below⟩ := repairs rfl
        exact ⟨used, lineage, Nat.le_of_lt below, fun _ _ _ => below⟩

theorem Sound.generateInitial (sound : Sound settings session) :
    Sound settings (session.generateInitial settings).1 := by
  unfold CandidateSession.generateInitial
  split
  · exact sound
  · rename_i unstarted
    obtain ⟨none, idle⟩ := sound.fresh (Bool.not_eq_true _ ▸ unstarted)
    have started : Sound settings { session with initialStarted := true } :=
      { sound with fresh := fun absurdity => by cases absurdity }
    dsimp only
    split
    · rename_i invoked
      exact started.invoke rfl (fun _ => none) (fun isRepair => by cases isRepair) invoked
    · exact started

theorem Sound.repair (sound : Sound settings session) (feedback : CandidateFeedback) :
    Sound settings (session.repair settings feedback).1 := by
  unfold CandidateSession.repair
  split
  · exact sound
  · rename_i attempted
    split
    · exact sound
    · rename_i budget
      obtain ⟨used, lineage, bounded, pending⟩ := sound.lineage
      have counted : Sound settings { session with repairCount := session.repairCount + 1 } :=
        { sound with
          repairs := Nat.succ_le_of_lt (Nat.lt_of_not_le fun full => budget (.inl full))
          lineage := ⟨used, lineage, Nat.le_succ_of_le bounded,
            fun _ _ _ => Nat.lt_succ_of_le bounded⟩ }
      have started : session.initialStarted = true := by
        cases unstarted : session.initialStarted with
        | true => rfl
        | false => exact absurd (sound.fresh unstarted).1 attempted
      dsimp only
      split
      · rename_i invoked
        exact counted.invoke started (fun isInitial => by cases isInitial)
          (fun _ => ⟨attempted, used, lineage, Nat.lt_succ_of_le bounded⟩) invoked
      · exact counted

/-- A call that ends without an attempt. -/
theorem Sound.released (sound : Sound settings session) :
    Sound settings { session with invoking := none } := by
  obtain ⟨used, lineage, bounded, _⟩ := sound.lineage
  exact {
    calls := sound.calls
    repairs := sound.repairs
    counted := Nat.le_trans (Nat.le_add_right _ _) sound.counted
    fresh := fun unstarted => ⟨(sound.fresh unstarted).1, rfl⟩
    previous := fun _ absent => by cases absent
    answering := fun _ absent => by cases absent
    lineage := ⟨used, lineage, bounded, fun _ absent => by cases absent⟩ }

/-- The attempt of a call continues the lineage. -/
theorem Sound.extend (sound : Sound settings session) {invocation : CandidateInvocation}
    {response : RawCandidateModelResponse} {judgement : CandidateJudgement}
    (invoking : session.invoking = some invocation)
    (judged : ({ session with invoking := none } : CandidateSession).judge settings invocation
      response.text = .ok judgement) :
    ∃ used, Lineage settings
      (session.attempts ++ [session.record settings invocation response judgement]) used ∧
        used ≤ session.repairCount := by
  obtain ⟨used, lineage, bounded, pending⟩ := sound.lineage
  obtain ⟨initial, repairs⟩ := sound.answering invocation invoking
  have named := fun (proposal : CandidateTestProposal)
    (kept : judgement.proposal = some proposal) => judge_named judged kept
  cases origin : invocation.origin with
  | initial =>
      refine ⟨0, .snoc lineage rfl (fun proposal kept => ?_) (.inl (initial origin)) ?_,
        Nat.zero_le _⟩
      · obtain ⟨candidateId, targetPath⟩ := named proposal kept
        rw [origin] at candidateId targetPath
        exact ⟨candidateId, targetPath⟩
      · intro isRepair
        cases origin.symm.trans isRepair
  | repair =>
      have below := pending invocation invoking origin
      refine ⟨session.repairCount, .snoc lineage rfl (fun proposal kept => ?_) (.inr below) ?_,
        Nat.le_refl _⟩
      · obtain ⟨candidateId, targetPath⟩ := named proposal kept
        rw [origin] at candidateId targetPath
        obtain ⟨count, isCount⟩ := Nat.exists_eq_succ_of_ne_zero (Nat.ne_of_gt
          (Nat.lt_of_le_of_lt (Nat.zero_le used) below))
        dsimp only at candidateId targetPath
        rw [isCount] at candidateId targetPath ⊢
        exact ⟨candidateId, targetPath⟩
      · intro _
        have isPrevious := sound.previous invocation invoking
        obtain ⟨last, isLast⟩ := Option.ne_none_iff_exists'.mp
          (mt List.getLast?_eq_none_iff.mp (repairs origin))
        refine ⟨last, isLast, ?_⟩
        simp only [record, origin, if_true, isPrevious, isLast, Option.bind_some]

theorem Sound.answer (sound : Sound settings session) {invocation : CandidateInvocation}
    (invoking : session.invoking = some invocation) (response : RawCandidateModelResponse) :
    Sound settings (session.answer settings invocation response).1 := by
  unfold CandidateSession.answer
  dsimp only
  split
  · exact sound.released
  · rename_i judgement judged
    obtain ⟨used, lineage, bounded⟩ := sound.extend invoking judged
    have counted := sound.counted
    simp only [invoking, Option.isSome_some, if_true] at counted
    refine { calls := sound.calls, repairs := sound.repairs, counted := ?_, fresh := ?_,
             previous := ?_, answering := ?_, lineage := ?_ }
    · simpa using counted
    · intro unstarted
      have idle := (sound.fresh unstarted).2
      rw [invoking] at idle
      cases idle
    · intro _ absent
      cases absent
    · intro _ absent
      cases absent
    · exact ⟨used, lineage, bounded, fun _ absent => by cases absent⟩

theorem Step.sound {event : SessionEvent} {next : CandidateSession}
    (step : Step settings session event next)
    (sound : Sound settings session) : Sound settings next := by
  cases step with
  | generateInitial => exact sound.generateInitial
  | repair feedback => exact sound.repair feedback
  | answered invocation response invoking => exact sound.answer invoking response
  | failed => exact sound.released

theorem Reaches.sound (reaches : Reaches settings session) : Sound settings session := by
  induction reaches with
  | refl => exact sound_empty
  | tail _ taken ih =>
      obtain ⟨_, step⟩ := taken
      exact step.sound ih

/-! ## Sessions -/

/-- What holds of a session at all times. -/
structure SessionInvariants (session : CandidateSession) : Prop where
  calls : session.modelCalls ≤ 3
  repairs : session.repairCount ≤ 2
  counted : session.attempts.length ≤ session.modelCalls
  sequences : ∀ index attempt, session.attempts[index]? = some attempt →
    attempt.sequence = index + 1
  names : ∀ index later : Nat, index < later → ∀ (attempt other : CandidateAttempt)
    (proposal otherProposal : CandidateTestProposal), session.attempts[index]? = some attempt →
    session.attempts[later]? = some other → attempt.proposal = some proposal →
    other.proposal = some otherProposal → proposal.candidateId ≠ otherProposal.candidateId ∧
      proposal.targetPath ≠ otherProposal.targetPath
  parents : ∀ index attempt, session.attempts[index]? = some attempt →
    attempt.origin = .repair → ∃ before previous, index = before + 1 ∧
      session.attempts[before]? = some previous ∧
      attempt.parentCandidateId = previous.proposal.map CandidateTestProposal.candidateId
  validated : ∀ attempt ∈ session.attempts,
    attempt.status = .validated ↔ attempt.validated.isSome = true

/-- **Whatever calls overlap and whatever the model answers, the counters of a session stay
within their limits and its attempts form one lineage.** -/
theorem session_invariants (reaches : Reaches settings session) : SessionInvariants session := by
  have sound := reaches.sound
  obtain ⟨used, lineage, bounded, _⟩ := sound.lineage
  have withinRepairs : used ≤ 2 := Nat.le_trans bounded sound.repairs
  exact {
    calls := sound.calls
    repairs := sound.repairs
    counted := Nat.le_trans (Nat.le_add_right _ _) sound.counted
    sequences := fun _ _ found => lineage.sequence found
    names := fun _ _ order _ _ _ _ found otherFound proposed otherProposed =>
      lineage.names_ne withinRepairs order found otherFound proposed otherProposed
    parents := fun _ _ found isRepair => lineage.parent found isRepair
    validated := fun attempt _ => attempt.validatedIff }

/-! ## Changes of behaviour -/

/-- The fingerprint of the candidate that was validated last, and so executed last. -/
def executedFingerprint (attempts : List CandidateAttempt) : Option Sha256 :=
  (attempts.filter fun attempt => attempt.status = .validated).getLast?.bind
    CandidateAttempt.behaviorFingerprint

/-- No validated repair behaves as the candidate that was validated before it. -/
def ChangesBehavior (attempts : List CandidateAttempt) : Prop :=
  ∀ index attempt, attempts[index]? = some attempt → attempt.origin = .repair →
    attempt.status = .validated → ∀ fingerprint,
      executedFingerprint (attempts.take index) = some fingerprint →
      attempt.behaviorFingerprint ≠ some fingerprint

/-- A proposal that the validator is asked about. -/
def IsNew (previous : Option CandidateAttempt) (attempts : List CandidateAttempt)
    (origin : CandidateOrigin) (proposal : CandidateTestProposal) : Prop :=
  (origin = .repair → ∀ earlier, previous.bind CandidateAttempt.proposal = some earlier →
    earlier.source.text ≠ proposal.source.text) ∧
  ∀ attempt ∈ attempts, ∀ earlier, attempt.proposal = some earlier →
    earlier.candidateId ≠ proposal.candidateId

/-- A response whose draft is well formed, new to the generator and accepted by the
validator. -/
def Accepts (settings : GeneratorSettings) (session : CandidateSession)
    (invocation : CandidateInvocation) (text : String) (candidate : ValidatedCandidate) : Prop :=
  text.length ≤ settings.maxResponseChars ∧ ∃ draft proposal,
    settings.decodeDraft text = .ok (some draft) ∧
    draft.propose settings.directory
      (candidateSuffixes invocation.origin session.repairCount).1
      (candidateSuffixes invocation.origin session.repairCount).2 = some proposal ∧
    IsNew invocation.previous session.attempts invocation.origin proposal ∧
    settings.validate proposal = .ok candidate

/-- A repair that behaves as the candidate that was validated last, while the attempt just
before it has no fingerprint to compare with. -/
def Masked (settings : GeneratorSettings) (session : CandidateSession) : SessionEvent → Prop
  | .answered response => ∃ invocation candidate, session.invoking = some invocation ∧
      invocation.origin = .repair ∧ Accepts settings session invocation response.text candidate ∧
      session.attempts.getLast?.bind CandidateAttempt.behaviorFingerprint = none ∧
      executedFingerprint session.attempts = some candidate.behaviorFingerprint
  | _ => False

/-- The sessions that no masked repair has entered. -/
def ReachesUnmasked (settings : GeneratorSettings) (session : CandidateSession) : Prop :=
  Relation.ReflTransGen (fun before after => ∃ event, ¬ Masked settings before event ∧
    Step settings before event after) {} session

theorem executedFingerprint_snoc (attempts : List CandidateAttempt) (attempt : CandidateAttempt) :
    executedFingerprint (attempts ++ [attempt]) = if attempt.status = .validated then
      attempt.behaviorFingerprint else executedFingerprint attempts := by
  unfold executedFingerprint
  rw [List.filter_append]
  split
  · rename_i validated
    simp [validated]
  · rename_i refused
    simp [refused]

theorem changesBehavior_snoc {attempts : List CandidateAttempt} {attempt : CandidateAttempt} :
    ChangesBehavior (attempts ++ [attempt]) ↔ ChangesBehavior attempts ∧
      (attempt.origin = .repair → attempt.status = .validated → ∀ fingerprint,
        executedFingerprint attempts = some fingerprint →
        attempt.behaviorFingerprint ≠ some fingerprint) := by
  constructor
  · intro changes
    refine ⟨fun index earlier found => ?_, ?_⟩
    · obtain ⟨bounded, _⟩ := List.getElem?_eq_some_iff.mp found
      have kept := changes index earlier (by rw [List.getElem?_append_left bounded]; exact found)
      rwa [List.take_append_of_le_length (Nat.le_of_lt bounded)] at kept
    · have last := changes attempts.length attempt (by simp)
      rwa [List.take_left] at last
  · rintro ⟨changes, last⟩ index found at_
    rcases getElem?_snoc at_ with ⟨bounded, before⟩ | ⟨rfl, rfl⟩
    · rw [List.take_append_of_le_length (Nat.le_of_lt bounded)]
      exact changes index found before
    · rw [List.take_left]
      exact last

section Judgements

variable {validate : CandidateTestProposal →
    Except CandidateValidationFailure ValidatedCandidate}
  {previous : Option CandidateAttempt} {attempts : List CandidateAttempt}
  {origin : CandidateOrigin} {proposal : CandidateTestProposal}

theorem isNew_iff : IsNew previous attempts origin proposal ↔
    (((if origin = .repair then previous else none).bind CandidateAttempt.proposal).any
      fun earlier => decide (earlier.source.text = proposal.source.text)) = false ∧
    (attempts.any fun attempt =>
      attempt.proposal.any fun earlier => earlier.candidateId = proposal.candidateId) = false := by
  unfold IsNew
  refine and_congr ?_ ?_
  · split
    · rename_i isRepair
      rw [forall_prop_of_true isRepair]
      cases previous.bind CandidateAttempt.proposal <;> simp
    · rename_i isInitial
      simp [isInitial]
  · rw [List.any_eq_false]
    refine forall_congr' fun attempt => forall_congr' fun _ => ?_
    cases attempt.proposal <;> simp

/-- The judgement of a proposal that is not new. -/
theorem judgeProposalAfter_of_not_new {judgement : CandidateJudgement}
    (known : ¬ IsNew previous attempts origin proposal)
    (judged : judgeProposalAfter validate previous attempts origin proposal = .ok judgement) :
    judgement.status ≠ .validated ∧ judgement.behaviorFingerprint = none := by
  rw [isNew_iff, not_and_or, Bool.not_eq_false, Bool.not_eq_false] at known
  unfold judgeProposalAfter at judged
  dsimp only at judged
  generalize (if origin = .repair then previous else none) = compared at known judged
  split at judged
  · cases judged
    exact ⟨fun absurdity => (by cases absurdity), rfl⟩
  · rename_i sourceIsNew
    rw [if_pos (known.resolve_left sourceIsNew)] at judged
    cases judged
    exact ⟨fun absurdity => (by cases absurdity), rfl⟩

/-- The judgement of a new proposal follows the validator. -/
theorem judgeProposalAfter_of_new (isNew : IsNew previous attempts origin proposal) :
    judgeProposalAfter validate previous attempts origin proposal =
      match validate proposal with
      | .error (.raised exception) => .error exception
      | .error (.issues issues) => .ok
          { status := .rejected, proposal := some proposal, issues := issues }
      | .ok candidate =>
          if origin = .repair ∧ previous.bind CandidateAttempt.behaviorFingerprint =
              some candidate.behaviorFingerprint then
            .ok (.refuse .rejected (some proposal) (some candidate.behaviorFingerprint)
              .noBehavioralRepairChange
              ⟨"repair must materially change executable test behavior, " ++
                "not only formatting, comments, or unused imports", by decide⟩)
          else .ok
            { status := .validated
              proposal := some proposal
              validated := some candidate
              behaviorFingerprint := some candidate.behaviorFingerprint
              validatedIff := ⟨fun _ => rfl, fun _ => rfl⟩ } := by
  obtain ⟨sourceIsNew, idIsNew⟩ := isNew_iff.mp isNew
  unfold judgeProposalAfter
  dsimp only
  rw [if_neg (Bool.eq_false_iff.mp sourceIsNew), if_neg (Bool.eq_false_iff.mp idIsNew)]
  split
  · rfl
  · rfl
  · refine if_congr ?_ rfl rfl
    cases origin with
    | initial => simp
    | repair =>
        cases fingerprint : previous.bind CandidateAttempt.behaviorFingerprint with
        | none => simp [fingerprint]
        | some earlier =>
            rw [if_pos rfl, fingerprint]
            simp only [Option.any_some, decide_eq_true_eq, true_and, Option.some.injEq]
            exact eq_comm

end Judgements

/-- What a judgement says about a response: it carries no fingerprint, or it is of a
candidate that the validator accepted. -/
theorem judge_cases {invocation : CandidateInvocation} {text : String}
    {judgement : CandidateJudgement}
    (judged : session.judge settings invocation text = .ok judgement) :
    (judgement.status ≠ .validated ∧ judgement.behaviorFingerprint = none) ∨
      ∃ candidate, Accepts settings session invocation text candidate ∧
        judgement.behaviorFingerprint = some candidate.behaviorFingerprint ∧
        (judgement.status = .validated ↔ ¬ (invocation.origin = .repair ∧
          invocation.previous.bind CandidateAttempt.behaviorFingerprint =
            some candidate.behaviorFingerprint)) := by
  unfold judge at judged
  split at judged
  · cases judged
    exact .inl ⟨fun absurdity => (by cases absurdity), rfl⟩
  · rename_i within
    split at judged
    · cases judged
    · cases judged
      exact .inl ⟨fun absurdity => (by cases absurdity), rfl⟩
    · rename_i draft decoded
      unfold judgeDraft at judged
      split at judged
      · obtain ⟨_, _, returned⟩ := Guard.bind_eq_ok_iff.mp judged
        cases returned
        exact .inl ⟨fun absurdity => (by cases absurdity), rfl⟩
      · rename_i proposal proposed
        by_cases isNew : IsNew invocation.previous session.attempts invocation.origin proposal
        · rw [judgeProposalAfter_of_new isNew] at judged
          split at judged
          · cases judged
          · cases judged
            exact .inl ⟨fun absurdity => (by cases absurdity), rfl⟩
          · rename_i candidate validated
            refine .inr ⟨candidate, ⟨Nat.le_of_not_lt within, draft, proposal, decoded, proposed,
              isNew, validated⟩, ?_⟩
            split at judged
            · rename_i same
              cases judged
              exact ⟨rfl, fun absurdity => (by cases absurdity), fun different => absurd same different⟩
            · rename_i different
              cases judged
              exact ⟨rfl, fun _ => different, fun _ => rfl⟩
        · exact .inl (judgeProposalAfter_of_not_new isNew judged)

/-- An accepted candidate that is not compared with its like is validated. -/
theorem judge_of_accepts {invocation : CandidateInvocation} {text : String}
    {candidate : ValidatedCandidate} (accepts : Accepts settings session invocation text candidate)
    (compared : ¬ (invocation.origin = .repair ∧
      invocation.previous.bind CandidateAttempt.behaviorFingerprint =
        some candidate.behaviorFingerprint)) :
    ∃ judgement, session.judge settings invocation text = .ok judgement ∧
      judgement.status = .validated ∧
      judgement.behaviorFingerprint = some candidate.behaviorFingerprint := by
  obtain ⟨within, draft, proposal, decoded, proposed, isNew, validated⟩ := accepts
  unfold judge
  rw [if_neg (Nat.not_lt_of_le within), decoded]
  dsimp only [judgeDraft]
  rw [proposed]
  dsimp only
  rw [judgeProposalAfter_of_new isNew, validated]
  dsimp only
  rw [if_neg compared]
  exact ⟨_, rfl, rfl, rfl⟩

/-! ## Repairs change behaviour -/

/-- The fingerprint of the last attempt, if it has one, is that of the candidate that was
validated last. -/
def Fingerprinted (attempts : List CandidateAttempt) : Prop :=
  ∀ fingerprint, attempts.getLast?.bind CandidateAttempt.behaviorFingerprint = some fingerprint →
    executedFingerprint attempts = some fingerprint

theorem fingerprinted_snoc {attempts : List CandidateAttempt} {attempt : CandidateAttempt}
    (refused : attempt.status ≠ .validated → ∀ fingerprint,
      attempt.behaviorFingerprint = some fingerprint →
      executedFingerprint attempts = some fingerprint) :
    Fingerprinted (attempts ++ [attempt]) := by
  intro fingerprint last
  rw [List.getLast?_concat, Option.bind_some] at last
  rw [executedFingerprint_snoc]
  split
  · exact last
  · rename_i status
    exact refused status fingerprint last

theorem generateInitial_attempts :
    (session.generateInitial settings).1.attempts = session.attempts := by
  unfold generateInitial
  split
  · rfl
  · dsimp only
    split
    · rename_i invoked
      obtain ⟨_, _, rfl⟩ := invoke_eq_ok invoked
      rfl
    · rfl

theorem repair_attempts (feedback : CandidateFeedback) :
    (session.repair settings feedback).1.attempts = session.attempts := by
  unfold repair
  split
  · rfl
  · split
    · rfl
    · dsimp only
      split
      · rename_i invoked
        obtain ⟨_, _, rfl⟩ := invoke_eq_ok invoked
        rfl
      · rfl

/-- An answer adds the attempt of its judgement, or nothing when the judgement raises. -/
theorem answer_attempts (invocation : CandidateInvocation) (response : RawCandidateModelResponse) :
    (session.answer settings invocation response).1.attempts =
      match session.judge settings invocation response.text with
      | .error _ => session.attempts
      | .ok judgement =>
          session.attempts ++ [session.record settings invocation response judgement] := by
  have same : ({ session with invoking := none } : CandidateSession).judge settings invocation
      response.text = session.judge settings invocation response.text := rfl
  unfold answer
  dsimp only
  rw [same]
  split
  · rfl
  · rfl

theorem Step.fingerprinted {event : SessionEvent} {next : CandidateSession}
    (step : Step settings session event next) (sound : Sound settings session)
    (kept : Fingerprinted session.attempts) : Fingerprinted next.attempts := by
  cases step with
  | generateInitial => rwa [generateInitial_attempts]
  | repair feedback => rwa [repair_attempts]
  | failed => exact kept
  | answered invocation response invoking =>
      rw [answer_attempts]
      split
      · exact kept
      · rename_i judgement judged
        refine fingerprinted_snoc fun refused fingerprint has => ?_
        change judgement.status ≠ .validated at refused
        change judgement.behaviorFingerprint = some fingerprint at has
        rcases judge_cases judged with ⟨_, absent⟩ | ⟨candidate, _, isCandidate, status⟩
        · rw [absent] at has
          cases has
        · obtain ⟨_, compared⟩ := Decidable.not_not.mp (mt status.mpr refused)
          rw [sound.previous invocation invoking, ← isCandidate, has] at compared
          exact kept fingerprint compared

/-- A step keeps the repairs changing behaviour exactly when it is not masked. -/
theorem Step.changesBehavior_iff {event : SessionEvent} {next : CandidateSession}
    (step : Step settings session event next) (sound : Sound settings session)
    (kept : Fingerprinted session.attempts) :
    ChangesBehavior next.attempts ↔
      ChangesBehavior session.attempts ∧ ¬ Masked settings session event := by
  cases step with
  | generateInitial => simp [generateInitial_attempts, Masked]
  | repair feedback => simp [repair_attempts, Masked]
  | failed => simp [Masked]
  | answered invocation response invoking =>
      have previous := sound.previous invocation invoking
      have validates : Masked settings session (.answered response) → ∃ judgement candidate,
          session.judge settings invocation response.text = .ok judgement ∧
          invocation.origin = .repair ∧ judgement.status = .validated ∧
          executedFingerprint session.attempts = some candidate ∧
          judgement.behaviorFingerprint = some candidate := by
        rintro ⟨pending, candidate, isPending, isRepair, accepts, absent, executed⟩
        rw [invoking] at isPending
        cases isPending
        obtain ⟨judgement, judged, status, fingerprint⟩ :=
          judge_of_accepts accepts fun ⟨_, compared⟩ => by
            rw [previous, absent] at compared
            cases compared
        exact ⟨judgement, _, judged, isRepair, status, executed, fingerprint⟩
      rw [answer_attempts]
      split
      · rename_i exception raised
        refine ⟨fun changes => ⟨changes, fun masked => ?_⟩, And.left⟩
        obtain ⟨judgement, _, judged, _⟩ := validates masked
        rw [raised] at judged
        cases judged
      · rename_i judgement judged
        rw [changesBehavior_snoc]
        refine and_congr_right fun _ => ⟨fun changes masked => ?_, fun unmasked => ?_⟩
        · obtain ⟨same, fingerprint, isSame, isRepair, status, executed, has⟩ := validates masked
          rw [judged] at isSame
          cases isSame
          exact changes isRepair status fingerprint executed has
        · intro isRepair status fingerprint executed has
          change judgement.behaviorFingerprint = some fingerprint at has
          rcases judge_cases judged with ⟨refused, _⟩ | ⟨candidate, accepts, isCandidate, compared⟩
          · exact refused status
          · have isSame : executedFingerprint session.attempts =
                some candidate.behaviorFingerprint := by
              rw [executed, ← has, isCandidate]
            have different := fun same => compared.mp status ⟨isRepair, same⟩
            rw [previous] at different
            refine unmasked ⟨invocation, candidate, invoking, isRepair, accepts, ?_, isSame⟩
            -- a fingerprint of the last attempt would be the one executed last
            cases last : session.attempts.getLast?.bind CandidateAttempt.behaviorFingerprint with
            | none => rfl
            | some found =>
                have isExecuted := kept found last
                rw [isSame] at isExecuted
                exact absurd (last.trans isExecuted.symm) different

theorem Reaches.fingerprinted (reaches : Reaches settings session) :
    Fingerprinted session.attempts := by
  induction reaches with
  | refl =>
      intro fingerprint absent
      cases absent
  | tail before taken ih =>
      obtain ⟨_, step⟩ := taken
      exact step.fingerprinted (Reaches.sound before) ih

theorem ReachesUnmasked.reaches (reaches : ReachesUnmasked settings session) :
    Reaches settings session := by
  induction reaches with
  | refl => exact .refl
  | tail _ taken ih =>
      obtain ⟨event, _, step⟩ := taken
      exact ih.tail ⟨event, step⟩

/-- **Along the runs of a session that no masked repair enters, every validated repair
differs in its fingerprint from the candidate that was validated before it; a masked repair
never does.** -/
theorem repairs_change_behavior (settings : GeneratorSettings) :
    (∀ session, ReachesUnmasked settings session → ChangesBehavior session.attempts) ∧
      ∀ session event next, Reaches settings session → Step settings session event next →
        Masked settings session event → ¬ ChangesBehavior next.attempts := by
  constructor
  · intro session reaches
    induction reaches with
    | refl =>
        intro index attempt absent
        cases absent
    | tail before taken ih =>
        obtain ⟨event, unmasked, step⟩ := taken
        have reached := ReachesUnmasked.reaches before
        exact (step.changesBehavior_iff reached.sound reached.fingerprinted).mpr ⟨ih, unmasked⟩
  · intro session event next reaches step masked changes
    exact ((step.changesBehavior_iff reaches.sound reaches.fingerprinted).mp changes).2 masked

end CandidateSession

/-! ## A masked repair -/

/-- A validator that grounds no import and gives all sources of one test the same
fingerprint, as it does when they differ in their comments. -/
def acceptEverySource (proposal : CandidateTestProposal) :
    Except CandidateValidationFailure ValidatedCandidate :=
  if wellFormed : proposal.source.text ≠ "" ∧ isArtifactPath proposal.targetPath = true ∧
      isNodeIdOf proposal.targetPath
        (proposal.targetPath ++ "::" ++ proposal.testFunction) = true then
    .ok {
      proposal := proposal
      artifact := {
        relativePath := proposal.targetPath
        nodeId := proposal.targetPath ++ "::" ++ proposal.testFunction
        content := proposal.source.text
        wellFormed := wellFormed }
      importedRoots := []
      behaviorFingerprint := sampleSha256 }
  else .error (.issues [])

/-- A generator whose responses are the sources themselves. -/
def sampleGenerator : GeneratorSettings where
  directory := "tests/"
  signatures := .absent sampleSha256
  requestFits _ _ := true
  digest _ := sampleSha256
  decodeDraft text := .ok (if bounded : 1 ≤ text.length ∧ text.length ≤ 16000 then
    some ⟨⟨text, bounded⟩, ⟨"because", by decide⟩⟩ else none)
  describe _ := .ok ()
  validate := acceptEverySource

def sampleFeedback : CandidateFeedback :=
  ⟨⟨"EXECUTION", by decide⟩, ⟨"Both revisions passed.", by decide⟩, .empty 5 _,
    CandidateFeedback.noObservations_notBlank⟩

/-- A session after the model has answered the call that is under way. -/
def CandidateSession.respond (session : CandidateSession) (text : String)
    (notEmpty : text ≠ "" := by decide) : CandidateSession :=
  match session.invoking with
  | some invocation => (session.answer sampleGenerator invocation ⟨text, notEmpty, sampleUsage⟩).1
  | none => session

/-- The session in which the first repair returns the initial source again. -/
def duplicatedSession : CandidateSession :=
  (((({} : CandidateSession).generateInitial sampleGenerator).1.respond "def test(): f()").repair
    sampleGenerator sampleFeedback).1.respond "def test(): f()"

/-- The session in which the second repair only adds a comment. -/
def maskedSession : CandidateSession :=
  (duplicatedSession.repair sampleGenerator sampleFeedback).1.respond "def test(): f() # again"

namespace CandidateSession

theorem Reaches.respond {session : CandidateSession} (reaches : Reaches sampleGenerator session)
    (text : String) (notEmpty : text ≠ "") :
    Reaches sampleGenerator (session.respond text notEmpty) := by
  unfold CandidateSession.respond
  split
  · rename_i invocation invoking
    exact reaches.tail ⟨_, .answered session invocation _ invoking⟩
  · exact reaches

theorem duplicatedSession_reaches : Reaches sampleGenerator duplicatedSession := by
  have initial : Reaches sampleGenerator (({} : CandidateSession).generateInitial
      sampleGenerator).1 := .single ⟨_, .generateInitial _⟩
  have answered := initial.respond "def test(): f()" (by decide)
  have repairing : Reaches sampleGenerator _ :=
    answered.tail ⟨_, .repair _ sampleFeedback⟩
  exact repairing.respond "def test(): f()" (by decide)

theorem maskedSession_reaches : Reaches sampleGenerator maskedSession := by
  have repairing : Reaches sampleGenerator _ :=
    duplicatedSession_reaches.tail ⟨_, .repair _ sampleFeedback⟩
  exact repairing.respond "def test(): f() # again" (by decide)

/-- The session of three attempts is one of the sessions whose invariants hold. -/
theorem session_invariants_masked : maskedSession.attempts.length = 3 ∧
    SessionInvariants maskedSession :=
  ⟨by decide +kernel, session_invariants maskedSession_reaches⟩

/-- A repair that only adds a comment is validated after the source was repeated once. -/
theorem masked_repair_validated : ∃ (settings : GeneratorSettings) (session : CandidateSession),
    Reaches settings session ∧ ¬ ChangesBehavior session.attempts := by
  refine ⟨sampleGenerator, maskedSession, maskedSession_reaches, fun changes => ?_⟩
  have attempts : ∃ first second third, maskedSession.attempts = [first, second, third] ∧
      third.origin = .repair ∧ third.status = .validated ∧
      executedFingerprint [first, second] = some sampleSha256 ∧
      third.behaviorFingerprint = some sampleSha256 := by
    refine ⟨_, _, _, rfl, ?_, ?_, ?_, ?_⟩
    · decide +kernel
    · decide +kernel
    · decide +kernel
    · decide +kernel
  obtain ⟨first, second, third, listed, isRepair, status, executed, fingerprint⟩ := attempts
  rw [listed] at changes
  exact changes 2 third rfl isRepair status sampleSha256 executed fingerprint

end CandidateSession

end PatchProof
