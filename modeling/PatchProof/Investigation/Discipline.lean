import Mathlib.Logic.Relation
import PatchProof.Investigation.ClaimInvestigator
import PatchProof.Investigation.Refusals

/-!
# How an investigation fails

An investigation returns a result or raises invalid output with a transcript, as long as
the starting context is built, the transcript has room for the recorded calls and the
claim's interface fits its field.

The first holds under the default limits.  The second does not follow from the tool
budget: refused calls are recorded too, and the last batch of requests may go beyond the
sixteen records of a transcript.  Nor does the third: an identity is longer than the text
that a claim has for it.
-/

set_option autoImplicit false

namespace PatchProof

/-! ## Outcomes -/

/-- Invalid output with its transcript. -/
def InvestigationException.IsInvalidInvestigation : InvestigationException → Prop
  | .invalidClaimInvestigationOutput _ _ => True
  | _ => False

/-- A result, or invalid output with its transcript. -/
def Disciplined {α : Type} : Except InvestigationException α → Prop
  | .ok _ => True
  | .error exception => exception.IsInvalidInvestigation

@[simp]
theorem disciplined_ok {α : Type} (value : α) :
    Disciplined (.ok value : Except InvestigationException α) := trivial

theorem disciplined_bind {α β : Type} {outcome : Except InvestigationException α}
    {next : α → Except InvestigationException β} :
    Disciplined (outcome >>= next) ↔
      Disciplined outcome ∧ ∀ value, outcome = .ok value → Disciplined (next value) := by
  cases outcome with
  | error exception =>
      constructor
      · intro disciplined
        refine ⟨disciplined, fun value absurdity => ?_⟩
        cases absurdity
      · rintro ⟨disciplined, _⟩
        exact disciplined
  | ok value =>
      constructor
      · intro disciplined
        refine ⟨trivial, fun other same => ?_⟩
        cases same
        exact disciplined
      · rintro ⟨_, continues⟩
        exact continues value rfl

/-- The model itself failed. -/
def ModelFailed {α : Type} (outcome : Except InvestigationException α) : Prop :=
  ∃ message, outcome = .error (.model message)

theorem modelFailed_bind {α β : Type} {outcome : Except InvestigationException α}
    (next : α → Except InvestigationException β) (failed : ModelFailed outcome) :
    ModelFailed (outcome >>= next) := by
  obtain ⟨message, rfl⟩ := failed
  exact ⟨message, rfl⟩

namespace ClaimInvestigator

variable (investigator : ClaimInvestigator) (context : InvestigationStartingContext)
  (conversation : Conversation)

/-! ## The conversations of a run -/

/-- The decision that the model's next response spells. -/
def nextDecision : Option InvestigatorDecision :=
  match investigator.provider.responses conversation.turns with
  | .error _ => none
  | .ok response =>
      if investigator.maxResponseChars < response.text.length then none
      else investigator.provider.decode response.text

/-- The requests for one of the four tools; these are recorded. -/
def knownRequests (decision : InvestigatorDecision) : Nat :=
  decision.toolCalls.items.countP fun request =>
    (InvestigationToolbox.toolNamed request.tool.text).isSome

/-- One round of the loop leads to the next conversation. -/
def GoesOn (next : Conversation) : Prop :=
  investigator.takeTurn context conversation = .ok (.goesOn next)

/-- The calls of this round spend the budget, and one more turn is left. -/
def LeavesLastTurn (last : Conversation) : Prop :=
  ∃ turn, investigator.invoke context conversation = .ok turn ∧
    turn.decision.action = .investigate ∧
    investigator.closeTurn
      (turn.decision.toolCalls.items.foldl investigator.observe turn.conversation) = (last, false)

/-! ## Bounds -/

/-- If the model asks for calls, the transcript has room for their records. -/
def HasRoom : Prop :=
  ∀ decision, investigator.nextDecision conversation = some decision →
    decision.action = .investigate →
    conversation.toolbox.calls.length + knownRequests decision ≤ 16

/-- The text of the identity that a decision claims, if it is admissible, fits the field of
the claim. -/
def ClaimFits (discovered : List String) (decision : InvestigatorDecision) : Prop :=
  ∀ draft, decision.claim = some draft →
    ∀ identity, ObservableIdentity.check draft.interfacePath.text
        draft.interfaceQualifiedName.text = some identity →
    (∃ observable, investigator.observableOf identity context discovered = .ok observable) →
      identity.text.length ≤ 256

/-- If the model concludes, its claim fits. -/
def InterfaceFits : Prop :=
  ∀ decision, investigator.nextDecision conversation = some decision →
    decision.action = .conclude →
    investigator.ClaimFits context conversation.discovered decision

/-- What one response must keep to. -/
structure WithinBounds : Prop where
  room : investigator.HasRoom conversation
  interfaces : investigator.InterfaceFits context conversation
  lastInterfaces : ∀ last, investigator.LeavesLastTurn context conversation last →
    investigator.InterfaceFits context last

variable {investigator context conversation}

theorem hasRoom_iff {decision : InvestigatorDecision}
    (decoded : investigator.nextDecision conversation = some decision) :
    investigator.HasRoom conversation ↔ (decision.action = .investigate →
      conversation.toolbox.calls.length + knownRequests decision ≤ 16) := by
  constructor
  · intro room
    exact room decision decoded
  · intro room other same
    rw [decoded] at same
    cases same
    exact room

theorem interfaceFits_iff {decision : InvestigatorDecision}
    (decoded : investigator.nextDecision conversation = some decision) :
    investigator.InterfaceFits context conversation ↔ (decision.action = .conclude →
      investigator.ClaimFits context conversation.discovered decision) := by
  constructor
  · intro fits
    exact fits decision decoded
  · intro fits other same
    rw [decoded] at same
    cases same
    exact fits

/-! ## Counting records -/

end ClaimInvestigator

theorem InvestigationToolbox.length_calls_call (investigator : RepositoryInvestigator)
    (budget : ToolBudget) (toolbox : InvestigationToolbox) (tool : String)
    (arguments : ToolArguments) :
    (toolbox.call investigator budget tool arguments).2.calls.length =
      toolbox.calls.length + if (toolNamed tool).isSome = true then 1 else 0 := by
  unfold call
  split
  · rename_i unknown
    simp [unknown]
  · rename_i name known
    rw [known, Option.isSome_some, if_pos rfl]
    split
    · exact List.length_append
    · split
      · exact List.length_append
      · split <;> exact List.length_append

namespace ClaimInvestigator

variable {investigator : ClaimInvestigator} {context : InvestigationStartingContext}
  {conversation : Conversation}

theorem length_calls_foldl_observe (requests : List ToolCallRequest)
    (conversation : Conversation) :
    (requests.foldl investigator.observe conversation).toolbox.calls.length =
      conversation.toolbox.calls.length + requests.countP fun request =>
        (InvestigationToolbox.toolNamed request.tool.text).isSome := by
  induction requests generalizing conversation with
  | nil => rfl
  | cons request rest ih =>
      have one := InvestigationToolbox.length_calls_call investigator.planner.investigator
        investigator.toolBudget conversation.toolbox request.tool.text request.toArguments
      rw [List.foldl_cons, ih, List.countP_cons]
      simp only [observe, one]
      omega

theorem calls_closeTurn {next : Conversation} {continues : Bool}
    (closed : investigator.closeTurn conversation = (next, continues)) :
    next.toolbox.calls = conversation.toolbox.calls ∧ next.turns = conversation.turns ∧
      next.discovered = conversation.discovered := by
  unfold closeTurn at closed
  split at closed
  · cases closed
    exact ⟨rfl, rfl, rfl⟩
  · rename_i toolbox begun
    unfold InvestigationToolbox.beginTurn at begun
    split at begun
    · cases begun
    · cases begun
      cases closed
      exact ⟨rfl, rfl, rfl⟩

/-! ## Transcripts -/

theorem transcript_isOk_iff (turns : 0 < conversation.turns) :
    Disciplined (investigator.transcript context conversation) ↔
      conversation.toolbox.calls.length ≤ 16 := by
  unfold transcript
  split
  · rename_i checks
    exact iff_of_true trivial checks.2
  · rename_i unchecked
    exact iff_of_false id fun room => unchecked ⟨turns, room⟩

theorem invalidOutput_disciplined {α : Type} (message : String) (turns : 0 < conversation.turns) :
    Disciplined (investigator.invalidOutput message context conversation :
        Except InvestigationException α) ↔ conversation.toolbox.calls.length ≤ 16 := by
  rw [← transcript_isOk_iff turns, invalidOutput, disciplined_bind]
  exact and_iff_left fun transcript _ => trivial

theorem invalidOutput_bind_disciplined {α β : Type} (message : String)
    (turns : 0 < conversation.turns) (next : α → Except InvestigationException β) :
    Disciplined (investigator.invalidOutput message context conversation >>= next) ↔
      conversation.toolbox.calls.length ≤ 16 := by
  rw [disciplined_bind, invalidOutput_disciplined message turns]
  refine and_iff_left fun value absurdity => ?_
  exact absurd absurdity (invalidOutput_ne_ok value)

/-! ## One response -/

/-- What an invocation of the model does. -/
theorem invoke_cases (investigator : ClaimInvestigator) (context : InvestigationStartingContext)
    (conversation : Conversation) :
    ModelFailed (investigator.invoke context conversation) ∨
      (investigator.nextDecision conversation = none ∧ ∃ message asked,
        investigator.invoke context conversation =
          investigator.invalidOutput message context asked ∧
        asked.toolbox = conversation.toolbox ∧ 0 < asked.turns) ∨
      ∃ turn, investigator.invoke context conversation = .ok turn ∧
        investigator.nextDecision conversation = some turn.decision ∧
        turn.conversation.toolbox = conversation.toolbox ∧
        turn.conversation.discovered = conversation.discovered ∧ 0 < turn.conversation.turns := by
  unfold invoke
  split
  · exact .inl ⟨_, rfl⟩
  · rename_i response answered
    simp only [nextDecision, answered]
    split
    · exact .inr (.inl ⟨rfl, _, _, rfl, rfl, Nat.succ_pos _⟩)
    · split
      · rename_i undecoded
        exact .inr (.inl ⟨undecoded, _, _, rfl, rfl, Nat.succ_pos _⟩)
      · rename_i decision decoded
        exact .inr (.inr ⟨_, rfl, decoded, rfl, rfl, Nat.succ_pos _⟩)

/-! ## Conclusions -/

/-- A path of the repository is a path of a claim. -/
theorem isContextPath_of_isRepositorySourcePath {path : String}
    (wellFormed : isRepositorySourcePath path = true) : isContextPath path = true := by
  unfold isRepositorySourcePath repositorySourcePathProblem at wellFormed
  split at wellFormed
  · cases wellFormed
  · split at wellFormed
    · cases wellFormed
    · rename_i noControl
      split at wellFormed
      · cases wellFormed
      · rename_i separators
        split at wellFormed
        · cases wellFormed
        · rename_i normalized
          simp only [Bool.not_eq_true', Bool.not_eq_false, hasPosixSeparators, isNormalizedSource,
            Bool.and_eq_true, List.all_eq_true] at separators normalized
          simp only [List.any_eq_true, not_exists, not_and] at noControl
          simp only [isContextPath, Bool.and_eq_true, List.all_eq_true, Bool.not_eq_true']
          refine ⟨fun c mem => ?_, fun segment mem => (normalized.1 segment mem).1⟩
          have printable := noControl c mem
          refine ⟨⟨⟨?_, ?_⟩, ?_⟩, ?_⟩
          · rw [bne_iff_ne]
            rintro rfl
            exact Bool.false_ne_true (separators.1.symm.trans (List.contains_iff_mem.mpr mem))
          all_goals
            rw [bne_iff_ne]
            rintro rfl
            exact printable (by decide)

theorem citation_eq_ok (observable : RankedObservable) :
    ∃ cited, citation observable = .ok cited := by
  have wellFormed := isContextPath_of_isRepositorySourcePath observable.identity.path.wellFormed
  have notEmpty : 1 ≤ observable.rank.value.length := by
    cases observable.rank <;> decide
  have bounded : 1 ≤ (truncate 300 (observable.rank.value ++ " shared observable " ++
      observable.identity.qualifiedName.text)).length ∧
      (truncate 300 (observable.rank.value ++ " shared observable " ++
        observable.identity.qualifiedName.text)).length ≤ 300 := by
    simp only [truncate, String.length_ofList, List.length_take, String.length_toList,
      String.length_append]
    omega
  exact ⟨_, dif_pos ⟨wellFormed, bounded⟩⟩

theorem claimOn_cases (identity : ObservableIdentity) (cited : SupportingContextRef)
    (draft : InvestigatorClaimDraft) (reasoning : BoundedText 1 700) :
    (identity.text.length ≤ 256 ∧ ∃ claim, claimOn identity cited draft reasoning = .ok claim) ∨
      ¬ identity.text.length ≤ 256 ∧ ∃ message,
        claimOn identity cited draft reasoning = .error (.validation message) := by
  have wellFormed := isContextPath_of_isRepositorySourcePath identity.path.wellFormed
  have lengths : identity.text.length = identity.path.text.length + 2 +
      identity.qualifiedName.text.length := by
    simp only [ObservableIdentity.text, String.length_append]
    rfl
  unfold claimOn
  split
  · rename_i checks
    exact .inl ⟨checks.2.2, _, rfl⟩
  · rename_i unchecked
    refine .inr ⟨fun fits => unchecked ⟨wellFormed, ?_, fits⟩, _, rfl⟩
    omega

theorem observableOf_error {identity : ObservableIdentity} {discovered : List String}
    {exception : InvestigationException}
    (refused : investigator.observableOf identity context discovered = .error exception) :
    ∃ message, exception = .invalidClaimAgentOutput message := by
  unfold observableOf at refused
  split at refused
  · cases refused
  · unfold admitDiscovered at refused
    dsimp only at refused
    split at refused
    · cases refused
      exact ⟨_, rfl⟩
    · split at refused
      · cases refused
        exact ⟨_, rfl⟩
      · split at refused
        · cases refused
          exact ⟨_, rfl⟩
        · rename_i failure notContract compared
          have byContract := RepositoryInvestigator.compareSymbol_refusedByContract
            investigator.planner.investigator (some identity.path.text) (some identity.qualifiedName.text) (some 4)
          rw [compared] at byContract
          obtain ⟨message, rfl⟩ := byContract
          exact absurd rfl (notContract message)
        · split at refused
          · cases refused
            exact ⟨_, rfl⟩
          · split at refused
            · cases refused
              exact ⟨_, rfl⟩
            · cases refused
              exact ⟨_, rfl⟩
            · split at refused
              · cases refused
                exact ⟨_, rfl⟩
              · cases refused

theorem claimFits_iff {decision : InvestigatorDecision} {draft : InvestigatorClaimDraft}
    {identity : ObservableIdentity} {discovered : List String}
    (drafted : decision.claim = some draft)
    (checked : ObservableIdentity.check draft.interfacePath.text
      draft.interfaceQualifiedName.text = some identity) :
    investigator.ClaimFits context discovered decision ↔
      ((∃ observable, investigator.observableOf identity context discovered = .ok observable) →
        identity.text.length ≤ 256) := by
  constructor
  · intro fits
    exact fits draft drafted identity checked
  · intro fits other otherDrafted otherIdentity otherChecked
    rw [drafted] at otherDrafted
    cases otherDrafted
    rw [checked] at otherChecked
    cases otherChecked
    exact fits

/-- What comes of a decision that concludes. -/
theorem normalize_cases {decision : InvestigatorDecision} (concludes : decision.action = .conclude)
    (discovered : List String) :
    (investigator.ClaimFits context discovered decision ∧
        ((∃ selection, investigator.normalize decision concludes context discovered =
          .ok selection) ∨
        ∃ message, investigator.normalize decision concludes context discovered =
          .error (.invalidClaimAgentOutput message))) ∨
      ¬ investigator.ClaimFits context discovered decision ∧ ∃ message,
        investigator.normalize decision concludes context discovered =
          .error (.validation message) := by
  unfold normalize
  split
  · rename_i undrafted
    refine .inl ⟨fun draft drafted => ?_, .inl ⟨_, rfl⟩⟩
    rw [undrafted] at drafted
    cases drafted
  · rename_i draft drafted
    split
    · rename_i unchecked
      refine .inl ⟨fun other otherDrafted identity checked => ?_, .inr ⟨_, rfl⟩⟩
      rw [drafted] at otherDrafted
      cases otherDrafted
      rw [unchecked] at checked
      cases checked
    · rename_i identity checked
      rw [claimFits_iff drafted checked]
      cases observed : investigator.observableOf identity context discovered with
      | error exception =>
          obtain ⟨message, rfl⟩ := observableOf_error observed
          refine .inl ⟨?_, .inr ⟨message, rfl⟩⟩
          rintro ⟨observable, absurdity⟩
          cases absurdity
      | ok observable =>
          obtain ⟨cited, isCited⟩ := citation_eq_ok observable
          rw [Guard.ok_bind, isCited, Guard.ok_bind]
          rcases claimOn_cases identity cited draft decision.reasoning with
            ⟨fits, claim, built⟩ | ⟨tooLong, message, refused⟩
          · rw [built]
            exact .inl ⟨fun _ => fits, .inl ⟨_, rfl⟩⟩
          · rw [refused]
            exact .inr ⟨fun fits => tooLong (fits ⟨observable, rfl⟩), message, rfl⟩

/-- The outcome of a conclusion: its selection, and its transcript. -/
def settle (investigator : ClaimInvestigator) (context : InvestigationStartingContext)
    (conclusion : Conclusion) :
    Except InvestigationException (ClaimSelection × InvestigationTranscript) := do
  let selection ← investigator.select context conclusion
  let transcript ← investigator.transcript context conclusion.conversation
  return (selection, transcript)

theorem settle_disciplined {conclusion : Conclusion} (turns : 0 < conclusion.conversation.turns) :
    Disciplined (investigator.settle context conclusion) ↔
      conclusion.conversation.toolbox.calls.length ≤ 16 ∧
        investigator.ClaimFits context conclusion.conversation.discovered conclusion.decision := by
  unfold settle select
  rcases normalize_cases conclusion.concludes conclusion.conversation.discovered with
    ⟨fits, ⟨selection, normalized⟩ | ⟨message, normalized⟩⟩ | ⟨tooLong, message, normalized⟩
  · rw [normalized, and_iff_left fits, Guard.ok_bind, ← transcript_isOk_iff turns,
      disciplined_bind]
    exact and_iff_left fun transcript _ => trivial
  · rw [normalized, and_iff_left fits]
    exact invalidOutput_bind_disciplined message turns _
  · rw [normalized]
    exact iff_of_false id fun both => tooLong both.2

/-! ## The last turn -/

theorem lastTurn_disciplined
    (answered : ¬ ModelFailed (investigator.lastTurn context conversation)) :
    Disciplined (investigator.lastTurn context conversation >>= investigator.settle context) ↔
      conversation.toolbox.calls.length ≤ 16 ∧
        investigator.InterfaceFits context conversation := by
  unfold lastTurn at answered ⊢
  rcases investigator.invoke_cases context conversation with
    failed | ⟨undecoded, message, asked, refused, toolbox, turns⟩ |
      ⟨turn, decided, decision, toolbox, discovered, turns⟩
  · exact absurd (modelFailed_bind _ failed) answered
  · rw [refused, bind_assoc, invalidOutput_bind_disciplined message turns, toolbox]
    refine (and_iff_left fun decision decoded => ?_).symm
    rw [undecoded] at decoded
    cases decoded
  · rw [decided, Guard.ok_bind]
    rw [interfaceFits_iff decision]
    split
    · rename_i concludes
      rw [← toolbox, ← discovered]
      exact (settle_disciplined turns).trans
        (and_congr_right fun _ => ⟨fun fits _ => fits, fun fits => fits concludes⟩)
    · rename_i investigates
      rw [invalidOutput_bind_disciplined _ turns, toolbox]
      exact (and_iff_left fun concludes => absurd concludes investigates).symm

/-! ## One round -/

/-- What a round does. -/
theorem takeTurn_cases (investigator : ClaimInvestigator) (context : InvestigationStartingContext)
    (conversation : Conversation) :
    ModelFailed (investigator.takeTurn context conversation) ∨
      (investigator.nextDecision conversation = none ∧ ∃ message asked,
        investigator.takeTurn context conversation =
          investigator.invalidOutput message context asked ∧
        asked.toolbox = conversation.toolbox ∧ 0 < asked.turns) ∨
      ∃ turn, investigator.invoke context conversation = .ok turn ∧
        investigator.nextDecision conversation = some turn.decision ∧
        turn.conversation.toolbox = conversation.toolbox ∧
        turn.conversation.discovered = conversation.discovered ∧
        0 < turn.conversation.turns ∧
        ((∃ concludes, investigator.takeTurn context conversation =
            .ok (.concluded ⟨turn, concludes⟩)) ∨
          turn.decision.action = .investigate ∧ ∃ next,
            next.toolbox.calls.length = conversation.toolbox.calls.length +
              knownRequests turn.decision ∧
            (investigator.GoesOn context conversation next ∨
              investigator.closeTurn (turn.decision.toolCalls.items.foldl investigator.observe
                turn.conversation) = (next, false) ∧
              investigator.takeTurn context conversation =
                investigator.lastTurn context next >>= fun conclusion =>
                  .ok (.concluded conclusion))) := by
  unfold GoesOn takeTurn
  rcases investigator.invoke_cases context conversation with
    failed | ⟨undecoded, message, asked, refused, toolbox, turns⟩ |
      ⟨turn, decided, decision, toolbox, discovered, turns⟩
  · exact .inl (modelFailed_bind _ failed)
  · refine .inr (.inl ⟨undecoded, message, asked, ?_, toolbox, turns⟩)
    rw [refused, invalidOutput, bind_assoc]
    rfl
  · refine .inr (.inr ⟨turn, decided, decision, toolbox, discovered, turns, ?_⟩)
    rw [decided, Guard.ok_bind]
    split
    · rename_i concludes
      exact .inl ⟨concludes, rfl⟩
    · rename_i notConclude
      have investigates : turn.decision.action = .investigate := by
        cases action : turn.decision.action with
        | investigate => rfl
        | conclude => exact absurd action notConclude
      have counted : (turn.decision.toolCalls.items.foldl investigator.observe
          turn.conversation).toolbox.calls.length =
          turn.conversation.toolbox.calls.length + knownRequests turn.decision :=
        length_calls_foldl_observe turn.decision.toolCalls.items turn.conversation
      cases closed : investigator.closeTurn
        (turn.decision.toolCalls.items.foldl investigator.observe turn.conversation) with
      | mk next continues =>
          rw [← (calls_closeTurn closed).1, toolbox] at counted
          refine .inr ⟨investigates, next, counted, ?_⟩
          cases continues with
          | true => exact .inl rfl
          | false => exact .inr ⟨rfl, rfl⟩

/-! ## Runs -/

/-- The loop and what comes of its conclusion. -/
def run (investigator : ClaimInvestigator) (context : InvestigationStartingContext)
    (conversation : Conversation) :
    Except InvestigationException (ClaimSelection × InvestigationTranscript) := do
  let conclusion ← investigator.converse context conversation
  investigator.settle context conclusion

/-- The rest of a run after a round. -/
def afterRound (investigator : ClaimInvestigator) (context : InvestigationStartingContext) :
    Progress → Except InvestigationException (ClaimSelection × InvestigationTranscript)
  | .concluded conclusion => investigator.settle context conclusion
  | .goesOn next => investigator.run context next

theorem run_eq (investigator : ClaimInvestigator) (context : InvestigationStartingContext)
    (conversation : Conversation) :
    investigator.run context conversation =
      investigator.takeTurn context conversation >>= investigator.afterRound context := by
  rw [run, converse]
  split
  · rename_i exception taken
    rw [taken]
    rfl
  · rename_i conclusion taken
    rw [taken]
    rfl
  · rename_i next taken
    have round : investigator.takeTurn context conversation >>= investigator.afterRound context =
        investigator.run context next := by
      rw [taken]
      rfl
    exact round.symm

theorem eq_of_stuck {reached : Conversation}
    (stuck : ∀ next, ¬ investigator.GoesOn context conversation next)
    (steps : Relation.ReflTransGen (investigator.GoesOn context) conversation reached) :
    reached = conversation := by
  rcases steps.cases_head with same | ⟨next, step, _⟩
  · exact same.symm
  · exact absurd step (stuck next)

theorem all_reached_of_stuck {property : Conversation → Prop}
    (stuck : ∀ next, ¬ investigator.GoesOn context conversation next) :
    (∀ reached, Relation.ReflTransGen (investigator.GoesOn context) conversation reached →
      property reached) ↔ property conversation := by
  constructor
  · intro all
    exact all conversation .refl
  · intro here reached steps
    rw [eq_of_stuck stuck steps]
    exact here

theorem all_reached_of_goesOn {property : Conversation → Prop} {next : Conversation}
    (step : investigator.GoesOn context conversation next) :
    (∀ reached, Relation.ReflTransGen (investigator.GoesOn context) conversation reached →
      property reached) ↔
      property conversation ∧ ∀ reached,
        Relation.ReflTransGen (investigator.GoesOn context) next reached → property reached := by
  constructor
  · intro all
    exact ⟨all conversation .refl, fun reached steps => all reached (.head step steps)⟩
  · rintro ⟨here, later⟩ reached steps
    rcases steps.cases_head with rfl | ⟨other, otherStep, steps⟩
    · exact here
    · have same := step.symm.trans otherStep
      cases same
      exact later reached steps

/-! ## Bounds of a round -/

theorem nextDecision_of_invoke {turn : ModelTurn}
    (answered : investigator.invoke context conversation = .ok turn) :
    investigator.nextDecision conversation = some turn.decision := by
  rcases investigator.invoke_cases context conversation with
    ⟨message, failed⟩ | ⟨_, message, asked, refused, _, _⟩ | ⟨other, decided, decision, _⟩
  · rw [answered] at failed
    cases failed
  · exact absurd (refused.symm.trans answered) (invalidOutput_ne_ok _)
  · rw [answered] at decided
    cases decided
    exact decision

theorem withinBounds_of_undecoded (undecoded : investigator.nextDecision conversation = none) :
    investigator.WithinBounds context conversation where
  room decision decoded := by
    rw [undecoded] at decoded
    cases decoded
  interfaces decision decoded := by
    rw [undecoded] at decoded
    cases decoded
  lastInterfaces last leaves := by
    obtain ⟨turn, answered, _⟩ := leaves
    have decoded := nextDecision_of_invoke answered
    rw [undecoded] at decoded
    cases decoded

theorem withinBounds_of_concludes {decision : InvestigatorDecision}
    (decoded : investigator.nextDecision conversation = some decision)
    (concludes : decision.action = .conclude) :
    investigator.WithinBounds context conversation ↔
      investigator.ClaimFits context conversation.discovered decision := by
  constructor
  · intro bounds
    exact bounds.interfaces decision decoded concludes
  · intro fits
    refine ⟨(hasRoom_iff decoded).mpr ?_, (interfaceFits_iff decoded).mpr fun _ => fits, ?_⟩
    · intro investigates
      rw [concludes] at investigates
      cases investigates
    · rintro last ⟨turn, answered, investigates, _⟩
      have same := (nextDecision_of_invoke answered).symm.trans decoded
      cases same
      rw [concludes] at investigates
      cases investigates

theorem withinBounds_of_investigates {turn : ModelTurn}
    (answered : investigator.invoke context conversation = .ok turn)
    (investigates : turn.decision.action = .investigate) :
    investigator.WithinBounds context conversation ↔
      conversation.toolbox.calls.length + knownRequests turn.decision ≤ 16 ∧
        ∀ last, investigator.closeTurn (turn.decision.toolCalls.items.foldl investigator.observe
          turn.conversation) = (last, false) → investigator.InterfaceFits context last := by
  have decoded := nextDecision_of_invoke answered
  constructor
  · intro bounds
    exact ⟨bounds.room _ decoded investigates, fun last closed =>
      bounds.lastInterfaces last ⟨turn, answered, investigates, closed⟩⟩
  · rintro ⟨room, last⟩
    refine ⟨(hasRoom_iff decoded).mpr fun _ => room, (interfaceFits_iff decoded).mpr ?_, ?_⟩
    · intro concludes
      rw [investigates] at concludes
      cases concludes
    · rintro other ⟨otherTurn, otherAnswered, _, closed⟩
      have same := otherAnswered.symm.trans answered
      cases same
      exact last other closed

/-- A round that goes on is within bounds exactly when its records have room. -/
theorem withinBounds_of_goesOn {next : Conversation}
    (step : investigator.GoesOn context conversation next) :
    (investigator.WithinBounds context conversation ↔ next.toolbox.calls.length ≤ 16) ∧
      conversation.toolbox.calls.length ≤ next.toolbox.calls.length := by
  rcases investigator.takeTurn_cases context conversation with
    ⟨message, failed⟩ | ⟨_, message, asked, refused, _, _⟩ |
      ⟨turn, decided, decoded, toolbox, _, _, ⟨concludes, taken⟩ |
        ⟨investigates, other, counted, otherStep | ⟨closed, taken⟩⟩⟩
  · cases step.symm.trans failed
  · exact absurd (refused.symm.trans step) (invalidOutput_ne_ok _)
  · cases step.symm.trans taken
  · have same := step.symm.trans otherStep
    cases same
    rw [withinBounds_of_investigates decided investigates, ← counted]
    refine ⟨and_iff_left fun last closed => ?_, by omega⟩
    have goes := step
    rw [GoesOn, takeTurn, decided, Guard.ok_bind, dif_neg (by rw [investigates]; decide),
      closed] at goes
    obtain ⟨_, _, absurdity⟩ := Guard.bind_eq_ok_iff.mp goes
    cases absurdity
  · rw [GoesOn, taken] at step
    obtain ⟨_, _, absurdity⟩ := Guard.bind_eq_ok_iff.mp step
    cases absurdity

/-- A run with no further round is disciplined exactly when this one is within bounds. -/
theorem run_disciplined_of_stuck
    (answered : ¬ ModelFailed (investigator.run context conversation))
    (stuck : ∀ next, ¬ investigator.GoesOn context conversation next) :
    Disciplined (investigator.run context conversation) ↔
      conversation.toolbox.calls.length ≤ 16 ∧
        investigator.WithinBounds context conversation := by
  rw [run_eq] at answered ⊢
  rcases investigator.takeTurn_cases context conversation with
    failed | ⟨undecoded, message, asked, refused, toolbox, turns⟩ |
      ⟨turn, decided, decoded, toolbox, discovered, turns, ⟨concludes, taken⟩ |
        ⟨investigates, next, counted, step | ⟨closed, taken⟩⟩⟩
  · exact absurd (modelFailed_bind _ failed) answered
  · rw [refused, invalidOutput_bind_disciplined message turns, toolbox]
    exact (and_iff_left (withinBounds_of_undecoded undecoded)).symm
  · rw [taken, Guard.ok_bind, withinBounds_of_concludes decoded concludes, ← toolbox, ← discovered]
    exact settle_disciplined turns
  · exact absurd step (stuck next)
  · have joined : investigator.takeTurn context conversation >>= investigator.afterRound context =
        investigator.lastTurn context next >>= investigator.settle context := by
      rw [taken, bind_assoc]
      rfl
    rw [joined] at answered ⊢
    rw [lastTurn_disciplined fun failed => answered (modelFailed_bind _ failed), counted,
      withinBounds_of_investigates decided investigates]
    constructor
    · rintro ⟨room, fits⟩
      refine ⟨by omega, room, fun last otherClosed => ?_⟩
      have same := closed.symm.trans otherClosed
      cases same
      exact fits
    · rintro ⟨_, room, fits⟩
      exact ⟨room, fits next closed⟩

/-- **A run is disciplined exactly when every round that it comes to is within bounds.** -/
theorem run_disciplined (answered : ¬ ModelFailed (investigator.run context conversation)) :
    Disciplined (investigator.run context conversation) ↔
      conversation.toolbox.calls.length ≤ 16 ∧
        ∀ reached, Relation.ReflTransGen (investigator.GoesOn context) conversation reached →
          investigator.WithinBounds context reached := by
  induction conversation using converse.induct investigator context with
  | case1 conversation exception taken =>
      have stuck : ∀ next, ¬ investigator.GoesOn context conversation next := by
        intro next step
        cases step.symm.trans taken
      rw [all_reached_of_stuck stuck]
      exact run_disciplined_of_stuck answered stuck
  | case2 conversation conclusion taken =>
      have stuck : ∀ next, ¬ investigator.GoesOn context conversation next := by
        intro next step
        cases step.symm.trans taken
      rw [all_reached_of_stuck stuck]
      exact run_disciplined_of_stuck answered stuck
  | case3 conversation next taken counted ih =>
      have same : investigator.run context conversation = investigator.run context next := by
        rw [run_eq, taken]
        rfl
      obtain ⟨bounds, grows⟩ := withinBounds_of_goesOn taken
      rw [same] at answered ⊢
      rw [ih answered, all_reached_of_goesOn taken, bounds]
      constructor
      · rintro ⟨room, later⟩
        exact ⟨by omega, room, later⟩
      · rintro ⟨_, room, later⟩
        exact ⟨room, later⟩

/-! ## Investigations -/

/-- An investigation whose starting context is built is its run. -/
theorem investigate_of_build (built : investigator.planner.build = .ok context) :
    (Disciplined investigator.investigate ↔ Disciplined (investigator.run context {})) ∧
      (ModelFailed (investigator.run context {}) → ModelFailed investigator.investigate) := by
  have started : investigator.startingContext = .ok context := by
    rw [startingContext, built]
  have composed : investigator.investigate = investigator.converse context {} >>= fun conclusion =>
      investigator.settle context conclusion >>= fun outcome =>
        .ok ⟨⟨outcome.1, conclusion.usage, conclusion.responseSha256⟩, outcome.2, context⟩ := by
    simp only [investigate, investigateRun, started, settle, bind_assoc, Guard.ok_bind,
      Guard.pure_eq_ok]
  rw [composed, run]
  cases investigator.converse context {} with
  | error exception =>
      refine ⟨Iff.rfl, ?_⟩
      rintro ⟨message, failed⟩
      cases failed
      exact ⟨message, rfl⟩
  | ok conclusion =>
      rw [Guard.ok_bind, Guard.ok_bind]
      cases investigator.settle context conclusion with
      | error exception =>
          refine ⟨Iff.rfl, ?_⟩
          rintro ⟨message, failed⟩
          cases failed
          exact ⟨message, rfl⟩
      | ok outcome =>
          refine ⟨Iff.rfl, ?_⟩
          rintro ⟨message, failed⟩
          cases failed

/-- **An investigation returns a result or raises invalid output exactly when its starting
context is built and every round is within bounds.** -/
theorem investigate_disciplined_iff (investigator : ClaimInvestigator)
    (answered : ¬ ModelFailed investigator.investigate) :
    Disciplined investigator.investigate ↔ ∃ context, investigator.planner.build = .ok context ∧
      ∀ reached, Relation.ReflTransGen (investigator.GoesOn context) {} reached →
        investigator.WithinBounds context reached := by
  cases built : investigator.planner.build with
  | error failure =>
      have started : investigator.startingContext = .error (.query failure) := by
        rw [startingContext, built]
      have refused : investigator.investigate = .error (.query failure) := by
        rw [investigate, investigateRun, started]
        rfl
      rw [refused]
      refine iff_of_false id ?_
      rintro ⟨context, absurdity, _⟩
      cases absurdity
  | ok context =>
      obtain ⟨same, fails⟩ := investigate_of_build built
      rw [same, run_disciplined fun failed => answered (fails failed)]
      constructor
      · rintro ⟨_, bounds⟩
        exact ⟨context, rfl, bounds⟩
      · rintro ⟨other, sameContext, bounds⟩
        cases sameContext
        exact ⟨Nat.zero_le _, bounds⟩

theorem investigate_disciplined_iff_one :
    Disciplined concludingInvestigator.investigate ↔
      ∃ context, concludingInvestigator.planner.build = .ok context ∧
        ∀ reached, Relation.ReflTransGen (concludingInvestigator.GoesOn context) {} reached →
          concludingInvestigator.WithinBounds context reached := by
  apply investigate_disciplined_iff
  have selects : (selectedClaim concludingInvestigator.investigate).isSome = true := by
    decide +kernel
  rintro ⟨message, failed⟩
  rw [failed] at selects
  cases selects

/-! ## An investigation that strays -/

/-- Ask three times for a symbol on no revision. -/
def sampleRequests : InvestigatorDecision where
  action := .investigate
  reasoning := ⟨"reasoning", reasoning_bounded⟩
  toolCalls := ⟨List.replicate 3 {
    tool := ⟨"inspect_symbol", by decide⟩
    revision := ⟨"MAIN", by decide⟩ }, by decide⟩
  investigates _ := ⟨by decide, rfl, rfl⟩
  concludes absurdity := by cases absurdity

/-- Conclude without a claim. -/
def sampleAbstention : InvestigatorDecision where
  action := .conclude
  reasoning := ⟨"reasoning", reasoning_bounded⟩
  toolCalls := .empty 4 _
  disposition := some .insufficientEvidence
  investigates absurdity := by cases absurdity
  concludes _ := ⟨rfl, by decide⟩

/-- A response of a text. -/
def sampleResponse (text : String) (notEmpty : text ≠ "" := by decide) :
    RawInvestigatorResponse where
  text := text
  notEmpty := notEmpty
  usage := .single

/-- Six turns of requests, all of them refused, and then no claim. -/
def callingInvestigator : ClaimInvestigator where
  planner := concludingInvestigator.planner
  toolBudget := { maxTurns := 8, maxTotalCalls := 16, charsBounded := ToolBudget.chars_bounded }
  charsPositive := ClaimInvestigator.chars_positive
  provider := {
    responses := fun turn => .ok (if turn < 6 then sampleResponse "ask" else sampleResponse "end")
    decode := fun text => some (if text = "ask" then sampleRequests else sampleAbstention)
    digest := fun _ => repeatedDigest '0' isLowerHex_zero
    contextSha256 := fun _ => repeatedDigest '0' isLowerHex_zero }

/-- Whether something did not validate. -/
def failsValidation : Except InvestigationException ClaimInvestigationResult → Bool
  | .error (.validation _) => true
  | _ => false

theorem strays_of_failsValidation {outcome : Except InvestigationException ClaimInvestigationResult}
    (fails : failsValidation outcome = true) : ¬ Disciplined outcome ∧ ¬ ModelFailed outcome := by
  unfold failsValidation at fails
  split at fails
  · refine ⟨id, ?_⟩
    rintro ⟨message, absurdity⟩
    cases absurdity
  · cases fails

/-- Records of refused calls overflow the transcript of an abstention. -/
theorem refused_calls_overflow :
    ¬ Disciplined callingInvestigator.investigate ∧
      ¬ ModelFailed callingInvestigator.investigate :=
  strays_of_failsValidation (by decide +kernel)

end ClaimInvestigator

end PatchProof
