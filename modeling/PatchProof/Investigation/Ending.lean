import PatchProof.Investigation.Discipline

/-!
# How an investigation ends

The loop counts its turns twice: the conversation counts the responses it has asked for, and
the toolbox counts the turns it has begun.  At the head of the loop the two agree, and the
budget bounds the second.  So the model is asked once for each turn of the budget and once
more when the calls have spent it, and what it would answer after that is never looked at.

A result is returned only for a response that concludes.
-/

set_option autoImplicit false

namespace PatchProof

/-! ## Outcomes with a count of turns -/

/-- The outcome returns such a value, or raises with a transcript of at most so many turns. -/
def EndsWithin {α : Type} (most : Nat) (returned : α → Prop) :
    Except InvestigationException α → Prop
  | .ok value => returned value
  | .error (.invalidClaimInvestigationOutput _ transcript) => transcript.turns.value ≤ most
  | .error _ => True

theorem EndsWithin.mono {α : Type} {most larger : Nat} {returned other : α → Prop}
    {outcome : Except InvestigationException α} (ends : EndsWithin most returned outcome)
    (within : most ≤ larger) (weaker : ∀ value, returned value → other value) :
    EndsWithin larger other outcome := by
  cases outcome with
  | ok value => exact weaker value ends
  | error exception =>
      cases exception with
      | invalidClaimInvestigationOutput message transcript =>
          exact Int.le_trans ends (Int.ofNat_le.mpr within)
      | _ => trivial

theorem EndsWithin.bind {α β : Type} {most : Nat} {returned : α → Prop} {later : β → Prop}
    {outcome : Except InvestigationException α} {next : α → Except InvestigationException β}
    (ends : EndsWithin most returned outcome)
    (goesOn : ∀ value, returned value → EndsWithin most later (next value)) :
    EndsWithin most later (outcome >>= next) := by
  cases outcome with
  | ok value => exact goesOn value ends
  | error exception =>
      cases exception with
      | invalidClaimInvestigationOutput message transcript => exact ends
      | _ => trivial

namespace ClaimInvestigator

variable {investigator : ClaimInvestigator} {context : InvestigationStartingContext}
  {conversation : Conversation}

/-! ## Responses -/

/-- The response of this index fits and spells this decision. -/
def Decides (investigator : ClaimInvestigator) (index : Nat) (decision : InvestigatorDecision) :
    Prop :=
  ∃ response, investigator.provider.responses index = .ok response ∧
    response.text.length ≤ investigator.maxResponseChars ∧
    investigator.provider.decode response.text = some decision

/-- The response of this index concludes. -/
def Concludes (investigator : ClaimInvestigator) (index : Nat) : Prop :=
  ∃ decision, investigator.Decides index decision ∧ decision.action = .conclude

theorem transcript_within (most : Nat) :
    EndsWithin most (fun transcript => transcript.turns.value = (conversation.turns : Int))
      (investigator.transcript context conversation) := by
  unfold transcript
  split
  · rfl
  · trivial

theorem invalidOutput_within {α : Type} {most : Nat} (message : String) (returned : α → Prop)
    (within : conversation.turns ≤ most) :
    EndsWithin most returned (investigator.invalidOutput message context conversation) := by
  unfold invalidOutput
  refine (transcript_within most).bind ?_
  intro transcript counted
  change transcript.turns.value ≤ most
  omega

/-- What one invocation asks for and counts. -/
theorem invoke_within (investigator : ClaimInvestigator) (context : InvestigationStartingContext)
    (conversation : Conversation) : EndsWithin (conversation.turns + 1)
      (fun turn => investigator.Decides conversation.turns turn.decision ∧
        turn.conversation.turns = conversation.turns + 1 ∧
        turn.conversation.toolbox = conversation.toolbox)
      (investigator.invoke context conversation) := by
  unfold invoke
  split
  · trivial
  · rename_i response answered
    dsimp only
    split
    · exact invalidOutput_within _ _ (Nat.le_refl _)
    · rename_i fits
      split
      · exact invalidOutput_within _ _ (Nat.le_refl _)
      · rename_i decision decoded
        exact ⟨⟨response, answered, Nat.le_of_not_lt fits, decoded⟩, rfl, rfl⟩

/-! ## The loop -/

/-- At the head of the loop both counts agree and the budget admits the turn. -/
structure AtHead (investigator : ClaimInvestigator) (conversation : Conversation) : Prop where
  counted : (conversation.turns : Int) + 1 = conversation.toolbox.turn.value
  admitted : conversation.toolbox.turn.value ≤ investigator.toolBudget.maxTurns

theorem atHead_start : AtHead investigator {} where
  counted := rfl
  admitted := by
    have positive := investigator.toolBudget.positive.1
    change (1 : Int) ≤ _
    omega

theorem turns_foldl_observe (requests : List ToolCallRequest) (conversation : Conversation) :
    (requests.foldl investigator.observe conversation).turns = conversation.turns := by
  induction requests generalizing conversation with
  | nil => rfl
  | cons request rest ih =>
      rw [List.foldl_cons, ih]
      rfl

theorem turns_closeTurn (investigator : ClaimInvestigator) (conversation : Conversation) :
    (investigator.closeTurn conversation).1.turns = conversation.turns := by
  unfold closeTurn
  split <;> rfl

/-- A conclusion of a response within the budget, with the count of what was asked for. -/
def Ends (investigator : ClaimInvestigator) (conclusion : Conclusion) : Prop :=
  ∃ index ≤ investigator.toolBudget.maxTurns,
    investigator.Decides index conclusion.decision ∧ conclusion.conversation.turns = index + 1

theorem lastTurn_within (within : conversation.turns ≤ investigator.toolBudget.maxTurns) :
    EndsWithin (investigator.toolBudget.maxTurns + 1) investigator.Ends
      (investigator.lastTurn context conversation) := by
  unfold lastTurn
  refine ((investigator.invoke_within context conversation).mono (by omega)
    fun _ asked => asked).bind ?_
  rintro turn ⟨decides, counted, _⟩
  split
  · exact ⟨_, within, decides, counted⟩
  · exact invalidOutput_within _ _ (by omega)

/-- One round: it ends the loop, or leads to its head again. -/
theorem takeTurn_within (context : InvestigationStartingContext)
    (atHead : investigator.AtHead conversation) :
    EndsWithin (investigator.toolBudget.maxTurns + 1)
      (fun progress => match progress with
        | .concluded conclusion => investigator.Ends conclusion
        | .goesOn next => investigator.AtHead next)
      (investigator.takeTurn context conversation) := by
  obtain ⟨counted, admitted⟩ := atHead
  unfold takeTurn
  refine ((investigator.invoke_within context conversation).mono (by omega)
    fun _ asked => asked).bind ?_
  rintro turn ⟨decides, asked, sameToolbox⟩
  split
  · exact ⟨_, by omega, decides, asked⟩
  · have turns := investigator.turns_closeTurn
      (turn.decision.toolCalls.items.foldl investigator.observe turn.conversation)
    rw [turns_foldl_observe, asked] at turns
    split
    · rename_i next closed
      have begun := closeTurn_eq_true closed
      rw [turn_foldl_observe, sameToolbox] at begun
      rw [closed] at turns
      dsimp only at turns
      constructor <;> omega
    · rename_i next closed
      rw [closed] at turns
      dsimp only at turns
      exact (lastTurn_within (by omega)).bind fun conclusion ends => ends

/-- The loop ends within the turns of the budget and one more. -/
theorem converse_within (atHead : investigator.AtHead conversation) :
    EndsWithin (investigator.toolBudget.maxTurns + 1) investigator.Ends
      (investigator.converse context conversation) := by
  fun_induction converse investigator context conversation with
  | case1 conversation exception taken =>
      have ends := takeTurn_within context atHead
      rw [taken] at ends
      cases exception with
      | invalidClaimInvestigationOutput message transcript => exact ends
      | _ => trivial
  | case2 conversation last taken =>
      have ends := takeTurn_within context atHead
      rw [taken] at ends
      exact ends
  | case3 conversation next taken counted ih =>
      have ends := takeTurn_within context atHead
      rw [taken] at ends
      exact ih ends

theorem select_within {conclusion : Conclusion} {most : Nat}
    (within : conclusion.conversation.turns ≤ most) :
    EndsWithin most (fun selection => investigator.normalize conclusion.decision
        conclusion.concludes context conclusion.conversation.discovered = .ok selection)
      (investigator.select context conclusion) := by
  unfold select
  rcases (normalize_cases conclusion.concludes conclusion.conversation.discovered :
      (investigator.ClaimFits context _ _ ∧ _) ∨ _) with
    ⟨_, ⟨selection, normalized⟩ | ⟨message, normalized⟩⟩ | ⟨_, message, normalized⟩
  · rw [normalized]
    exact rfl
  · rw [normalized]
    exact invalidOutput_within _ _ within
  · rw [normalized]
    trivial

/-- A result that stands on a response: it concludes, and the selection is what its decision
comes to. -/
def StandsOn (investigator : ClaimInvestigator) (result : ClaimInvestigationResult)
    (index : Nat) : Prop :=
  result.transcript.turns.value = (index : Int) + 1 ∧
  ∃ decision, investigator.Decides index decision ∧ ∃ concludes discovered,
    investigator.normalize decision concludes result.startingContext discovered =
      .ok result.agentResult.selection

theorem investigate_within (investigator : ClaimInvestigator) :
    EndsWithin (investigator.toolBudget.maxTurns + 1)
      (fun result => ∃ index ≤ investigator.toolBudget.maxTurns,
        investigator.StandsOn result index)
      investigator.investigate := by
  have started : EndsWithin (investigator.toolBudget.maxTurns + 1) (fun _ => True)
      investigator.startingContext := by
    unfold startingContext
    split <;> trivial
  have ran : EndsWithin (investigator.toolBudget.maxTurns + 1)
      (fun run => ∃ index ≤ investigator.toolBudget.maxTurns, investigator.StandsOn run.2 index)
      investigator.investigateRun := by
    refine started.bind fun context _ => ?_
    refine (converse_within atHead_start).bind ?_
    rintro conclusion ⟨index, within, decides, counted⟩
    refine (select_within (by omega)).bind fun selection normalized => ?_
    refine (transcript_within _).bind fun transcript turns => ?_
    refine ⟨index, within, ?_, _, decides, conclusion.concludes, _, normalized⟩
    change transcript.turns.value = _
    omega
  exact ran.bind fun run stands => stands

/-! ## What is never asked for -/

/-- The investigator with another model. -/
def answeredBy (investigator : ClaimInvestigator)
    (responses : Nat → Except String RawInvestigatorResponse) : ClaimInvestigator :=
  { investigator with provider := { investigator.provider with responses := responses } }

variable {responses : Nat → Except String RawInvestigatorResponse}

theorem invoke_answeredBy (same : responses conversation.turns =
      investigator.provider.responses conversation.turns) :
    (investigator.answeredBy responses).invoke context conversation =
      investigator.invoke context conversation := by
  have answered : (investigator.answeredBy responses).provider.responses conversation.turns =
      investigator.provider.responses conversation.turns := same
  unfold invoke
  rw [answered]
  rfl

theorem lastTurn_answeredBy (same : responses conversation.turns =
      investigator.provider.responses conversation.turns) :
    (investigator.answeredBy responses).lastTurn context conversation =
      investigator.lastTurn context conversation := by
  unfold lastTurn
  rw [invoke_answeredBy same]
  rfl

/-- A round looks at its own response, and at the next if the budget is spent. -/
theorem takeTurn_answeredBy (context : InvestigationStartingContext)
    (atHead : investigator.AtHead conversation)
    (same : ∀ index ≤ investigator.toolBudget.maxTurns,
      responses index = investigator.provider.responses index) :
    (investigator.answeredBy responses).takeTurn context conversation =
      investigator.takeTurn context conversation := by
  obtain ⟨counted, admitted⟩ := atHead
  unfold takeTurn
  rw [invoke_answeredBy (same _ (by omega))]
  have asked := investigator.invoke_within context conversation
  cases answered : investigator.invoke context conversation with
  | error exception => rfl
  | ok turn =>
      rw [answered] at asked
      obtain ⟨_, turns, _⟩ := asked
      rw [Guard.ok_bind, Guard.ok_bind]
      split
      · rfl
      · have closedTurns := investigator.turns_closeTurn
          (turn.decision.toolCalls.items.foldl investigator.observe turn.conversation)
        rw [turns_foldl_observe, turns] at closedTurns
        cases closed : investigator.closeTurn (turn.decision.toolCalls.items.foldl
          investigator.observe turn.conversation) with
        | mk next continues =>
            have sameClosed : (investigator.answeredBy responses).closeTurn
                (turn.decision.toolCalls.items.foldl (investigator.answeredBy responses).observe
                  turn.conversation) = (next, continues) := closed
            rw [closed] at closedTurns
            dsimp only at closedTurns
            rw [sameClosed]
            cases continues with
            | true => rfl
            | false => dsimp only; rw [lastTurn_answeredBy (same _ (by omega))]

theorem converse_answeredBy (atHead : investigator.AtHead conversation)
    (same : ∀ index ≤ investigator.toolBudget.maxTurns,
      responses index = investigator.provider.responses index) :
    (investigator.answeredBy responses).converse context conversation =
      investigator.converse context conversation := by
  fun_induction converse investigator context conversation with
  | case1 conversation exception taken =>
      have round := takeTurn_answeredBy context atHead same
      rw [taken] at round
      rw [converse]
      split <;> simp_all
  | case2 conversation last taken =>
      have round := takeTurn_answeredBy context atHead same
      rw [taken] at round
      rw [converse]
      split <;> simp_all
  | case3 conversation next taken counted ih =>
      have round := takeTurn_answeredBy context atHead same
      have ends := takeTurn_within context atHead
      rw [taken] at round ends
      rw [converse]
      split
      · simp_all
      · simp_all
      · rename_i other otherTaken
        cases round.symm.trans otherTaken
        exact ih ends

theorem investigate_answeredBy (same : ∀ index ≤ investigator.toolBudget.maxTurns,
      responses index = investigator.provider.responses index) :
    (investigator.answeredBy responses).investigate = investigator.investigate := by
  have ran : (investigator.answeredBy responses).investigateRun = investigator.investigateRun := by
    unfold investigateRun
    change (investigator.startingContext >>= fun context =>
      (investigator.answeredBy responses).converse context {} >>= fun _ => _) = _
    simp only [converse_answeredBy atHead_start same]
    rfl
  unfold investigate
  rw [ran]

/-- **An investigation ends.**  Whatever the model answers, it is asked at most once for each
turn of the budget and once more: its later answers change nothing, and what is returned or
raised with a transcript counts no more turns.  A result stands on a response that concludes,
so without one the investigation raises. -/
theorem investigation_ends (investigator : ClaimInvestigator) :
    (∀ responses : Nat → Except String RawInvestigatorResponse,
      (∀ index ≤ investigator.toolBudget.maxTurns,
        responses index = investigator.provider.responses index) →
      (investigator.answeredBy responses).investigate = investigator.investigate) ∧
    EndsWithin (investigator.toolBudget.maxTurns + 1)
      (fun result => ∃ index ≤ investigator.toolBudget.maxTurns,
        investigator.StandsOn result index)
      investigator.investigate ∧
    ((∀ index ≤ investigator.toolBudget.maxTurns, ¬ investigator.Concludes index) →
      ∃ exception, investigator.investigate = .error exception) := by
  refine ⟨fun responses same => investigate_answeredBy same, investigate_within investigator, ?_⟩
  intro never
  cases outcome : investigator.investigate with
  | error exception => exact ⟨exception, rfl⟩
  | ok result =>
      have ends := investigate_within investigator
      rw [outcome] at ends
      obtain ⟨index, within, _, decision, decides, concludes, _, _⟩ := ends
      exact absurd ⟨decision, decides, concludes⟩ (never index within)

end ClaimInvestigator

end PatchProof
