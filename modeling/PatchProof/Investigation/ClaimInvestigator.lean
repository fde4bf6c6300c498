import PatchProof.Investigation.Planner
import PatchProof.Investigation.Toolbox
import PatchProof.Storage.DocumentKeys

/-!
# The claim investigator

The bounded loop in which a model either asks for tool calls or concludes, and the checks
by which its conclusion becomes a claim.  The answers of the model are an arbitrary
sequence; how a text is read as a decision, and the digests, are parameters.

A conversation remembers the identities that its tool calls returned.  Every one of them
stands in an answer that the conversation has received, and since no qualified name has a
colon in it, the text of an identity tells which symbol it was.  A claim that was selected
is therefore about a symbol that both revisions define and that the model has been shown.
-/

set_option autoImplicit false

namespace PatchProof

/-! ## Decisions -/

/-- Whether the model wants more repository facts or is ready to decide. -/
inductive InvestigatorAction where
  | investigate
  | conclude
  deriving DecidableEq

/-- One model-requested tool invocation. -/
structure ToolCallRequest where
  tool : BoundedText 1 64
  revision : BoundedText 0 8
  path : Option (BoundedText 0 1024) := none
  qualifiedName : Option (BoundedText 0 512) := none
  symbol : Option (BoundedText 0 512) := none
  startLine : Option PositiveInt := none
  lineCount : Option PositiveInt := none
  deriving DecidableEq

/-- The arguments of a request, in the order in which they are given. -/
def argumentRecord : Record
    ["revision", "path", "qualified_name", "symbol", "start_line", "line_count"]
    (String × Option String × Option String × Option String × Option Int × Option Int) :=
  (Record.required "revision" Codec.text).pair <|
    (Record.omitted "path" Codec.text).pair <|
    (Record.omitted "qualified_name" Codec.text).pair <|
    (Record.omitted "symbol" Codec.text).pair <|
    (Record.omitted "start_line" Codec.int).pair <|
    Record.omitted "line_count" Codec.int

/-- `to_arguments`. -/
def ToolCallRequest.toArguments (request : ToolCallRequest) : ToolArguments where
  fields := argumentRecord.write (request.revision.text, request.path.map BoundedText.text,
    request.qualifiedName.map BoundedText.text, request.symbol.map BoundedText.text,
    request.startLine.map PositiveInt.value, request.lineCount.map PositiveInt.value)
  distinct := argumentRecord.distinct_object _

/-- Provider-visible claim with an explicit interface identity. -/
structure InvestigatorClaimDraft where
  summary : BoundedText 1 220
  interfacePath : BoundedText 1 1024
  interfaceQualifiedName : BoundedText 1 512
  observableOperation : BoundedText 1 220
  triggerCondition : BoundedText 1 220
  expectedHeadObservation : BoundedText 1 280
  expectedBaseHypothesis : BoundedText 1 280
  action : BoundedText 1 350
  expectedBehavior : BoundedText 1 450
  preconditions : BoundedList 4 (BoundedText 1 220)
  confidence : ℚ
  preconditionsNotBlank : ∀ item ∈ preconditions.items, strip item.text ≠ ""
  confidenceBounded : 65 / 100 ≤ confidence ∧ confidence ≤ 1

/-- Exactly one structured decision per model turn. -/
structure InvestigatorDecision where
  action : InvestigatorAction
  reasoning : BoundedText 1 700
  toolCalls : BoundedList 4 ToolCallRequest
  disposition : Option ClaimSelectionDisposition := none
  claim : Option InvestigatorClaimDraft := none
  investigates : action = .investigate →
    toolCalls.items ≠ [] ∧ claim.isNone = true ∧ disposition = none
  concludes : action = .conclude → disposition.isSome = true ∧
    (disposition = some .selected ↔ claim.isSome = true)

/-- Untrusted model text and usage of one turn. -/
structure RawInvestigatorResponse where
  text : String
  notEmpty : text ≠ ""
  usage : ModelUsage

/-! ## Outcomes -/

/-- What an investigation may raise. -/
inductive InvestigationException where
  | invalidClaimAgentOutput (message : String)
  | invalidClaimInvestigationOutput (message : String) (transcript : InvestigationTranscript)
  | query (failure : QueryFailure)
  | validation (message : String)
  | model (message : String)

/-- The selected claim and the investigation that produced it. -/
structure ClaimInvestigationResult where
  agentResult : ClaimAgentResult
  transcript : InvestigationTranscript
  startingContext : InvestigationStartingContext

/-- One tool call and the answer it got. -/
structure ToolObservation where
  tool : String
  arguments : ToolArguments
  result : ToolPayload

/-- Whether the call was successful and its answer shows a symbol under this key. -/
def ToolObservation.Shows (observation : ToolObservation) (key : String × String) : Prop :=
  ∃ result entries, observation.result = .answered result entries ∧
    ∃ entry ∈ entries, ∃ symbol, entry.found.symbol = some symbol ∧ symbol.key = key

/-- What a run of the loop has gathered. -/
structure Conversation where
  toolbox : InvestigationToolbox := {}
  observations : List ToolObservation := []
  responseHashes : List Sha256 := []
  discovered : List String := []
  turns : Nat := 0

/-- `_payload_identities`. -/
def payloadIdentities (payload : ToolPayload) : List String :=
  payload.entries.filterMap PayloadEntry.identity

/-- The model, the reading of its texts, and the digests. -/
structure InvestigatorProvider where
  responses : Nat → Except String RawInvestigatorResponse
  decode : String → Option InvestigatorDecision
  digest : String → Sha256
  contextSha256 : InvestigationStartingContext → Sha256

/-- Run the bounded hybrid loop over one planner. -/
structure ClaimInvestigator where
  planner : DeterministicInvestigationPlanner
  toolBudget : ToolBudget
  maxResponseChars : Nat := 12000
  charsPositive : 0 < maxResponseChars := by decide
  provider : InvestigatorProvider

theorem ClaimInvestigator.chars_positive : 0 < 12000 := by
  decide

/-! ## Claims -/

/-- The preconditions of a draft are preconditions of a claim. -/
theorem InvestigatorClaimDraft.preconditions_wellFormed (draft : InvestigatorClaimDraft) :
    (draft.preconditions.items.map fun item =>
        item.widen Nat.one_pos draftedStatement_le).length ≤ 6 ∧
      (draft.preconditions.items.map fun item =>
        item.widen Nat.one_pos draftedStatement_le).all
          (fun item => strip item.text != "") = true := by
  constructor
  · rw [List.length_map]
    exact Nat.le_trans draft.preconditions.bounded (by decide)
  · rw [List.all_map, List.all_eq_true]
    intro item mem
    simp only [Function.comp_apply, BoundedText.text_widen, bne_iff_ne]
    exact draft.preconditionsNotBlank item mem

theorem BoundedText.beginning_bounded {most : Nat} (text : BoundedText 1 most) (limit : Nat)
    (positive : 1 ≤ limit) :
    1 ≤ (truncate limit text.text).length ∧ (truncate limit text.text).length ≤ limit := by
  have length := text.bounded.1
  rw [← String.length_toList] at length
  simp only [truncate, String.length_ofList, List.length_take]
  omega

/-- The beginning of a text that is not empty. -/
def BoundedText.beginning {most : Nat} (text : BoundedText 1 most) (limit : Nat)
    (positive : 1 ≤ limit) : BoundedText 1 limit where
  text := truncate limit text.text
  bounded := text.beginning_bounded limit positive

/-- What one invocation of the model gave. -/
structure ModelTurn where
  decision : InvestigatorDecision
  usage : ModelUsage
  responseSha256 : Sha256
  conversation : Conversation

/-- A turn that concludes. -/
structure Conclusion extends ModelTurn where
  concludes : decision.action = .conclude

/-- How a round of the loop ends. -/
inductive Progress where
  | concluded (conclusion : Conclusion)
  | goesOn (conversation : Conversation)

/-- The conversation in which a round ends. -/
def Progress.conversation : Progress → Conversation
  | .concluded conclusion => conclusion.conversation
  | .goesOn conversation => conversation

namespace ClaimInvestigator

variable (investigator : ClaimInvestigator)

/-- `_citation`. -/
def citation (observable : RankedObservable) : Except InvestigationException SupportingContextRef :=
  let relevance := truncate 300 (observable.rank.value ++ " shared observable " ++
    observable.identity.qualifiedName.text)
  if checks : isContextPath observable.identity.path.text = true ∧
      1 ≤ relevance.length ∧ relevance.length ≤ 300 then
    .ok {
      path := observable.identity.path.text
      pathWellFormed := checks.1
      startLine := observable.headStartLine
      endLine := observable.headEndLine
      relevance := ⟨relevance, checks.2⟩
      lineRange := observable.headRange }
  else .error (.validation "supporting context does not validate")

/-- The claim on an identity, when its fields validate. -/
def claimOn (identity : ObservableIdentity) (cited : SupportingContextRef)
    (draft : InvestigatorClaimDraft) (reasoning : BoundedText 1 700) :
    Except InvestigationException BehavioralClaim :=
  if checks : isContextPath identity.path.text = true ∧
      identity.qualifiedName.text.length ≤ 256 ∧ identity.text.length ≤ 256 then
    .ok {
      claimId := "claim-selected-behavior"
      claimIdWellFormed := isClaimId_selectedBehavior
      summary := draft.summary.widen Nat.one_pos draftedStatement_le
      observableOperation := draft.observableOperation.widen draftedLeast_le draftedStatement_le
      triggerCondition := draft.triggerCondition.widen draftedLeast_le draftedStatement_le
      expectedHeadObservation :=
        draft.expectedHeadObservation.widen draftedLeast_le draftedObservation_le
      expectedBaseHypothesis :=
        draft.expectedBaseHypothesis.widen draftedLeast_le draftedObservation_le
      sharedInterface := ⟨identity.text, Nat.zero_le _, checks.2.2⟩
      preconditions := draft.preconditions.items.map fun item =>
        item.widen Nat.one_pos draftedStatement_le
      preconditionsWellFormed := draft.preconditions_wellFormed
      action := draft.action.widen Nat.one_pos draftedAction_le
      expectedBehavior := draft.expectedBehavior.widen Nat.one_pos draftedBehavior_le
      affectedSymbols := [⟨identity.path.text, checks.1, ⟨identity.qualifiedName.text,
        identity.qualifiedName.bounded.1, checks.2.1⟩⟩]
      affectedSymbolsWellFormed := by simp
      supportingContext := [cited]
      supportingContextWellFormed := by simp
      confidence := draft.confidence
      confidenceBounded := draft.confidenceBounded
      reasoningSummary := reasoning.beginning 600 (by decide) }
  else .error (.validation "behavioral claim does not validate")

/-- `_admit_discovered`. -/
def admitDiscovered (identity : ObservableIdentity) (context : InvestigationStartingContext)
    (discovered : List String) : Except InvestigationException RankedObservable :=
  let refuse (message : String) : Except InvestigationException RankedObservable :=
    .error (.invalidClaimAgentOutput message)
  if context.newHeadSymbols.any fun item => item.identity.text = identity.text then
    refuse ("claim interface exists only on HEAD; a differential experiment requires " ++
      "an interface present on both revisions")
  else if !discovered.contains identity.text then
    refuse ("claim interface is neither a deterministic shared observable nor an " ++
      "interface discovered during investigation: " ++ identity.text)
  else
    match investigator.planner.investigator.compareSymbol (some identity.path.text)
        (some identity.qualifiedName.text) (some 4) with
    | .error (.contract message) => refuse
        ("claim interface could not be verified against the indexes: " ++ message)
    | .error failure => .error (.query failure)
    | .ok compared =>
        match compared.find? fun item => item.key = identity.key with
        | none => refuse ("claim interface does not exist in the immutable BASE/HEAD indexes: " ++
            identity.text)
        | some verified =>
            match verified.views with
            | .newOnHead _ => refuse ("claim interface exists only on HEAD; " ++
                "a differential experiment requires an interface present on both revisions")
            | .removedFromHead _ => refuse ("claim interface was removed from HEAD; " ++
                "a differential experiment requires an interface present on both revisions")
            | .presentOnBoth base head changed =>
                if !changed && !investigator.planner.investigator.relevanceIdentities.contains
                    identity.text then
                  refuse ("claim interface exists on both revisions but is unrelated to this " ++
                    "pull request: " ++ identity.text ++
                    " neither changed nor references a changed symbol")
                else .ok {
                  identity := identity
                  kind := head.kind
                  rank := rankObservable head none
                  isPublic := head.isPublic
                  exported := head.exported
                  implementationChanged := changed
                  reasons := [.discoveredDuringInvestigation]
                  reachesNewHeadSymbols := []
                  baseStartLine := base.startLine
                  baseEndLine := base.endLine
                  headStartLine := head.startLine
                  headEndLine := head.endLine
                  reasonsBounded := by decide
                  reachesBounded := by decide
                  baseRange := base.lineRange
                  headRange := head.lineRange }

/-- The observable of an identity: one of the context, or one that was discovered. -/
def observableOf (identity : ObservableIdentity) (context : InvestigationStartingContext)
    (discovered : List String) : Except InvestigationException RankedObservable :=
  match context.observable identity with
  | some observable => .ok observable
  | none => investigator.admitDiscovered identity context discovered

/-- `_normalize`, of a decision that concludes. -/
def normalize (decision : InvestigatorDecision) (concludes : decision.action = .conclude)
    (context : InvestigationStartingContext) (discovered : List String) :
    Except InvestigationException ClaimSelection :=
  match drafted : decision.claim with
  | none => .ok {
      disposition := decision.disposition.get (decision.concludes concludes).1
      claim := none
      explanation := decision.reasoning
      selectedIffClaim := by
        have selected := (decision.concludes concludes).2
        rw [drafted] at selected
        constructor
        · intro same
          exact selected.mp (by rw [← same, Option.some_get])
        · intro absurdity
          cases absurdity }
  | some draft =>
      match ObservableIdentity.check draft.interfacePath.text draft.interfaceQualifiedName.text with
      | none => .error (.invalidClaimAgentOutput
          "claim interface identity is not a valid repository symbol")
      | some identity => do
          let observable ← investigator.observableOf identity context discovered
          let cited ← citation observable
          let claim ← claimOn identity cited draft decision.reasoning
          return {
            disposition := .selected
            claim := some claim
            explanation := decision.reasoning
            selectedIffClaim := selected_iff_some claim }

/-! ## The loop -/

/-- The transcript of a conversation, when it validates. -/
def transcript (context : InvestigationStartingContext) (conversation : Conversation) :
    Except InvestigationException InvestigationTranscript :=
  if checks : 0 < conversation.turns ∧ conversation.toolbox.calls.length ≤ 16 then
    .ok {
      turns := ⟨conversation.turns, Int.natCast_pos.mpr checks.1⟩
      toolCalls := ⟨conversation.toolbox.calls, checks.2⟩
      startingContextSha256 := investigator.provider.contextSha256 context
      responseSha256 := ⟨(conversation.responseHashes.take 8).map Sha256.text, by
        rw [List.length_map]
        exact List.length_take_le _ _⟩ }
  else .error (.validation "investigation transcript does not validate")

/-- `_invalid_output`. -/
def invalidOutput {α : Type} (message : String) (context : InvestigationStartingContext)
    (conversation : Conversation) : Except InvestigationException α := do
  let transcript ← investigator.transcript context conversation
  .error (.invalidClaimInvestigationOutput message transcript)

theorem invalidOutput_ne_ok {α : Type} {investigator : ClaimInvestigator} {message : String}
    {context : InvestigationStartingContext} {conversation : Conversation} (value : α) :
    investigator.invalidOutput message context conversation ≠ .ok value := by
  intro returned
  obtain ⟨_, _, absurdity⟩ := Guard.bind_eq_ok_iff.mp returned
  cases absurdity

/-- Invoke the model once and read its decision. -/
def invoke (context : InvestigationStartingContext) (conversation : Conversation) :
    Except InvestigationException ModelTurn :=
  match investigator.provider.responses conversation.turns with
  | .error message => .error (.model message)
  | .ok response =>
      let hash := investigator.provider.digest response.text
      let conversation := { conversation with
        turns := conversation.turns + 1
        responseHashes := conversation.responseHashes ++ [hash] }
      if investigator.maxResponseChars < response.text.length then
        investigator.invalidOutput "claim investigator response exceeds the configured budget"
          context conversation
      else
        match investigator.provider.decode response.text with
        | none => investigator.invalidOutput
            "claim investigator returned invalid structured output" context conversation
        | some decision => .ok ⟨decision, response.usage, hash, conversation⟩

/-- Make one tool call. -/
def observe (conversation : Conversation) (request : ToolCallRequest) : Conversation :=
  let (payload, toolbox) := conversation.toolbox.call investigator.planner.investigator
    investigator.toolBudget request.tool.text request.toArguments
  { conversation with
    toolbox := toolbox
    observations := conversation.observations ++ [⟨request.tool.text, request.toArguments, payload⟩]
    discovered := conversation.discovered ++ payloadIdentities payload }

/-- The one turn that is left when the budget is spent. -/
def lastTurn (context : InvestigationStartingContext) (conversation : Conversation) :
    Except InvestigationException Conclusion := do
  let turn ← investigator.invoke context conversation
  if concludes : turn.decision.action = .conclude then
    return ⟨turn, concludes⟩
  else
    investigator.invalidOutput "claim investigator did not conclude within its turn budget"
      context turn.conversation

/-- Begin the next turn, and tell whether there is one. -/
def closeTurn (conversation : Conversation) : Conversation × Bool :=
  match conversation.toolbox.beginTurn investigator.toolBudget with
  | none => (conversation, false)
  | some toolbox =>
      ({ conversation with toolbox := toolbox }, !toolbox.exhausted investigator.toolBudget)

/-- One round of the loop. -/
def takeTurn (context : InvestigationStartingContext) (conversation : Conversation) :
    Except InvestigationException Progress := do
  let turn ← investigator.invoke context conversation
  if concludes : turn.decision.action = .conclude then
    return .concluded ⟨turn, concludes⟩
  else
    match investigator.closeTurn
        (turn.decision.toolCalls.items.foldl investigator.observe turn.conversation) with
    | (next, true) => return .goesOn next
    | (next, false) => return .concluded (← investigator.lastTurn context next)

variable {investigator} {context : InvestigationStartingContext}
  {conversation : Conversation}

/-! ## What a turn keeps and what it counts -/

theorem turn_foldl_observe (requests : List ToolCallRequest) (conversation : Conversation) :
    (requests.foldl investigator.observe conversation).toolbox.turn = conversation.toolbox.turn := by
  induction requests generalizing conversation with
  | nil => rfl
  | cons request rest ih =>
      rw [List.foldl_cons, ih]
      exact InvestigationToolbox.turn_call _ _ _ _ _

theorem invoke_eq_ok {turn : ModelTurn}
    (answered : investigator.invoke context conversation = .ok turn) :
    turn.conversation.toolbox = conversation.toolbox ∧
      turn.conversation.observations = conversation.observations ∧
      turn.conversation.discovered = conversation.discovered := by
  unfold invoke at answered
  split at answered
  · cases answered
  · dsimp only at answered
    split at answered
    · exact absurd answered (invalidOutput_ne_ok _)
    · split at answered
      · exact absurd answered (invalidOutput_ne_ok _)
      · cases answered
        exact ⟨rfl, rfl, rfl⟩

theorem closeTurn_eq_true {next : Conversation}
    (closed : investigator.closeTurn conversation = (next, true)) :
    conversation.toolbox.turn.value < investigator.toolBudget.maxTurns ∧
      next.toolbox.turn.value = conversation.toolbox.turn.value + 1 := by
  unfold closeTurn at closed
  split at closed
  · cases closed
  · rename_i toolbox begun
    unfold InvestigationToolbox.beginTurn at begun
    split at begun
    · cases begun
    · rename_i within
      cases begun
      obtain rfl := congrArg Prod.fst closed
      exact ⟨Int.not_le.mp within, rfl⟩

/-- A round that goes on has begun a turn that the budget admits. -/
theorem takeTurn_counts {next : Conversation}
    (taken : investigator.takeTurn context conversation = .ok (.goesOn next)) :
    conversation.toolbox.turn.value < investigator.toolBudget.maxTurns ∧
      next.toolbox.turn.value = conversation.toolbox.turn.value + 1 := by
  obtain ⟨turn, answered, taken⟩ := Guard.bind_eq_ok_iff.mp taken
  obtain ⟨sameToolbox, _, _⟩ := invoke_eq_ok answered
  split at taken
  · cases taken
  · split at taken
    · rename_i closed
      cases taken
      have counted := closeTurn_eq_true closed
      rw [turn_foldl_observe, sameToolbox] at counted
      exact counted
    · obtain ⟨_, _, absurdity⟩ := Guard.bind_eq_ok_iff.mp taken
      cases absurdity

/-- The loop. -/
def converse (investigator : ClaimInvestigator) (context : InvestigationStartingContext)
    (conversation : Conversation) : Except InvestigationException Conclusion :=
  match taken : investigator.takeTurn context conversation with
  | .error exception => .error exception
  | .ok (.concluded conclusion) => .ok conclusion
  | .ok (.goesOn next) =>
      have := takeTurn_counts taken
      converse investigator context next
termination_by (investigator.toolBudget.maxTurns - conversation.toolbox.turn.value).toNat
decreasing_by omega

/-- The context that the planner builds. -/
def startingContext (investigator : ClaimInvestigator) :
    Except InvestigationException InvestigationStartingContext :=
  match investigator.planner.build with
  | .ok context => .ok context
  | .error failure => .error (.query failure)

/-- The selection of a conclusion; one that is not grounded is invalid output. -/
def select (investigator : ClaimInvestigator) (context : InvestigationStartingContext)
    (conclusion : Conclusion) : Except InvestigationException ClaimSelection :=
  match investigator.normalize conclusion.decision conclusion.concludes context
      conclusion.conversation.discovered with
  | .ok selection => .ok selection
  | .error (.invalidClaimAgentOutput message) =>
      investigator.invalidOutput message context conclusion.conversation
  | .error exception => .error exception

/-- `investigate`, with the conversation that led to the result. -/
def investigateRun (investigator : ClaimInvestigator) :
    Except InvestigationException (Conversation × ClaimInvestigationResult) := do
  let context ← investigator.startingContext
  let conclusion ← investigator.converse context {}
  let selection ← investigator.select context conclusion
  let transcript ← investigator.transcript context conclusion.conversation
  return (conclusion.conversation, {
    agentResult := ⟨selection, conclusion.usage, conclusion.responseSha256⟩
    transcript := transcript
    startingContext := context })

/-- `investigate`. -/
def investigate (investigator : ClaimInvestigator) :
    Except InvestigationException ClaimInvestigationResult := do
  let (_, result) ← investigator.investigateRun
  return result

/-! ## What a conversation has been shown -/

/-- Every identity that is remembered stands in an answer that was received. -/
def Remembers (conversation : Conversation) : Prop :=
  ∀ text ∈ conversation.discovered, ∃ observation ∈ conversation.observations,
    text ∈ payloadIdentities observation.result

theorem remembers_start : Remembers {} := by
  intro text mem
  cases mem

theorem remembers_congr {other : Conversation} (remembers : Remembers conversation)
    (sameObservations : other.observations = conversation.observations)
    (sameDiscovered : other.discovered = conversation.discovered) : Remembers other := by
  intro text mem
  rw [sameDiscovered] at mem
  rw [sameObservations]
  exact remembers text mem

theorem remembers_observe (remembers : Remembers conversation) (request : ToolCallRequest) :
    Remembers (investigator.observe conversation request) := by
  intro text mem
  rcases List.mem_append.mp mem with before | now
  · obtain ⟨observation, inObservations, shown⟩ := remembers text before
    exact ⟨observation, List.mem_append_left _ inObservations, shown⟩
  · exact ⟨_, List.mem_append_right _ (List.mem_singleton_self _), now⟩

theorem remembers_foldl_observe (requests : List ToolCallRequest) {conversation : Conversation}
    (remembers : Remembers conversation) :
    Remembers (requests.foldl investigator.observe conversation) := by
  induction requests generalizing conversation with
  | nil => exact remembers
  | cons request rest ih => exact ih (remembers_observe remembers request)

theorem remembers_closeTurn (remembers : Remembers conversation) :
    Remembers (investigator.closeTurn conversation).1 := by
  unfold closeTurn
  split
  · exact remembers
  · exact remembers_congr remembers rfl rfl

theorem remembers_invoke {turn : ModelTurn} (remembers : Remembers conversation)
    (answered : investigator.invoke context conversation = .ok turn) :
    Remembers turn.conversation := by
  obtain ⟨_, sameObservations, sameDiscovered⟩ := invoke_eq_ok answered
  exact remembers_congr remembers sameObservations sameDiscovered

theorem remembers_lastTurn {conclusion : Conclusion} (remembers : Remembers conversation)
    (ended : investigator.lastTurn context conversation = .ok conclusion) :
    Remembers conclusion.conversation := by
  obtain ⟨turn, answered, ended⟩ := Guard.bind_eq_ok_iff.mp ended
  split at ended
  · cases ended
    exact remembers_invoke remembers answered
  · exact absurd ended (invalidOutput_ne_ok _)

theorem remembers_takeTurn {progress : Progress} (remembers : Remembers conversation)
    (taken : investigator.takeTurn context conversation = .ok progress) :
    Remembers progress.conversation := by
  obtain ⟨turn, answered, taken⟩ := Guard.bind_eq_ok_iff.mp taken
  have invoked := remembers_invoke remembers answered
  split at taken
  · cases taken
    exact invoked
  · have observed : Remembers (turn.decision.toolCalls.items.foldl investigator.observe
        turn.conversation) :=
      remembers_foldl_observe turn.decision.toolCalls.items invoked
    have closed : Remembers (investigator.closeTurn
        (turn.decision.toolCalls.items.foldl investigator.observe turn.conversation)).1 :=
      remembers_closeTurn observed
    split at taken
    · rename_i next same
      cases taken
      rw [same] at closed
      exact closed
    · rename_i next same
      obtain ⟨conclusion, ended, returned⟩ := Guard.bind_eq_ok_iff.mp taken
      cases returned
      rw [same] at closed
      exact remembers_lastTurn closed ended

/-- The loop ends in a conversation that remembers nothing it was not shown. -/
theorem remembers_converse {conclusion : Conclusion} (remembers : Remembers conversation)
    (ended : investigator.converse context conversation = .ok conclusion) :
    Remembers conclusion.conversation := by
  fun_induction converse investigator context conversation with
  | case1 conversation exception taken => cases ended
  | case2 conversation last taken =>
      cases ended
      exact remembers_takeTurn remembers taken
  | case3 conversation next taken counted ih =>
      exact ih (remembers_takeTurn remembers taken) ended

/-! ## Identities and their texts -/

/-- Two identities with one text are one, when there is no colon in their names. -/
theorem key_of_text {path other : String} {name otherName : String}
    (colonFree : ':' ∉ name.toList) (otherColonFree : ':' ∉ otherName.toList)
    (same : path ++ "::" ++ name = other ++ "::" ++ otherName) :
    (path, name) = (other, otherName) := by
  have regroup : ∀ front back : String, front ++ "::" ++ back = front ++ ":" ++ ":" ++ back := by
    intro front back
    rw [show "::" = ":" ++ ":" from rfl, ← String.append_assoc]
  rw [regroup, regroup] at same
  have single : ":".toList = [':'] := rfl
  obtain ⟨sameFront, sameName⟩ := append_text_inj single colonFree otherColonFree same
  have samePath := congrArg String.toList sameFront
  rw [String.toList_append, String.toList_append] at samePath
  rw [String.toList_injective (List.append_cancel_right samePath), sameName]

/-- An identity whose text is remembered was shown by a successful call. -/
theorem shown_of_remembered {identity : ObservableIdentity} (remembers : Remembers conversation)
    (colonFree : ':' ∉ identity.qualifiedName.text.toList)
    (mem : identity.text ∈ conversation.discovered) :
    ∃ observation ∈ conversation.observations, observation.Shows identity.key := by
  obtain ⟨observation, inObservations, shown⟩ := remembers _ mem
  obtain ⟨entry, inEntries, identified⟩ := List.mem_filterMap.mp shown
  obtain ⟨symbol, found, text⟩ := Option.map_eq_some_iff.mp identified
  refine ⟨observation, inObservations, ?_⟩
  cases answer : observation.result with
  | refused status detail =>
      rw [answer] at inEntries
      cases inEntries
  | answered result entries =>
      rw [answer] at inEntries
      exact ⟨result, entries, answer, entry, inEntries, symbol, found,
        key_of_text symbol.qualifiedName.colonFree colonFree text⟩

/-! ## What a claim stands on -/

/-- What admits an identity that the starting context does not offer. -/
theorem admitDiscovered_eq_ok {identity : ObservableIdentity} {discovered : List String}
    {observable : RankedObservable}
    (admitted : investigator.admitDiscovered identity context discovered = .ok observable) :
    identity.text ∈ discovered ∧ ':' ∉ identity.qualifiedName.text.toList ∧
      investigator.planner.investigator.Shares identity.key := by
  unfold admitDiscovered at admitted
  dsimp only at admitted
  split at admitted
  · cases admitted
  · split at admitted
    · cases admitted
    · rename_i remembered
      split at admitted
      · cases admitted
      · cases admitted
      · rename_i compared answered
        obtain ⟨colonFree, asked, name, inComparisons⟩ :=
          RepositoryInvestigator.compareSymbol_eq_ok answered
        split at admitted
        · cases admitted
        · rename_i verified found
          have key : verified.key = identity.key := by simpa using List.find?_some found
          split at admitted
          · cases admitted
          · cases admitted
          · rename_i base head changed views
            have shares := (RepositoryInvestigator.shares_of_presentOnBoth
              (inComparisons verified (List.mem_of_find?_eq_some found)) views).1
            rw [key] at shares
            exact ⟨by simpa using remembered, colonFree, shares⟩

theorem claimOn_eq_ok {identity : ObservableIdentity} {cited : SupportingContextRef}
    {draft : InvestigatorClaimDraft} {reasoning : BoundedText 1 700} {claim : BehavioralClaim}
    (built : claimOn identity cited draft reasoning = .ok claim) :
    (claim.affectedSymbols.map fun symbol => (symbol.path, symbol.qualifiedName.text)) =
        [identity.key] ∧ claim.sharedInterface.text = identity.text := by
  unfold claimOn at built
  split at built
  · cases built
    exact ⟨rfl, rfl⟩
  · cases built

/-- A claim is about one identity, which both revisions define, and which the starting
context offered or a successful call of the conversation showed. -/
structure Grounded (investigator : ClaimInvestigator) (context : InvestigationStartingContext)
    (conversation : Conversation) (claim : BehavioralClaim) (identity : ObservableIdentity) :
    Prop where
  affected : (claim.affectedSymbols.map fun symbol => (symbol.path, symbol.qualifiedName.text)) =
    [identity.key]
  interface : claim.sharedInterface.text = identity.text
  inBase : investigator.planner.investigator.base.Defines identity.key
  inHead : investigator.planner.investigator.head.Defines identity.key
  offered : (∃ observable ∈ context.sharedObservables, observable.identity = identity) ∨
    ∃ observation ∈ conversation.observations, observation.Shows identity.key

theorem normalize_grounded {decision : InvestigatorDecision}
    {concludes : decision.action = .conclude} {selection : ClaimSelection}
    {claim : BehavioralClaim} (built : investigator.planner.build = .ok context)
    (remembers : Remembers conversation)
    (normalized : investigator.normalize decision concludes context conversation.discovered =
      .ok selection) (selected : selection.claim = some claim) :
    ∃ identity, Grounded investigator context conversation claim identity := by
  unfold normalize at normalized
  split at normalized
  · cases normalized
    cases selected
  · split at normalized
    · cases normalized
    · rename_i draft drafted identity checked
      obtain ⟨observable, observed, normalized⟩ := Guard.bind_eq_ok_iff.mp normalized
      obtain ⟨cited, _, normalized⟩ := Guard.bind_eq_ok_iff.mp normalized
      obtain ⟨written, claimed, returned⟩ := Guard.bind_eq_ok_iff.mp normalized
      cases returned
      cases selected
      obtain ⟨affected, interface⟩ := claimOn_eq_ok claimed
      unfold observableOf at observed
      split at observed
      · rename_i offered found
        have mem := List.mem_of_find?_eq_some found
        have same : offered.identity = identity := by
          simpa using List.find?_some found
        have shares := DeterministicInvestigationPlanner.build_shares built mem
        rw [same] at shares
        exact ⟨identity, affected, interface, shares.1, shares.2, .inl ⟨offered, mem, same⟩⟩
      · obtain ⟨remembered, colonFree, shares⟩ := admitDiscovered_eq_ok observed
        exact ⟨identity, affected, interface, shares.1, shares.2,
          .inr (shown_of_remembered remembers colonFree remembered)⟩

theorem build_of_startingContext (started : investigator.startingContext = .ok context) :
    investigator.planner.build = .ok context := by
  unfold startingContext at started
  split at started
  · rename_i built
    cases started
    exact built
  · cases started

theorem normalize_of_select {conclusion : Conclusion} {selection : ClaimSelection}
    (decided : investigator.select context conclusion = .ok selection) :
    investigator.normalize conclusion.decision conclusion.concludes context
      conclusion.conversation.discovered = .ok selection := by
  unfold select at decided
  split at decided
  · rename_i normalized
    cases decided
    exact normalized
  · exact absurd decided (invalidOutput_ne_ok _)
  · cases decided

/-- **A selected claim is grounded.** -/
theorem selected_claim_grounded {investigator : ClaimInvestigator}
    {result : ClaimInvestigationResult} {claim : BehavioralClaim}
    (returned : investigator.investigate = .ok result)
    (selected : result.agentResult.selection.claim = some claim) :
    ∃ conversation, investigator.investigateRun = .ok (conversation, result) ∧
      ∃ identity, Grounded investigator result.startingContext conversation claim identity := by
  obtain ⟨⟨conversation, outcome⟩, run, same⟩ := Guard.bind_eq_ok_iff.mp returned
  cases same
  refine ⟨conversation, run, ?_⟩
  obtain ⟨context, started, run⟩ := Guard.bind_eq_ok_iff.mp run
  obtain ⟨conclusion, ended, run⟩ := Guard.bind_eq_ok_iff.mp run
  obtain ⟨selection, decided, run⟩ := Guard.bind_eq_ok_iff.mp run
  obtain ⟨transcript, _, run⟩ := Guard.bind_eq_ok_iff.mp run
  cases run
  exact normalize_grounded (build_of_startingContext started)
    (remembers_converse remembers_start ended) (normalize_of_select decided) selected

/-! ## A sample -/

theorem reasoning_bounded : 1 ≤ "reasoning".length ∧ "reasoning".length ≤ 700 := by
  decide

/-- A draft that names one interface. -/
def sampleDraft (path name : String)
    (pathBounded : 1 ≤ path.length ∧ path.length ≤ 1024 := by decide +kernel)
    (nameBounded : 1 ≤ name.length ∧ name.length ≤ 512 := by decide +kernel) :
    InvestigatorClaimDraft where
  summary := ⟨"summary", by decide⟩
  interfacePath := ⟨path, pathBounded⟩
  interfaceQualifiedName := ⟨name, nameBounded⟩
  observableOperation := ⟨"operation", by decide⟩
  triggerCondition := ⟨"trigger", by decide⟩
  expectedHeadObservation := ⟨"new", by decide⟩
  expectedBaseHypothesis := ⟨"old", by decide⟩
  action := ⟨"act", by decide⟩
  expectedBehavior := ⟨"behave", by decide⟩
  preconditions := ⟨[], by decide⟩
  confidence := 1
  preconditionsNotBlank := by
    intro item mem
    cases mem
  confidenceBounded := certainty_bounded

/-- A decision to conclude with a claim on one identity. -/
def sampleConclusion (draft : InvestigatorClaimDraft) : InvestigatorDecision where
  action := .conclude
  reasoning := ⟨"reasoning", reasoning_bounded⟩
  toolCalls := .empty 4 _
  disposition := some .selected
  claim := some draft
  investigates := by
    intro absurdity
    cases absurdity
  concludes := by
    intro _
    exact ⟨rfl, iff_of_true rfl rfl⟩

/-- An investigator whose model always gives one response. -/
def sampleInvestigator (planner : DeterministicInvestigationPlanner)
    (decision : String → Option InvestigatorDecision) : ClaimInvestigator where
  planner := planner
  toolBudget := {}
  provider := {
    responses := fun _ => .ok ⟨"response", by decide, .single⟩
    decode := decision
    digest := fun _ => repeatedDigest '0' isLowerHex_zero
    contextSha256 := fun _ => repeatedDigest '0' isLowerHex_zero }

/-- A model that concludes at once, about a function that changed. -/
def concludingInvestigator : ClaimInvestigator :=
  sampleInvestigator
    (samplePlanner [sampleRender 1 (repeatedDigest '1' isLowerHex_one) Nat.one_pos]
      [sampleRender 1 (repeatedDigest '2' isLowerHex_two) Nat.one_pos])
    fun _ => some (sampleConclusion
      (sampleDraft "app.py" "render" (by decide +kernel) render_bounded))

/-- The claim of a result. -/
def selectedClaim : Except InvestigationException ClaimInvestigationResult → Option BehavioralClaim
  | .ok result => result.agentResult.selection.claim
  | .error _ => none

theorem exists_of_selectedClaim {outcome : Except InvestigationException ClaimInvestigationResult}
    (selects : (selectedClaim outcome).isSome = true) :
    ∃ result claim, outcome = .ok result ∧ result.agentResult.selection.claim = some claim := by
  cases outcome with
  | error exception => cases selects
  | ok result =>
      obtain ⟨claim, found⟩ := Option.isSome_iff_exists.mp selects
      exact ⟨result, claim, rfl, found⟩

theorem selected_claim_grounded_one :
    ∃ result claim, concludingInvestigator.investigate = .ok result ∧
      result.agentResult.selection.claim = some claim ∧
      ∃ conversation, concludingInvestigator.investigateRun = .ok (conversation, result) ∧
        ∃ identity, Grounded concludingInvestigator result.startingContext conversation claim
          identity := by
  have selects : (selectedClaim concludingInvestigator.investigate).isSome = true := by
    decide +kernel
  obtain ⟨result, claim, returned, selected⟩ := exists_of_selectedClaim selects
  exact ⟨result, claim, returned, selected, selected_claim_grounded returned selected⟩

end ClaimInvestigator

end PatchProof
