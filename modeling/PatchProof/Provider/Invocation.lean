import Mathlib.Order.Bounds.Basic
import PatchProof.HardMode.LiveRun
import PatchProof.Library.Chains
import PatchProof.Library.Guard
import PatchProof.Library.Latest
import PatchProof.Worker.Exceptions

/-!
# Invoking a model

One stateless session of a model, as the four adapters run it: the events of the
session are read one by one, an event that carries an error ends the session, and what
is kept is the last final text, the last model version and the largest value that each
usage field was reported with.

What is raised is normalized.  Whether it may be retried is decided along the chain of
causes and contexts of an exception, which may well be cyclic, or by the status code of
the event.
-/

set_option autoImplicit false

namespace PatchProof

open Chains

/-! ## Exceptions and their causes -/

/-- The exceptions of a provider's client, as far as they are told apart. -/
inductive ProviderExceptionKind where
  | timeout
  | network
  | serverError (code : Int)
  | clientError (code : Int)
  | otherApiError (code : Int)
  | credentials
  | other
  deriving DecidableEq

/-- Exceptions with their causes and contexts. -/
structure RaisedChain (Raised : Type) where
  kind : Raised → ProviderExceptionKind
  cause : Raised → Option Raised
  context : Raised → Option Raised

/-- `error.__cause__ or error.__context__`. -/
def RaisedChain.next {Raised : Type} (chain : RaisedChain Raised) (error : Raised) :
    Option Raised :=
  (chain.cause error).or (chain.context error)

/-- Transport, timeout, throttling and server failures. -/
def ProviderExceptionKind.isTransient : ProviderExceptionKind → Bool
  | .timeout | .network | .serverError _ => true
  | .clientError code => decide (code ∈ [(408 : Int), 409, 425, 429])
  | .otherApiError _ | .credentials | .other => false

def ProviderExceptionKind.apiCode : ProviderExceptionKind → Option Int
  | .serverError code | .clientError code | .otherApiError code => some code
  | .timeout | .network | .credentials | .other => none

section Chain

variable {Raised : Type} [Fintype Raised] [DecidableEq Raised] (chain : RaisedChain Raised)

/-- `is_transient_provider_error`. -/
def isTransientProviderError (error : Raised) : Bool :=
  (follow chain.next (fun raised => if (chain.kind raised).isTransient then some () else none) ∅
    (some error)).isSome

/-- `_provider_status_code`. -/
def providerStatusCode (error : Raised) : Option Int :=
  follow chain.next (fun raised => (chain.kind raised).apiCode) ∅ (some error)

/-- A safe failure category with the retry decision. -/
structure NormalizedProviderFailure where
  message : String
  retryable : Bool
  deriving DecidableEq

def authenticationFailed : String :=
  "Vertex AI authentication failed; Application Default Credentials are unavailable"

def permissionMissing : String :=
  "Vertex AI API is disabled or the runtime identity lacks model invocation permission"

def modelUnavailable : String :=
  "Gemini model is unavailable in the configured Vertex project or location"

def configurationRejected : String :=
  "Vertex AI rejected the Gemini model invocation configuration"

def temporarilyUnavailable : String := "Vertex AI model invocation is temporarily unavailable"

/-- The message of a Vertex failure with a status code. -/
def vertexMessage (code : Option Int) (isCredentials retryable : Bool) : String :=
  if isCredentials ∨ code = some 401 then authenticationFailed
  else if code = some 403 then permissionMissing
  else if code = some 404 then modelUnavailable
  else if code = some 400 then configurationRejected
  else if retryable then temporarilyUnavailable
  else "Vertex AI model invocation did not complete"

/-- `normalize_provider_failure`. -/
def normalizeProviderFailure (surface : GeminiProviderSurface) (error : Raised) (task : String) :
    NormalizedProviderFailure :=
  let retryable := isTransientProviderError chain error
  match surface with
  | .geminiDeveloperApi =>
      ⟨"Gemini Developer API " ++ task ++ " invocation did not complete", retryable⟩
  | .vertexAi =>
      ⟨vertexMessage (providerStatusCode chain error)
        (decide (chain.kind error = .credentials)) retryable ++ " during " ++ task, retryable⟩

variable {chain}

/-- **A failure may be retried exactly when something on its chain is transient**, and
its status code is that of the first API error on the chain. -/
theorem provider_failure_classified (surface : GeminiProviderSurface) (error : Raised)
    (task : String) :
    ((normalizeProviderFailure chain surface error task).retryable = true ↔
      ∃ last, OnChain chain.next error last ∧ (chain.kind last).isTransient = true) ∧
    (∀ code, providerStatusCode chain error = some code ↔
      FirstStop chain.next (fun raised => (chain.kind raised).apiCode) error code) ∧
    (providerStatusCode chain error = none ↔
      ∀ last, OnChain chain.next error last → (chain.kind last).apiCode = none) := by
  refine ⟨?_, fun code => follow_eq_some_iff, follow_eq_none_iff⟩
  have retryable : (normalizeProviderFailure chain surface error task).retryable =
      isTransientProviderError chain error := by
    cases surface <;> rfl
  rw [retryable, isTransientProviderError, Option.isSome_iff_ne_none, ne_eq, follow_eq_none_iff]
  simp

end Chain

/-! ## The status code of an event -/

/-- `str.upper` on one character, as far as the result can be an ASCII name: the few other
characters whose capitals are ASCII are mapped too. -/
def capitalsOf (c : Char) : List Char :=
  if c.toNat = 0x17f then ['S'] else if c.toNat = 0x131 then ['I']
  else if c.toNat = 0xdf then ['S', 'S'] else if c.toNat = 0xfb00 then ['F', 'F']
  else if c.toNat = 0xfb01 then ['F', 'I'] else if c.toNat = 0xfb02 then ['F', 'L']
  else if c.toNat = 0xfb03 then ['F', 'F', 'I'] else if c.toNat = 0xfb04 then ['F', 'F', 'L']
  else if c.toNat = 0xfb05 ∨ c.toNat = 0xfb06 then ['S', 'T'] else [c.toUpper]

/-- `text.strip().upper()`. -/
def upperStatus (text : String) : String := String.ofList ((strip text).toList.flatMap capitalsOf)

def transientEventCodes : List String :=
  ["408", "409", "425", "429", "500", "502", "503", "504", "DEADLINE_EXCEEDED", "INTERNAL",
    "RESOURCE_EXHAUSTED", "SERVICE_UNAVAILABLE", "UNAVAILABLE"]

/-- `is_transient_event_code`. -/
def isTransientEventCode (value : Option String) : Bool :=
  decide (upperStatus (value.getD "") ∈ transientEventCodes)

/-- The message of a Vertex failure that an event carries. -/
def vertexEventMessage (code : String) (retryable : Bool) : String :=
  if code ∈ ["401", "UNAUTHENTICATED"] then authenticationFailed
  else if code ∈ ["403", "PERMISSION_DENIED"] then permissionMissing
  else if code ∈ ["404", "NOT_FOUND"] then modelUnavailable
  else if code ∈ ["400", "INVALID_ARGUMENT"] then configurationRejected
  else if retryable then temporarilyUnavailable
  else "Vertex AI model invocation failed"

/-- `normalize_provider_event_failure`. -/
def normalizeProviderEventFailure (surface : GeminiProviderSurface) (eventCode : Option String)
    (task : String) : NormalizedProviderFailure :=
  let normalized := upperStatus (eventCode.getD "")
  let retryable := isTransientEventCode (some normalized)
  match surface with
  | .geminiDeveloperApi =>
      ⟨"Gemini Developer API " ++ task ++ " invocation failed" ++ " during " ++ task, retryable⟩
  | .vertexAi => ⟨vertexEventMessage normalized retryable ++ " during " ++ task, retryable⟩

/-! ## Reported usage -/

/-- A value of a usage report: an integer, or something that does not count. -/
inductive UsageEntry where
  | integer (value : Int)
  | other
  deriving DecidableEq

/-- The keys or attributes of a usage report. -/
abbrev UsageMetadata := String → Option UsageEntry

/-- The count under one name. -/
def UsageEntry.count : UsageEntry → Option Nat
  | .integer value => if 0 ≤ value then some value.toNat else none
  | .other => none

/-- `_usage_value`: the first name that has a count. -/
def usageValue (metadata : UsageMetadata) (names : List String) : Option Nat :=
  names.findSome? fun name => (metadata name).bind UsageEntry.count

/-- `_maximum`. -/
def maximumCount : Option Nat → Option Nat → Option Nat
  | current, none => current
  | none, some candidate => some candidate
  | some current, some candidate => some (max current candidate)

/-- Usage fields of either surface, without invented values. -/
structure NormalizedGeminiUsage where
  promptTokens : Option Nat := none
  outputTokens : Option Nat := none
  totalTokens : Option Nat := none
  cachedTokens : Option Nat := none
  reasoningTokens : Option Nat := none
  deriving DecidableEq

/-- One field of the usage, and the names it is reported under. -/
structure UsageField where
  read : NormalizedGeminiUsage → Option Nat
  names : List String

def promptField : UsageField :=
  ⟨(·.promptTokens), ["prompt_token_count", "promptTokenCount", "input_token_count",
    "inputTokenCount"]⟩

def outputField : UsageField :=
  ⟨(·.outputTokens), ["candidates_token_count", "candidatesTokenCount", "output_token_count",
    "outputTokenCount"]⟩

def totalField : UsageField := ⟨(·.totalTokens), ["total_token_count", "totalTokenCount"]⟩

def cachedField : UsageField :=
  ⟨(·.cachedTokens), ["cached_content_token_count", "cachedContentTokenCount"]⟩

def reasoningField : UsageField :=
  ⟨(·.reasoningTokens), ["thoughts_token_count", "thoughtsTokenCount", "reasoning_token_count",
    "reasoningTokenCount"]⟩

def usageFields : List UsageField :=
  [promptField, outputField, totalField, cachedField, reasoningField]

/-- `NormalizedGeminiUsage.merge`. -/
def NormalizedGeminiUsage.merge (usage : NormalizedGeminiUsage) (metadata : UsageMetadata) :
    NormalizedGeminiUsage where
  promptTokens := maximumCount usage.promptTokens (usageValue metadata promptField.names)
  outputTokens := maximumCount usage.outputTokens (usageValue metadata outputField.names)
  totalTokens := maximumCount usage.totalTokens (usageValue metadata totalField.names)
  cachedTokens := maximumCount usage.cachedTokens (usageValue metadata cachedField.names)
  reasoningTokens := maximumCount usage.reasoningTokens (usageValue metadata reasoningField.names)

theorem NormalizedGeminiUsage.read_merge {field : UsageField} (known : field ∈ usageFields)
    (usage : NormalizedGeminiUsage) (metadata : UsageMetadata) :
    field.read (usage.merge metadata) =
      maximumCount (field.read usage) (usageValue metadata field.names) := by
  simp only [usageFields, List.mem_cons, List.not_mem_nil, or_false] at known
  rcases known with rfl | rfl | rfl | rfl | rfl <;> rfl

/-- The fields make up the usage. -/
theorem NormalizedGeminiUsage.ext_fields {usage other : NormalizedGeminiUsage}
    (same : ∀ field ∈ usageFields, field.read usage = field.read other) : usage = other := by
  have prompt : usage.promptTokens = other.promptTokens := same promptField (by simp [usageFields])
  have output : usage.outputTokens = other.outputTokens := same outputField (by simp [usageFields])
  have total : usage.totalTokens = other.totalTokens := same totalField (by simp [usageFields])
  have cached : usage.cachedTokens = other.cachedTokens := same cachedField (by simp [usageFields])
  have reasoning : usage.reasoningTokens = other.reasoningTokens :=
    same reasoningField (by simp [usageFields])
  cases usage
  cases other
  simp_all only

/-- A count is the largest of the reported ones, or there is none and none was reported. -/
def IsLargest (reported : Set Nat) : Option Nat → Prop
  | none => reported = ∅
  | some count => IsGreatest reported count

/-- Reports in any order and number have one largest count. -/
theorem IsLargest.unique {reported : Set Nat} {count other : Option Nat}
    (largest : IsLargest reported count) (also : IsLargest reported other) : count = other := by
  cases count with
  | none =>
      have empty : reported = ∅ := largest
      cases other with
      | none => rfl
      | some number =>
          have member : number ∈ reported := also.1
          rw [empty] at member
          cases member
  | some count =>
      have greatest : IsGreatest reported count := largest
      cases other with
      | none =>
          have empty : reported = ∅ := also
          have member : count ∈ reported := greatest.1
          rw [empty] at member
          cases member
      | some number => exact congrArg some (greatest.unique also)

/-- One more report. -/
theorem IsLargest.updated {reported : Set Nat} {current : Option Nat}
    (largest : IsLargest reported current) (candidate : Option Nat) :
    IsLargest (reported ∪ {count | candidate = some count}) (maximumCount current candidate) := by
  cases candidate with
  | none =>
      have nothing : {count : Nat | (none : Option Nat) = some count} = ∅ := by
        ext count
        simp
      have same : maximumCount current none = current := by cases current <;> rfl
      rw [nothing, Set.union_empty, same]
      exact largest
  | some candidate =>
      have single : {count | some candidate = some count} = {candidate} := by
        ext count
        simp [eq_comm]
      rw [single]
      cases current with
      | none =>
          have empty : reported = ∅ := largest
          rw [empty, Set.empty_union]
          exact isGreatest_singleton
      | some current =>
          have greatest : IsGreatest reported current := largest
          exact greatest.union isGreatest_singleton

/-! ## Sessions -/

/-- What the adapters read of one event; an event without content has no parts. -/
structure ProviderEvent where
  errorCode : Option String
  errorMessage : Option String
  modelVersion : Option String
  usageMetadata : Option UsageMetadata
  isFinalResponse : Bool
  parts : List (Option String)

/-- A text that counts as true. -/
def presentText (text : Option String) : Option String := text.filter (· ≠ "")

/-- The event carries an error. -/
def ProviderEvent.Failed (event : ProviderEvent) : Prop :=
  presentText event.errorCode ≠ none ∨ presentText event.errorMessage ≠ none

instance (event : ProviderEvent) : Decidable event.Failed := inferInstanceAs (Decidable (_ ∨ _))

/-- The text of a final response. -/
def ProviderEvent.finalText (event : ProviderEvent) : Option String :=
  if event.isFinalResponse then
    match event.parts.filterMap presentText with
    | [] => none
    | texts => some (String.join texts)
  else none

/-- What a session has kept. -/
structure SessionState where
  finalText : Option String := none
  modelVersion : Option String := none
  usage : NormalizedGeminiUsage := {}
  deriving DecidableEq

def SessionState.read (state : SessionState) (event : ProviderEvent) : SessionState where
  finalText := event.finalText.or state.finalText
  modelVersion := (presentText event.modelVersion).or state.modelVersion
  usage := match event.usageMetadata with
    | none => state.usage
    | some metadata => state.usage.merge metadata

/-- What distinguishes the four adapters: the name of their task, and the text of a session
without a final response. -/
structure AdapterTask where
  task : String
  missingText : String

def claimSelectionTask : AdapterTask :=
  ⟨"claim selection", "ADK claim invocation returned no final text"⟩

def claimInvestigationTask : AdapterTask :=
  ⟨"claim investigation", "ADK claim investigation returned no final text"⟩

def candidateGenerationTask : AdapterTask :=
  ⟨"candidate generation", "ADK candidate invocation returned no final text"⟩

def evidenceAssessmentTask : AdapterTask :=
  ⟨"evidence assessment", "ADK evidence assessment returned no final text"⟩

/-- How the stream of events ends. -/
inductive StreamEnd (Raised : Type) where
  | finished
  | raised (error : Raised)
  deriving DecidableEq

/-- What a session answers with. -/
structure SessionReply where
  text : String
  modelVersion : Option String
  usage : NormalizedGeminiUsage
  deriving DecidableEq

section Session

variable {Raised : Type} [Fintype Raised] [DecidableEq Raised] (chain : RaisedChain Raised)
  (surface : GeminiProviderSurface) (adapter : AdapterTask)

/-- The exception of an event that carries an error. -/
def eventFailure (event : ProviderEvent) : SurroundingException :=
  let failure := normalizeProviderEventFailure surface event.errorCode adapter.task
  .modelInvocation failure.message failure.retryable

/-- The exception of a stream that raises. -/
def streamFailure (error : Raised) : SurroundingException :=
  let failure := normalizeProviderFailure chain surface error adapter.task
  .modelInvocation failure.message failure.retryable

/-- One event of the stream. -/
def readEvent (state : SessionState) (event : ProviderEvent) :
    Except SurroundingException SessionState :=
  if event.Failed then .error (eventFailure surface adapter event) else .ok (state.read event)

/-- `invoke` of the adapters, from the first event on. -/
def invokeSession (events : List ProviderEvent) (ending : StreamEnd Raised) :
    Except SurroundingException SessionReply := do
  let state ← events.foldlM (readEvent surface adapter) {}
  match ending with
  | .raised error => .error (streamFailure chain surface adapter error)
  | .finished =>
      match state.finalText with
      | none => .error (.modelInvocation adapter.missingText false)
      | some text => .ok ⟨text, state.modelVersion, state.usage⟩

end Session

/-! ## What a session returns -/

/-- The counts that events report for a field. -/
def reportedCounts (names : List String) (events : List ProviderEvent) : Set Nat :=
  {count | ∃ event ∈ events, ∃ metadata, event.usageMetadata = some metadata ∧
    usageValue metadata names = some count}

theorem reportedCounts_snoc (names : List String) (events : List ProviderEvent)
    (event : ProviderEvent) :
    reportedCounts names (events ++ [event]) =
      reportedCounts names events ∪ {count | ∃ metadata, event.usageMetadata = some metadata ∧
        usageValue metadata names = some count} := by
  ext count
  simp only [reportedCounts, List.mem_append, List.mem_singleton, Set.mem_ofPred_eq, Set.mem_union]
  constructor
  · rintro ⟨other, member | rfl, facts⟩
    · exact .inl ⟨other, member, facts⟩
    · exact .inr facts
  · rintro (⟨other, member, facts⟩ | facts)
    · exact ⟨other, .inl member, facts⟩
    · exact ⟨event, .inr rfl, facts⟩

/-- What a session has kept after events that carry no error. -/
structure SessionState.Keeps (events : List ProviderEvent) (state : SessionState) : Prop where
  text : Latest ProviderEvent.finalText events state.finalText
  version : Latest (fun event => presentText event.modelVersion) events state.modelVersion
  usage : ∀ field ∈ usageFields,
    IsLargest (reportedCounts field.names events) (field.read state.usage)

theorem SessionState.keeps_start : ({} : SessionState).Keeps [] where
  text := .nil
  version := .nil
  usage := by
    intro field known
    have empty : reportedCounts field.names [] = ∅ := by
      ext count
      simp [reportedCounts]
    rw [empty]
    simp only [usageFields, List.mem_cons, List.not_mem_nil, or_false] at known
    rcases known with rfl | rfl | rfl | rfl | rfl <;> exact rfl

theorem SessionState.Keeps.read {events : List ProviderEvent} {state : SessionState}
    (keeps : state.Keeps events) (event : ProviderEvent) :
    (state.read event).Keeps (events ++ [event]) where
  text := keeps.text.snoc event
  version := keeps.version.snoc event
  usage := by
    intro field known
    have earlier := keeps.usage field known
    rw [reportedCounts_snoc]
    unfold SessionState.read
    cases reports : event.usageMetadata with
    | none =>
        have nothing : {count | ∃ metadata, (none : Option UsageMetadata) = some metadata ∧
            usageValue metadata field.names = some count} = ∅ := by
          ext count
          simp
        rw [nothing, Set.union_empty]
        exact earlier
    | some metadata =>
        have one : {count | ∃ other, some metadata = some other ∧
            usageValue other field.names = some count} =
              {count | usageValue metadata field.names = some count} := by
          ext count
          simp
        rw [one, NormalizedGeminiUsage.read_merge known]
        exact earlier.updated _

section Outcome

variable {Raised : Type} [Fintype Raised] [DecidableEq Raised] {chain : RaisedChain Raised}
  {surface : GeminiProviderSurface} {adapter : AdapterTask}

variable (surface adapter) in
/-- Reading a stream returns what its events have left, or fails at the first event that
carries an error. -/
theorem foldlM_readEvent (events : List ProviderEvent) :
    (∀ state, events.foldlM (readEvent surface adapter) {} = .ok state →
      (∀ event ∈ events, ¬ event.Failed) ∧ state.Keeps events) ∧
    ∀ raised, events.foldlM (readEvent surface adapter) {} = .error raised →
      ∃ before event after, events = before ++ event :: after ∧
        (∀ earlier ∈ before, ¬ earlier.Failed) ∧ event.Failed ∧
        raised = eventFailure surface adapter event := by
  induction events using List.reverseRecOn with
  | nil =>
      refine ⟨fun state same => ?_, fun _ same => (by cases same)⟩
      cases same
      exact ⟨fun _ member => (by cases member), SessionState.keeps_start⟩
  | append_singleton earlier event ih =>
      obtain ⟨returns, raises⟩ := ih
      rw [List.foldlM_append]
      cases outcome : earlier.foldlM (readEvent surface adapter) {} with
      | error raised =>
          refine ⟨fun _ same => (by cases same), fun other same => ?_⟩
          cases same
          obtain ⟨before, failing, after, split, sound, fails, same⟩ := raises raised outcome
          exact ⟨before, failing, after ++ [event], by rw [split]; simp, sound, fails, same⟩
      | ok state =>
          obtain ⟨sound, keeps⟩ := returns state outcome
          rw [Guard.ok_bind, List.foldlM_cons]
          by_cases fails : event.Failed
          · simp only [readEvent, if_pos fails, Guard.error_bind]
            refine ⟨fun _ same => (by cases same), fun other same => ?_⟩
            cases same
            exact ⟨earlier, event, [], rfl, sound, fails, rfl⟩
          · simp only [readEvent, if_neg fails, Guard.ok_bind, List.foldlM_nil]
            refine ⟨fun _ same => ?_, fun _ same => (by cases same)⟩
            cases same
            refine ⟨fun other member => ?_, keeps.read event⟩
            rcases List.mem_append.mp member with inside | same
            · exact sound other inside
            · exact List.mem_singleton.mp same ▸ fails

/-- A session that returns has read events without an error to their end. -/
theorem invokeSession_ok (events : List ProviderEvent) (ending : StreamEnd Raised)
    {reply : SessionReply}
    (returned : invokeSession chain surface adapter events ending = .ok reply) :
    (∀ event ∈ events, ¬ event.Failed) ∧ ending = .finished ∧
      Latest ProviderEvent.finalText events (some reply.text) ∧
      Latest (fun event => presentText event.modelVersion) events reply.modelVersion ∧
      ∀ field ∈ usageFields,
        IsLargest (reportedCounts field.names events) (field.read reply.usage) := by
  unfold invokeSession at returned
  cases outcome : events.foldlM (readEvent surface adapter) {} with
  | error failure =>
      rw [outcome] at returned
      cases returned
  | ok state =>
      obtain ⟨sound, keeps⟩ := (foldlM_readEvent surface adapter events).1 state outcome
      rw [outcome, Guard.ok_bind] at returned
      cases ending with
      | raised error => cases returned
      | finished =>
          have last := keeps.text
          cases kept : state.finalText with
          | none =>
              rw [kept] at returned
              cases returned
          | some text =>
              rw [kept] at last returned
              cases returned
              exact ⟨sound, rfl, last, keeps.version, keeps.usage⟩

/-- A session that raises does so for the first event that carries an error, else for the
exception that ended the stream, else for the missing text. -/
theorem invokeSession_error (events : List ProviderEvent) (ending : StreamEnd Raised)
    {raised : SurroundingException}
    (raises : invokeSession chain surface adapter events ending = .error raised) :
    (∃ before event after, events = before ++ event :: after ∧
        (∀ earlier ∈ before, ¬ earlier.Failed) ∧ event.Failed ∧
        raised = eventFailure surface adapter event) ∨
      ((∀ event ∈ events, ¬ event.Failed) ∧
        ((∃ error, ending = .raised error ∧ raised = streamFailure chain surface adapter error) ∨
          (ending = .finished ∧ (∀ event ∈ events, event.finalText = none) ∧
            raised = .modelInvocation adapter.missingText false))) := by
  unfold invokeSession at raises
  cases outcome : events.foldlM (readEvent surface adapter) {} with
  | error failure =>
      rw [outcome] at raises
      cases raises
      exact .inl ((foldlM_readEvent surface adapter events).2 raised outcome)
  | ok state =>
      obtain ⟨sound, keeps⟩ := (foldlM_readEvent surface adapter events).1 state outcome
      rw [outcome, Guard.ok_bind] at raises
      refine .inr ⟨sound, ?_⟩
      cases ending with
      | raised error =>
          cases raises
          exact .inl ⟨error, rfl, rfl⟩
      | finished =>
          have last := keeps.text
          cases kept : state.finalText with
          | none =>
              rw [kept] at last raises
              cases raises
              cases last with
              | absent silent => exact .inr ⟨rfl, silent, rfl⟩
          | some text =>
              rw [kept] at raises
              cases raises

/-- **Usage depends on what is reported only.**  Two sessions whose events carry the same
usage reports, in whatever order, number and company, return the same usage. -/
theorem session_usage_of_reports {other : RaisedChain Raised} {elsewhere : GeminiProviderSurface}
    {another : AdapterTask} {events later : List ProviderEvent} {ending ended : StreamEnd Raised}
    {reply again : SessionReply}
    (sameReports : ∀ metadata, (∃ event ∈ events, event.usageMetadata = some metadata) ↔
      ∃ event ∈ later, event.usageMetadata = some metadata)
    (returned : invokeSession chain surface adapter events ending = .ok reply)
    (returnedAgain : invokeSession other elsewhere another later ended = .ok again) :
    reply.usage = again.usage := by
  have sameCounts : ∀ names, reportedCounts names events = reportedCounts names later := by
    intro names
    ext count
    constructor
    · rintro ⟨event, member, metadata, reports, counts⟩
      obtain ⟨event, member, reports⟩ := (sameReports metadata).mp ⟨event, member, reports⟩
      exact ⟨event, member, metadata, reports, counts⟩
    · rintro ⟨event, member, metadata, reports, counts⟩
      obtain ⟨event, member, reports⟩ := (sameReports metadata).mpr ⟨event, member, reports⟩
      exact ⟨event, member, metadata, reports, counts⟩
  obtain ⟨_, _, _, _, largest⟩ := invokeSession_ok events ending returned
  obtain ⟨_, _, _, _, largestAgain⟩ := invokeSession_ok later ended returnedAgain
  have same : ∀ field ∈ usageFields, field.read reply.usage = field.read again.usage :=
    fun field known => (largest field known).unique (sameCounts field.names ▸ largestAgain field known)
  exact NormalizedGeminiUsage.ext_fields same

end Outcome

/-- An event that reports a number of prompt tokens, and says something. -/
def promptReport (count : Int) (text : String) : ProviderEvent where
  errorCode := none
  errorMessage := none
  modelVersion := none
  usageMetadata := some fun name =>
    if name = "promptTokenCount" then some (.integer count) else none
  isFinalResponse := true
  parts := [some text]

/-- The chain of a client that raises nothing. -/
def silentChain : RaisedChain Empty := ⟨fun _ => .other, fun _ => none, fun _ => none⟩

/-- Two reports in either order. -/
theorem session_usage_of_reports_swapped :
    invokeSession silentChain .vertexAi claimSelectionTask
        [promptReport 3 "a", promptReport 5 "b"] .finished =
      .ok ⟨"b", none, { promptTokens := some 5 }⟩ ∧
    ∀ again, invokeSession silentChain .vertexAi claimSelectionTask
        [promptReport 5 "b", promptReport 3 "a"] .finished = .ok again →
      ({ promptTokens := some 5 } : NormalizedGeminiUsage) = again.usage := by
  have returned : invokeSession silentChain .vertexAi claimSelectionTask
      [promptReport 3 "a", promptReport 5 "b"] .finished =
        .ok ⟨"b", none, { promptTokens := some 5 }⟩ := by
    decide +kernel
  refine ⟨returned, fun again returnedAgain => ?_⟩
  refine session_usage_of_reports (fun metadata => ?_) returned returnedAgain
  simp [or_comm]

end PatchProof
