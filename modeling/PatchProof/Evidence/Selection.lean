import Mathlib.Data.List.Lex
import Mathlib.Data.List.Sort
import PatchProof.Context.Models
import PatchProof.Library.Guard
import PatchProof.Library.Loads

/-!
# Selecting a claim

The claim agent's judgement of one response: decoded to a draft, normalized, checked
against the deterministic context, and refused with a diagnostic otherwise.

A diagnostic reads the refused response a second time, with Python's own JSON reader, and
hashes field names that look like secrets.  Of the ways in which that reader fails only one
is caught, and a name it returns may hold half a surrogate pair, which is not encoded: a
refused response of this kind ends the selection with another exception
(`selectClaim_fails_one_way_iff`).
-/

set_option autoImplicit false

namespace PatchProof

open Loads (CodePoints codePoints)

/-! ## Drafts -/

/-- Provider-visible semantic claim fields. -/
structure BehavioralClaimDraft where
  summary : BoundedText 1 220
  observableOperation : BoundedText 1 220
  triggerCondition : BoundedText 1 220
  expectedHeadObservation : BoundedText 1 280
  expectedBaseHypothesis : BoundedText 1 280
  sharedInterface : BoundedText 1 256
  preconditions : List (BoundedText 1 220)
  preconditionsWellFormed : preconditions.length ≤ 4 ∧
    preconditions.all (fun item => strip item.text != "") = true
  action : BoundedText 1 350
  expectedBehavior : BoundedText 1 450
  affectedSymbols : List AffectedSymbolRef
  affectedSymbolsWellFormed : affectedSymbols ≠ [] ∧ affectedSymbols.length ≤ 4 ∧
    affectedSymbols.Nodup
  supportingContext : List SupportingContextRef
  supportingContextWellFormed : supportingContext ≠ [] ∧ supportingContext.length ≤ 4
  confidence : ℚ
  confidenceBounded : 65 / 100 ≤ confidence ∧ confidence ≤ 1

/-- Compact provider-visible selection. -/
structure ClaimSelectionDraft where
  disposition : ClaimSelectionDisposition
  claim : Option BehavioralClaimDraft
  explanation : BoundedText 1 350
  selectedIffClaim : disposition = .selected ↔ claim.isSome = true

/-- Preconditions under wider bounds. -/
def widenPreconditions (items : List (BoundedText 1 220)) : List (BoundedText 1 300) :=
  items.map fun item => item.widen Nat.one_pos draftedStatement_le

theorem widenPreconditions_wellFormed {items : List (BoundedText 1 220)}
    (wellFormed : items.length ≤ 4 ∧ items.all (fun item => strip item.text != "") = true) :
    (widenPreconditions items).length ≤ 6 ∧
      (widenPreconditions items).all (fun item => strip item.text != "") = true := by
  constructor
  · rw [widenPreconditions, List.length_map]
    omega
  · rw [widenPreconditions, List.all_map]
    exact wellFormed.2

/-- The claim of a draft; the bounds of the draft are within those of the claim. -/
def BehavioralClaimDraft.normalize (claim : BehavioralClaimDraft) (explanation : BoundedText 1 350) :
    BehavioralClaim where
  claimId := "claim-selected-behavior"
  claimIdWellFormed := isClaimId_selectedBehavior
  summary := claim.summary.widen Nat.one_pos draftedStatement_le
  observableOperation := claim.observableOperation.widen draftedLeast_le draftedStatement_le
  triggerCondition := claim.triggerCondition.widen draftedLeast_le draftedStatement_le
  expectedHeadObservation :=
    claim.expectedHeadObservation.widen draftedLeast_le draftedObservation_le
  expectedBaseHypothesis :=
    claim.expectedBaseHypothesis.widen draftedLeast_le draftedObservation_le
  sharedInterface := claim.sharedInterface.widen (by decide) (by decide)
  preconditions := widenPreconditions claim.preconditions
  preconditionsWellFormed := widenPreconditions_wellFormed claim.preconditionsWellFormed
  action := claim.action.widen Nat.one_pos draftedAction_le
  expectedBehavior := claim.expectedBehavior.widen Nat.one_pos draftedBehavior_le
  affectedSymbols := claim.affectedSymbols
  affectedSymbolsWellFormed := by
    obtain ⟨some, few, distinct⟩ := claim.affectedSymbolsWellFormed
    exact ⟨some, by omega, distinct⟩
  supportingContext := claim.supportingContext
  supportingContextWellFormed := by
    obtain ⟨some, few⟩ := claim.supportingContextWellFormed
    exact ⟨some, by omega⟩
  confidence := claim.confidence
  confidenceBounded := claim.confidenceBounded
  reasoningSummary := explanation.widen (by decide) (by decide)

/-- `_normalize`. -/
def ClaimSelectionDraft.normalize (draft : ClaimSelectionDraft) : ClaimSelection where
  disposition := draft.disposition
  claim := draft.claim.map fun claim => claim.normalize draft.explanation
  explanation := draft.explanation.widen (by decide) (by decide)
  selectedIffClaim := by
    rw [Option.isSome_map]
    exact draft.selectedIffClaim

/-! ## Grounding -/

/-- An affected symbol that is a changed one. -/
def AffectedSymbolRef.isChanged (symbol : AffectedSymbolRef) (changed : ChangedSymbol) : Bool :=
  changed.path.text == symbol.path && changed.qualifiedName.text == symbol.qualifiedName.text

/-- A citation inside a snippet of its path. -/
def SupportingContextRef.isInside (citation : SupportingContextRef) (snippet : ContextSnippet) :
    Bool :=
  snippet.path.text == citation.path && snippet.startLine ≤ citation.startLine &&
    citation.endLine ≤ snippet.endLine

/-- What is wrong with the interface that a claim names. -/
def interfaceProblem (context : PullRequestContext) (shared : String) : Option String :=
  if shared = "" then none
  else if context.interfaces.headOnlyLeafNames.contains (leafName shared) then
    some ("claim targets an interface that exists only on HEAD; a differential " ++
      "experiment requires an interface present on both revisions")
  else if !(context.interfaces.presentOnBoth.map leafName).contains (leafName shared) then
    some ("claim's shared interface is absent from the deterministic " ++
      "BASE/HEAD symbol partition")
  else none

/-- `_validate_grounding`, of a claim. -/
def claimProblem (context : PullRequestContext) (claim : BehavioralClaim) : Option String :=
  if claim.affectedSymbols.any fun symbol =>
      !context.changedSymbols.any fun changed => symbol.isChanged changed then
    some "claim references an affected symbol absent from deterministic context"
  else match interfaceProblem context claim.sharedInterface.text with
    | some problem => some problem
    | none =>
        if claim.supportingContext.any fun citation =>
            !context.snippets.any fun snippet => citation.isInside snippet then
          some "claim citation falls outside the deterministic context snippets"
        else none

/-- `_validate_grounding`. -/
def groundingProblem (context : PullRequestContext) (selection : ClaimSelection) : Option String :=
  selection.claim.bind (claimProblem context)

/-- Every affected symbol is a changed symbol of the context, and every citation lies
inside a snippet of its path. -/
def Grounded (context : PullRequestContext) (selection : ClaimSelection) : Prop :=
  ∀ claim, selection.claim = some claim →
    (∀ symbol ∈ claim.affectedSymbols, ∃ changed ∈ context.changedSymbols,
      changed.path.text = symbol.path ∧
        changed.qualifiedName.text = symbol.qualifiedName.text) ∧
    ∀ citation ∈ claim.supportingContext, ∃ snippet ∈ context.snippets,
      snippet.path.text = citation.path ∧ snippet.startLine ≤ citation.startLine ∧
        citation.endLine ≤ snippet.endLine

theorem grounded_of_no_problem {context : PullRequestContext} {selection : ClaimSelection}
    (passed : groundingProblem context selection = none) : Grounded context selection := by
  intro claim selected
  rw [groundingProblem, selected, Option.bind_some, claimProblem] at passed
  split at passed
  · cases passed
  · rename_i known
    split at passed
    · cases passed
    · split at passed
      · cases passed
      · rename_i cited
        constructor
        · intro symbol mem
          by_contra absent
          refine known (List.any_eq_true.mpr ⟨symbol, mem, ?_⟩)
          rw [Bool.not_eq_true', Bool.eq_false_iff]
          intro isChanged
          obtain ⟨changed, changedMem, same⟩ := List.any_eq_true.mp isChanged
          simp only [AffectedSymbolRef.isChanged, Bool.and_eq_true, beq_iff_eq] at same
          exact absent ⟨changed, changedMem, same⟩
        · intro citation mem
          by_contra outside
          refine cited (List.any_eq_true.mpr ⟨citation, mem, ?_⟩)
          rw [Bool.not_eq_true', Bool.eq_false_iff]
          intro inside
          obtain ⟨snippet, snippetMem, within⟩ := List.any_eq_true.mp inside
          simp only [SupportingContextRef.isInside, Bool.and_eq_true, beq_iff_eq,
            decide_eq_true_eq] at within
          exact outside ⟨snippet, snippetMem, within.1.1, within.1.2, within.2⟩

/-! ## Diagnostics -/

inductive ClaimOutputStage where
  | responseBudget
  | draftSchema
  | normalization
  | grounding
  deriving DecidableEq

/-- Whether claim-output JSON was parsed. -/
inductive ClaimJsonParseStatus where
  | notAttempted
  | invalid
  | valid
  deriving DecidableEq

/-- Bounded structure-only facts for invalid claim output. -/
structure ClaimOutputDiagnostic where
  stage : ClaimOutputStage
  responseSha256 : Sha256
  responseChars : Nat
  outputTokens : Option Nat
  responseBudgetExceeded : Bool
  jsonParseStatus : ClaimJsonParseStatus
  jsonError : Option (Nat × Nat)
  topLevelKind : String
  expectedFieldsPresent : List String
  expectedFieldsMissing : List String
  unexpectedFields : List String
  unexpectedFieldCount : Nat
  validationErrors : List String
  diagnosticTruncated : Bool
  deriving DecidableEq

/-- The exceptions that reading a response again may raise, besides a decode error. -/
inductive EscapedException where
  | value
  | recursion
  | unicodeEncode
  deriving DecidableEq

/-- One error of the validation of a draft. -/
structure DraftError where
  location : List String
  kind : String
  deriving DecidableEq

/-- `_json_kind`. -/
def jsonKind : Loads.Value → String
  | .null => "null"
  | .bool _ => "boolean"
  | .object _ => "object"
  | .array _ => "array"
  | .string _ => "string"
  | .int _ | .float _ => "number"

def isWordPoint (point : Nat) : Bool :=
  (48 ≤ point && point ≤ 57) || (65 ≤ point && point ≤ 90) || (97 ≤ point && point ≤ 122) ||
    point == 95

/-- The characters that a diagnostic keeps. -/
def isDiagnosticPoint (point : Nat) : Bool :=
  isWordPoint point || point == 46 || point == 45 || point == 91 || point == 93 || point == 36

/-- `_DIAGNOSTIC_FIELD_PATTERN.sub("?", value)`. -/
def sanitizeField (value : CodePoints) : String :=
  String.ofList (value.map fun point => if isDiagnosticPoint point then Char.ofNat point else '?')

def sensitiveFragments : List String :=
  ["authorization", "apikey", "api_key", "api-key", "token", "secret", "password", "credential"]

/-- A name that looks like one of a secret. -/
def isSensitiveField (sanitized : String) : Bool :=
  let lowered := sanitized.toList.map Char.toLower
  sensitiveFragments.any fun fragment => lowered.tails.any fragment.toList.isPrefixOf

/-- A long name of letters, digits, underscores and hyphens. -/
def isOpaqueField (value : CodePoints) : Bool :=
  24 ≤ value.length && value.all fun point => isWordPoint point || point == 45

/-- Whether a diagnostic hashes a name. -/
def isHashedField (value : CodePoints) : Bool :=
  80 < value.length || isSensitiveField (sanitizeField value) || isOpaqueField value

/-- `_safe_diagnostic_field`. -/
def safeDiagnosticField (digest : String → Sha256) (value : CodePoints) :
    Except EscapedException String :=
  if isHashedField value then
    if value.any Loads.isSurrogate then .error .unicodeEncode
    else .ok ("sha256:" ++ truncate 12 (digest (String.ofList (value.map Char.ofNat))).text)
  else .ok (sanitizeField value)

def claimDraftFields : List String := ["claim", "disposition", "explanation"]

/-- The names of an object that a draft has no field for, in order. -/
def unexpectedKeys (fields : List (CodePoints × Loads.Value)) : List CodePoints :=
  ((fields.map Prod.fst).filter fun key => !(claimDraftFields.map codePoints).contains key)
    |>.insertionSort fun first second => first ≤ second

/-- What a diagnostic says of the second reading. -/
structure ReadAgain where
  status : ClaimJsonParseStatus := .notAttempted
  error : Option (Nat × Nat) := none
  kind : String := "unknown"
  present : List String := []
  missing : List String := claimDraftFields
  unexpected : List String := []
  unexpectedCount : Nat := 0
  truncated : Bool := false

/-- What a diagnostic says of a value. -/
def readValue (digest : String → Sha256) (value : Loads.Value) :
    Except EscapedException ReadAgain :=
  match value with
  | .object fields =>
      let keys := fields.map Prod.fst
      let unexpected := unexpectedKeys fields
      match (unexpected.take 8).mapM (safeDiagnosticField digest) with
      | .error exception => .error exception
      | .ok safe => .ok {
          status := .valid
          kind := jsonKind value
          present := claimDraftFields.filter fun field => keys.contains (codePoints field)
          missing := claimDraftFields.filter fun field => !keys.contains (codePoints field)
          unexpected := safe
          unexpectedCount := unexpected.length
          truncated := 8 < unexpected.length || (unexpected.take 8).any fun key => 80 < key.length }
  | _ => .ok { status := .valid, kind := jsonKind value }

/-- Read a refused response again; nesting may be `nesting` deep. -/
def readAgain (digest : String → Sha256) (nesting : Nat) (text : String) :
    Except EscapedException ReadAgain :=
  match Loads.loads nesting text with
  | .error (.decode left) => .ok {
      status := .invalid
      error := some (Loads.lineAndColumn text left) }
  | .error .digits => .error .value
  -- a reader that runs out of fuel does not occur
  | .error .recursion | .error .exhausted => .error .recursion
  | .ok value => readValue digest value

/-- One line of a diagnostic. -/
def describeError (digest : String → Sha256) (error : DraftError) : Except EscapedException String :=
  match error.location.mapM fun part => safeDiagnosticField digest (codePoints part) with
  | .error exception => .error exception
  | .ok parts => .ok (orElseText (".".intercalate parts) "$" ++ ":" ++
      truncate 80 (sanitizeField (codePoints error.kind)))

/-! ## The agent -/

/-- What the claim agent is built with and works on.  The validation of drafts, the
reader's limit of nesting and the hash are given. -/
structure BehavioralClaimAgent where
  maxInputJsonChars : Nat := 64000
  maxResponseChars : Nat := 6000
  nesting : Nat
  digest : String → Sha256
  requestChars : PullRequestContext → PullRequestNarrative → Nat
  decodeDraft : String → Except (List DraftError) ClaimSelectionDraft

/-- Untrusted final model text plus usage metadata. -/
structure RawClaimModelResponse where
  text : String
  notEmpty : text ≠ ""
  usage : ModelUsage

/-- How a selection fails. -/
inductive ClaimSelectionFailure where
  | requestTooLarge
  | invalidOutput (message : String) (usage : ModelUsage) (rawResponseSha256 : Sha256)
      (diagnostic : ClaimOutputDiagnostic)
  | escaped (exception : EscapedException)

namespace BehavioralClaimAgent

variable (agent : BehavioralClaimAgent)

/-- `_claim_output_diagnostic`. -/
def claimOutputDiagnostic (response : RawClaimModelResponse) (stage : ClaimOutputStage)
    (errors : List DraftError) : Except EscapedException ClaimOutputDiagnostic :=
  let again := if stage = .responseBudget then .ok {}
    else readAgain agent.digest agent.nesting response.text
  match again with
  | .error exception => .error exception
  | .ok read =>
      match errors.mapM (describeError agent.digest) with
      | .error exception => .error exception
      | .ok lines => .ok {
          stage := stage
          responseSha256 := agent.digest response.text
          responseChars := response.text.length
          outputTokens := response.usage.outputTokens
          responseBudgetExceeded := stage = .responseBudget
          jsonParseStatus := read.status
          jsonError := read.error
          topLevelKind := read.kind
          expectedFieldsPresent := read.present
          expectedFieldsMissing := read.missing
          unexpectedFields := read.unexpected
          unexpectedFieldCount := read.unexpectedCount
          validationErrors := lines.take 8
          diagnosticTruncated := read.truncated || 8 < lines.length }

/-- Refuse a response, with a diagnostic. -/
def refuse (response : RawClaimModelResponse) (message : String) (stage : ClaimOutputStage)
    (errors : List DraftError) : ClaimSelectionFailure :=
  match agent.claimOutputDiagnostic response stage errors with
  | .error exception => .escaped exception
  | .ok diagnostic => .invalidOutput message response.usage (agent.digest response.text) diagnostic

/-- `select_claim`, from the model's response. -/
def selectClaim (context : PullRequestContext) (narrative : PullRequestNarrative)
    (response : RawClaimModelResponse) : Except ClaimSelectionFailure ClaimAgentResult :=
  if agent.maxInputJsonChars < agent.requestChars context narrative then .error .requestTooLarge
  else if agent.maxResponseChars < response.text.length then
    .error (agent.refuse response "claim model response exceeds the configured budget"
      .responseBudget [])
  else match agent.decodeDraft response.text with
    | .error errors => .error (agent.refuse response
        "claim model returned invalid structured output" .draftSchema errors)
    | .ok draft =>
        match groundingProblem context draft.normalize with
        | some message => .error (agent.refuse response message .grounding [])
        | none => .ok ⟨draft.normalize, response.usage, agent.digest response.text⟩

/-! ## One way to fail -/

/-- The selection is grounded, or the response is refused with its hash and usage. -/
def FailsOneWay (context : PullRequestContext) (narrative : PullRequestNarrative)
    (response : RawClaimModelResponse) : Prop :=
  match agent.selectClaim context narrative response with
  | .ok result => Grounded context result.selection ∧ result.usage = response.usage ∧
      result.rawResponseSha256 = agent.digest response.text
  | .error (.invalidOutput _ usage rawResponseSha256 _) =>
      usage = response.usage ∧ rawResponseSha256 = agent.digest response.text
  | .error .requestTooLarge => agent.maxInputJsonChars < agent.requestChars context narrative
  | .error (.escaped _) => False

/-- A response within its budget that is no draft, or whose draft is not grounded. -/
def Refused (context : PullRequestContext) (text : String) : Prop :=
  text.length ≤ agent.maxResponseChars ∧
    ((∃ errors, agent.decodeDraft text = .error errors) ∨
      ∃ draft problem, agent.decodeDraft text = .ok draft ∧
        groundingProblem context draft.normalize = some problem)

/-- A text that Python's reader fails on other than by a decode error, or an object with a
name to hash, among the first eight it has no field for, that holds half a surrogate pair. -/
def Undiagnosable (text : String) : Prop :=
  Loads.loads agent.nesting text = .error .digits ∨
    Loads.loads agent.nesting text = .error .recursion ∨
    ∃ fields, Loads.loads agent.nesting text = .ok (.object fields) ∧
      ∃ key ∈ (unexpectedKeys fields).take 8, isHashedField key = true ∧
        key.any Loads.isSurrogate = true

end BehavioralClaimAgent

theorem codePoints_encodable (text : String) : (codePoints text).any Loads.isSurrogate = false := by
  rw [List.any_eq_false]
  intro point mem
  obtain ⟨c, _, rfl⟩ := List.mem_map.mp mem
  have valid := c.valid
  rw [Loads.isSurrogate, Bool.and_eq_true, decide_eq_true_eq, decide_eq_true_eq]
  change c.val.toNat < 0xD800 ∨ 0xDFFF < c.val.toNat ∧ c.val.toNat < 0x110000 at valid
  change ¬ (0xD800 ≤ c.val.toNat ∧ c.val.toNat ≤ 0xDFFF)
  omega

/-- Hashing a name fails when it cannot be encoded. -/
theorem safeDiagnosticField_isOk (digest : String → Sha256) (value : CodePoints) :
    (∃ safe, safeDiagnosticField digest value = .ok safe) ↔
      ¬ (isHashedField value = true ∧ value.any Loads.isSurrogate = true) := by
  unfold safeDiagnosticField
  split
  · rename_i hashed
    split
    · rename_i surrogate
      simp [hashed, surrogate]
    · rename_i encodable
      simp [encodable]
  · rename_i plain
    simp [plain]

theorem mapM_isOk {α β ε : Type} (f : α → Except ε β) (items : List α) :
    (∃ results, items.mapM f = .ok results) ↔ ∀ item ∈ items, ∃ result, f item = .ok result := by
  induction items with
  | nil => exact ⟨fun _ _ absent => absurd absent List.not_mem_nil, fun _ => ⟨[], rfl⟩⟩
  | cons first rest ih =>
      rw [List.forall_mem_cons, ← ih]
      constructor
      · rintro ⟨results, done⟩
        rw [List.mapM_cons] at done
        obtain ⟨one, isOne, done⟩ := Guard.bind_eq_ok_iff.mp done
        obtain ⟨others, areOthers, _⟩ := Guard.bind_eq_ok_iff.mp done
        exact ⟨⟨one, isOne⟩, others, areOthers⟩
      · rintro ⟨⟨one, isOne⟩, others, areOthers⟩
        refine ⟨one :: others, ?_⟩
        rw [List.mapM_cons, isOne, areOthers]
        rfl

theorem readValue_isOk (digest : String → Sha256) (value : Loads.Value) :
    (∃ read, readValue digest value = .ok read) ↔
      ¬ ∃ fields, value = .object fields ∧ ∃ key ∈ (unexpectedKeys fields).take 8,
        isHashedField key = true ∧ key.any Loads.isSurrogate = true := by
  cases value with
  | object fields =>
      have named : (∃ safe, ((unexpectedKeys fields).take 8).mapM (safeDiagnosticField digest) =
          .ok safe) ↔ ∀ key ∈ (unexpectedKeys fields).take 8,
            ¬ (isHashedField key = true ∧ key.any Loads.isSurrogate = true) := by
        rw [mapM_isOk]
        exact forall₂_congr fun key _ => safeDiagnosticField_isOk digest key
      have reads : (∃ read, readValue digest (.object fields) = .ok read) ↔
          ∃ safe, ((unexpectedKeys fields).take 8).mapM (safeDiagnosticField digest) =
            .ok safe := by
        unfold readValue
        dsimp only
        split
        · rename_i exception failed
          simp [failed]
        · rename_i safe passed
          simp [passed]
      rw [reads, named]
      simp
  | _ => simp [readValue]

/-- A response is read again, unless it is undiagnosable. -/
theorem readAgain_isOk (agent : BehavioralClaimAgent) (text : String) :
    (∃ read, readAgain agent.digest agent.nesting text = .ok read) ↔
      ¬ agent.Undiagnosable text := by
  unfold readAgain BehavioralClaimAgent.Undiagnosable
  have fuel := Loads.loads_ne_exhausted agent.nesting text
  cases loaded : Loads.loads agent.nesting text with
  | error failure =>
      cases failure with
      | exhausted => exact absurd loaded fuel
      | decode left => simp
      | digits => simp
      | recursion => simp
  | ok value =>
      have read := readValue_isOk agent.digest value
      simpa using read

theorem describeErrors_isOk (digest : String → Sha256) (errors : List DraftError) :
    ∃ lines, errors.mapM (describeError digest) = .ok lines := by
  rw [mapM_isOk]
  intro error _
  obtain ⟨parts, located⟩ := (mapM_isOk (fun part => safeDiagnosticField digest (codePoints part))
    error.location).mpr fun part _ => (safeDiagnosticField_isOk digest (codePoints part)).mpr
      fun ⟨_, surrogate⟩ => Bool.false_ne_true ((codePoints_encodable part).symm.trans surrogate)
  unfold describeError
  rw [located]
  exact ⟨_, rfl⟩

namespace BehavioralClaimAgent

theorem claimOutputDiagnostic_isOk (agent : BehavioralClaimAgent)
    (response : RawClaimModelResponse) (stage : ClaimOutputStage)
    (errors : List DraftError) :
    (∃ diagnostic, agent.claimOutputDiagnostic response stage errors = .ok diagnostic) ↔
      stage = .responseBudget ∨ ¬ agent.Undiagnosable response.text := by
  obtain ⟨lines, described⟩ := describeErrors_isOk agent.digest errors
  have read := readAgain_isOk agent response.text
  unfold claimOutputDiagnostic
  rw [described]
  by_cases budget : stage = .responseBudget
  · simp [budget]
  · simp only [budget, if_false, false_or, ← read]
    split
    · rename_i exception failed
      simp [failed]
    · rename_i again passed
      simp [passed]

/-- Refusing a response escapes exactly when it is undiagnosable and was to be read. -/
theorem refuse_spec (agent : BehavioralClaimAgent) (response : RawClaimModelResponse) (message : String)
    (stage : ClaimOutputStage) (errors : List DraftError) :
    (∃ diagnostic, agent.refuse response message stage errors =
        .invalidOutput message response.usage (agent.digest response.text) diagnostic) ∧
        (stage = .responseBudget ∨ ¬ agent.Undiagnosable response.text) ∨
      (∃ exception, agent.refuse response message stage errors = .escaped exception) ∧
        ¬ (stage = .responseBudget ∨ ¬ agent.Undiagnosable response.text) := by
  have diagnosed := claimOutputDiagnostic_isOk agent response stage errors
  unfold refuse
  cases described : agent.claimOutputDiagnostic response stage errors with
  | error exception =>
      refine .inr ⟨⟨exception, rfl⟩, fun fine => ?_⟩
      obtain ⟨diagnostic, passed⟩ := diagnosed.mpr fine
      rw [described] at passed
      cases passed
  | ok diagnostic => exact .inl ⟨⟨diagnostic, rfl⟩, diagnosed.mp ⟨diagnostic, described⟩⟩

/-- **The agent returns a grounded selection or refuses the response with its hash and
usage, exactly when the response is not both refused and undiagnosable.** -/
theorem selectClaim_fails_one_way_iff (agent : BehavioralClaimAgent) (context : PullRequestContext)
    (narrative : PullRequestNarrative) (response : RawClaimModelResponse) :
    agent.FailsOneWay context narrative response ↔
      ¬ (agent.requestChars context narrative ≤ agent.maxInputJsonChars ∧
        agent.Refused context response.text ∧ agent.Undiagnosable response.text) := by
  unfold FailsOneWay selectClaim
  by_cases fits : agent.requestChars context narrative ≤ agent.maxInputJsonChars
  · rw [if_neg (Nat.not_lt_of_le fits)]
    by_cases within : response.text.length ≤ agent.maxResponseChars
    · rw [if_neg (Nat.not_lt_of_le within)]
      cases decoded : agent.decodeDraft response.text with
      | error errors =>
          have refused : agent.Refused context response.text := ⟨within, .inl ⟨errors, decoded⟩⟩
          rcases refuse_spec agent response
              "claim model returned invalid structured output" .draftSchema errors with
            ⟨⟨diagnostic, said⟩, fine⟩ | ⟨⟨exception, said⟩, stuck⟩
          · simp only [said]
            simpa [fits, refused] using fine
          · simp only [said]
            simpa [fits, refused] using stuck
      | ok draft =>
          dsimp only
          cases checked : groundingProblem context draft.normalize with
          | none =>
              have accepted : ¬ agent.Refused context response.text := by
                rintro ⟨_, ⟨errors, failed⟩ | ⟨other, problem, isOther, failed⟩⟩
                · rw [decoded] at failed
                  cases failed
                · rw [decoded] at isOther
                  cases isOther
                  rw [checked] at failed
                  cases failed
              simpa [accepted] using grounded_of_no_problem checked
          | some problem =>
              have refused : agent.Refused context response.text :=
                ⟨within, .inr ⟨draft, problem, decoded, checked⟩⟩
              rcases refuse_spec agent response problem .grounding [] with
                ⟨⟨diagnostic, said⟩, fine⟩ | ⟨⟨exception, said⟩, stuck⟩
              · simp only [said]
                simpa [fits, refused] using fine
              · simp only [said]
                simpa [fits, refused] using stuck
    · have unread : ¬ agent.Refused context response.text := fun refused => within refused.1
      rw [if_pos (Nat.lt_of_not_le within)]
      rcases refuse_spec agent response
          "claim model response exceeds the configured budget" .responseBudget [] with
        ⟨⟨diagnostic, said⟩, _⟩ | ⟨_, stuck⟩
      · simp only [said]
        simp [unread]
      · exact absurd (.inl rfl) stuck
  · rw [if_pos (Nat.lt_of_not_le fits)]
    simpa [fits] using Nat.lt_of_not_le fits

end BehavioralClaimAgent

/-! ## A name with half a surrogate pair -/

/-- An agent whose validation refuses every response as JSON, as it refuses half a
surrogate pair. -/
def refusingAgent : BehavioralClaimAgent where
  nesting := 100
  digest _ := ⟨String.ofList (List.replicate 64 '0'), isSha256_zeros⟩
  requestChars _ _ := 0
  decodeDraft _ := .error [⟨[], "json_invalid"⟩]

/-- The context of a change that touches no file. -/
def emptyContext : PullRequestContext where
  baseSha := ⟨String.ofList (List.replicate 40 '0'), by decide +kernel⟩
  headSha := ⟨String.ofList (List.replicate 40 '1'), by decide +kernel⟩
  diff := ""
  changedFiles := []
  changedSymbols := []
  snippets := []
  stats := {
    changedFileCount := 0
    changedPythonFileCount := 0
    pythonPathCount := 0
    testFilesScanned := 0
    referenceFilesScanned := 0
    omittedChangedFiles := 0
    truncated := false }

/-- An object with one name, an escape in which stands for half a surrogate pair. -/
def surrogateResponse : RawClaimModelResponse where
  text := "\x7b\"token\\ud800\": 1\x7d"
  notEmpty := by decide
  usage := .single

/-- The name is hashed and cannot be encoded, and the exception escapes. -/
theorem BehavioralClaimAgent.surrogate_name_escapes : ∃ (agent : BehavioralClaimAgent)
    (context : PullRequestContext) (narrative : PullRequestNarrative) (response : RawClaimModelResponse),
    agent.requestChars context narrative ≤ agent.maxInputJsonChars ∧
      ¬ agent.FailsOneWay context narrative response := by
  have fits : refusingAgent.requestChars emptyContext (.fromUntrusted "title" "body") ≤
      refusingAgent.maxInputJsonChars := by
    change 0 ≤ 64000
    exact Nat.zero_le _
  have within : surrogateResponse.text.length ≤ 6000 := by decide +kernel
  have again : (readAgain refusingAgent.digest 100 surrogateResponse.text).isOk = false := by
    decide +kernel
  refine ⟨refusingAgent, emptyContext, .fromUntrusted "title" "body", surrogateResponse,
    fits, ?_⟩
  rcases refuse_spec refusingAgent surrogateResponse
      "claim model returned invalid structured output" .draftSchema [⟨[], "json_invalid"⟩] with
    ⟨_, fine⟩ | ⟨⟨exception, said⟩, _⟩
  · have readable := fine.resolve_left fun absurdity => by cases absurdity
    obtain ⟨read, isRead⟩ := (readAgain_isOk refusingAgent surrogateResponse.text).mpr readable
    have same : refusingAgent.nesting = 100 := rfl
    rw [same] at isRead
    rw [isRead] at again
    cases again
  · have escapes : refusingAgent.selectClaim emptyContext (.fromUntrusted "title" "body")
        surrogateResponse = .error (.escaped exception) := by
      have short : ¬ refusingAgent.maxResponseChars < surrogateResponse.text.length :=
        Nat.not_lt_of_le within
      unfold selectClaim
      rw [if_neg (Nat.not_lt_of_le fits), if_neg short]
      exact congrArg Except.error said
    rw [FailsOneWay, escapes]
    exact not_false

end PatchProof
