import Mathlib.Data.List.Lex
import PatchProof.Evidence.Selection
import PatchProof.Evidence.Validator
import PatchProof.Worker.Session

/-!
# Answers of the candidate model

A generator with the validator and the diagnostics of the source.  A response that is no
draft is read a second time, with Python's own JSON reader, to describe its shape; a
response that is one is validated.

Both can end in an exception that nothing catches: the reader fails on long integers and
deep nesting, half a surrogate pair in the described source cannot be encoded, and a
message with a long name is no valid issue.  Then the model call is counted and no attempt
records the response (`answer_records_iff`).
-/

set_option autoImplicit false

namespace PatchProof

open Loads (CodePoints codePoints)

/-! ## Diagnostics -/

def candidateDraftFields : List String := ["rationale", "source"]

/-- What the second reading says of the source of a draft. -/
structure DescribedSource where
  present : Bool := false
  jsonType : Option String := none
  chars : Option Nat := none
  sha256 : Option Sha256 := none

/-- The structure-only facts of a response that is no proposal, apart from its stage and
from the errors of its validation. -/
structure CandidateOutputDiagnostic where
  responseSha256 : Sha256
  responseChars : Nat
  jsonParseStatus : ClaimJsonParseStatus
  jsonError : Option (Nat × Nat) := none
  topLevelKind : String := "unknown"
  expectedFieldsPresent : List String := []
  expectedFieldsMissing : List String := candidateDraftFields
  unexpectedFields : List String := []
  unexpectedFieldCount : Nat := 0
  source : DescribedSource := {}
  diagnosticTruncated : Bool := false

/-- What a generator is built with and works on.  The decoding of drafts, the reader's
limit of nesting and the hash are given. -/
structure BoundedCandidateTestGenerator where
  validator : CandidateTestValidator
  scope : ValidationScope
  directory : String
  maxResponseChars : Nat := 20000
  signatures : RepositorySignatureContext
  requestFits : Option CandidateTestProposal → Option CandidateFeedback → Bool
  nesting : Nat
  digest : String → Sha256
  decodeDraft : String → Option CandidateTestDraft

namespace BoundedCandidateTestGenerator

variable (generator : BoundedCandidateTestGenerator)

/-- The source of a draft, as the second reading has it. -/
def describeSource (fields : List (CodePoints × Loads.Value)) :
    Except RaisedException DescribedSource :=
  match (fields.find? fun field => field.1 = codePoints "source").map Prod.snd with
  | none => .ok {}
  | some (.string text) =>
      if text.any Loads.isSurrogate then .error (.value "surrogates not allowed")
      else .ok {
        present := true
        jsonType := some "string"
        chars := some text.length
        sha256 := some (generator.digest (String.ofList (text.map Char.ofNat))) }
  | some value => .ok { present := true, jsonType := some (jsonKind value) }

/-- The names of an object that a draft has no field for, in order. -/
def unexpectedDraftKeys (fields : List (CodePoints × Loads.Value)) : List CodePoints :=
  ((fields.map Prod.fst).filter fun key => !(candidateDraftFields.map codePoints).contains key)
    |>.insertionSort fun first second => first ≤ second

/-- What a diagnostic says of a value. -/
def describeValue (text : String) (value : Loads.Value) :
    Except RaisedException CandidateOutputDiagnostic :=
  match value with
  | .object fields => do
      let source ← generator.describeSource fields
      let keys := fields.map Prod.fst
      let unexpected := unexpectedDraftKeys fields
      .ok {
        responseSha256 := generator.digest text
        responseChars := text.length
        jsonParseStatus := .valid
        topLevelKind := jsonKind value
        expectedFieldsPresent := candidateDraftFields.filter fun field =>
          keys.contains (codePoints field)
        expectedFieldsMissing := candidateDraftFields.filter fun field =>
          !keys.contains (codePoints field)
        unexpectedFields := (unexpected.take 8).map fun key => truncate 80 (sanitizeField key)
        unexpectedFieldCount := unexpected.length
        source := source
        diagnosticTruncated := 8 < unexpected.length ||
          (unexpected.take 8).any fun key => 80 < key.length }
  | _ => .ok {
      responseSha256 := generator.digest text
      responseChars := text.length
      jsonParseStatus := .valid
      topLevelKind := jsonKind value }

/-- `_candidate_output_diagnostic`, of a response within the budget. -/
def describe (text : String) : Except RaisedException CandidateOutputDiagnostic :=
  match Loads.loads generator.nesting text with
  | .error (.decode left) => .ok {
      responseSha256 := generator.digest text
      responseChars := text.length
      jsonParseStatus := .invalid
      jsonError := some (Loads.lineAndColumn text left) }
  | .error .digits =>
      .error (.value "Exceeds the limit (4300 digits) for integer string conversion")
  -- a reader that runs out of fuel does not occur
  | .error .recursion | .error .exhausted => .error (.runtime "maximum recursion depth exceeded")
  | .ok value => generator.describeValue text value

/-- The generator of sessions; its attempts are kept without their diagnostics. -/
def settings : GeneratorSettings where
  directory := generator.directory
  maxResponseChars := generator.maxResponseChars
  signatures := generator.signatures
  requestFits := generator.requestFits
  digest := generator.digest
  decodeDraft text :=
    match generator.decodeDraft text with
    | some draft => .ok (some draft)
    | none => (generator.describe text).map fun _ => none
  describe text := (generator.describe text).map fun _ => ()
  validate := generator.validator.validate generator.scope

/-! ## Recorded responses -/

/-- The call appends exactly one attempt and returns it. -/
def Records (session : CandidateSession) (invocation : CandidateInvocation)
    (response : RawCandidateModelResponse) : Prop :=
  ∃ attempt, session.answer generator.settings invocation response =
    ({ session with invoking := none, attempts := session.attempts ++ [attempt] }, .ok attempt)

/-- A text that Python's reader reads or refuses with a decode error, in which the source
of an object has no half of a surrogate pair. -/
def Describable (text : String) : Prop :=
  (∃ left, Loads.loads generator.nesting text = .error (.decode left)) ∨
    ∃ value, Loads.loads generator.nesting text = .ok value ∧
      ∀ fields source, value = .object fields →
        (fields.find? fun field => field.1 = codePoints "source").map Prod.snd =
          some (.string source) → source.any Loads.isSurrogate = false

/-- The proposal of a draft in a session. -/
def proposal? (session : CandidateSession) (invocation : CandidateInvocation)
    (draft : CandidateTestDraft) : Option CandidateTestProposal :=
  draft.propose generator.directory (candidateSuffixes invocation.origin session.repairCount).1
    (candidateSuffixes invocation.origin session.repairCount).2

/-- A response over the budget; one that is no proposal and can be described; or a
proposal that repeats an earlier one or can be judged. -/
def Recordable (session : CandidateSession) (invocation : CandidateInvocation) (text : String) :
    Prop :=
  generator.maxResponseChars < text.length ∨
    match (generator.decodeDraft text).bind (generator.proposal? session invocation) with
    | none => generator.Describable text
    | some proposal =>
        ¬ CandidateSession.IsNew invocation.previous session.attempts invocation.origin proposal ∨
          generator.validator.Judgeable generator.scope proposal

/-! ## When a response is recorded -/

section Recorded

variable {generator} {session : CandidateSession} {invocation : CandidateInvocation} {text : String}

theorem describeSource_isOk {fields : List (CodePoints × Loads.Value)} :
    (∃ source, generator.describeSource fields = .ok source) ↔
      ∀ source, (fields.find? fun field => field.1 = codePoints "source").map Prod.snd =
        some (.string source) → source.any Loads.isSurrogate = false := by
  unfold describeSource
  split
  · rename_i absent
    simp [absent]
  · rename_i source found
    split
    · rename_i surrogate
      refine ⟨fun ⟨_, absurdity⟩ => (by cases absurdity), fun encodable => ?_⟩
      exact absurd surrogate (Bool.eq_false_iff.mp (encodable source found))
    · rename_i encodable
      refine ⟨fun _ other same => ?_, fun _ => ⟨_, rfl⟩⟩
      rw [found] at same
      cases same
      exact Bool.eq_false_iff.mpr encodable
  · rename_i value notString found
    simp only [found, Option.some.injEq]
    exact ⟨fun _ source same => absurd same (notString source), fun _ => ⟨_, rfl⟩⟩

theorem describe_isOk :
    (∃ diagnostic, generator.describe text = .ok diagnostic) ↔ generator.Describable text := by
  unfold describe Describable
  cases read : Loads.loads generator.nesting text with
  | error failure =>
      cases failure with
      | decode left => simp
      | digits => simp
      | recursion => simp
      | exhausted => exact absurd read (Loads.loads_ne_exhausted generator.nesting text)
  | ok value =>
      cases value with
      | object fields =>
          simp only [describeValue, Guard.bind_eq_ok_iff]
          constructor
          · rintro ⟨diagnostic, source, described, _⟩
            refine .inr ⟨_, rfl, fun other text same found => ?_⟩
            cases same
            exact describeSource_isOk.mp ⟨source, described⟩ text found
          · rintro (⟨left, absurdity⟩ | ⟨value, same, encodable⟩)
            · cases absurdity
            · cases same
              obtain ⟨source, described⟩ := describeSource_isOk.mpr fun text found =>
                encodable fields text rfl found
              exact ⟨_, source, described, rfl⟩
      | _ => exact ⟨fun _ => .inr ⟨_, rfl, fun _ _ absurdity => by cases absurdity⟩,
          fun _ => ⟨_, rfl⟩⟩

/-- A proposal is judged unless the validator is asked and raises. -/
theorem judgeProposalAfter_isOk {validate : CandidateTestProposal →
      Except CandidateValidationFailure ValidatedCandidate} {previous : Option CandidateAttempt}
    {attempts : List CandidateAttempt} {origin : CandidateOrigin}
    {proposal : CandidateTestProposal} :
    (∃ judgement, judgeProposalAfter validate previous attempts origin proposal =
      .ok judgement) ↔
        ¬ CandidateSession.IsNew previous attempts origin proposal ∨
          ¬ ∃ exception, validate proposal = .error (.raised exception) := by
  by_cases isNew : CandidateSession.IsNew previous attempts origin proposal
  · rw [CandidateSession.judgeProposalAfter_of_new isNew]
    cases validated : validate proposal with
    | error failure =>
        cases failure with
        | raised exception => simp [isNew]
        | issues issues => simp
    | ok candidate =>
        simp only [reduceCtorEq, exists_false, not_false_eq_true, or_true, iff_true]
        split
        · exact ⟨_, rfl⟩
        · exact ⟨_, rfl⟩
  · simp only [isNew, not_false_eq_true, true_or, iff_true]
    rw [CandidateSession.isNew_iff, not_and_or, Bool.not_eq_false, Bool.not_eq_false] at isNew
    unfold judgeProposalAfter
    dsimp only
    generalize (if origin = .repair then previous else none) = compared at isNew
    split
    · exact ⟨_, rfl⟩
    · rename_i sourceIsNew
      rw [if_pos (isNew.resolve_left sourceIsNew)]
      exact ⟨_, rfl⟩

theorem judge_isOk : (∃ judgement, session.judge generator.settings invocation text =
    .ok judgement) ↔ generator.Recordable session invocation text := by
  unfold CandidateSession.judge Recordable
  by_cases within : generator.maxResponseChars < text.length
  · rw [if_pos (show generator.settings.maxResponseChars < text.length from within)]
    simp [within]
  · rw [if_neg (show ¬ generator.settings.maxResponseChars < text.length from within)]
    simp only [within, false_or]
    cases decoded : generator.decodeDraft text with
    | none =>
        simp only [settings, decoded, Option.bind_none]
        rw [← describe_isOk]
        cases generator.describe text with
        | error exception => simp [Except.map]
        | ok diagnostic => simp [Except.map]
    | some draft =>
        simp only [settings, decoded, Option.bind_some]
        unfold CandidateSession.judgeDraft
        cases proposed : generator.proposal? session invocation draft with
        | none =>
            unfold proposal? at proposed
            simp only [proposed]
            rw [← describe_isOk]
            cases generator.describe text with
            | error exception => simp [Except.map]
            | ok diagnostic => simp [Except.map]
        | some proposal =>
            unfold proposal? at proposed
            simp only [proposed]
            rw [judgeProposalAfter_isOk, CandidateTestValidator.validate_raises_iff, not_not]

end Recorded

/-- An interpreter that parses every source as an empty module. -/
def plainInterpreter : CandidateInterpreter where
  parse _ := .tree ⟨[], [], []⟩
  fingerprint _ := .ok sampleSha256
  stdlibModules := []
  isBuiltinException _ := false
  excerptModules _ := []

/-- A generator that takes no response for a draft, as it takes none whose source is not
text. -/
def refusingGenerator : BoundedCandidateTestGenerator where
  validator := { interpreter := plainInterpreter }
  scope := ⟨emptyContext, ["tests/"], []⟩
  directory := "tests/"
  signatures := .absent sampleSha256
  requestFits _ _ := true
  nesting := 100
  digest _ := sampleSha256
  decodeDraft _ := none

/-- A draft whose source is an escape that stands for half a surrogate pair. -/
def surrogateDraft : RawCandidateModelResponse where
  text := "\x7b\"source\": \"\\ud800\", \"rationale\": \"r\"\x7d"
  notEmpty := by decide
  usage := sampleUsage

/-- A response that is no draft and cannot be described is not recorded. -/
theorem not_records_of_undescribed {generator : BoundedCandidateTestGenerator}
    {session : CandidateSession} {invocation : CandidateInvocation}
    {response : RawCandidateModelResponse}
    (within : ¬ generator.maxResponseChars < response.text.length)
    (refused : generator.decodeDraft response.text = none)
    (undescribed : (generator.describe response.text).isOk = false) :
    ¬ generator.Records session invocation response := by
  rintro ⟨attempt, returned⟩
  cases described : generator.describe response.text with
  | ok diagnostic =>
      rw [described] at undescribed
      cases undescribed
  | error exception =>
      have judged : CandidateSession.judge generator.settings { session with invoking := none }
          invocation response.text = .error exception := by
        unfold CandidateSession.judge
        rw [if_neg (show ¬ generator.settings.maxResponseChars < response.text.length from within)]
        simp only [settings, refused, described, Except.map]
      unfold CandidateSession.answer at returned
      dsimp only at returned
      rw [judged] at returned
      cases (Prod.mk.inj returned).2

end BoundedCandidateTestGenerator

end PatchProof
