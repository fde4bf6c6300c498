import PatchProof.Investigation.Queries
import PatchProof.Investigation.Transcript

/-!
# The tool surface of a model

The only thing through which a model investigates: four queries by name, with arguments
that are checked here, under budgets that are counted here.  A call never raises; one that
is unknown, over budget or refused by a query is answered with a refusal.

The answer to a call is a payload.  A payload of a call that was accepted has an entry for
each match; of its texts only those are left out that say how much budget remains.
-/

set_option autoImplicit false

namespace PatchProof

/-! ## Budgets and payloads -/

/-- Hard limits on model-driven investigation for one claim-selection run. -/
structure ToolBudget where
  maxTurns : Nat := 4
  maxTotalCalls : Nat := 8
  maxCallsPerTool : Nat := 3
  maxResultsPerCall : Nat := 10
  maxSourceWindowLines : Nat := 80
  maxTotalSourceChars : Nat := 24000
  positive : 0 < maxTurns ∧ 0 < maxTotalCalls ∧ 0 < maxCallsPerTool ∧ 0 < maxResultsPerCall ∧
    0 < maxSourceWindowLines ∧ 0 < maxTotalSourceChars := by decide
  ceilings : maxTurns ≤ 8 ∧ maxTotalCalls ≤ 16 ∧ maxCallsPerTool ≤ 8 := by decide
  perToolBounded : maxCallsPerTool ≤ maxTotalCalls := by decide
  charsBounded : maxTotalSourceChars ≤ 64000 := by decide

theorem ToolBudget.chars_bounded : 24000 ≤ 64000 := by
  decide

/-- What a payload tells of one match. -/
structure PayloadEntry where
  found : InvestigationMatch
  content : Option String
  contentTruncated : Bool
  contentOmitted : Bool
  deriving DecidableEq

/-- `path::qualified_name` of the entry's symbol. -/
def PayloadEntry.identity (entry : PayloadEntry) : Option String :=
  entry.found.symbol.map fun symbol => symbol.path.text ++ "::" ++ symbol.qualifiedName.text

/-- The answer to one tool call. -/
inductive ToolPayload where
  | answered (result : InvestigationResult) (entries : List PayloadEntry)
  | refused (status : ToolCallStatus) (detail : String)
  deriving DecidableEq

/-- The entries of a payload. -/
def ToolPayload.entries : ToolPayload → List PayloadEntry
  | .answered _ entries => entries
  | .refused _ _ => []

/-! ## Arguments -/

/-- Uppercasing; of the letters outside ASCII the long s is an `S`. -/
def upperChar (c : Char) : Char :=
  if c.toNat = 0x17f then 'S' else c.toUpper

def ToolArguments.get (arguments : ToolArguments) (key : String) : Option Json :=
  arguments.fields.lookup key

namespace InvestigationToolbox

/-- `_revision`. -/
def revision (arguments : ToolArguments) : Except QueryFailure RevisionRole :=
  match (arguments.get "revision").getD (.string "HEAD") with
  | .string value =>
      let normalized := String.ofList ((strip value).toList.map upperChar)
      if normalized = "BASE" then .ok .base
      else if normalized = "HEAD" then .ok .head
      else .error (.value "revision must be exactly 'BASE' or 'HEAD'")
  | _ => .error (.value "revision must be the text 'BASE' or 'HEAD'")

/-- `_required_text`. -/
def requiredText (arguments : ToolArguments) (key : String) : Except QueryFailure String :=
  match arguments.get key with
  | some (.string value) =>
      if strip value ≠ "" then .ok (strip value)
      else .error (.value (key ++ " is required and must be non-empty text"))
  | _ => .error (.value (key ++ " is required and must be non-empty text"))

/-- `_optional_text`. -/
def optionalText (arguments : ToolArguments) (key : String) :
    Except QueryFailure (Option String) :=
  match arguments.get key with
  | none | some .null => .ok none
  | some (.string value) => .ok (if strip value = "" then none else some (strip value))
  | some _ => .error (.value (key ++ " must be text when supplied"))

/-- `_integer`. -/
def integer (arguments : ToolArguments) (key : String) (default : Nat) : Except QueryFailure Nat :=
  match (arguments.get key).getD (.int default) with
  | .int value =>
      if 1 ≤ value then .ok value.toNat else .error (.value (key ++ " must be positive"))
  | _ => .error (.value (key ++ " must be an integer"))

/-- `_maximum`. -/
def maximum (budget : ToolBudget) (arguments : ToolArguments) : Except QueryFailure Nat :=
  match (arguments.get "maximum").getD (.int budget.maxResultsPerCall) with
  | .int value =>
      if 1 ≤ value then .ok (min value.toNat budget.maxResultsPerCall)
      else .error (.value "maximum must be a positive integer")
  | _ => .error (.value "maximum must be a positive integer")

/-- `_safe_arguments`. -/
def safeFields : List (String × Json) → List (String × Json)
  | [] => []
  | (key, value) :: rest =>
      let kept := safeFields rest
      if 64 < key.length then kept
      else match value with
        | .bool flag => (key, .bool flag) :: kept
        | .int number => (key, .int number) :: kept
        | .string text => (key, .string (truncate 256 text)) :: kept
        | _ => kept

theorem safeFields_keys (fields : List (String × Json)) :
    ((safeFields fields).map Prod.fst).Sublist (fields.map Prod.fst) := by
  induction fields with
  | nil => exact List.Sublist.refl _
  | cons field rest ih =>
      obtain ⟨key, value⟩ := field
      unfold safeFields
      dsimp only
      split
      · exact ih.cons key
      · split
        · exact ih.cons_cons key
        · exact ih.cons_cons key
        · exact ih.cons_cons key
        · exact ih.cons key

theorem safeFields_distinct (fields : List (String × Json)) :
    ∀ field ∈ safeFields fields, field.2.Distinct := by
  induction fields with
  | nil =>
      intro field mem
      cases mem
  | cons field rest ih =>
      obtain ⟨key, value⟩ := field
      unfold safeFields
      dsimp only
      split
      · exact ih
      · split
        · exact List.forall_mem_cons.mpr ⟨by simp [Json.Distinct], ih⟩
        · exact List.forall_mem_cons.mpr ⟨by simp [Json.Distinct], ih⟩
        · exact List.forall_mem_cons.mpr ⟨by simp [Json.Distinct], ih⟩
        · exact ih

/-- The small arguments that the audit record retains. -/
def safeArguments (arguments : ToolArguments) : ToolArguments where
  fields := safeFields (arguments.fields.take 8)
  distinct := by
    have names := arguments.distinct
    rw [Json.Distinct] at names ⊢
    refine ⟨names.1.sublist ?_, Json.distinctFields_iff.mpr (safeFields_distinct _)⟩
    exact (safeFields_keys _).trans ((List.take_sublist 8 _).map Prod.fst)

end InvestigationToolbox

/-! ## The toolbox -/

/-- What has been called so far. -/
structure InvestigationToolbox where
  calls : List ToolCallRecord := []
  perTool : InvestigationToolName → Nat := fun _ => 0
  sourceChars : Nat := 0
  turn : PositiveInt := ⟨1, by decide⟩

namespace InvestigationToolbox

variable (investigator : RepositoryInvestigator) (budget : ToolBudget)
  (toolbox : InvestigationToolbox)

/-- `exhausted`. -/
def exhausted : Bool := budget.maxTotalCalls ≤ toolbox.calls.length

/-- `begin_turn`; none when investigation may not continue. -/
def beginTurn : Option InvestigationToolbox :=
  if (budget.maxTurns : Int) ≤ toolbox.turn.value then none
  else some { toolbox with
    turn := ⟨toolbox.turn.value + 1, Int.lt_add_one_of_le (Int.le_of_lt toolbox.turn.positive)⟩ }

/-- Run the query of a tool. -/
def handle (name : InvestigationToolName) (arguments : ToolArguments) :
    Except QueryFailure InvestigationResult :=
  match name with
  | .inspectSymbol => do
      let revision ← revision arguments
      let path ← optionalText arguments "path"
      let qualifiedName ← optionalText arguments "qualified_name"
      let limit ← maximum budget arguments
      investigator.inspectSymbol revision path qualifiedName (some limit)
  | .findReferences => do
      let revision ← revision arguments
      let symbol ← requiredText arguments "symbol"
      let limit ← maximum budget arguments
      investigator.findReferences revision symbol (some limit)
  | .findRelatedTests => do
      let revision ← revision arguments
      let symbol ← optionalText arguments "symbol"
      let path ← optionalText arguments "path"
      let limit ← maximum budget arguments
      investigator.findRelatedTests revision symbol path (some limit)
  | .inspectSourceWindow => do
      let lineCount ← integer arguments "line_count" 40
      let revision ← revision arguments
      let path ← requiredText arguments "path"
      let startLine ← integer arguments "start_line" 1
      investigator.inspectSourceWindow revision path startLine
        (min lineCount budget.maxSourceWindowLines)

/-- The entries of some matches and the source characters they use; `allowance` is what
remains of the aggregate budget. -/
def serialize : Nat → List InvestigationMatch → List PayloadEntry × Nat × Bool
  | _, [] => ([], 0, false)
  | allowance, item :: rest =>
      match item.content with
      | none =>
          let (entries, used, cut) := serialize allowance rest
          (⟨item, none, false, false⟩ :: entries, used, cut)
      | some content =>
          if allowance = 0 then
            let (entries, used, _) := serialize allowance rest
            (⟨item, none, false, true⟩ :: entries, used, true)
          else
            let shown := truncate allowance content
            let shortened := decide (shown.length < content.length)
            let (entries, used, cut) := serialize (allowance - shown.length) rest
            (⟨item, some shown, shortened, false⟩ :: entries, shown.length + used,
              shortened || cut)

/-- One more record. -/
def record (name : InvestigationToolName) (arguments : ToolArguments) (status : ToolCallStatus)
    (detail : BoundedText 1 500) (matchCount : Nat) (truncated : Bool) (sourceChars : Nat) :
    ToolCallRecord where
  sequence := ⟨toolbox.calls.length + 1, by omega⟩
  turn := toolbox.turn
  tool := name
  arguments := safeArguments arguments
  status := status
  matchCount := matchCount
  truncated := truncated
  sourceChars := sourceChars
  detail := detail

/-- Text that is cut to a record's detail; no text of the toolbox is empty. -/
def detailText (text : String) : BoundedText 1 500 :=
  if bounded : 1 ≤ (truncate 500 text).length ∧ (truncate 500 text).length ≤ 500 then
    ⟨truncate 500 text, bounded⟩
  else ⟨"-", by decide⟩

/-- `_refuse` of a known tool. -/
def refuse (name : InvestigationToolName) (arguments : ToolArguments) (status : ToolCallStatus)
    (detail : String) : ToolPayload × InvestigationToolbox :=
  (.refused status detail, { toolbox with
    calls := toolbox.calls ++
      [toolbox.record name arguments status (detailText detail) 0 false 0] })

/-- `_accept`. -/
def accept (name : InvestigationToolName) (arguments : ToolArguments)
    (result : InvestigationResult) : ToolPayload × InvestigationToolbox :=
  let (entries, used, cut) := serialize (budget.maxTotalSourceChars - toolbox.sourceChars)
    result.found
  let detail := toString result.found.length ++ " match(es) on " ++ result.revision.value
  (.answered result entries, { toolbox with
    calls := toolbox.calls ++ [toolbox.record name arguments .ok (detailText detail)
      result.found.length (result.truncated || cut) used]
    perTool := fun other => toolbox.perTool other + if other = name then 1 else 0
    sourceChars := toolbox.sourceChars + used })

/-- The tool of a name. -/
def toolNamed (tool : String) : Option InvestigationToolName :=
  [InvestigationToolName.inspectSymbol, .findReferences, .findRelatedTests,
    .inspectSourceWindow].find? fun name => name.value = tool

/-- `call`. -/
def call (tool : String) (arguments : ToolArguments) : ToolPayload × InvestigationToolbox :=
  match toolNamed tool with
  | none => (.refused .invalidArguments ("unknown tool '" ++ tool ++ "'; available tools are " ++
      "inspect_symbol, find_references, find_related_tests, inspect_source_window"), toolbox)
  | some name =>
      if toolbox.exhausted budget then
        toolbox.refuse name arguments .budgetExhausted
          ("total investigation call budget is exhausted; select a claim from the " ++
            "facts already gathered or abstain")
      else if budget.maxCallsPerTool ≤ toolbox.perTool name then
        toolbox.refuse name arguments .budgetExhausted
          ("per-tool budget for " ++ name.value ++ " is exhausted; use a different tool or conclude")
      else
        match handle investigator budget name arguments with
        | .error (.contract message) => toolbox.refuse name arguments .invalidArguments
            (truncate 500 ("rejected by the investigation contract: " ++ message))
        | .error (.value message) => toolbox.refuse name arguments .invalidArguments
            (truncate 500 ("invalid tool arguments: " ++ message))
        | .ok result => toolbox.accept budget name arguments result

/-! ## What a call keeps -/

theorem turn_call (tool : String) (arguments : ToolArguments) :
    (toolbox.call investigator budget tool arguments).2.turn = toolbox.turn := by
  unfold call
  split
  · rfl
  · split
    · rfl
    · split
      · rfl
      · split <;> rfl

end InvestigationToolbox

end PatchProof
