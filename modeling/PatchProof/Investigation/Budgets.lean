import Mathlib.Algebra.GroupWithZero.Nat
import PatchProof.Investigation.Toolbox
import PatchProof.Publication.Check

/-!
# The budgets of a conversation

A model may begin turns and call tools in any order, with any names and arguments.  What
holds of the toolbox then is an invariant of its calls: a call that is refused is recorded
and charged nothing, one that is accepted was within every budget before, and the source
characters of its answer come out of what was left.

Every text that a call records fits its record, so recording it never fails.
-/

set_option autoImplicit false

namespace PatchProof

/-! ## What a payload gives away -/

/-- The source characters of an entry. -/
def PayloadEntry.sourceChars (entry : PayloadEntry) : Nat :=
  (entry.content.map String.length).getD 0

namespace ToolPayload

/-- The source characters of an answer. -/
def sourceChars (payload : ToolPayload) : Nat :=
  (payload.entries.map PayloadEntry.sourceChars).sum

def status : ToolPayload → ToolCallStatus
  | .answered _ _ => .ok
  | .refused status _ => status

/-- The text that the record of a call gets. -/
def detail : ToolPayload → String
  | .answered result _ =>
      toString result.found.length ++ " match(es) on " ++ result.revision.value
  | .refused _ detail => detail

end ToolPayload

/-- The text of a record, whatever its length. -/
def FitsRecord (text : String) : Prop := 1 ≤ text.length ∧ text.length ≤ 500

namespace InvestigationToolbox

variable {investigator : RepositoryInvestigator} {budget : ToolBudget}
  {toolbox : InvestigationToolbox}

/-! ## Texts that fit -/

theorem truncate_of_le {limit : Nat} {text : String} (within : text.length ≤ limit) :
    truncate limit text = text := by
  rw [← String.length_toList] at within
  rw [truncate, List.take_of_length_le within, String.ofList_toList]

/-- A text that fits is recorded as it is. -/
theorem detailText_of_fits {text : String} (fits : FitsRecord text) :
    (detailText text).text = text := by
  have whole := truncate_of_le fits.2
  unfold detailText
  rw [dif_pos]
  · exact whole
  · rw [whole]
    exact fits

theorem fitsRecord_truncate {start : String} (positive : 1 ≤ start.length) (message : String) :
    FitsRecord (truncate 500 (start ++ message)) := by
  have nonempty : 1 ≤ (start ++ message).length := by
    rw [String.length_append]
    exact Nat.le_add_right_of_le positive
  exact ⟨one_le_length_truncate (by decide) nonempty, length_truncate_le 500 _⟩

theorem fitsRecord_perTool (name : InvestigationToolName) :
    FitsRecord ("per-tool budget for " ++ name.value ++
      " is exhausted; use a different tool or conclude") := by
  cases name <;> (constructor <;> decide)

theorem length_repr_le {count : Nat} (small : count ≤ 100) : (toString count).length ≤ 3 := by
  have all : ∀ small : Fin 101, (toString small.val).length ≤ 3 := by decide
  exact all ⟨count, by omega⟩

theorem fitsRecord_matches {count : Nat} (small : count ≤ 100) (role : RevisionRole) :
    FitsRecord (toString count ++ " match(es) on " ++ role.value) := by
  have digits := length_repr_le small
  have middle : " match(es) on ".length = 14 := by decide
  have last : role.value.length = 4 := by cases role <;> decide
  constructor
  · rw [String.length_append, String.length_append, middle]
    omega
  · rw [String.length_append, String.length_append, middle, last]
    omega

end InvestigationToolbox

/-! ## Results of a bounded number of matches -/

namespace RepositoryInvestigator

variable {investigator : RepositoryInvestigator}

theorem length_keepMatches_le (most available kept chars : Nat)
    (found : List InvestigationMatch) :
    (keepMatches most available kept chars found).1.length ≤ found.length := by
  induction found generalizing kept chars with
  | nil => exact Nat.le_refl 0
  | cons item rest ih =>
      unfold keepMatches
      split
      · split
        · exact Nat.succ_le_succ (Nat.zero_le _)
        · exact Nat.succ_le_succ (ih _ _)
      · split
        · exact Nat.zero_le _
        · dsimp only
          split
          · exact Nat.succ_le_succ (Nat.zero_le _)
          · exact Nat.succ_le_succ (ih _ _)

theorem length_result_le (queryKind : InvestigationQueryKind) (revision : RevisionRole)
    (found : List InvestigationMatch) (limit : Nat) :
    (investigator.result queryKind revision found limit).found.length ≤ limit := by
  unfold result
  exact Nat.le_trans (length_keepMatches_le _ _ _ _ _) (List.length_take_le _ _)

theorem maximum_le {asked : Option Nat} {limit : Nat}
    (admitted : investigator.maximum asked = .ok limit) : limit ≤ 100 := by
  have bounded := investigator.budget.resultsBounded
  unfold maximum at admitted
  split at admitted
  · cases admitted
    omega
  · split at admitted
    · cases admitted
      omega
    · cases admitted

theorem length_inspectSymbol_le {revision : RevisionRole} {path name : Option String}
    {limit : Option Nat} {result : InvestigationResult}
    (answered : investigator.inspectSymbol revision path name limit = .ok result) :
    result.found.length ≤ 100 := by
  obtain ⟨_, _, answered⟩ := Guard.bind_eq_ok_iff.mp answered
  obtain ⟨_, _, answered⟩ := Guard.bind_eq_ok_iff.mp answered
  split at answered
  · cases answered
  · obtain ⟨most, admitted, answered⟩ := Guard.bind_eq_ok_iff.mp answered
    obtain ⟨found, _, returned⟩ := Guard.bind_eq_ok_iff.mp answered
    cases returned
    exact Nat.le_trans (length_result_le _ _ _ _) (maximum_le admitted)

theorem length_findReferences_le {revision : RevisionRole} {symbol : String}
    {limit : Option Nat} {result : InvestigationResult}
    (answered : investigator.findReferences revision symbol limit = .ok result) :
    result.found.length ≤ 100 := by
  obtain ⟨_, _, answered⟩ := Guard.bind_eq_ok_iff.mp answered
  obtain ⟨most, admitted, answered⟩ := Guard.bind_eq_ok_iff.mp answered
  obtain ⟨found, _, returned⟩ := Guard.bind_eq_ok_iff.mp answered
  cases returned
  exact Nat.le_trans (length_result_le _ _ _ _) (maximum_le admitted)

theorem length_findRelatedTests_le {revision : RevisionRole} {symbol path : Option String}
    {limit : Option Nat} {result : InvestigationResult}
    (answered : investigator.findRelatedTests revision symbol path limit = .ok result) :
    result.found.length ≤ 100 := by
  obtain ⟨_, _, answered⟩ := Guard.bind_eq_ok_iff.mp answered
  obtain ⟨_, _, answered⟩ := Guard.bind_eq_ok_iff.mp answered
  split at answered
  · cases answered
  · obtain ⟨most, admitted, answered⟩ := Guard.bind_eq_ok_iff.mp answered
    obtain ⟨found, _, returned⟩ := Guard.bind_eq_ok_iff.mp answered
    cases returned
    exact Nat.le_trans (length_result_le _ _ _ _) (maximum_le admitted)

theorem length_inspectSourceWindow_le {revision : RevisionRole} {path : String}
    {startLine lineCount : Nat} {result : InvestigationResult}
    (answered : investigator.inspectSourceWindow revision path startLine lineCount =
      .ok result) : result.found.length ≤ 100 := by
  obtain ⟨_, _, answered⟩ := Guard.bind_eq_ok_iff.mp answered
  split at answered
  · cases answered
  · split at answered
    · cases answered
    · split at answered
      · split at answered
        · cases answered
        · split at answered
          · cases answered
          · obtain ⟨provenance, _, returned⟩ := Guard.bind_eq_ok_iff.mp answered
            cases returned
            exact Nat.le_of_ble_eq_true rfl
      · cases answered

end RepositoryInvestigator

namespace InvestigationToolbox

variable {investigator : RepositoryInvestigator} {budget : ToolBudget}
  {toolbox : InvestigationToolbox}

/-- No tool answers with more matches than a result holds. -/
theorem length_handle_le {name : InvestigationToolName} {arguments : ToolArguments}
    {result : InvestigationResult}
    (answered : handle investigator budget name arguments = .ok result) :
    result.found.length ≤ 100 := by
  cases name with
  | inspectSymbol =>
      obtain ⟨_, _, answered⟩ := Guard.bind_eq_ok_iff.mp answered
      obtain ⟨_, _, answered⟩ := Guard.bind_eq_ok_iff.mp answered
      obtain ⟨_, _, answered⟩ := Guard.bind_eq_ok_iff.mp answered
      obtain ⟨_, _, answered⟩ := Guard.bind_eq_ok_iff.mp answered
      exact RepositoryInvestigator.length_inspectSymbol_le answered
  | findReferences =>
      obtain ⟨_, _, answered⟩ := Guard.bind_eq_ok_iff.mp answered
      obtain ⟨_, _, answered⟩ := Guard.bind_eq_ok_iff.mp answered
      obtain ⟨_, _, answered⟩ := Guard.bind_eq_ok_iff.mp answered
      exact RepositoryInvestigator.length_findReferences_le answered
  | findRelatedTests =>
      obtain ⟨_, _, answered⟩ := Guard.bind_eq_ok_iff.mp answered
      obtain ⟨_, _, answered⟩ := Guard.bind_eq_ok_iff.mp answered
      obtain ⟨_, _, answered⟩ := Guard.bind_eq_ok_iff.mp answered
      obtain ⟨_, _, answered⟩ := Guard.bind_eq_ok_iff.mp answered
      exact RepositoryInvestigator.length_findRelatedTests_le answered
  | inspectSourceWindow =>
      obtain ⟨_, _, answered⟩ := Guard.bind_eq_ok_iff.mp answered
      obtain ⟨_, _, answered⟩ := Guard.bind_eq_ok_iff.mp answered
      obtain ⟨_, _, answered⟩ := Guard.bind_eq_ok_iff.mp answered
      obtain ⟨_, _, answered⟩ := Guard.bind_eq_ok_iff.mp answered
      exact RepositoryInvestigator.length_inspectSourceWindow_le answered

/-! ## The characters of an answer -/

/-- An answer uses the characters it shows, and no more than were left. -/
theorem serialize_within (allowance : Nat) (found : List InvestigationMatch) :
    ((serialize allowance found).1.map PayloadEntry.sourceChars).sum =
        (serialize allowance found).2.1 ∧
      (serialize allowance found).2.1 ≤ allowance := by
  induction found generalizing allowance with
  | nil => exact ⟨rfl, Nat.zero_le _⟩
  | cons item rest ih =>
      unfold serialize
      split
      · have later := ih allowance
        simp only [List.map_cons, List.sum_cons, PayloadEntry.sourceChars, Option.map_none,
          Option.getD_none, Nat.zero_add]
        exact later
      · rename_i content _
        split
        · have later := ih allowance
          simp only [List.map_cons, List.sum_cons, PayloadEntry.sourceChars, Option.map_none,
            Option.getD_none, Nat.zero_add]
          exact later
        · have later := ih (allowance - (truncate allowance content).length)
          have shown := length_truncate_le allowance content
          simp only [List.map_cons, List.sum_cons, PayloadEntry.sourceChars, Option.map_some,
            Option.getD_some]
          exact ⟨congrArg _ later.1, Nat.le_trans (Nat.add_le_add_left later.2 _)
            (Nat.le_of_eq (Nat.add_sub_of_le shown))⟩

/-! ## One call -/

/-- How a call ends: not for a known tool, refused, or accepted within every budget. -/
theorem call_cases (investigator : RepositoryInvestigator) (budget : ToolBudget)
    (toolbox : InvestigationToolbox) (tool : String) (arguments : ToolArguments) :
    (∃ detail, toolbox.call investigator budget tool arguments =
      (.refused .invalidArguments detail, toolbox)) ∨
    (∃ name status detail, status ≠ .ok ∧ FitsRecord detail ∧
      (status = .budgetExhausted → ∀ other : RepositoryInvestigator,
        toolbox.call other budget tool arguments =
          toolbox.refuse name arguments status detail) ∧
      toolbox.call investigator budget tool arguments =
        toolbox.refuse name arguments status detail) ∨
    ∃ name result, result.found.length ≤ 100 ∧
      toolbox.calls.length < budget.maxTotalCalls ∧
      toolbox.perTool name < budget.maxCallsPerTool ∧
      toolbox.call investigator budget tool arguments =
        toolbox.accept budget name arguments result := by
  cases known : toolNamed tool with
  | none =>
      left
      simp only [call, known]
      exact ⟨_, rfl⟩
  | some name =>
      right
      by_cases spent : toolbox.exhausted budget = true
      · have refused (other : RepositoryInvestigator) : toolbox.call other budget tool arguments =
            toolbox.refuse name arguments .budgetExhausted
              ("total investigation call budget is exhausted; select a claim from the " ++
                "facts already gathered or abstain") := by
          simp only [call, known, spent, if_true]
        left
        refine ⟨name, .budgetExhausted, _, by decide, ?_, fun _ => refused, refused investigator⟩
        constructor <;> decide
      · by_cases used : budget.maxCallsPerTool ≤ toolbox.perTool name
        · have refused (other : RepositoryInvestigator) :
              toolbox.call other budget tool arguments =
                toolbox.refuse name arguments .budgetExhausted ("per-tool budget for " ++
                  name.value ++ " is exhausted; use a different tool or conclude") := by
            simp only [call, known, spent, used, if_true]
            rfl
          left
          exact ⟨name, .budgetExhausted, _, by decide, fitsRecord_perTool name,
            fun _ => refused, refused investigator⟩
        · cases answer : handle investigator budget name arguments with
          | error failure =>
              left
              cases failure with
              | contract message =>
                  refine ⟨name, .invalidArguments,
                    truncate 500 ("rejected by the investigation contract: " ++ message),
                    by decide, fitsRecord_truncate (by decide) message, ?_, ?_⟩
                  · intro absurdity
                    cases absurdity
                  · simp only [call, known, spent, used, answer, if_false]
                    rfl
              | value message =>
                  refine ⟨name, .invalidArguments,
                    truncate 500 ("invalid tool arguments: " ++ message),
                    by decide, fitsRecord_truncate (by decide) message, ?_, ?_⟩
                  · intro absurdity
                    cases absurdity
                  · simp only [call, known, spent, used, answer, if_false]
                    rfl
          | ok result =>
              right
              refine ⟨name, result, length_handle_le answer, ?_, Nat.lt_of_not_le used, ?_⟩
              · simpa [exhausted] using spent
              · simp only [call, known, spent, used, answer, if_false]
                rfl

/-! ## The invariant -/

/-- The recorded calls that were accepted. -/
def accepted (toolbox : InvestigationToolbox) : List ToolCallRecord :=
  toolbox.calls.filter fun record => record.status = .ok

/-- The recorded calls of one tool that were accepted. -/
def acceptedOf (toolbox : InvestigationToolbox) (name : InvestigationToolName) :
    List ToolCallRecord :=
  toolbox.accepted.filter fun record => record.tool = name

/-- What holds of a toolbox that has given away so many source characters. -/
structure WithinBudget (budget : ToolBudget) (toolbox : InvestigationToolbox)
    (given : Nat) : Prop where
  total : toolbox.accepted.length ≤ budget.maxTotalCalls
  perTool : ∀ name, (toolbox.acceptedOf name).length ≤ budget.maxCallsPerTool
  counted : ∀ name, toolbox.perTool name = (toolbox.acceptedOf name).length
  charged : toolbox.sourceChars = given
  chars : given ≤ budget.maxTotalSourceChars
  numbered : toolbox.calls.map (fun record => record.sequence.value) =
    (List.range toolbox.calls.length).map fun index : Nat => (index : Int) + 1

theorem withinBudget_start : WithinBudget budget {} 0 where
  total := Nat.zero_le _
  perTool := fun _ => Nat.zero_le _
  counted := fun _ => rfl
  charged := rfl
  chars := Nat.zero_le _
  numbered := rfl

/-- One more record carries the next number. -/
theorem numbered_snoc {record : ToolCallRecord}
    (numbered : toolbox.calls.map (fun record => record.sequence.value) =
      (List.range toolbox.calls.length).map fun index : Nat => (index : Int) + 1)
    (next : record.sequence.value = (toolbox.calls.length : Int) + 1) :
    (toolbox.calls ++ [record]).map (fun record => record.sequence.value) =
      (List.range (toolbox.calls ++ [record]).length).map fun index : Nat => (index : Int) + 1 := by
  rw [List.map_append, numbered, List.length_append, List.length_singleton, List.range_succ,
    List.map_append]
  simp [next]

/-- A refusal is recorded and charged nothing. -/
theorem withinBudget_refuse {given : Nat} (within : WithinBudget budget toolbox given)
    (name : InvestigationToolName) (arguments : ToolArguments) {status : ToolCallStatus}
    (refused : status ≠ .ok) (detail : String) :
    WithinBudget budget (toolbox.refuse name arguments status detail).2 given := by
  have same : (toolbox.refuse name arguments status detail).2.accepted = toolbox.accepted := by
    simp [refuse, accepted, record, refused]
  have sameOf (other : InvestigationToolName) :
      (toolbox.refuse name arguments status detail).2.acceptedOf other =
        toolbox.acceptedOf other := by
    rw [acceptedOf, same, acceptedOf]
  constructor
  · rw [same]
    exact within.total
  · intro other
    rw [sameOf]
    exact within.perTool other
  · intro other
    rw [sameOf]
    exact within.counted other
  · exact within.charged
  · exact within.chars
  · exact numbered_snoc within.numbered rfl

/-- A call that is accepted is charged for what it gives away. -/
theorem withinBudget_accept {given : Nat} (within : WithinBudget budget toolbox given)
    (name : InvestigationToolName) (arguments : ToolArguments) (result : InvestigationResult)
    (room : toolbox.calls.length < budget.maxTotalCalls)
    (roomOf : toolbox.perTool name < budget.maxCallsPerTool) :
    WithinBudget budget (toolbox.accept budget name arguments result).2
      (given + (toolbox.accept budget name arguments result).1.sourceChars) := by
  have shown := serialize_within (budget.maxTotalSourceChars - toolbox.sourceChars) result.found
  have grown : (toolbox.accept budget name arguments result).2.accepted.length =
      toolbox.accepted.length + 1 := by
    simp [accept, accepted, record]
  have grownOf (other : InvestigationToolName) :
      ((toolbox.accept budget name arguments result).2.acceptedOf other).length =
        (toolbox.acceptedOf other).length + if other = name then 1 else 0 := by
    by_cases same : name = other
    · subst same
      simp [accept, accepted, acceptedOf, record]
    · have different : ¬ other = name := fun equal => same equal.symm
      simp [accept, accepted, acceptedOf, record, same, different]
  constructor
  · have some : toolbox.accepted.length ≤ toolbox.calls.length := List.length_filter_le _ _
    omega
  · intro other
    have counted := within.counted name
    rw [grownOf]
    split
    · rename_i same
      subst same
      omega
    · exact within.perTool other
  · intro other
    rw [grownOf, ← within.counted other]
    rfl
  · change toolbox.sourceChars + (serialize _ result.found).2.1 = _
    rw [within.charged, ← within.charged, ← shown.1]
    rfl
  · have chars := within.chars
    have given_eq := within.charged
    change given + ((serialize _ result.found).1.map PayloadEntry.sourceChars).sum ≤ _
    rw [shown.1]
    omega
  · exact numbered_snoc within.numbered rfl

theorem withinBudget_call (investigator : RepositoryInvestigator) {given : Nat}
    (within : WithinBudget budget toolbox given) (tool : String) (arguments : ToolArguments) :
    WithinBudget budget (toolbox.call investigator budget tool arguments).2
      (given + (toolbox.call investigator budget tool arguments).1.sourceChars) := by
  rcases call_cases investigator budget toolbox tool arguments with
    ⟨detail, unknown⟩ | ⟨name, status, detail, refused, _, _, same⟩ |
      ⟨name, result, _, room, roomOf, same⟩
  · rw [unknown]
    exact within
  · rw [same]
    exact withinBudget_refuse within name arguments refused detail
  · rw [same]
    exact withinBudget_accept within name arguments result room roomOf

theorem withinBudget_beginTurn {given : Nat} (within : WithinBudget budget toolbox given) :
    WithinBudget budget ((toolbox.beginTurn budget).getD toolbox) given := by
  unfold beginTurn
  split
  · exact within
  · exact ⟨within.total, within.perTool, within.counted, within.charged, within.chars,
      within.numbered⟩

/-! ## Conversations -/

/-- What a model may do with a toolbox. -/
inductive Use where
  | beginTurn
  | call (tool : String) (arguments : ToolArguments)

/-- One use, with the answer to it. -/
def use (investigator : RepositoryInvestigator) (budget : ToolBudget)
    (toolbox : InvestigationToolbox) : Use → List ToolPayload × InvestigationToolbox
  | .beginTurn => ([], (toolbox.beginTurn budget).getD toolbox)
  | .call tool arguments =>
      let (payload, next) := toolbox.call investigator budget tool arguments
      ([payload], next)

/-- The answers to some uses one after another, and the toolbox after them. -/
def useAll (investigator : RepositoryInvestigator) (budget : ToolBudget) :
    InvestigationToolbox → List Use → List ToolPayload × InvestigationToolbox
  | toolbox, [] => ([], toolbox)
  | toolbox, first :: rest =>
      let (answers, next) := toolbox.use investigator budget first
      let (later, last) := useAll investigator budget next rest
      (answers ++ later, last)

/-- The source characters of some answers. -/
def charsOf (answers : List ToolPayload) : Nat := (answers.map ToolPayload.sourceChars).sum

theorem withinBudget_use (investigator : RepositoryInvestigator) {given : Nat}
    (within : WithinBudget budget toolbox given) (action : Use) :
    WithinBudget budget (toolbox.use investigator budget action).2
      (given + charsOf (toolbox.use investigator budget action).1) := by
  cases action with
  | beginTurn => exact withinBudget_beginTurn within
  | call tool arguments =>
      have called := withinBudget_call investigator within tool arguments
      simpa [use, charsOf] using called

theorem withinBudget_useAll (investigator : RepositoryInvestigator) {given : Nat}
    (within : WithinBudget budget toolbox given) (actions : List Use) :
    WithinBudget budget (useAll investigator budget toolbox actions).2
      (given + charsOf (useAll investigator budget toolbox actions).1) := by
  induction actions generalizing toolbox given with
  | nil => exact within
  | cons first rest ih =>
      have later := ih (withinBudget_use investigator within first)
      simp only [useAll, charsOf, List.map_append, List.sum_append, ← Nat.add_assoc]
      exact later

/-! ## Calls do not fail -/

theorem calls_refuse (name : InvestigationToolName) (arguments : ToolArguments)
    (status : ToolCallStatus) (detail : String) : ∃ record,
    (toolbox.refuse name arguments status detail).2.calls = toolbox.calls ++ [record] ∧
      record.detail = detailText detail := by
  simp only [refuse, List.append_cancel_left_eq, List.cons.injEq, and_true]
  exact ⟨_, rfl, by rw [record]⟩

theorem detail_accept (name : InvestigationToolName) (arguments : ToolArguments)
    (result : InvestigationResult) :
    (toolbox.accept budget name arguments result).1.detail =
      toString result.found.length ++ " match(es) on " ++ result.revision.value := by
  simp only [accept, ToolPayload.detail]

theorem calls_accept (budget : ToolBudget) (toolbox : InvestigationToolbox)
    (name : InvestigationToolName) (arguments : ToolArguments) (result : InvestigationResult) : ∃ record,
    (toolbox.accept budget name arguments result).2.calls = toolbox.calls ++ [record] ∧
      record.detail = detailText
        (toString result.found.length ++ " match(es) on " ++ result.revision.value) := by
  simp only [accept, List.append_cancel_left_eq, List.cons.injEq, and_true]
  exact ⟨_, rfl, by rw [record]⟩

/-- Recording a call never fails: the text of its record is the text of the answer, whole. -/
theorem call_recorded (investigator : RepositoryInvestigator) (budget : ToolBudget)
    (toolbox : InvestigationToolbox) (tool : String) (arguments : ToolArguments) :
    (toolbox.call investigator budget tool arguments).2 = toolbox ∨
    ∃ record, (toolbox.call investigator budget tool arguments).2.calls =
        toolbox.calls ++ [record] ∧
      record.detail.text = (toolbox.call investigator budget tool arguments).1.detail := by
  rcases call_cases investigator budget toolbox tool arguments with
    ⟨detail, unknown⟩ | ⟨name, status, detail, _, fits, _, same⟩ |
      ⟨name, result, small, _, _, same⟩
  · rw [unknown]
    exact .inl rfl
  · rw [same]
    obtain ⟨record, recorded, text⟩ := toolbox.calls_refuse name arguments status detail
    refine .inr ⟨record, recorded, ?_⟩
    rw [text, detailText_of_fits fits]
    rfl
  · rw [same]
    obtain ⟨record, recorded, text⟩ := calls_accept budget toolbox name arguments
      result
    refine .inr ⟨record, recorded, ?_⟩
    rw [text, detail_accept]
    exact detailText_of_fits (fitsRecord_matches small result.revision)

/-- An answer that the budget is exhausted says nothing of the repository. -/
theorem call_exhausted (investigator other : RepositoryInvestigator) (budget : ToolBudget)
    (toolbox : InvestigationToolbox) (tool : String) (arguments : ToolArguments)
    (exhausted : (toolbox.call investigator budget tool arguments).1.status =
      .budgetExhausted) :
    (toolbox.call investigator budget tool arguments).1.entries = [] ∧
      toolbox.call other budget tool arguments =
        toolbox.call investigator budget tool arguments := by
  rcases call_cases investigator budget toolbox tool arguments with
    ⟨detail, unknown⟩ | ⟨name, status, detail, _, _, everywhere, same⟩ |
      ⟨name, result, _, _, _, same⟩
  · rw [unknown] at exhausted
    cases exhausted
  · rw [same] at exhausted ⊢
    exact ⟨rfl, everywhere exhausted other⟩
  · rw [same] at exhausted
    cases exhausted

/-- **The budgets hold for every conversation.**  After any uses of a new toolbox the calls
that were accepted, altogether and of each tool, and the source characters of all answers
are within the budget, and the records are numbered without a gap.  One more call is then
recorded with the text of its answer, if it is for a known tool, and one that is answered
with an exhausted budget is answered so whatever the repository holds. -/
theorem toolbox_budgets_hold (investigator : RepositoryInvestigator) (budget : ToolBudget)
    (actions : List Use) :
    let answers := (useAll investigator budget {} actions).1
    let toolbox := (useAll investigator budget {} actions).2
    toolbox.accepted.length ≤ budget.maxTotalCalls ∧
    (∀ name, (toolbox.acceptedOf name).length ≤ budget.maxCallsPerTool) ∧
    charsOf answers ≤ budget.maxTotalSourceChars ∧
    toolbox.calls.map (fun record => record.sequence.value) =
      ((List.range toolbox.calls.length).map fun index : Nat => (index : Int) + 1) ∧
    ∀ tool arguments,
      let (payload, next) := toolbox.call investigator budget tool arguments
      (next = toolbox ∨ ∃ record, next.calls = toolbox.calls ++ [record] ∧
        record.detail.text = payload.detail) ∧
      (payload.status = .budgetExhausted → payload.entries = [] ∧
        ∀ other : RepositoryInvestigator,
          toolbox.call other budget tool arguments = (payload, next)) := by
  intro answers toolbox
  have start : WithinBudget budget {} 0 := withinBudget_start
  have within := withinBudget_useAll investigator start actions
  refine ⟨within.total, within.perTool, ?_, within.numbered, ?_⟩
  · have chars := within.chars
    rwa [Nat.zero_add] at chars
  · intro tool arguments
    refine ⟨call_recorded investigator budget toolbox tool arguments, ?_⟩
    intro exhausted
    refine ⟨(call_exhausted investigator investigator budget toolbox tool arguments
      exhausted).1, ?_⟩
    intro other
    exact (call_exhausted investigator other budget toolbox tool arguments exhausted).2

end InvestigationToolbox

end PatchProof
