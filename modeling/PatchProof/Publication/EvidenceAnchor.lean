import Mathlib.Algebra.GroupWithZero.Nat
import PatchProof.Evidence.Document
import PatchProof.Publication.Fences

/-!
# The last line of the Check

The Check ends with the hash of the evidence document and is cut at the length that GitHub
accepts.  What is in front of the last line is made of fields of the report, and embedded
logs and source grow: every three backticks in a row become five characters.

`CheckFacts.checkLength` is the length of the whole text as a sum over the fields.  The last
line is kept exactly when the sum is within the limit, and the field bounds of a report do
not keep it there: four logs and a source of nothing but backticks are too much.

Reports are taken as they are stored, with texts where the model has checked hashes.
-/

set_option autoImplicit false

namespace PatchProof

/-! ## What the Check reads -/

/-- The texts of the selected attempt. -/
structure SelectedFacts where
  candidateId : Option String
  targetPath : Option String
  testFunction : Option String
  artifactSha256 : Option String
  source : Option String

/-- The texts of the two executions. -/
structure ExecutedFacts where
  baseStatus : String
  baseStdout : String
  baseStderr : String
  headStatus : String
  headStdout : String
  headStderr : String

/-- The texts of a report that its Check is made of. -/
structure CheckFacts where
  claim : Option (String × String)
  selected : Option SelectedFacts
  executed : Option ExecutedFacts
  baseSha : String
  headSha : String
  mechanicalStatus : String
  differentialPattern : String
  mechanicalReason : String
  conclusion : String

namespace CheckFacts

def claimText (facts : CheckFacts) : String :=
  match facts.claim with
  | some (claimId, summary) => "`" ++ claimId ++ "` — " ++ summary
  | none => "No sufficiently grounded behavioral claim was selected."

def candidateText (facts : CheckFacts) : String :=
  match facts.selected with
  | some selected =>
      "`" ++ printed selected.candidateId ++ "` at `" ++ printed selected.targetPath ++ "::" ++
      printed selected.testFunction ++ "`\n\n" ++ "Artifact SHA-256: `" ++
      printed selected.artifactSha256 ++ "`"
  | none => "No candidate produced publishable evidence."

def sourceText (facts : CheckFacts) : String :=
  match facts.selected with
  | some selected => "```python\n" ++ fenced (selected.source.getD "") ++ "\n```"
  | none => "Not available."

def executionsText (facts : CheckFacts) : String :=
  match facts.executed with
  | some executed =>
      "- BASE `" ++ facts.baseSha ++ "`: **" ++ executed.baseStatus ++ "**\n" ++
      "- HEAD `" ++ facts.headSha ++ "`: **" ++ executed.headStatus ++ "**\n" ++
      "- Mechanical result: **" ++ facts.mechanicalStatus ++ "** / **" ++
      facts.differentialPattern ++ "**\n" ++ "- Reason: " ++ facts.mechanicalReason
  | none => "No comparable BASE/HEAD execution pair was retained."

def logsText (facts : CheckFacts) : String :=
  match facts.executed with
  | some executed =>
      checkLog "BASE stdout" executed.baseStdout ++ "\n" ++
      checkLog "BASE stderr" executed.baseStderr ++ "\n" ++
      checkLog "HEAD stdout" executed.headStdout ++ "\n" ++
      checkLog "HEAD stderr" executed.headStderr
  | none => "No execution logs were produced."

/-- Everything in front of the logs. -/
def opening (facts : CheckFacts) : String :=
  checkPreamble ++ "### Selected claim\n" ++ facts.claimText ++ "\n\n" ++
    "### Candidate artifact\n" ++ facts.candidateText ++ "\n\n" ++
    facts.sourceText ++ "\n\n" ++
    "### Immutable comparison\n" ++ facts.executionsText ++ "\n\n" ++
    "### Conservative conclusion\n" ++ facts.conclusion ++ "\n\n" ++
    "### Captured logs and artifact provenance\n"

/-- Everything in front of the last line. -/
def body (facts : CheckFacts) : String := facts.opening ++ facts.logsText ++ "\n\n"

end CheckFacts

/-- The last line. -/
def hashLine (reportSha256 : Sha256) : String :=
  "Evidence document SHA-256: `" ++ reportSha256.text ++ "`"

/-- The text of a Check, cut to size. -/
def CheckFacts.outputText (facts : CheckFacts) (reportSha256 : Sha256) : String :=
  truncate 65535 (facts.body ++ hashLine reportSha256)

/-- What the Check of a composed report reads. -/
def EvidenceReport.facts {Transcript : Type} (report : EvidenceReport Transcript) : CheckFacts where
  claim := report.claim.map fun claim => (claim.claimId, claim.summary.text)
  selected := (selectedAttempt report).map fun attempt =>
    { candidateId := attempt.candidateId
      targetPath := attempt.targetPath
      testFunction := attempt.testFunction
      artifactSha256 := attempt.artifactSha256.map Sha256.text
      source := attempt.source.map BoundedText.text }
  executed := match report.baseExecution, report.headExecution with
    | some base, some head =>
        some ⟨base.status, base.stdout.text, base.stderr.text,
          head.status, head.stdout.text, head.stderr.text⟩
    | _, _ => none
  baseSha := report.baseSha.text
  headSha := report.headSha.text
  mechanicalStatus := report.mechanicalStatus.value
  differentialPattern := report.differentialPattern.value
  mechanicalReason := report.mechanicalReason.text
  conclusion := report.conclusion.text

/-- The text of a composed report is its body and its last line. -/
theorem checkText_eq_body_append {Transcript : Type} (reportSha256 : Sha256)
    (report : EvidenceReport Transcript) :
    checkText reportSha256 report = report.facts.body ++ hashLine reportSha256 := by
  have claim : report.facts.claimText = checkClaim report := by
    unfold CheckFacts.claimText checkClaim EvidenceReport.facts
    cases report.claim <;> rfl
  have candidate : report.facts.candidateText = checkCandidate (selectedAttempt report) := by
    unfold CheckFacts.candidateText EvidenceReport.facts
    cases selectedAttempt report <;> rfl
  have source : report.facts.sourceText = checkSource (selectedAttempt report) := by
    unfold CheckFacts.sourceText EvidenceReport.facts
    cases selectedAttempt report <;> rfl
  have executions : report.facts.executionsText = checkExecutions report := by
    unfold CheckFacts.executionsText checkExecutions EvidenceReport.facts
    cases report.baseExecution <;> cases report.headExecution <;> rfl
  have logs : report.facts.logsText = checkLogs report := by
    unfold CheckFacts.logsText checkLogs EvidenceReport.facts
    cases report.baseExecution <;> cases report.headExecution <;> rfl
  have conclusion : report.facts.conclusion = report.conclusion.text := rfl
  unfold checkText CheckFacts.body CheckFacts.opening hashLine
  simp only [claim, candidate, source, executions, logs, conclusion, String.append_assoc]

/-- The Check of a composed report is made of these texts. -/
theorem formatGithubCheck_text {Transcript : Type} (reportSha256 : Sha256)
    (report : EvidenceReport Transcript) :
    (formatGithubCheck reportSha256 report).output.text.text =
      report.facts.outputText reportSha256 := by
  rw [CheckFacts.outputText, ← checkText_eq_body_append]
  rfl

/-! ## Lengths -/

/-- The length of an embedded value: two more characters for each three backticks that are
replaced, and seven for an empty one. -/
def fencedLength (value : String) : Nat :=
  if value = "" then 7
  else value.length + 2 * ((backtickRuns value.toList).map (· / 3)).sum

theorem length_brokenRun (run : Nat) : (brokenRun run).length = run + 2 * (run / 3) := by
  induction run using Nat.strong_induction_on with
  | _ run ih =>
      match run with
      | 0 => rfl
      | 1 => rfl
      | 2 => rfl
      | run + 3 =>
          rw [brokenRun_add_three]
          simp only [List.length_append, List.length_cons, List.length_nil, ih run (by omega)]
          omega

theorem length_breakFences (text : List Char) :
    (breakFences text).length = text.length + 2 * ((backtickRuns text).map (· / 3)).sum := by
  induction text using runs_induction with
  | last run =>
      change (brokenRun run).length = _
      rw [length_brokenRun, backtickRuns, runsAfter_replicate, List.length_replicate]
      simp
  | more run c rest separates ih =>
      have runs : backtickRuns (List.replicate run backtick ++ c :: rest) =
          (0 + run) :: backtickRuns rest := runsAfter_replicate_append 0 run separates rest
      rw [breakFences_replicate_append run separates, runs]
      simp only [List.length_append, List.length_cons, List.length_replicate, length_brokenRun, ih,
        List.map_cons, List.sum_cons]
      omega

/-- **What is embedded has the length that its runs of backticks say.** -/
theorem length_fenced (value : String) : (fenced value).length = fencedLength value := by
  rw [← String.length_toList, toList_fenced, fencedLength]
  split
  · rfl
  · rw [length_breakFences, String.length_toList]

namespace CheckFacts

def claimLength (facts : CheckFacts) : Nat :=
  match facts.claim with
  | some (claimId, summary) => 5 + claimId.length + summary.length
  | none => 55

def selectedLength (facts : CheckFacts) : Nat :=
  match facts.selected with
  | some selected =>
      32 + (printed selected.candidateId).length + (printed selected.targetPath).length +
        (printed selected.testFunction).length + (printed selected.artifactSha256).length +
        (14 + fencedLength (selected.source.getD ""))
  | none => 43 + 14

def logLength (log : String) : Nat := 29 + fencedLength (truncate 6000 log)

def executedLength (facts : CheckFacts) : Nat :=
  match facts.executed with
  | some executed =>
      75 + facts.baseSha.length + executed.baseStatus.length + facts.headSha.length +
        executed.headStatus.length + facts.mechanicalStatus.length +
        facts.differentialPattern.length + facts.mechanicalReason.length +
        (3 + logLength executed.baseStdout + logLength executed.baseStderr +
          logLength executed.headStdout + logLength executed.headStderr)
  | none => 52 + 32

/-- The length of the whole text. -/
def checkLength (facts : CheckFacts) : Nat :=
  386 + facts.claimLength + facts.selectedLength + facts.executedLength + facts.conclusion.length

theorem length_claimText (facts : CheckFacts) : facts.claimText.length = facts.claimLength := by
  unfold claimText claimLength
  cases facts.claim with
  | none => decide +kernel
  | some claim =>
      have opening : "`".length = 1 := by simp [← String.length_toList]
      have dash : "` — ".length = 4 := by simp [← String.length_toList]
      simp only [String.length_append, opening, dash]
      omega

theorem length_selected (facts : CheckFacts) :
    facts.candidateText.length + facts.sourceText.length = facts.selectedLength := by
  unfold candidateText sourceText selectedLength
  cases facts.selected with
  | none => decide +kernel
  | some selected =>
      have opening : "`".length = 1 := by simp [← String.length_toList]
      have place : "` at `".length = 6 := by simp [← String.length_toList]
      have colons : "::".length = 2 := by simp [← String.length_toList]
      have closing : "`\n\n".length = 3 := by simp [← String.length_toList]
      have artifact : "Artifact SHA-256: `".length = 19 := by simp [← String.length_toList]
      have python : "```python\n".length = 10 := by simp [← String.length_toList]
      have fence : "\n```".length = 4 := by simp [← String.length_toList]
      simp only [String.length_append, length_fenced, opening, place, colons, closing, artifact,
        python, fence]
      omega

theorem length_checkLog {heading : String} (named : heading.length = 11) (log : String) :
    (checkLog heading log).length = logLength log := by
  have marks : "#### ".length = 5 := by simp [← String.length_toList]
  have text : "\n```text\n".length = 9 := by simp [← String.length_toList]
  have fence : "\n```".length = 4 := by simp [← String.length_toList]
  unfold checkLog logLength
  simp only [String.length_append, length_fenced, named, marks, text, fence]
  omega

theorem length_executed (facts : CheckFacts) :
    facts.executionsText.length + facts.logsText.length = facts.executedLength := by
  unfold executionsText logsText executedLength
  cases facts.executed with
  | none =>
      have pair : "No comparable BASE/HEAD execution pair was retained.".length = 52 := by
        decide +kernel
      have nothing : "No execution logs were produced.".length = 32 := by simp [← String.length_toList]
      simp only [pair, nothing]
  | some executed =>
      have base : "- BASE `".length = 8 := by simp [← String.length_toList]
      have head : "- HEAD `".length = 8 := by simp [← String.length_toList]
      have bold : "`: **".length = 5 := by simp [← String.length_toList]
      have line : "**\n".length = 3 := by simp [← String.length_toList]
      have result : "- Mechanical result: **".length = 23 := by simp [← String.length_toList]
      have slash : "** / **".length = 7 := by simp [← String.length_toList]
      have reason : "- Reason: ".length = 10 := by simp [← String.length_toList]
      have newline : "\n".length = 1 := by simp [← String.length_toList]
      have baseOut : "BASE stdout".length = 11 := by simp [← String.length_toList]
      have baseErr : "BASE stderr".length = 11 := by simp [← String.length_toList]
      have headOut : "HEAD stdout".length = 11 := by simp [← String.length_toList]
      have headErr : "HEAD stderr".length = 11 := by simp [← String.length_toList]
      simp only [String.length_append, length_checkLog baseOut, length_checkLog baseErr,
        length_checkLog headOut, length_checkLog headErr, base, head, bold, line, result, slash,
        reason, newline]
      omega

end CheckFacts

theorem length_hashLine (reportSha256 : Sha256) : (hashLine reportSha256).length = 93 := by
  have opening : "Evidence document SHA-256: `".length = 28 := by simp [← String.length_toList]
  have closing : "`".length = 1 := by simp [← String.length_toList]
  have digits : reportSha256.text.length = 64 := by
    have wellFormed := reportSha256.wellFormed
    rw [isSha256, Bool.and_eq_true, beq_iff_eq, String.length_toList] at wellFormed
    exact wellFormed.1
  unfold hashLine
  simp only [String.length_append, opening, closing, digits]

/-- **The whole text has the length that its fields say.** -/
theorem CheckFacts.length_text (facts : CheckFacts) (reportSha256 : Sha256) :
    (facts.body ++ hashLine reportSha256).length = facts.checkLength := by
  have preamble : checkPreamble.length = 144 := by decide +kernel
  have claim : "### Selected claim\n".length = 19 := by simp [← String.length_toList]
  have candidate : "### Candidate artifact\n".length = 23 := by simp [← String.length_toList]
  have comparison : "### Immutable comparison\n".length = 25 := by simp [← String.length_toList]
  have conclusion : "### Conservative conclusion\n".length = 28 := by simp [← String.length_toList]
  have logs : "### Captured logs and artifact provenance\n".length = 42 := by simp [← String.length_toList]
  have paragraph : "\n\n".length = 2 := by simp [← String.length_toList]
  have selected := facts.length_selected
  have executed := facts.length_executed
  unfold body opening checkLength
  simp only [String.length_append, length_hashLine, length_claimText, preamble, claim, candidate,
    comparison, conclusion, logs, paragraph]
  omega

/-! ## Stored reports -/

namespace Document

variable {DateTime : Type}

/-- The last attempt whose artifact hash is the selected one. -/
def EvidenceReport.selectedAttempt (report : EvidenceReport DateTime) :
    Option CandidateAttemptEvidence :=
  report.candidateAttempts.items.reverse.find? fun attempt =>
    attempt.artifactSha256 = report.selectedArtifactSha256

/-- What the Check of a stored report reads. -/
def EvidenceReport.facts (report : EvidenceReport DateTime) : CheckFacts where
  claim := report.claim.map fun claim => (claim.claimId, claim.summary.text)
  selected := report.selectedAttempt.map fun attempt =>
    { candidateId := attempt.candidateId
      targetPath := attempt.targetPath
      testFunction := attempt.testFunction
      artifactSha256 := attempt.artifactSha256
      source := attempt.source.map BoundedText.text }
  executed := match report.baseExecution, report.headExecution with
    | some base, some head =>
        some ⟨base.status, base.stdout.text, base.stderr.text,
          head.status, head.stdout.text, head.stderr.text⟩
    | _, _ => none
  baseSha := report.baseSha
  headSha := report.headSha
  mechanicalStatus := report.mechanicalStatus.value
  differentialPattern := report.differentialPattern.value
  mechanicalReason := report.mechanicalReason.text
  conclusion := report.conclusion.text

end Document

/-- **The Check of a stored report ends with its whole last line exactly when the fields
leave room for it.** -/
theorem check_keeps_anchor_iff {DateTime : Type} (report : Document.EvidenceReport DateTime)
    (reportSha256 : Sha256) :
    ((report.facts.outputText reportSha256).length ≤ 65535 ∧
      report.facts.outputText reportSha256 = report.facts.body ++ hashLine reportSha256) ↔
      report.facts.checkLength ≤ 65535 := by
  have total := report.facts.length_text reportSha256
  unfold CheckFacts.outputText
  constructor
  · rintro ⟨bounded, kept⟩
    rwa [kept, total] at bounded
  · intro room
    refine ⟨length_truncate_le _ _, ?_⟩
    unfold truncate
    rw [List.take_of_length_le (by rw [String.length_toList]; omega), String.ofList_toList]

/-! ## Nothing but backticks -/

/-- A text of so many backticks. -/
def backticks (count : Nat) : String := String.ofList (List.replicate count backtick)

theorem length_backticks (count : Nat) : (backticks count).length = count := by
  rw [backticks, String.length_ofList, List.length_replicate]

theorem backticks_ne_empty {count : Nat} (positive : 0 < count) : backticks count ≠ "" := by
  intro none
  have same := congrArg String.length none
  rw [length_backticks] at same
  exact absurd same (Nat.ne_of_gt positive)

theorem fencedLength_backticks {count : Nat} (positive : 0 < count) :
    fencedLength (backticks count) = count + 2 * (count / 3) := by
  rw [fencedLength, if_neg (backticks_ne_empty positive), backticks, String.toList_ofList, backtickRuns,
    runsAfter_replicate, String.length_ofList, List.length_replicate]
  simp

theorem truncate_backticks (count : Nat) : truncate count (backticks count) = backticks count := by
  rw [truncate, backticks, String.toList_ofList, List.take_of_length_le (by simp)]

/-- Broken backticks are backticks and blanks. -/
theorem mem_brokenRun {run : Nat} {c : Char} (mem : c ∈ brokenRun run) : c = backtick ∨ c = ' ' := by
  induction run using Nat.strong_induction_on with
  | _ run ih =>
      match run with
      | 0 => cases mem
      | 1 => exact .inl (List.mem_singleton.mp mem)
      | 2 =>
          rcases List.mem_cons.mp mem with same | later
          · exact .inl same
          · exact .inl (List.mem_singleton.mp later)
      | run + 3 =>
          rw [brokenRun_add_three] at mem
          simp only [List.mem_append, List.mem_cons, List.not_mem_nil, or_false] at mem
          rcases mem with same | same | same | same | same | later
          · exact .inl same
          · exact .inr same
          · exact .inl same
          · exact .inr same
          · exact .inl same
          · exact ih run (by omega) later

/-- The usage of one model call. -/
def oneCall : ModelUsage := .single

/-- An execution that printed 6000 backticks to each of its streams. -/
def backtickExecution (role : String) : Document.ExecutionEvidence where
  role := role
  revisionSha := "0"
  testNodeId := "tests/test_generated.py::test_generated"
  expectedArtifactSha256 := "0"
  artifactSha256Before := none
  artifactSha256After := none
  status := "PASSED"
  collectedCount := 1
  exitCode := some 0
  durationSeconds := ⟨1, Duration.one_nonnegative⟩
  stdout := ⟨backticks 6000, Nat.zero_le _, by rw [length_backticks]; decide⟩
  stderr := ⟨backticks 6000, Nat.zero_le _, by rw [length_backticks]; decide⟩

/-- An attempt whose source is 16000 backticks. -/
def backtickAttempt : Document.CandidateAttemptEvidence where
  sequence := ⟨1, by decide⟩
  origin := "INITIAL"
  status := "VALIDATED"
  parentCandidateId := none
  parentArtifactSha256 := none
  candidateId := some "candidate"
  targetPath := some "tests/test_generated.py"
  testFunction := some "test_generated"
  source := some ⟨backticks 16000, Nat.zero_le _, by rw [length_backticks]⟩
  rationale := none
  artifactSha256 := some "0"
  issues := .empty 8 _
  feedback := none
  usage := oneCall
  rawResponseSha256 := "0"

/-- A report whose texts are within their bounds. -/
def backtickReport : Document.EvidenceReport Unit where
  runId := ⟨1⟩
  repository := "octo/service"
  prNumber := ⟨7, seven_positive⟩
  baseSha := "aaaaaaaaaaaaaaaaaaaaaaaaaaaaaaaaaaaaaaaa"
  headSha := "bbbbbbbbbbbbbbbbbbbbbbbbbbbbbbbbbbbbbbbb"
  claimDisposition := .insufficientEvidence
  claim := none
  claimUsage := oneCall
  claimResponseSha256 := "0"
  candidateAttempts := ⟨[backtickAttempt], by decide⟩
  candidateEvaluations := ⟨[], by decide⟩
  selectedArtifactSha256 := some "0"
  baseExecution := some (backtickExecution "BASE")
  headExecution := some (backtickExecution "HEAD")
  mechanicalStatus := .nonDiscriminating
  differentialPattern := .bothPassed
  mechanicalReason := ⟨"both revisions passed", by decide⟩
  semanticAssessment := none
  claimOutcome := .insufficientEvidence
  conclusion := ⟨"PatchProof abstained.", abstained_bounded⟩
  createdAt := ()
  executionsPaired := rfl
  discriminatingComplete := fun absurdity => by cases absurdity
  abstentionInsufficient := fun _ => rfl

def zeroSha256 : Sha256 := ⟨String.ofList (List.replicate 64 '0'), isSha256_zeros⟩

/-- What the Check of such a report reads. -/
def printedFacts (log source : String) : CheckFacts where
  claim := none
  selected := some {
    candidateId := some "candidate"
    targetPath := some "tests/test_generated.py"
    testFunction := some "test_generated"
    artifactSha256 := some "0"
    source := some source }
  executed := some {
    baseStatus := "PASSED"
    baseStdout := log
    baseStderr := log
    headStatus := "PASSED"
    headStdout := log
    headStderr := log }
  baseSha := "aaaaaaaaaaaaaaaaaaaaaaaaaaaaaaaaaaaaaaaa"
  headSha := "bbbbbbbbbbbbbbbbbbbbbbbbbbbbbbbbbbbbbbbb"
  mechanicalStatus := "NON_DISCRIMINATING"
  differentialPattern := "BOTH_PASSED"
  mechanicalReason := "both revisions passed"
  conclusion := "PatchProof abstained."

theorem backtickReport_facts :
    backtickReport.facts = printedFacts (backticks 6000) (backticks 16000) := by
  have selected : backtickReport.selectedAttempt = some backtickAttempt := by
    simp [Document.EvidenceReport.selectedAttempt, backtickReport, backtickAttempt]
  unfold Document.EvidenceReport.facts
  rw [selected]
  rfl

theorem printedFacts_checkLength (log source : String) :
    (printedFacts log source).checkLength =
      775 + fencedLength source + 4 * CheckFacts.logLength log := by
  have candidateId : "candidate".length = 9 := by simp [← String.length_toList]
  have targetPath : "tests/test_generated.py".length = 23 := by simp [← String.length_toList]
  have testFunction : "test_generated".length = 14 := by simp [← String.length_toList]
  have artifact : "0".length = 1 := by simp [← String.length_toList]
  have status : "PASSED".length = 6 := by simp [← String.length_toList]
  have base : "aaaaaaaaaaaaaaaaaaaaaaaaaaaaaaaaaaaaaaaa".length = 40 := by simp [← String.length_toList]
  have head : "bbbbbbbbbbbbbbbbbbbbbbbbbbbbbbbbbbbbbbbb".length = 40 := by simp [← String.length_toList]
  have mechanical : "NON_DISCRIMINATING".length = 18 := by simp [← String.length_toList]
  have pattern : "BOTH_PASSED".length = 11 := by simp [← String.length_toList]
  have reason : "both revisions passed".length = 21 := by simp [← String.length_toList]
  have conclusion : "PatchProof abstained.".length = 21 := by simp [← String.length_toList]
  unfold printedFacts CheckFacts.checkLength CheckFacts.claimLength CheckFacts.selectedLength
    CheckFacts.executedLength
  simp only [printed, Option.getD_some, candidateId, targetPath, testFunction, artifact, status,
    base, head, mechanical, pattern, reason, conclusion]
  omega

theorem logLength_backticks : CheckFacts.logLength (backticks 6000) = 10029 := by
  rw [CheckFacts.logLength, truncate_backticks, fencedLength_backticks (by decide)]

theorem backtickReport_checkLength : backtickReport.facts.checkLength = 67557 := by
  rw [backtickReport_facts, printedFacts_checkLength, logLength_backticks,
    fencedLength_backticks (by decide)]

/-- The last log of a text, with what is in front of it and behind it. -/
theorem CheckFacts.text_around_last_log {facts : CheckFacts} {executed : ExecutedFacts}
    (ran : facts.executed = some executed) (reportSha256 : Sha256) :
    ∃ front : String, facts.body ++ hashLine reportSha256 =
      front ++ (fenced (truncate 6000 executed.headStderr) ++
        ("\n```" ++ ("\n\n" ++ hashLine reportSha256))) := by
  refine ⟨facts.opening ++ (checkLog "BASE stdout" executed.baseStdout ++ ("\n" ++
    (checkLog "BASE stderr" executed.baseStderr ++ ("\n" ++
      (checkLog "HEAD stdout" executed.headStdout ++ ("\n" ++
        ("#### " ++ ("HEAD stderr" ++ "\n```text\n")))))))), ?_⟩
  have last : checkLog "HEAD stderr" executed.headStderr = "#### " ++ ("HEAD stderr" ++
      ("\n```text\n" ++ (fenced (truncate 6000 executed.headStderr) ++ "\n```"))) := by
    unfold checkLog
    simp only [String.append_assoc]
  unfold body logsText
  simp only [ran, last, String.append_assoc]

/-- A line is not at the end of a text that is cut inside a log of backticks. -/
theorem hashLine_not_suffix {front : List Char} {back : List Char} {run : Nat}
    (reportSha256 : Sha256) (inside : front.length + 93 ≤ 65535)
    (covers : 65535 ≤ front.length + (brokenRun run).length) :
    ¬ (hashLine reportSha256).toList <:+ (front ++ (brokenRun run ++ back)).take 65535 := by
  intro suffix
  have cut : (front ++ (brokenRun run ++ back)).take 65535 =
      front ++ (brokenRun run).take (65535 - front.length) := by
    rw [List.take_append, List.take_of_length_le (by omega),
      List.take_append_of_le_length (by omega)]
  rw [cut] at suffix
  have short : (hashLine reportSha256).toList.length ≤
      ((brokenRun run).take (65535 - front.length)).length := by
    rw [String.length_toList, length_hashLine, List.length_take]
    omega
  have within := List.suffix_of_suffix_length_le suffix (List.suffix_append _ _) short
  have capital : 'E' ∈ (hashLine reportSha256).toList := by
    unfold hashLine
    rw [String.toList_append, String.toList_append]
    exact List.mem_append_left _ (List.mem_append_left _ (by decide +kernel))
  rcases mem_brokenRun (List.mem_of_mem_take (within.subset capital)) with same | same
  · exact absurd same (by decide)
  · exact absurd same (by decide)

/-- Backticks in the logs and in the source push the last line out of the text. -/
theorem backticks_push_hash_out :
    ¬ (hashLine zeroSha256).toList <:+ (backtickReport.facts.outputText zeroSha256).toList ∧
      ¬ ((backtickReport.facts.outputText zeroSha256).length ≤ 65535 ∧
        backtickReport.facts.outputText zeroSha256 =
          backtickReport.facts.body ++ hashLine zeroSha256) := by
  have total := backtickReport.facts.length_text zeroSha256
  rw [backtickReport_checkLength] at total
  constructor
  · obtain ⟨front, whole⟩ := CheckFacts.text_around_last_log
      (congrArg CheckFacts.executed backtickReport_facts) zeroSha256
    have log : (fenced (truncate 6000 (backticks 6000))).toList = brokenRun 6000 := by
      rw [truncate_backticks, toList_fenced, if_neg (backticks_ne_empty (by decide)), backticks,
        String.toList_ofList, brokenRun]
    have inside : (brokenRun 6000).length = 10000 := length_brokenRun 6000
    have closing : "\n```".length = 4 := by simp [← String.length_toList]
    have paragraph : "\n\n".length = 2 := by simp [← String.length_toList]
    have embedded : (fenced (truncate 6000 (backticks 6000))).length = 10000 := by
      rw [← String.length_toList, log, inside]
    have lengths := congrArg String.length whole
    rw [total] at lengths
    simp only [String.length_append, length_hashLine, closing, paragraph, embedded] at lengths
    unfold CheckFacts.outputText truncate
    rw [String.toList_ofList, whole, String.toList_append, String.toList_append, log]
    refine hashLine_not_suffix zeroSha256 ?_ ?_
    · rw [String.length_toList]
      omega
    · rw [String.length_toList, inside]
      omega
  · rintro ⟨bounded, kept⟩
    rw [kept, total] at bounded
    exact absurd bounded (by decide)

end PatchProof
