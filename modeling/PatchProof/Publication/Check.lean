import PatchProof.Evidence.Report

/-!
# The GitHub Check of a report

`formatGithubCheck` builds the payload of a run's single Check from the stored
report and from nothing else.  It is total: the bounds of the payload follow from
those of the report, so no input makes it raise.
-/

set_option autoImplicit false

namespace PatchProof

/-! ## Payloads -/

/-- Bounded output object of a Check. -/
structure GitHubCheckOutput where
  title : BoundedText 1 255
  summary : BoundedText 1 65535
  text : BoundedText 1 65535
  deriving DecidableEq

def checkName : String := "PatchProof claim evidence"

/-- One completed Check with a durable external idempotency key. -/
structure GitHubCheckPayload where
  name : String := checkName
  headSha : String
  status : String := "completed"
  conclusion : String
  externalId : String
  output : GitHubCheckOutput
  deriving DecidableEq

/-! ## Code fences -/

def backtick : Char := Char.ofNat 96

/-- Break every run of three backticks, from the left. -/
def breakFences : List Char → List Char
  | first :: second :: third :: rest =>
      if first = backtick ∧ second = backtick ∧ third = backtick then
        "` ` `".toList ++ breakFences rest
      else first :: breakFences (second :: third :: rest)
  | short => short

/-- `_fenced`. -/
def fenced (value : String) : String :=
  orElseText (String.ofList (breakFences value.toList)) "(empty)"

/-! ## Prose -/

variable {Transcript : Type}

/-- The text an absent value is printed as. -/
def printed : Option String → String
  | some text => text
  | none => "None"

/-- The conclusion and title that an outcome is presented with. -/
def checkVerdict : ClaimOutcome → String × BoundedText 1 255
  | .claimSupportedForScenario =>
      ("success", ⟨"Generated scenario supports the selected claim", by decide⟩)
  | .potentialRegression =>
      ("failure", ⟨"Generated scenario indicates a potential regression", by decide⟩)
  | _ => ("neutral", ⟨"Insufficient claim-scoped evidence", by decide⟩)

def checkClaim (report : EvidenceReport Transcript) : String :=
  match report.claim with
  | some claim => "`" ++ claim.claimId ++ "` — " ++ claim.summary.text
  | none => "No sufficiently grounded behavioral claim was selected."

/-- The last attempt whose artifact hash is the selected one. -/
def selectedAttempt (report : EvidenceReport Transcript) : Option CandidateAttemptEvidence :=
  report.candidateAttempts.items.reverse.find? fun attempt =>
    attempt.artifactSha256 = report.selectedArtifactSha256

def checkCandidate : Option CandidateAttemptEvidence → String
  | some selected =>
      "`" ++ printed selected.candidateId ++ "` at `" ++ printed selected.targetPath ++ "::" ++
      printed selected.testFunction ++ "`\n\n" ++ "Artifact SHA-256: `" ++
      printed (selected.artifactSha256.map Sha256.text) ++ "`"
  | none => "No candidate produced publishable evidence."

def checkExecutions (report : EvidenceReport Transcript) : String :=
  match report.baseExecution, report.headExecution with
  | some base, some head =>
      "- BASE `" ++ report.baseSha.text ++ "`: **" ++ base.status ++ "**\n" ++
      "- HEAD `" ++ report.headSha.text ++ "`: **" ++ head.status ++ "**\n" ++
      "- Mechanical result: **" ++ report.mechanicalStatus.value ++ "** / **" ++
      report.differentialPattern.value ++ "**\n" ++ "- Reason: " ++ report.mechanicalReason.text
  | _, _ => "No comparable BASE/HEAD execution pair was retained."

/-- One captured log under its heading. -/
def checkLog (heading log : String) : String :=
  "#### " ++ heading ++ "\n```text\n" ++ fenced (truncate 6000 log) ++ "\n```"

def checkLogs (report : EvidenceReport Transcript) : String :=
  match report.baseExecution, report.headExecution with
  | some base, some head =>
      checkLog "BASE stdout" base.stdout.text ++ "\n" ++
      checkLog "BASE stderr" base.stderr.text ++ "\n" ++
      checkLog "HEAD stdout" head.stdout.text ++ "\n" ++
      checkLog "HEAD stderr" head.stderr.text
  | _, _ => "No execution logs were produced."

def checkSource : Option CandidateAttemptEvidence → String
  | some selected =>
      "```python\n" ++ fenced ((selected.source.map BoundedText.text).getD "") ++ "\n```"
  | none => "Not available."

def checkPreamble : String :=
  "PatchProof reports evidence for one generated scenario. It does not approve, certify, " ++
  "or establish correctness of the pull request as a whole.\n\n"

/-- The whole text, before it is cut to size. -/
def checkText (reportSha256 : Sha256) (report : EvidenceReport Transcript) : String :=
  checkPreamble ++ ("### Selected claim\n" ++ checkClaim report ++ "\n\n" ++
    "### Candidate artifact\n" ++ checkCandidate (selectedAttempt report) ++ "\n\n" ++
    checkSource (selectedAttempt report) ++ "\n\n" ++
    "### Immutable comparison\n" ++ checkExecutions report ++ "\n\n" ++
    "### Conservative conclusion\n" ++ report.conclusion.text ++ "\n\n" ++
    "### Captured logs and artifact provenance\n" ++ checkLogs report ++ "\n\n" ++
    "Evidence document SHA-256: `" ++ reportSha256.text ++ "`")

/-! ## The payload -/

theorem one_le_length_truncate {limit : Nat} {text : String} (positive : 1 ≤ limit)
    (nonempty : 1 ≤ text.length) : 1 ≤ (truncate limit text).length := by
  rw [← String.length_toList] at nonempty
  simp only [truncate, String.length_ofList, List.length_take]
  omega

theorem one_le_length_checkText (reportSha256 : Sha256) (report : EvidenceReport Transcript) :
    1 ≤ (checkText reportSha256 report).length := by
  have nonempty : checkPreamble ≠ "" := by decide
  have preamble : 1 ≤ checkPreamble.length :=
    Nat.pos_of_ne_zero fun zero => nonempty (String.length_eq_zero_iff.mp zero)
  rw [checkText, String.length_append]
  omega

/-- `format_github_check`; the hash of the report is handed in. -/
def formatGithubCheck (reportSha256 : Sha256) (report : EvidenceReport Transcript) :
    GitHubCheckPayload where
  headSha := report.headSha.text
  conclusion := (checkVerdict report.claimOutcome).1
  externalId := report.runId.text
  output :=
    { title := (checkVerdict report.claimOutcome).2
      summary := ⟨report.conclusion.text, report.conclusion.bounded.1,
        Nat.le_trans report.conclusion.bounded.2 (by decide)⟩
      text := ⟨truncate 65535 (checkText reportSha256 report),
        one_le_length_truncate (by decide) (one_le_length_checkText reportSha256 report),
        length_truncate_le 65535 _⟩ }

end PatchProof
