import PatchProof.Protocol.Saving
import PatchProof.Publication.Obligation
import PatchProof.Worker.FailClosed

/-!
# The candidate that the Check presents

The Check presents the last attempt whose artifact hash equals the selected one, with its
identifier, path, hash and source.  An attempt that was rejected has no artifact hash,
and a report that selected nothing has no selected hash, and the two compare equal.

So a report that selected an artifact has the attempt with that artifact presented, but
one that selected none has a rejected attempt presented as soon as one was recorded.  Among
the reports that the workflow saves, exactly those that selected an artifact or recorded
no attempts are presented as they should be.
-/

set_option autoImplicit false

namespace PatchProof

/-! ## Presenting the selection -/

section Selected

variable {Transcript : Type} {report : EvidenceReport Transcript}

/-- A candidate is presented exactly when an artifact was selected, and it is a recorded
attempt with that artifact. -/
structure PresentsSelection (report : EvidenceReport Transcript) : Prop where
  presented : (selectedAttempt report).isSome = report.selectedArtifactSha256.isSome
  selected : ∀ attempt, selectedAttempt report = some attempt →
    attempt ∈ report.candidateAttempts.items ∧ ∃ artifactSha256,
      report.selectedArtifactSha256 = some artifactSha256 ∧
        attempt.artifactSha256 = some artifactSha256

theorem selectedAttempt_isSome_iff :
    (selectedAttempt report).isSome = true ↔ ∃ attempt ∈ report.candidateAttempts.items,
      attempt.artifactSha256 = report.selectedArtifactSha256 := by
  simp [selectedAttempt]

theorem mem_of_selectedAttempt {attempt : CandidateAttemptEvidence}
    (presented : selectedAttempt report = some attempt) :
    attempt ∈ report.candidateAttempts.items ∧
      attempt.artifactSha256 = report.selectedArtifactSha256 := by
  refine ⟨List.mem_reverse.mp (List.mem_of_find?_eq_some presented), ?_⟩
  simpa using List.find?_some presented

/-- A composed report is presented as it should be when it selected an artifact or
recorded no attempts, and not otherwise. -/
theorem EvidenceReport.Composed.presentsSelection_iff (composed : report.Composed) :
    PresentsSelection report ↔
      report.selectedArtifactSha256 ≠ none ∨ report.candidateAttempts.items = [] := by
  constructor
  · intro presents
    by_contra neither
    rw [not_or, not_not] at neither
    obtain ⟨unselected, recorded⟩ := neither
    obtain ⟨attempt, mem, absent⟩ := (composed.unselected unselected).resolve_left recorded
    have presented : (selectedAttempt report).isSome = true :=
      selectedAttempt_isSome_iff.mpr ⟨attempt, mem, absent.trans unselected.symm⟩
    rw [presents.presented, unselected] at presented
    cases presented
  · intro either
    cases selection : report.selectedArtifactSha256 with
    | some artifactSha256 =>
        obtain ⟨attempt, mem, same⟩ := composed.selected artifactSha256 selection
        refine ⟨?_, fun presented is => ?_⟩
        · rw [selection]
          exact selectedAttempt_isSome_iff.mpr ⟨attempt, mem, same.trans selection.symm⟩
        · obtain ⟨isRecorded, hash⟩ := mem_of_selectedAttempt is
          exact ⟨isRecorded, artifactSha256, selection, hash.trans selection⟩
    | none =>
        have unrecorded : report.candidateAttempts.items = [] :=
          either.resolve_left fun present => present selection
        have absent : selectedAttempt report = none := by
          rw [selectedAttempt, unrecorded]
          rfl
        refine ⟨?_, fun attempt is => ?_⟩
        · rw [absent, selection]
          rfl
        · rw [absent] at is
          cases is

end Selected

/-! ## Wherever a schedule leads -/

section Service

variable {p : Platform} {ι : Type} [DecidableEq ι]

/-- **A saved report is presented as it should be exactly when it selected an artifact or
recorded no attempts.** -/
theorem check_presents_selection_iff (duties : ι → Duty p) (schedule : List (ι × Moment p))
    (runId : RunId) (stored : StoredEvidence p.Document)
    (found : ((reachedPool duties schedule).shared.view runId).evidence = some stored) :
    ∃ report, p.decode stored.documentJson = .ok report ∧ (PresentsSelection report ↔
      report.selectedArtifactSha256 ≠ none ∨ report.candidateAttempts.items = []) := by
  obtain ⟨report, encodes, composed⟩ := reachedPool_composed duties schedule runId stored found
  refine ⟨report, ?_, composed.presentsSelection_iff⟩
  rw [encodes]
  exact p.decode_encode report

end Service

/-- The report of an abstention is stored, and presents no candidate. -/
theorem check_presents_selection_iff_abstention : ∃ report,
    ((reachedPool analyzedThenInstalled oneAfterTheOther).shared.view ⟨1⟩).evidence.map
        (fun stored => samplePlatform.decode stored.documentJson) = some (.ok report) ∧
      (PresentsSelection report ↔
        report.selectedArtifactSha256 ≠ none ∨ report.candidateAttempts.items = []) := by
  have stored : ((reachedPool analyzedThenInstalled oneAfterTheOther).shared.view
      ⟨1⟩).evidence.isSome = true := by decide +kernel
  obtain ⟨evidence, found⟩ := Option.isSome_iff_exists.mp stored
  obtain ⟨report, reads, presents⟩ :=
    check_presents_selection_iff analyzedThenInstalled oneAfterTheOther ⟨1⟩ evidence found
  refine ⟨report, ?_, presents⟩
  rw [found]
  exact congrArg some reads

/-! ## A malformed attempt that is presented -/

/-- Time passes, a claim is selected, and the candidate model never answers usably. -/
def malformedMoment (index : ℕ) : Moment samplePlatform where
  now := index + 1
  freshRunId := ⟨1⟩
  answer
    | .readCommittedFile => .ok []
    | .committedPaths => .ok []
    | .retrieveContext => .ok ()
    | .selectClaim => .ok ⟨sampleSelection, sampleUsage, sampleSha256⟩
    | .prepareEnvironment => .ok ⟨.ready, "environment is ready"⟩
    | .retrieveCallableSignatures => .ok (.absent sampleSha256)
    | .invokeCandidateModel => .ok ⟨"no structured output", by decide, sampleUsage⟩
    | .readClock => .ok (5 : Int)
    | _ => .error (.other "not asked")

/-- An event, and a worker for its run. -/
def acceptedThenWorked : ℕ → Duty samplePlatform
  | 0 => .accept (sampleEvent "first" 'a' 10 isLowerHex_a deliveryId_first)
  | _ => .work ⟨.executor, (), true, false⟩ ⟨1⟩

/-- The one follows the other. -/
def workedAfterwards : List (ℕ × Moment samplePlatform) :=
  (0, malformedMoment 0) :: (List.range 30).map fun tick => (1, malformedMoment (tick + 1))

/-- The status of the candidate that a stored report is presented with, and whether an
artifact was selected. -/
def presentedStatus (stored : StoredEvidence (EvidenceReport Unit)) : Option String × Bool :=
  ((selectedAttempt stored.documentJson).map CandidateAttemptEvidence.status,
    stored.documentJson.selectedArtifactSha256.isSome)

/-- Three answers without structured output leave nothing selected, and the last of them
is presented as the candidate. -/
theorem malformed_attempt_presented : ∃ report,
    ((reachedPool acceptedThenWorked workedAfterwards).shared.view ⟨1⟩).evidence.map
        (fun stored => samplePlatform.decode stored.documentJson) = some (.ok report) ∧
      (selectedAttempt report).map CandidateAttemptEvidence.status =
        some "INVALID_MODEL_OUTPUT" ∧ ¬ PresentsSelection report := by
  have status : ((reachedPool acceptedThenWorked workedAfterwards).shared.view ⟨1⟩).evidence.map
      presentedStatus = some (some "INVALID_MODEL_OUTPUT", false) := by decide +kernel
  obtain ⟨stored, found, shown⟩ := Option.map_eq_some_iff.mp status
  obtain ⟨presented, unselected⟩ := Prod.mk.inj shown
  refine ⟨stored.documentJson, by rw [found]; rfl, presented, fun presents => ?_⟩
  have both := presents.presented
  rw [unselected] at both
  have absent := Option.isNone_iff_eq_none.mp (Option.isSome_eq_false_iff.mp both)
  have shownNone := congrArg (Option.map CandidateAttemptEvidence.status) absent
  exact Option.some_ne_none _ (presented.symm.trans shownNone)

end PatchProof
