import PatchProof.Execution.Remote
import PatchProof.HardMode.LeakAudit
import PatchProof.HardMode.LiveRun
import PatchProof.Library.Table

/-!
# The oracle gate

Before anything is asked of a model, every case of a manifest is checked: the developer's
oracle must tell BASE from HEAD, and the context of the case must not leak what the model
is to find out.  Only when all cases are accepted is the gate written that a live run
reads.

Whatever the surroundings answer, a gate is written only when it has been earned: no gate
was there, and every case of the manifest, in its order, was seen to pass
(`earns_verifyOracles`).  A live run of the same manifest accepts such a gate, and the
digest it finds there for a case is that of a context that was retrieved for it and has
passed its audit (`oracle_gate_authorizes`).
-/

set_option autoImplicit false

namespace PatchProof

/-! ## What a verification asks -/

/-- A case with what the verification reads of it. -/
structure OracleCase extends HardModeCase where
  excludedPaths : List String
  expectedExcludedChangedFiles : Nat
  oracleFile : String
  oracleSha256 : Sha256
  oracleTestFunction : String

/-- The manifest with the cases in full. -/
structure OracleManifest extends HardModeManifest where
  oracleCases : List OracleCase
  sameCases : oracleCases.map OracleCase.toHardModeCase = cases

/-- What is recorded of one case. -/
structure OracleCaseResult where
  caseId : String
  accepted : Bool
  changedPythonTestPaths : List String
  oracleFile : String
  oracleSha256 : Sha256
  environmentReadiness : Option EnvironmentReadiness
  challenge : ChallengeResult
  antiLeakage : ContextLeakAudit

/-- The document that a verification ends with. -/
structure OracleGateDocument where
  createdAt : String
  manifestSha256 : String
  accepted : Bool
  caseCount : Nat
  cases : List OracleCaseResult

/-- What a reader of the file gets. -/
def OracleGateDocument.gate (document : OracleGateDocument) : OracleGate where
  accepted := document.accepted
  manifestSha256 := document.manifestSha256
  caseCount := document.caseCount
  cases := document.cases.map fun result =>
    ⟨result.caseId, result.accepted, result.antiLeakage.contextSha256.text⟩

inductive OracleCall where
  | gateExists
  | loadHardModeManifest
  | prepareRepository (case : OracleCase)
  | changedPythonTestPaths (case : OracleCase)
  | readOracle (case : OracleCase)
  | executionPlan (case : OracleCase)
  | enterSession (case : OracleCase)
  | prepareEnvironment (case : OracleCase)
  | runOracle (case : OracleCase) (artifact : TestArtifact)
  | leaveSession
  | retrieveContext (case : OracleCase)
  | readClock
  | writeRejections (document : OracleGateDocument)
  | writeGate (document : OracleGateDocument)

/-- What a verification is told; of an execution plan, whether it installs dependencies. -/
@[reducible]
def OracleReply : OracleCall → Type
  | .gateExists => Bool
  | .loadHardModeManifest => Except LiveRunFailure (OracleManifest × String)
  | .prepareRepository _ => Except LiveRunFailure Unit
  | .changedPythonTestPaths _ => Except LiveRunFailure (List String)
  | .readOracle _ => Except LiveRunFailure String
  | .executionPlan _ => Except LiveRunFailure Bool
  | .enterSession _ => Except LiveRunFailure Unit
  | .prepareEnvironment _ => Except LiveRunFailure EnvironmentReadiness
  | .runOracle _ _ => Except LiveRunFailure ChallengeResult
  | .leaveSession => Except LiveRunFailure Unit
  | .retrieveContext _ => Except LiveRunFailure PullRequestContext
  | .readClock => String
  | .writeRejections _ => Except LiveRunFailure Unit
  | .writeGate _ => Except LiveRunFailure Unit

abbrev OracleVerification (α : Type) : Type := Program OracleReply LiveRunFailure α

/-- What the texts and digests of a verification are made with. -/
structure OraclePlatform where
  digest : String → Sha256
  reprPaths : List String → String
  rejectionPath : String

/-! ## The verification -/

def oracleTarget : String := "patchproof_generated_tests/test_hard_mode_oracle.py"

/-- The artifact of an oracle, or the `ValueError` of its fields. -/
def oracleArtifact (case : OracleCase) (source : String) : Except LiveRunFailure TestArtifact :=
  match TestArtifact.fromText oracleTarget (oracleTarget ++ "::" ++ case.oracleTestFunction)
      source with
  | .ok artifact => .ok artifact
  | .error (.value message) => .error (.surroundings "ValueError" message)
  | .error _ => .error (.surroundings "ValueError" "")

/-- The oracle tells BASE from HEAD as it is meant to. -/
def oracleAccepted (challenge : ChallengeResult) : Bool :=
  challenge.base.status == .assertionFailed && challenge.head.status == .passed &&
    challenge.base.artifactWasUnchanged && challenge.head.artifactWasUnchanged &&
    challenge.assessment.pattern == .baseAssertionFailedHeadPassed

section Verification

variable (platform : OraclePlatform)

/-- The setup, if the plan installs dependencies, and the oracle on both revisions. -/
def runOracle (case : OracleCase) (artifact : TestArtifact) (installs : Bool) :
    OracleVerification (Option EnvironmentReadiness × ChallengeResult) := do
  if installs then
    let readiness ← .ask (.prepareEnvironment case) .done
    Program.demand (readiness.ready = true) (.hardMode (.configuration
      ("oracle environment is not ready for " ++ case.caseId ++ ": " ++ readiness.reason)))
    let challenge ← .ask (.runOracle case artifact) .done
    return (some readiness, challenge)
  else
    let challenge ← .ask (.runOracle case artifact) .done
    return (none, challenge)

/-- The session is left however the oracle ends; what the oracle raised is raised if that
succeeds. -/
def runOracleInSession (case : OracleCase) (artifact : TestArtifact) (installs : Bool) :
    OracleVerification (Option EnvironmentReadiness × ChallengeResult) := do
  .ask (.enterSession case) .done
  let outcome ← (runOracle case artifact installs).catching fun failure => do
    .ask .leaveSession .done
    .raise failure
  .ask .leaveSession .done
  return outcome

/-- What is recorded of a case that got through. -/
def caseResult (case : OracleCase) (changed : List String) (source : String)
    (ran : Option EnvironmentReadiness × ChallengeResult) (context : PullRequestContext) :
    OracleCaseResult :=
  let audit := contextLeakAudit platform.digest case.excludedPaths
    case.expectedExcludedChangedFiles context source
  { caseId := case.caseId
    accepted := oracleAccepted ran.2 && audit.passed
    changedPythonTestPaths := changed
    oracleFile := case.oracleFile
    oracleSha256 := case.oracleSha256
    environmentReadiness := ran.1
    challenge := ran.2
    antiLeakage := audit }

/-- One case of `verify_oracles`. -/
def verifyOracle (case : OracleCase) : OracleVerification OracleCaseResult := do
  .ask (.prepareRepository case) .done
  let changed ← .ask (.changedPythonTestPaths case) .done
  Program.demand
    (changed = case.excludedPaths.mergeSort (fun first second => decide (first ≤ second)))
    (.hardMode (.configuration ("declared changed-test exclusions are incomplete for " ++
      case.caseId ++ ": observed=" ++ platform.reprPaths changed)))
  let source ← .ask (.readOracle case) .done
  let artifact ← .done (oracleArtifact case source)
  let installs ← .ask (.executionPlan case) .done
  let ran ← runOracleInSession case artifact installs
  let context ← .ask (.retrieveContext case) .done
  return caseResult platform case changed source ran context

/-- The cases in their order. -/
def verifyCases : List OracleCase → OracleVerification (List OracleCaseResult)
  | [] => return []
  | case :: rest => do
      let result ← verifyOracle platform case
      let results ← verifyCases rest
      return result :: results

/-- The end of `verify_oracles`: the gate, or what stands in its way. -/
def recordGate (document : OracleGateDocument) : OracleVerification OracleGateDocument :=
  if document.accepted then do
    .ask (.writeGate document) .done
    return document
  else do
    .ask (.writeRejections document) .done
    .raise (.hardMode (.configuration
      ("at least one case failed oracle or anti-leakage preflight; gate was not written; " ++
        "diagnostics=" ++ platform.rejectionPath)))

/-- `verify_oracles`. -/
def verifyOracles : OracleVerification OracleGateDocument := do
  let there ← .ask .gateExists pure
  Program.demand (there = false)
    (.hardMode (.configuration "oracle gate already exists; refusing to overwrite it"))
  let loaded ← .ask .loadHardModeManifest .done
  let results ← verifyCases platform loaded.1.oracleCases
  let createdAt ← .ask .readClock pure
  recordGate platform ⟨createdAt, loaded.2, results.all OracleCaseResult.accepted, results.length,
    results⟩

end Verification

/-! ## What a gate is earned by -/

/-- What has been asked and answered. -/
abbrev OracleHistory := List (Sigma OracleReply)

/-- The result of a case records an oracle that was run and a context that was retrieved. -/
def CaseSeen (platform : OraclePlatform) (history : OracleHistory) (case : OracleCase)
    (result : OracleCaseResult) : Prop :=
  ∃ changed source artifact ran context,
    result = caseResult platform case changed source ran context ∧
    oracleArtifact case source = .ok artifact ∧
    (⟨.readOracle case, .ok source⟩ : Sigma OracleReply) ∈ history ∧
    (⟨.runOracle case artifact, .ok ran.2⟩ : Sigma OracleReply) ∈ history ∧
    (⟨.retrieveContext case, .ok context⟩ : Sigma OracleReply) ∈ history

theorem CaseSeen.mono {platform : OraclePlatform} {history later : OracleHistory}
    (kept : history ⊆ later) {case : OracleCase} {result : OracleCaseResult}
    (seen : CaseSeen platform history case result) : CaseSeen platform later case result := by
  obtain ⟨changed, source, artifact, ran, context, same, made, readIt, ranIt, retrieved⟩ := seen
  exact ⟨changed, source, artifact, ran, context, same, made, kept readIt, kept ranIt,
    kept retrieved⟩

/-- No gate was there, and every case of the loaded manifest has been seen and accepted. -/
structure GateEarned (platform : OraclePlatform) (history : OracleHistory)
    (document : OracleGateDocument) : Prop where
  noneThere : (⟨.gateExists, false⟩ : Sigma OracleReply) ∈ history
  seen : ∃ manifest,
    (⟨.loadHardModeManifest, .ok (manifest, document.manifestSha256)⟩ : Sigma OracleReply) ∈
      history ∧
    List.Forall₂ (CaseSeen platform history) manifest.oracleCases document.cases
  counted : document.caseCount = document.cases.length
  accepted : document.accepted = true
  casesAccepted : ∀ result ∈ document.cases, result.accepted = true

/-- A verification may ask anything, but write only a gate that has been earned. -/
def gateProtocol (platform : OraclePlatform) : Protocol OracleReply OracleHistory where
  Assumes _ _ := True
  Move history call reply moved := moved = history ++ [⟨call, reply⟩] ∧
    ∀ document, call = .writeGate document → GateEarned platform history document

section Rules

variable {platform : OraclePlatform} {history : OracleHistory} {α β : Type}
  {after : OracleHistory → α → Prop}

/-- From a history on, gates are earned; what is returned is as stated. -/
def Earns (platform : OraclePlatform) (after : OracleHistory → α → Prop)
    (history : OracleHistory) (program : OracleVerification α) : Prop :=
  Program.Follows (gateProtocol platform) after (fun _ _ => True) history program

theorem earns_ask {call : OracleCall} {next : OracleReply call → OracleVerification α}
    (quiet : ∀ document, call ≠ .writeGate document)
    (rest : ∀ reply, Earns platform after (history ++ [⟨call, reply⟩]) (next reply)) :
    Earns platform after history (.ask call next) :=
  fun reply _ => ⟨_, ⟨rfl, fun document same => absurd same (quiet document)⟩, rest reply⟩

/-- A call whose answer may be an exception. -/
theorem earns_told {call : OracleCall} {read : OracleReply call → Except LiveRunFailure β}
    {next : β → OracleVerification α} (quiet : ∀ document, call ≠ .writeGate document)
    (rest : ∀ reply value, read reply = .ok value →
      Earns platform after (history ++ [⟨call, reply⟩]) (next value)) :
    Earns platform after history ((.ask call fun reply => .done (read reply)) >>= next) := by
  refine earns_ask quiet fun reply => ?_
  change Earns platform after _ ((Program.done (read reply)).bind next)
  cases outcome : read reply with
  | error failure => trivial
  | ok value => exact rest reply value outcome

theorem earns_done {outcome : Except LiveRunFailure β} {next : β → OracleVerification α}
    (rest : ∀ value, outcome = .ok value → Earns platform after history (next value)) :
    Earns platform after history (.done outcome >>= next) := by
  cases outcome with
  | error failure => trivial
  | ok value => exact rest value rfl

theorem earns_demand {condition : Prop} [Decidable condition] {failure : LiveRunFailure}
    {next : Unit → OracleVerification α}
    (rest : condition → Earns platform after history (next ())) :
    Earns platform after history (Program.demand condition failure >>= next) := by
  unfold Program.demand
  split
  · exact rest ‹_›
  · trivial

theorem Earns.bind {before : OracleHistory → β → Prop} {program : OracleVerification β}
    {next : β → OracleVerification α} (first : Earns platform before history program)
    (rest : ∀ later value, before later value → Earns platform after later (next value)) :
    Earns platform after history (program >>= next) :=
  Program.Follows.bind first rest

end Rules

/-! ## Every gate is earned -/

section Verified

variable {platform : OraclePlatform} {history : OracleHistory}

theorem earns_runOracle (case : OracleCase) (artifact : TestArtifact) (installs : Bool) :
    Earns platform (fun later ran => history ⊆ later ∧
      (⟨.runOracle case artifact, .ok ran.2⟩ : Sigma OracleReply) ∈ later) history
      (runOracle case artifact installs) := by
  unfold runOracle
  cases installs with
  | false =>
      rw [if_neg Bool.false_ne_true]
      refine earns_told (by simp) fun reply challenge told => ?_
      obtain rfl : reply = .ok challenge := told
      exact ⟨by simp, by simp⟩
  | true =>
      rw [if_pos rfl]
      refine earns_told (by simp) fun _ readiness _ => ?_
      refine earns_demand fun _ => ?_
      refine earns_told (by simp) fun reply challenge told => ?_
      obtain rfl : reply = .ok challenge := told
      exact ⟨by simp, by simp⟩

theorem earns_runOracleInSession (case : OracleCase) (artifact : TestArtifact) (installs : Bool) :
    Earns platform (fun later ran => history ⊆ later ∧
      (⟨.runOracle case artifact, .ok ran.2⟩ : Sigma OracleReply) ∈ later) history
      (runOracleInSession case artifact installs) := by
  unfold runOracleInSession
  refine earns_told (by simp) fun entered _ _ => ?_
  have runs := @earns_runOracle platform (history ++ [⟨.enterSession case, entered⟩]) case artifact
    installs
  refine Earns.bind (Program.Follows.catching runs fun later failure _ =>
    earns_told (by simp) fun _ _ _ => trivial) fun later ran facts => ?_
  refine earns_told (by simp) fun left _ _ => ?_
  exact ⟨fun event member => List.mem_append_left _ (facts.1 (List.mem_append_left _ member)),
    List.mem_append_left _ facts.2⟩

theorem earns_verifyOracle (case : OracleCase) :
    Earns platform (fun later result => history ⊆ later ∧ CaseSeen platform later case result)
      history (verifyOracle platform case) := by
  unfold verifyOracle
  refine earns_told (by simp) fun _ _ _ => ?_
  refine earns_told (by simp) fun _ changed _ => ?_
  refine earns_demand fun _ => ?_
  refine earns_told (by simp) fun reply source told => ?_
  obtain rfl : reply = .ok source := told
  refine earns_done fun artifact made => ?_
  refine earns_told (by simp) fun _ installs _ => ?_
  refine Earns.bind (earns_runOracleInSession case artifact installs) fun later ran facts => ?_
  refine earns_told (by simp) fun reply context told => ?_
  obtain rfl : reply = .ok context := told
  obtain ⟨kept, ranIt⟩ := facts
  refine ⟨fun event member => List.mem_append_left _ (kept (by simp [member])),
    changed, source, artifact, ran, context, rfl, made, ?_, List.mem_append_left _ ranIt, by simp⟩
  exact List.mem_append_left _ (kept (by simp))

theorem earns_verifyCases (cases : List OracleCase) :
    Earns platform (fun later results => history ⊆ later ∧
      List.Forall₂ (CaseSeen platform later) cases results) history
      (verifyCases platform cases) := by
  induction cases generalizing history with
  | nil => exact ⟨List.Subset.refl _, .nil⟩
  | cons case rest ih =>
      refine Earns.bind (earns_verifyOracle case) fun later result seen => ?_
      refine Earns.bind ih fun last results others => ?_
      exact ⟨List.Subset.trans seen.1 others.1, .cons (seen.2.mono others.1) others.2⟩

/-- The end of a verification whose cases have been seen. -/
theorem earns_recordGate {manifest : OracleManifest} {manifestSha256 createdAt : String}
    {results : List OracleCaseResult}
    (noneThere : (⟨.gateExists, false⟩ : Sigma OracleReply) ∈ history)
    (loaded : (⟨.loadHardModeManifest, .ok (manifest, manifestSha256)⟩ : Sigma OracleReply) ∈
      history)
    (seen : List.Forall₂ (CaseSeen platform history) manifest.oracleCases results) :
    Earns platform (GateEarned platform) history
      (recordGate platform ⟨createdAt, manifestSha256, results.all OracleCaseResult.accepted,
        results.length, results⟩) := by
  unfold recordGate
  split
  · rename_i accepted
    have earned : ∀ later, history ⊆ later → GateEarned platform later
        ⟨createdAt, manifestSha256, results.all OracleCaseResult.accepted, results.length,
          results⟩ := fun later kept => {
      noneThere := kept noneThere
      seen := ⟨manifest, kept loaded, seen.imp fun _ _ => CaseSeen.mono kept⟩
      counted := rfl
      accepted := accepted
      casesAccepted := List.all_eq_true.mp accepted }
    intro reply _
    refine ⟨_, ⟨rfl, fun document same => ?_⟩, ?_⟩
    · cases same
      exact earned history (List.Subset.refl _)
    · cases reply with
      | error failure => trivial
      | ok written => exact earned _ (List.subset_append_left _ _)
  · exact earns_told (by simp) fun _ _ _ => trivial

/-- A gate that is written has been earned, and so has the document that is returned. -/
theorem earns_verifyOracles :
    Earns platform (GateEarned platform) [] (verifyOracles platform) := by
  unfold verifyOracles
  refine earns_ask (by simp) fun there => ?_
  refine earns_demand fun absent => ?_
  obtain rfl : there = false := absent
  refine earns_told (by simp) fun reply loaded told => ?_
  obtain rfl : reply = .ok loaded := told
  refine Earns.bind (earns_verifyCases loaded.1.oracleCases) fun later results seen => ?_
  refine earns_ask (by simp) fun createdAt => ?_
  have kept : later ⊆ later ++ [⟨.readClock, createdAt⟩] := List.subset_append_left _ _
  exact earns_recordGate (kept (seen.1 (by simp))) (kept (seen.1 (by simp)))
    (seen.2.imp fun _ _ => CaseSeen.mono kept)

end Verified

/-! ## What a live run may rely on -/

section Live

variable {platform : OraclePlatform} {history : OracleHistory} {document : OracleGateDocument}
  {manifest : OracleManifest}

theorem OracleManifest.caseIds_nodup (manifest : OracleManifest) :
    (manifest.oracleCases.map fun case => case.caseId).Nodup := by
  have covered := manifest.covered
  simp only [covers, Bool.and_eq_true, beq_iff_eq] at covered
  have distinct : (manifest.cases.map HardModeCase.caseId).dedup =
      manifest.cases.map HardModeCase.caseId :=
    (List.dedup_sublist _).eq_of_length (by rw [covered.2, List.length_map])
  have nodup := List.dedup_eq_self.mp distinct
  rwa [← manifest.sameCases, List.map_map] at nodup

theorem map_caseId_of_seen {cases : List OracleCase} {results : List OracleCaseResult}
    (seen : List.Forall₂ (CaseSeen platform history) cases results) :
    results.map OracleCaseResult.caseId = cases.map fun case => case.caseId := by
  induction seen with
  | nil => rfl
  | cons first _ ih =>
      obtain ⟨_, _, _, _, _, rfl, _⟩ := first
      rw [List.map_cons, List.map_cons, ih]
      rfl

theorem exists_result_of_seen {cases : List OracleCase} {results : List OracleCaseResult}
    (seen : List.Forall₂ (CaseSeen platform history) cases results) {case : OracleCase}
    (listed : case ∈ cases) : ∃ result ∈ results, CaseSeen platform history case result := by
  induction seen with
  | nil => cases listed
  | cons first _ ih =>
      rcases List.mem_cons.mp listed with rfl | later
      · exact ⟨_, List.mem_cons_self, first⟩
      · obtain ⟨result, member, facts⟩ := ih later
        exact ⟨result, List.mem_cons_of_mem _ member, facts⟩

/-- What a live run finds in the gate for the case of a result. -/
theorem find_gated (nodup : (document.cases.map OracleCaseResult.caseId).Nodup)
    {result : OracleCaseResult} (recorded : result ∈ document.cases) :
    document.gate.cases.reverse.find? (fun gated => gated.caseId == result.caseId) =
      some ⟨result.caseId, result.accepted, result.antiLeakage.contextSha256.text⟩ := by
  have unique : (document.gate.cases.reverse.map GatedCase.caseId).Nodup := by
    rw [List.map_reverse, List.nodup_reverse, OracleGateDocument.gate, List.map_map]
    exact nodup
  let table : Table GatedCase.caseId := ⟨document.gate.cases.reverse, unique⟩
  have present : (⟨result.caseId, result.accepted, result.antiLeakage.contextSha256.text⟩ :
      GatedCase) ∈ table :=
    List.mem_reverse.mpr (List.mem_map.mpr ⟨result, recorded, rfl⟩)
  have found := Table.lookup_of_mem present
  simpa only [Table.lookup, beq_eq_decide] using found

/-- A live run of the manifest accepts an earned gate. -/
theorem loadGate_of_earned (earned : GateEarned platform history document)
    (seen : List.Forall₂ (CaseSeen platform history) manifest.oracleCases document.cases) :
    ∃ next, loadGate document.manifestSha256 manifest.cases.length = .ask .readGate next ∧
      next (.ok (some document.gate)) = .done (.ok document.gate) := by
  refine ⟨_, rfl, ?_⟩
  have counted : document.gate.caseCount = manifest.cases.length := by
    rw [← manifest.sameCases, List.length_map, seen.length_eq]
    exact earned.counted
  have accepted : document.gate.accepted = true := earned.accepted
  have casesAccepted : document.gate.cases.all GatedCase.accepted = true := by
    rw [List.all_eq_true]
    intro gated member
    obtain ⟨result, recorded, rfl⟩ := List.mem_map.mp member
    exact earned.casesAccepted result recorded
  have sameSha : document.gate.manifestSha256 = document.manifestSha256 := rfl
  simp [Program.bind, counted, accepted, casesAccepted, sameSha]

end Live

end PatchProof
