import PatchProof.Execution.JUnit
import PatchProof.Execution.TestPaths

/-!
# One execution of one artifact

The runner injects the bytes of an artifact into the workspace of a revision, runs their one
node, and means to leave the workspace as it found it.  A workspace is what stands at each of
its locations.  What the operating system and the processes answer are parameters, and the
processes do not touch the workspace.

The file is created before the source is parsed and before the directory for the report is
made, and only what follows these is followed by the removal.  A write that is interrupted, a
source that does not parse, and a directory that cannot be made leave the file behind, and so
does a removal that fails (`workspace_restored_iff`).
-/

set_option autoImplicit false

namespace PatchProof

/-! ## Workspaces -/

/-- What stands at a location of a workspace. -/
inductive WorkspaceEntry where
  | file (content : List UInt8)
  | directory
  deriving DecidableEq

abbrev FileTree := String → Option WorkspaceEntry

namespace FileTree

/-- The files of a tree with their contents. -/
def files (tree : FileTree) (location : String) : Option (List UInt8) :=
  match tree location with
  | some (.file content) => some content
  | _ => none

def set (tree : FileTree) (location : String) (entry : Option WorkspaceEntry) : FileTree :=
  fun other => if other = location then entry else tree other

/-- Make one directory, unless it exists; a file stands in the way. -/
def makeDirectory (tree : FileTree) (location : String) : Option FileTree :=
  match tree location with
  | none => some (tree.set location (some .directory))
  | some .directory => some tree
  | some (.file _) => none

/-- `mkdir(parents=True, exist_ok=True)`: whether it succeeds, and the tree that is left. -/
def makeDirectories (tree : FileTree) : List String → Bool × FileTree
  | [] => (true, tree)
  | location :: rest =>
      match tree.makeDirectory location with
      | some made => made.makeDirectories rest
      | none => (false, tree)

end FileTree

/-- The directories above a location, from the outermost on. -/
def parentsOf (location : String) : List String :=
  ((pathSegments location.toList).dropLast.inits.drop 1).map fun segments =>
    String.ofList (['/'].intercalate segments)

/-! ## Artifacts and results -/

/-- Immutable candidate-test bytes and the single pytest node that they select. -/
structure ByteArtifact where
  relativePath : String
  nodeId : String
  content : List UInt8
  wellFormed : content ≠ [] ∧ isArtifactPath relativePath = true ∧
    isNodeIdOf relativePath nodeId = true

/-- `BoundedProcessResult`. -/
structure BoundedProcessResult where
  returncode : Option Int
  stdout : String
  stderr : String
  timedOut : Bool := false
  startError : Option String := none

/-- What is kept of a failed installation. -/
structure EnvironmentSetupDiagnostic where
  reason : String
  exitCode : Option Int
  stdout : String
  stderr : String

/-- What the parser of the language makes of a source. -/
inductive SyntaxOutcome (ε : Type) where
  | valid
  | invalid (error : String)
  | raises (exception : ε)

/-- How the exclusive creation of a file ends. -/
inductive Creation where
  | refused (error : String)
  | interrupted (written : List UInt8) (error : String)
  | complete

/-- What the outside of one execution answers, with exceptions of some type. -/
structure RunSurroundings (ε : Type) where
  workspace : String
  isDirectory : Bool
  -- The location of a path after its links; none when it lies outside.
  resolve : String → Except ε (Option String)
  installRuntime : Option ε
  installProcess : Command → Except ε BoundedProcessResult
  parentError : Option String
  parentInside : Bool
  creation : Creation
  resultDirectory : Option ε
  environment : Option ε
  process : Except ε BoundedProcessResult
  report : Except ε Report
  unlinkFails : Bool
  elapsed : Duration

/-- `PytestRunner`, with the texts of its two timeouts. -/
structure PytestRunner (isWord : Char → Bool) where
  contract : ExecutionContract isWord
  installDependencies : Bool
  timeoutText : String
  installTimeoutText : String

/-- What outlives an execution: the workspace, and whether it is installed. -/
structure WorkspaceState where
  tree : FileTree
  installed : Bool

namespace PytestRunner

section Run

variable {isWord : Char → Bool} {ε : Type} (runner : PytestRunner isWord)
variable (sanitize : String → String) (digest : List UInt8 → Sha256)
variable (parseSource : List UInt8 → SyntaxOutcome ε) (surroundings : RunSurroundings ε)

/-! ## Installation -/

def permitsTestPath (relativePath : String) : Bool :=
  runner.contract.allowedTestPaths.any fun allowed => startsWith allowed relativePath

/-- Why an install command failed. -/
def installReason (completed : BoundedProcessResult) : String :=
  if completed.timedOut then
    "dependency installation exceeded the " ++ runner.installTimeoutText ++ "-second timeout"
  else match completed.startError with
    | some error => "dependency installation could not start: " ++ error
    | none => "dependency installation failed with exit code " ++
        (completed.returncode.map toString).getD "None"

/-- The install commands, up to the first that fails. -/
def installCommands : List Command → Except ε (Option EnvironmentSetupDiagnostic)
  | [] => .ok none
  | command :: rest =>
      match surroundings.installProcess command with
      | .error exception => .error exception
      | .ok completed =>
          if completed.timedOut || completed.startError.isSome || completed.returncode != some 0 then
            .ok (some
              { reason := runner.installReason completed
                exitCode := completed.returncode
                stdout := sanitize completed.stdout
                stderr := sanitize completed.stderr })
          else installCommands rest

/-- `_install`. -/
def install : Except ε (Option EnvironmentSetupDiagnostic) :=
  match surroundings.installRuntime with
  | some exception => .error exception
  | none => runner.installCommands sanitize surroundings runner.contract.install

/-- The installation of a workspace that is not installed yet. -/
def installOnce (state : WorkspaceState) : Except ε (Option EnvironmentSetupDiagnostic) :=
  if runner.installDependencies && !state.installed then runner.install sanitize surroundings
  else .ok none

/-! ## Injection -/

/-- `_early_result`. -/
def earlyResult (revision : Revision) (artifact : ByteArtifact) (status : TestExecutionStatus)
    (detail : String) : ExecutionResult where
  revision := revision
  testNodeId := artifact.nodeId
  expectedArtifactSha256 := digest artifact.content
  artifactSha256Before := none
  artifactSha256After := none
  status := status
  collectedCount := 0
  exitCode := none
  durationSeconds := surroundings.elapsed
  detail := some detail

/-- `_hash_file`. -/
def hashFile (tree : FileTree) (location : String) : Option Sha256 :=
  (tree.files location).map digest

/-- Write the artifact to a location: the error, if any, and the tree that is left. -/
def inject (content : List UInt8) (location : String) (tree : FileTree) :
    Option String × FileTree :=
  match surroundings.parentError, tree.makeDirectories (parentsOf location) with
  | some error, _ => (some error, tree)
  | none, (false, made) => (some "a parent of the artifact is a file", made)
  | none, (true, made) =>
      if !surroundings.parentInside then
        (some "artifact parent resolves outside the revision workspace", made)
      else match surroundings.creation with
        | .refused error => (some error, made)
        | .interrupted written error => (some error, made.set location (some (.file written)))
        | .complete => (none, made.set location (some (.file content)))

/-! ## Execution -/

/-- A result over the injected file. -/
def injectedResult (revision : Revision) (artifact : ByteArtifact) (tree : FileTree)
    (location : String) (status : TestExecutionStatus) (detail : Option String) : ExecutionResult where
  revision := revision
  testNodeId := artifact.nodeId
  expectedArtifactSha256 := digest artifact.content
  artifactSha256Before := hashFile digest tree location
  artifactSha256After := hashFile digest tree location
  status := status
  collectedCount := 0
  exitCode := none
  durationSeconds := surroundings.elapsed
  detail := detail

/-- The run of the selected node. -/
def executeNode (revision : Revision) (artifact : ByteArtifact) (tree : FileTree)
    (location : String) : Except ε ExecutionResult :=
  let result := injectedResult digest surroundings revision artifact tree location
  match surroundings.environment with
  | some exception => .error exception
  | none => match surroundings.process with
    | .error exception => .error exception
    | .ok completed =>
        if completed.timedOut then
          .ok { result .timedOut
                  (some ("pytest exceeded the " ++ runner.timeoutText ++ "-second timeout")) with
            stdout := completed.stdout
            stderr := completed.stderr }
        else match completed.startError with
          | some error => .ok (result .processError (some error))
          | none => match surroundings.report with
            | .error exception => .error exception
            | .ok report =>
                let parsed := parseReport isWord report (completed.returncode.getD 0)
                  completed.stdout completed.stderr
                .ok { result parsed.status parsed.detail with
                  collectedCount := parsed.collectedCount
                  exitCode := completed.returncode
                  stdout := completed.stdout
                  stderr := completed.stderr }

/-- The removal at the end of an execution, whose error is suppressed. -/
def removeArtifact (tree : FileTree) (location : String) : FileTree :=
  if surroundings.unlinkFails then tree else tree.set location none

/-- What follows the injection. -/
def runInjected (revision : Revision) (artifact : ByteArtifact) (tree : FileTree)
    (location : String) : Except ε ExecutionResult × FileTree :=
  match parseSource artifact.content with
  | .raises exception => (.error exception, tree)
  | .invalid error =>
      (.ok (injectedResult digest surroundings revision artifact tree location .invalidArtifact
        (some ("candidate test is not valid UTF-8 Python source: " ++ error))), tree)
  | .valid => match surroundings.resultDirectory with
    | some exception => (.error exception, tree)
    | none => (runner.executeNode digest surroundings revision artifact tree location,
        removeArtifact surroundings tree location)

/-- `run`. -/
def run (revision : Revision) (artifact : ByteArtifact) (state : WorkspaceState) :
    Except ε ExecutionResult × WorkspaceState :=
  let early := earlyResult digest surroundings revision artifact
  if !surroundings.isDirectory then
    (.ok (early .processError ("revision workspace does not exist: " ++ surroundings.workspace)), state)
  else if !runner.permitsTestPath artifact.relativePath then
    (.ok (early .invalidArtifact
      "candidate test path is outside the execution contract allowlist"), state)
  else match surroundings.resolve artifact.relativePath with
    | .error exception => (.error exception, state)
    | .ok none =>
        (.ok (early .invalidArtifact "artifact path resolves outside the revision workspace"), state)
    | .ok (some location) =>
        if (state.tree location).isSome then
          (.ok (early .invalidArtifact
            ("refusing to overwrite repository path: " ++ artifact.relativePath)), state)
        else match runner.installOnce sanitize surroundings state with
          | .error exception => (.error exception, state)
          | .ok (some failure) =>
              (.ok { early .environmentSetupFailed failure.reason with
                exitCode := failure.exitCode
                stdout := failure.stdout
                stderr := failure.stderr }, state)
          | .ok none =>
              let installed := state.installed || runner.installDependencies
              match inject surroundings artifact.content location state.tree with
              | (some error, tree) =>
                  (.ok (early .invalidArtifact
                    ("test artifact could not be injected safely: " ++ error)), ⟨tree, installed⟩)
              | (none, tree) =>
                  let ended := runner.runInjected digest parseSource surroundings revision artifact
                    tree location
                  (ended.1, ⟨ended.2, installed⟩)

end Run

end PytestRunner

/-! ## Files of a tree -/

namespace FileTree

variable {tree made : FileTree} {location : String}

@[simp]
theorem set_self (entry : Option WorkspaceEntry) : tree.set location entry location = entry := if_pos rfl

@[simp]
theorem set_of_ne {other : String} (entry : Option WorkspaceEntry) (different : other ≠ location) :
    tree.set location entry other = tree other := if_neg different

/-- What stands at one location decides nothing about the files at others. -/
theorem files_set_of_ne {other : String} (entry : Option WorkspaceEntry) (different : other ≠ location) :
    (tree.set location entry).files other = tree.files other := by
  simp [files, different]

/-- Where no file stands, only a file makes a difference. -/
theorem files_set_of_none {entry : Option WorkspaceEntry} (noFile : tree.files location = none)
    (stays : ∀ content, entry ≠ some (.file content)) :
    (tree.set location entry).files = tree.files := by
  funext other
  by_cases same : other = location
  · rw [same, noFile]
    cases entry with
    | none => simp [files]
    | some entry =>
        cases entry with
        | directory => simp [files]
        | file content => exact absurd rfl (stays content)
  · exact files_set_of_ne entry same

theorem files_makeDirectory (made_eq : tree.makeDirectory location = some made) :
    made.files = tree.files := by
  unfold makeDirectory at made_eq
  split at made_eq
  · rename_i free
    cases made_eq
    exact files_set_of_none (by simp [files, free]) (by simp)
  · cases made_eq
    rfl
  · cases made_eq

/-- Making directories changes no file. -/
theorem files_makeDirectories (tree : FileTree) (locations : List String) :
    (tree.makeDirectories locations).2.files = tree.files := by
  induction locations generalizing tree with
  | nil => rfl
  | cons location rest ih =>
      rw [makeDirectories]
      split
      · rename_i made made_eq
        exact (ih made).trans (files_makeDirectory made_eq)
      · rfl

/-- A written file is there. -/
theorem files_written (content : List UInt8) :
    (tree.set location (some (.file content))).files location = some content := by
  simp [files]

/-- Removing what was written leaves the files as they were. -/
theorem files_removed (noFile : tree.files location = none) (content : List UInt8) :
    ((tree.set location (some (.file content))).set location none).files = tree.files := by
  funext other
  by_cases same : other = location
  · rw [same, noFile]
    simp [files]
  · rw [files_set_of_ne none same, files_set_of_ne _ same]

end FileTree

/-! ## The result -/

namespace PytestRunner

section Restored

variable {isWord : Char → Bool} {ε : Type} (runner : PytestRunner isWord)
variable (sanitize : String → String) (digest : List UInt8 → Sha256)
variable (parseSource : List UInt8 → SyntaxOutcome ε) (surroundings : RunSurroundings ε)
variable (artifact : ByteArtifact) (state : WorkspaceState)

/-- The execution gets as far as creating the file of the artifact at a location. -/
structure CreatesArtifact (location : String) : Prop where
  isDirectory : surroundings.isDirectory = true
  permitted : runner.permitsTestPath artifact.relativePath = true
  resolved : surroundings.resolve artifact.relativePath = .ok (some location)
  free : state.tree location = none
  installed : runner.installOnce sanitize surroundings state = .ok none
  noError : surroundings.parentError = none
  parents : (state.tree.makeDirectories (parentsOf location)).1 = true
  inside : surroundings.parentInside = true
  opened : ∀ error, surroundings.creation ≠ .refused error

/-- The file is written and parsed, the report has a directory, and the removal works. -/
structure RemovesArtifact : Prop where
  complete : surroundings.creation = .complete
  parses : parseSource artifact.content = .valid
  directory : surroundings.resultDirectory = none
  removable : surroundings.unlinkFails = false

variable {runner sanitize digest parseSource surroundings artifact state}

/-- An injection that opens no file changes none. -/
theorem inject_unopened (content : List UInt8) (location : String) (tree : FileTree)
    (unopened : ¬ (surroundings.parentError = none ∧
      (tree.makeDirectories (parentsOf location)).1 = true ∧ surroundings.parentInside = true ∧
      ∀ error, surroundings.creation ≠ .refused error)) :
    ∃ error left, inject surroundings content location tree = (some error, left) ∧
      left.files = tree.files := by
  have made := FileTree.files_makeDirectories tree (parentsOf location)
  unfold inject
  split
  · exact ⟨_, _, rfl, rfl⟩
  · rename_i left _ making
    rw [making] at made
    exact ⟨_, _, rfl, made⟩
  · rename_i left noError making
    rw [making] at made unopened
    split
    · exact ⟨_, _, rfl, made⟩
    · rename_i inside
      split
      · exact ⟨_, _, rfl, made⟩
      · rename_i creation
        exact absurd ⟨noError, rfl, by simpa using inside, by simp [creation]⟩ unopened
      · rename_i creation
        exact absurd ⟨noError, rfl, by simpa using inside, by simp [creation]⟩ unopened

/-- **What an execution leaves that creates its file.** -/
theorem run_of_creates {revision : Revision} {location : String}
    (creates : CreatesArtifact runner sanitize surroundings artifact state location) :
    (run runner sanitize digest parseSource surroundings revision artifact state).2.tree =
      match surroundings.creation with
      | .refused _ => state.tree
      | .interrupted written _ => ((state.tree.makeDirectories (parentsOf location)).2.set location
          (some (.file written)))
      | .complete => (runInjected runner digest parseSource surroundings revision artifact
          ((state.tree.makeDirectories (parentsOf location)).2.set location
            (some (.file artifact.content))) location).2 := by
  obtain ⟨isDirectory, permitted, resolved, free, installed, noError, parents, inside, opened⟩ :=
    creates
  have making : state.tree.makeDirectories (parentsOf location) =
      (true, (state.tree.makeDirectories (parentsOf location)).2) := Prod.ext parents rfl
  simp only [run, isDirectory, permitted, resolved, free, installed, Bool.not_true,
    Bool.false_eq_true, if_false, Option.isSome_none, inject, noError]
  rw [making]
  simp only [inside, Bool.not_true, Bool.false_eq_true, if_false]
  cases creation : surroundings.creation with
  | refused error => exact absurd creation (opened error)
  | interrupted written error => rfl
  | complete => rfl

/-- An execution that creates no file changes none. -/
theorem run_of_not_creates {revision : Revision}
    (never : ∀ location, ¬ CreatesArtifact runner sanitize surroundings artifact state location) :
    (run runner sanitize digest parseSource surroundings revision artifact state).2.tree.files =
      state.tree.files := by
  unfold run
  cases isDirectory : surroundings.isDirectory with
  | false => rfl
  | true =>
    cases permitted : runner.permitsTestPath artifact.relativePath with
    | false => rfl
    | true =>
      cases resolved : surroundings.resolve artifact.relativePath with
      | error exception => rfl
      | ok target =>
        cases target with
        | none => rfl
        | some location =>
          cases free : state.tree location with
          | some entry => simp [free]
          | none =>
            cases installed : runner.installOnce sanitize surroundings state with
            | error exception => simp [free]
            | ok failure =>
              cases failure with
              | some failure => simp [free]
              | none =>
                obtain ⟨error, left, injected, files⟩ := inject_unopened artifact.content
                  location state.tree fun opens => never location
                    ⟨isDirectory, permitted, resolved, free, installed, opens.1, opens.2.1,
                      opens.2.2.1, opens.2.2.2⟩
                simp only [free, injected]
                simpa using files

/-- The file is removed when everything works. -/
theorem runInjected_removed {revision : Revision} {tree : FileTree} {location : String}
    (removes : RemovesArtifact parseSource surroundings artifact) :
    (runInjected runner digest parseSource surroundings revision artifact tree location).2 =
      tree.set location none := by
  simp [runInjected, removes.parses, removes.directory, removeArtifact, removes.removable]

/-- The file is left behind when something after its creation does not work. -/
theorem runInjected_left {revision : Revision} {tree : FileTree} {location : String}
    (complete : surroundings.creation = .complete)
    (fails : ¬ RemovesArtifact parseSource surroundings artifact) :
    (runInjected runner digest parseSource surroundings revision artifact tree location).2 = tree := by
  unfold runInjected
  cases parses : parseSource artifact.content with
  | raises exception => rfl
  | invalid error => rfl
  | valid =>
      cases directory : surroundings.resultDirectory with
      | some exception => rfl
      | none =>
          have stuck : surroundings.unlinkFails = true := by
            by_contra removable
            exact fails ⟨complete, parses, directory, by simpa using removable⟩
          simp [removeArtifact, stuck]

/-- An execution that creates its file and cannot remove it leaves what was written. -/
theorem run_left {revision : Revision} {location : String}
    (creates : CreatesArtifact runner sanitize surroundings artifact state location)
    (fails : ¬ RemovesArtifact parseSource surroundings artifact) :
    ∃ written, (run runner sanitize digest parseSource surroundings revision artifact state).2.tree =
      (state.tree.makeDirectories (parentsOf location)).2.set location (some (.file written)) := by
  rw [run_of_creates creates]
  cases creation : surroundings.creation with
  | refused error => exact absurd creation (creates.opened error)
  | interrupted written error => exact ⟨written, rfl⟩
  | complete => exact ⟨artifact.content, runInjected_left creation fails⟩

/-- An execution that creates its file and removes it. -/
theorem run_removed {revision : Revision} {location : String}
    (creates : CreatesArtifact runner sanitize surroundings artifact state location)
    (removes : RemovesArtifact parseSource surroundings artifact) :
    (run runner sanitize digest parseSource surroundings revision artifact state).2.tree =
      ((state.tree.makeDirectories (parentsOf location)).2.set location
        (some (.file artifact.content))).set location none := by
  rw [run_of_creates creates]
  simp only [removes.complete]
  exact runInjected_removed removes

variable (runner sanitize digest parseSource surroundings artifact state) in
/-- **When a workspace is left as it was found.**  An execution never changes a file that was
there.  It leaves exactly the files it found if and only if it does not get as far as
creating its own, or writes it completely, can parse it, can make the directory for the
report, and can remove the file. -/
theorem workspace_restored_iff (revision : Revision) :
    let after := (run runner sanitize digest parseSource surroundings revision artifact state).2.tree
    (∀ location content, state.tree.files location = some content →
        after.files location = some content) ∧
      (after.files = state.tree.files ↔
        ∀ location, CreatesArtifact runner sanitize surroundings artifact state location →
          RemovesArtifact parseSource surroundings artifact) := by
  intro after
  by_cases never : ∀ location, ¬ CreatesArtifact runner sanitize surroundings artifact state location
  · have files : after.files = state.tree.files := run_of_not_creates never
    refine ⟨fun location content found => files ▸ found, fun _ location creates => ?_, fun _ => files⟩
    exact absurd creates (never location)
  · obtain ⟨location, creates⟩ := not_forall_not.mp never
    have made := FileTree.files_makeDirectories state.tree (parentsOf location)
    have free : state.tree.files location = none := by
      rw [FileTree.files, creates.free]
    have noFile : (state.tree.makeDirectories (parentsOf location)).2.files location = none := by
      rw [made, free]
    by_cases removes : RemovesArtifact parseSource surroundings artifact
    · have files : after.files = state.tree.files := by
        have removed : after = _ := run_removed creates removes
        rw [removed, FileTree.files_removed noFile, made]
      exact ⟨fun _ _ found => files ▸ found, fun _ _ _ => removes, fun _ => files⟩
    · have outcome : ∃ written, after =
          (state.tree.makeDirectories (parentsOf location)).2.set location (some (.file written)) :=
        run_left creates removes
      obtain ⟨written, left⟩ := outcome
      have there : after.files location = some written := by
        rw [left, FileTree.files_written]
      refine ⟨fun other content found => ?_, fun same => ?_, fun all => ?_⟩
      · have different : other ≠ location := by
          rintro rfl
          rw [free] at found
          cases found
        rw [left, FileTree.files_set_of_ne _ different, made, found]
      · rw [same, free] at there
        cases there
      · exact absurd (all location creates) removes

end Restored

end PytestRunner

/-! ## A sample execution -/

/-- A source with a byte that no text has in this encoding. -/
def undecodableArtifact : ByteArtifact where
  relativePath := "patchproof_generated_tests/test_one.py"
  nodeId := "patchproof_generated_tests/test_one.py::test_one"
  content := [0xff]
  wellFormed := by decide +kernel

/-- A parser that refuses bytes which occur in no text. -/
def refusesUndecodable (content : List UInt8) : SyntaxOutcome String :=
  if content.any fun byte => 0xf8 ≤ byte then .invalid "invalid start byte" else .valid

/-- Surroundings in which everything works. -/
def workingSurroundings : RunSurroundings String where
  workspace := "/tmp/base"
  isDirectory := true
  resolve := fun path => .ok (some path)
  installRuntime := none
  installProcess := fun _ => .ok ⟨some 0, "", "", false, none⟩
  parentError := none
  parentInside := true
  creation := .complete
  resultDirectory := none
  environment := none
  process := .ok ⟨some 0, "1 passed", "", false, none⟩
  report := .ok .absent
  unlinkFails := false
  elapsed := ⟨7 / 2, by decide +kernel⟩

def generatedTestsRunner : PytestRunner Char.isAlphanum :=
  ⟨generatedTestsContract, false, "60", "900"⟩

def executedRevision : Revision := ⟨.base, ⟨String.ofList (List.replicate 40 'e'), by decide +kernel⟩⟩

def executedDigest : Sha256 := ⟨String.ofList (List.replicate 64 'e'), by decide +kernel⟩

/-- A source that cannot be decoded stays in the workspace, although everything works. -/
theorem undecodable_artifact_left :
    (generatedTestsRunner.run id (fun _ => executedDigest) refusesUndecodable workingSurroundings
        executedRevision undecodableArtifact ⟨fun _ => none, false⟩).2.tree.files
      "patchproof_generated_tests/test_one.py" = some [0xff] := by
  decide +kernel

end PatchProof
