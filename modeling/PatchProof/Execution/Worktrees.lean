import Mathlib.Data.Set.Insert
import PatchProof.Execution.Remote
import PatchProof.Library.World

/-!
# The worktrees of a run

A challenge is executed in two detached worktrees of the repository, one at each revision,
below a fresh directory.  Git registers a worktree with the repository, so that it is not
enough to delete its directory afterwards.  A Git command may fail with a part of its work
done, or not complete at all.

Whatever happens, the worktrees are used only when both are registered and stand at the
resolved revisions, and nothing outside the fresh directory is touched, except that Git
forgets worktrees whose directory is gone.  If `create_pair` returns, then nothing of the run
is left, neither on disk nor, unless Git refuses to prune, in the repository.  If it raises,
then what the user of the worktrees raised is raised, and a directory that could not be
removed is reported, unless a Git command of the clean-up did not complete: then the rest of
it is given up (`create_pair_contained`).
-/

set_option autoImplicit false

namespace PatchProof

/-! ## Commands and failures -/

/-- The segments of an absolute path. -/
abbrev WorktreePath := List String

/-- `str(path)`. -/
def WorktreePath.text (path : WorktreePath) : String := "/" ++ "/".intercalate path

inductive WorktreeCommand where
  | revParseVerify (ref : String)
  | worktreeAdd (path : WorktreePath) (sha : String)
  | revParseHead (path : WorktreePath)
  | worktreeRemove (path : WorktreePath)
  | worktreePrune

def WorktreeCommand.arguments : WorktreeCommand → List String
  | .revParseVerify ref => ["rev-parse", "--verify", ref ++ "^\x7bcommit\x7d"]
  | .worktreeAdd path sha => ["worktree", "add", "--detach", path.text, sha]
  | .revParseHead path => ["-C", path.text, "rev-parse", "HEAD"]
  | .worktreeRemove path => ["worktree", "remove", "--force", path.text]
  | .worktreePrune => ["worktree", "prune"]

/-- The command belongs to the clean-up. -/
def WorktreeCommand.cleansUp : WorktreeCommand → Bool
  | .worktreeRemove _ | .worktreePrune => true
  | _ => false

structure CompletedCommand where
  returncode : Int
  stdout : String
  stderr : String

inductive WorkspaceFailure where
  | value (message : String)
  | gitWorkspace (message : String)
  | other (description : String)
  deriving DecidableEq

/-- An exception with the notes that were added to it. -/
structure NotedFailure where
  failure : WorkspaceFailure
  notes : List String

/-- Detached worktrees paired with their resolved immutable revisions. -/
structure RevisionWorkspaces where
  baseRevision : Revision
  headRevision : Revision
  basePath : WorktreePath
  headPath : WorktreePath

/-- What the manager asks; to use the worktrees is to run the body of the `with` statement. -/
inductive WorktreeCall where
  | git (command : WorktreeCommand)
  | makeRunRoot
  | pathExists (path : WorktreePath)
  | removeDirectory (path : WorktreePath)
  | sleep
  | use (workspaces : RevisionWorkspaces)

/-- A command that does not complete, or not in time, has no result. -/
@[reducible]
def WorktreeReply : WorktreeCall → Type
  | .git _ => Option CompletedCommand
  | .makeRunRoot => Except String WorktreePath
  | .pathExists _ => Bool
  | .removeDirectory _ => Unit
  | .sleep => Unit
  | .use _ => Except NotedFailure Unit

abbrev Worktrees (α : Type) : Type := Program WorktreeReply NotedFailure α

/-- The exception of a failure, without notes. -/
def WorkspaceFailure.raised (failure : WorkspaceFailure) : NotedFailure := ⟨failure, []⟩

/-! ## The manager -/

structure GitWorkspaceManager where
  sourceRepository : String
  reprCommand : List String → String

namespace GitWorkspaceManager

variable (manager : GitWorkspaceManager)

def runGit (command : WorktreeCommand) (check : Bool) : Worktrees CompletedCommand :=
  .ask (.git command) fun
    | none => .raise (WorkspaceFailure.gitWorkspace ("Git command could not complete: " ++
        manager.reprCommand ("git" :: "-C" :: manager.sourceRepository :: command.arguments))).raised
    | some completed =>
        if check && completed.returncode != 0 then
          .raise (WorkspaceFailure.gitWorkspace ("Git command failed with exit code " ++
            toString completed.returncode ++ ": " ++
            orElseText (strip completed.stderr) (strip completed.stdout))).raised
        else .done (.ok completed)

def resolveRevision (ref : String) (role : RevisionRole) : Worktrees Revision :=
  if ref = "" ∨ ref.toList.any (fun c => c == '\x00' || c == '\n' || c == '\r') = true then
    .raise (WorkspaceFailure.value
      "Git revision reference is empty or contains a control character").raised
  else do
    let completed ← runGit manager (.revParseVerify ref) true
    match Revision.check role (strip completed.stdout) with
    | .ok revision => return revision
    | .error _ => .raise (WorkspaceFailure.value
        "revision SHA must be a full 40- or 64-character hexadecimal hash").raised

@[irreducible]
def demandRevision (revision : Revision) (actualSha : String) : Worktrees Unit :=
  Program.demand (lower actualSha = revision.sha.text)
    (WorkspaceFailure.gitWorkspace ("worktree revision mismatch: expected " ++
      revision.sha.text ++ ", got " ++ actualSha)).raised

/-- A worktree stands at its revision. -/
def verifyHead (revision : Revision) (path : WorktreePath) : Worktrees Unit := do
  let completed ← runGit manager (.revParseHead path) true
  demandRevision revision (strip completed.stdout)

/-- The worktrees are added in turn until one fails.  A worktree is registered once it has been
added, although it may turn out not to stand at its revision. -/
def addWorktrees (registered : List WorktreePath) :
    List (Revision × WorktreePath) → Worktrees (List WorktreePath × Except NotedFailure Unit)
  | [] => return (registered, .ok ())
  | (revision, path) :: rest => do
      match ← (runGit manager (.worktreeAdd path revision.sha.text) true).settled with
      | .error exception => return (registered, .error exception)
      | .ok _ =>
        match ← (verifyHead manager revision path).settled with
        | .error exception => return (registered ++ [path], .error exception)
        | .ok () => addWorktrees (registered ++ [path]) rest

/-- So many attempts at a disposal. -/
def removeTreeWithin (path : WorktreePath) : Nat → Worktrees Unit
  | 0 => return ()
  | attempts + 1 => do
      .ask (.removeDirectory path) pure
      let there ← .ask (.pathExists path) pure
      if there = true then
        if 0 < attempts then .ask .sleep pure
        removeTreeWithin path attempts
      else return ()

def removeTree (path : WorktreePath) : Worktrees Unit := removeTreeWithin path 20

def removeIfThere (path : WorktreePath) : Worktrees Unit := do
  let there ← .ask (.pathExists path) pure
  if there = true then removeTree path else return ()

/-- One worktree is removed, by Git or else by hand; what is returned is the failure. -/
def removeWorktree (path : WorktreePath) : Worktrees (List String) := do
  let completed ← runGit manager (.worktreeRemove path) false
  if completed.returncode ≠ 0 then
    let there ← .ask (.pathExists path) pure
    if there = true then
      removeTree path
      return [orElseText (strip completed.stderr) path.text]
    else return []
  else return []

def removeWorktrees : List WorktreePath → Worktrees (List String)
  | [] => return []
  | path :: rest => do
      let failures ← removeWorktree manager path
      let later ← removeWorktrees rest
      return failures ++ later

/-- What is said of a clean-up that failed. -/
def cleanupMessage (details : String) : String :=
  "failed to clean temporary worktrees: " ++ details

/-- The `finally` block of `create_pair`, with its message if it has one. -/
def cleanUp (registered : List WorktreePath) (runRoot : WorktreePath) :
    Worktrees (Option String) := do
  let failures ← removeWorktrees manager registered.reverse
  let _ ← runGit manager .worktreePrune false
  removeIfThere runRoot
  if failures ≠ [] then
    return some (cleanupMessage (orElseText ("; ".intercalate failures) runRoot.text))
  else
    let left ← .ask (.pathExists runRoot) pure
    return if left = true then some (cleanupMessage runRoot.text) else none

/-- How the `with` statement ends after the clean-up. -/
def concluded : Except NotedFailure Unit → Option String → Worktrees Unit
  | .ok (), none => return ()
  | .ok (), some message => .raise (WorkspaceFailure.gitWorkspace message).raised
  | .error exception, none => .raise exception
  | .error exception, some message =>
      .raise { exception with notes := exception.notes ++ [message] }

/-- The worktrees of a run root are used if they could be added. -/
def usePair (runRoot : WorktreePath) (base head : Revision) :
    Worktrees (List WorktreePath × Except NotedFailure Unit) := do
  let basePath := runRoot ++ ["base"]
  let headPath := runRoot ++ ["head"]
  let (registered, added) ← addWorktrees manager [] [(base, basePath), (head, headPath)]
  match added with
  | .error exception => return (registered, .error exception)
  | .ok () =>
      let ended ← .ask (.use ⟨base, head, basePath, headPath⟩) pure
      return (registered, ended)

/-- `create_pair`, around the body of the `with` statement. -/
def createPair (baseRef headRef : String) : Worktrees Unit := do
  let base ← resolveRevision manager baseRef .base
  let head ← resolveRevision manager headRef .head
  let runRoot ← .ask .makeRunRoot fun
    | .ok path => .done (.ok path)
    | .error description => .raise (WorkspaceFailure.other description).raised
  let (registered, outcome) ← usePair manager runRoot base head
  let message ← cleanUp manager registered runRoot
  concluded outcome message

end GitWorkspaceManager

/-! ## The host -/

/-- The directories there are, the worktrees that are registered, which of them are locked, and
where they stand; and what a challenge has met with so far.  A directory is in its parent. -/
structure GitHost where
  directories : Set WorktreePath
  worktrees : Set WorktreePath
  locked : Set WorktreePath
  commitAt : WorktreePath → String
  brokenOff : Bool
  pruneRefused : Bool
  ended : Option (Except NotedFailure Unit)
  inParent : ∀ path above, path ∈ directories → above <+: path → above ∈ directories

namespace GitHost

/-- A host at the beginning of a challenge. -/
def started (host : GitHost) : GitHost :=
  { host with brokenOff := false, pruneRefused := false, ended := none }

/-- Nothing differs but what a challenge has met with. -/
structure Alike (host after : GitHost) : Prop where
  directories : after.directories = host.directories
  worktrees : after.worktrees = host.worktrees
  locked : after.locked = host.locked
  commitAt : after.commitAt = host.commitAt

/-- Nothing has come up, and what there was outside the path is there. -/
structure ShrunkAt (path : WorktreePath) (host after : GitHost) : Prop where
  directories : after.directories ⊆ host.directories
  elsewhere : ∀ other ∈ host.directories, ¬ path <+: other → other ∈ after.directories
  worktrees : after.worktrees ⊆ host.worktrees
  others : ∀ other ∈ host.worktrees, other ≠ path → other ∈ after.worktrees
  locked : after.locked ⊆ host.locked
  commitAt : after.commitAt = host.commitAt

/-- A worktree may have come up at the path. -/
structure GrownAt (path : WorktreePath) (host after : GitHost) : Prop where
  directories : ∀ other, ¬ path <+: other → (other ∈ after.directories ↔ other ∈ host.directories)
  worktrees : ∀ other, other ≠ path → (other ∈ after.worktrees ↔ other ∈ host.worktrees)
  locked : ∀ other, other ≠ path → (other ∈ after.locked ↔ other ∈ host.locked)
  commitAt : ∀ other, other ≠ path → after.commitAt other = host.commitAt other

/-- Worktrees without a directory may have been forgotten. -/
structure Pruned (host after : GitHost) : Prop where
  directories : after.directories = host.directories
  worktrees : after.worktrees ⊆ host.worktrees
  existing : ∀ path ∈ host.worktrees, path ∈ host.directories → path ∈ after.worktrees
  locked : after.locked ⊆ host.locked
  commitAt : after.commitAt = host.commitAt

/-- What a command may have done, whether or not it succeeds. -/
def MayDo (host after : GitHost) : WorktreeCommand → Prop
  | .revParseVerify _ => Alike host after
  | .worktreeAdd path _ => GrownAt path host after
  | .revParseHead _ => Alike host after
  | .worktreeRemove path => ShrunkAt path host after
  | .worktreePrune => Pruned host after

/-- What a command that succeeds has done or said.  A worktree is locked while it is being
added, and a locked one is not pruned. -/
def Does (host after : GitHost) (completed : CompletedCommand) : WorktreeCommand → Prop
  | .revParseVerify _ => True
  | .worktreeAdd path _ => path ∈ after.directories ∧ path ∈ after.worktrees ∧
      path ∉ after.locked
  | .revParseHead path => strip completed.stdout = host.commitAt path
  | .worktreeRemove path => path ∉ after.worktrees
  | .worktreePrune => ∀ path ∈ after.worktrees, path ∈ host.directories ∨ path ∈ host.locked

/-- A worktree is registered and stands at its revision. -/
structure Stands (host : GitHost) (revision : Revision) (path : WorktreePath) : Prop where
  directory : path ∈ host.directories
  registered : path ∈ host.worktrees
  commit : lower (host.commitAt path) = revision.sha.text

/-- The worktrees are two, and each stands at its revision. -/
structure Verified (host : GitHost) (workspaces : RevisionWorkspaces) : Prop where
  base : Stands host workspaces.baseRevision workspaces.basePath
  head : Stands host workspaces.headRevision workspaces.headPath
  apart : workspaces.basePath ≠ workspaces.headPath

/-- The root has neither been a directory nor held a worktree. -/
def Fresh (host : GitHost) (root : WorktreePath) : Prop :=
  ∀ path, root <+: path → path ∉ host.directories ∧ path ∉ host.worktrees

/-- What the user of the worktrees leaves as it was. -/
structure UsedAt (workspaces : RevisionWorkspaces) (host after : GitHost) : Prop where
  directories : ∀ path, ¬ workspaces.basePath <+: path → ¬ workspaces.headPath <+: path →
    (path ∈ after.directories ↔ path ∈ host.directories)
  worktrees : after.worktrees = host.worktrees
  locked : after.locked = host.locked

/-- The replies and the next states that are possible. -/
def Responds (host : GitHost) : (call : WorktreeCall) → WorktreeReply call → GitHost → Prop
  | .git command, none, after =>
      MayDo host after command ∧ after.ended = host.ended ∧
        after.brokenOff = (host.brokenOff || command.cleansUp)
  | .git command, some completed, after =>
      MayDo host after command ∧ after.ended = host.ended ∧
        after.brokenOff = host.brokenOff ∧
        (completed.returncode = 0 → Does host after completed command) ∧
        after.pruneRefused = (host.pruneRefused ||
          (command matches .worktreePrune && completed.returncode != 0))
  | .makeRunRoot, .error _, after => after = host
  | .makeRunRoot, .ok root, after => Fresh host root ∧
      after.directories = insert root host.directories ∧ after.worktrees = host.worktrees ∧
      after.locked = host.locked ∧
      after.ended = host.ended ∧ after.brokenOff = host.brokenOff ∧
      after.pruneRefused = host.pruneRefused
  | .pathExists path, there, after => after = host ∧ (there = true ↔ path ∈ host.directories)
  | .removeDirectory path, _, after => ShrunkAt path host after ∧
      after.worktrees = host.worktrees ∧ after.ended = host.ended ∧
      after.brokenOff = host.brokenOff ∧ after.pruneRefused = host.pruneRefused
  | .sleep, _, after => after = host
  | .use workspaces, ended, after => UsedAt workspaces host after ∧ after.ended = some ended ∧
      after.brokenOff = host.brokenOff ∧ after.pruneRefused = host.pruneRefused

end GitHost

/-- Worktrees are used only when they have been verified. -/
def gitWorld : World WorktreeReply GitHost where
  Permits host call := ∀ workspaces, call = .use workspaces → host.Verified workspaces
  Responds := GitHost.Responds

namespace GitHost

variable {host after later : GitHost} {root path : WorktreePath} {command : WorktreeCommand}

/-! ## What is spared -/

/-- Outside the root everything is as it was, but for worktrees without a directory. -/
structure Spares (root : WorktreePath) (host after : GitHost) : Prop where
  directories : ∀ path, ¬ root <+: path → (path ∈ after.directories ↔ path ∈ host.directories)
  worktrees : ∀ path, ¬ root <+: path → path ∈ after.worktrees → path ∈ host.worktrees
  existing : ∀ path, ¬ root <+: path → path ∈ host.directories → path ∈ host.worktrees →
    path ∈ after.worktrees

theorem Spares.refl (root : WorktreePath) (host : GitHost) : Spares root host host :=
  ⟨fun _ _ => Iff.rfl, fun _ _ there => there, fun _ _ _ there => there⟩

theorem Spares.trans (first : Spares root host after) (second : Spares root after later) :
    Spares root host later where
  directories path outside :=
    (second.directories path outside).trans (first.directories path outside)
  worktrees path outside there :=
    first.worktrees path outside (second.worktrees path outside there)
  existing path outside directory there :=
    second.existing path outside ((first.directories path outside).mpr directory)
      (first.existing path outside directory there)

theorem spares_of_same (directories : after.directories = host.directories)
    (worktrees : after.worktrees = host.worktrees) : Spares root host after :=
  ⟨fun _ _ => by rw [directories], fun _ _ there => worktrees ▸ there,
    fun _ _ _ there => worktrees ▸ there⟩

theorem Alike.trans (first : Alike host after) (second : Alike after later) : Alike host later where
  directories := second.directories.trans first.directories
  worktrees := second.worktrees.trans first.worktrees
  locked := second.locked.trans first.locked
  commitAt := second.commitAt.trans first.commitAt

theorem Alike.spares (alike : Alike host after) : Spares root host after :=
  spares_of_same alike.directories alike.worktrees

theorem ShrunkAt.spares (shrunk : ShrunkAt path host after) (below : root <+: path) :
    Spares root host after where
  directories other outside := ⟨fun there => shrunk.directories there, fun there =>
    shrunk.elsewhere other there fun under => outside (below.trans under)⟩
  worktrees _ _ there := shrunk.worktrees there
  existing other outside _ there :=
    shrunk.others other there fun same => outside (same ▸ below)

theorem GrownAt.spares (grown : GrownAt path host after) (below : root <+: path) :
    Spares root host after where
  directories other outside := grown.directories other fun under => outside (below.trans under)
  worktrees other outside := (grown.worktrees other fun same => outside (same ▸ below)).mp
  existing other outside _ := (grown.worktrees other fun same => outside (same ▸ below)).mpr

theorem Stands.grown {revision : Revision} {other : WorktreePath}
    (stands : Stands host revision other) (grown : GrownAt path host after)
    (apart : ¬ path <+: other) : Stands after revision other where
  directory := (grown.directories other apart).mpr stands.directory
  registered :=
    (grown.worktrees other fun same => apart (same ▸ List.prefix_refl _)).mpr stands.registered
  commit := by
    rw [grown.commitAt other fun same => apart (same ▸ List.prefix_refl _)]
    exact stands.commit

theorem Pruned.spares (pruned : Pruned host after) : Spares root host after where
  directories _ _ := by rw [pruned.directories]
  worktrees _ _ there := pruned.worktrees there
  existing path _ directory there := pruned.existing path there directory

theorem UsedAt.spares {workspaces : RevisionWorkspaces} (used : UsedAt workspaces host after)
    (base : root <+: workspaces.basePath) (head : root <+: workspaces.headPath) :
    Spares root host after where
  directories path outside := used.directories path (fun under => outside (base.trans under))
    fun under => outside (head.trans under)
  worktrees _ _ there := used.worktrees ▸ there
  existing _ _ _ there := used.worktrees ▸ there

/-- A directory that is gone has taken with it what was below. -/
theorem gone_of_not_mem (gone : root ∉ host.directories) (below : root <+: path) :
    path ∉ host.directories :=
  fun there => gone (host.inParent path root there below)

/-! ## What a clean-up does -/

/-- The clean-up has only removed, and only below the root. -/
structure Cleans (root : WorktreePath) (host after : GitHost) : Prop where
  spares : Spares root host after
  directories : after.directories ⊆ host.directories
  worktrees : after.worktrees ⊆ host.worktrees
  locked : after.locked ⊆ host.locked
  ended : after.ended = host.ended
  pruneRefused : after.pruneRefused = host.pruneRefused

theorem Cleans.refl (root : WorktreePath) (host : GitHost) : Cleans root host host :=
  ⟨.refl root host, subset_rfl, subset_rfl, subset_rfl, rfl, rfl⟩

theorem Cleans.trans (first : Cleans root host after) (second : Cleans root after later) :
    Cleans root host later where
  spares := first.spares.trans second.spares
  directories := second.directories.trans first.directories
  worktrees := second.worktrees.trans first.worktrees
  locked := second.locked.trans first.locked
  ended := second.ended.trans first.ended
  pruneRefused := second.pruneRefused.trans first.pruneRefused

/-- A command of the clean-up has not completed. -/
structure BrokenOff (root : WorktreePath) (host after : GitHost) : Prop where
  spares : Spares root host after
  brokenOff : after.brokenOff = true

end GitHost

namespace GitWorkspaceManager

open GitHost

variable {manager : GitWorkspaceManager} {host first : GitHost} {root path : WorktreePath}
  {α β : Type}

section Commands

variable {onReturn : GitHost → α → Prop} {onRaise : GitHost → NotedFailure → Prop}

/-- A call that is no use of worktrees. -/
theorem withstands_ask {call : WorktreeCall} {next : WorktreeReply call → Worktrees α}
    (other : ∀ workspaces, call ≠ .use workspaces)
    (rest : ∀ reply after, host.Responds call reply after →
      Program.Withstands gitWorld onReturn onRaise after (next reply)) :
    Program.Withstands gitWorld onReturn onRaise host (.ask call next) :=
  ⟨fun workspaces same => absurd same (other workspaces), rest⟩

theorem withstands_runGit {command : WorktreeCommand} {check : Bool}
    {onReturn : GitHost → CompletedCommand → Prop}
    (returns : ∀ completed after, host.Responds (.git command) (some completed) after →
      (check = true → completed.returncode = 0) → onReturn after completed)
    (breaks : ∀ after exception, host.Responds (.git command) none after →
      onRaise after exception)
    (fails : ∀ completed after exception, check = true →
      host.Responds (.git command) (some completed) after → onRaise after exception) :
    Program.Withstands gitWorld onReturn onRaise host (runGit manager command check) := by
  refine withstands_ask (by simp) fun reply after responds => ?_
  cases reply with
  | none => exact breaks after _ responds
  | some completed =>
      change Program.Withstands gitWorld onReturn onRaise after (if _ then _ else _)
      split
      · rename_i failed
        rw [Bool.and_eq_true] at failed
        exact fails completed after _ failed.1 responds
      · rename_i passed
        refine returns completed after responds fun checks => ?_
        simpa [checks] using passed

end Commands

section CleanUp

theorem withstands_removeTreeWithin {onRaise : GitHost → NotedFailure → Prop} (attempts : Nat)
    (below : root <+: path) (soFar : Cleans root first host) :
    Program.Withstands gitWorld (fun after _ => Cleans root first after) onRaise host
      (removeTreeWithin path attempts) := by
  induction attempts generalizing host with
  | zero => exact soFar
  | succ attempts ih =>
      refine withstands_ask (by simp) fun _ removed responds => ?_
      obtain ⟨shrunk, worktrees, ended, _, pruneRefused⟩ := responds
      have cleaned : Cleans root first removed := soFar.trans {
        spares := shrunk.spares below
        directories := shrunk.directories
        worktrees := shrunk.worktrees
        locked := shrunk.locked
        ended := ended
        pruneRefused := pruneRefused }
      refine withstands_ask (by simp) fun there seen responds => ?_
      obtain ⟨rfl, _⟩ := responds
      change Program.Withstands gitWorld _ onRaise _ (if _ then _ else _)
      split
      · split
        · refine withstands_ask (by simp) fun _ slept responds => ?_
          obtain rfl : slept = _ := responds
          exact ih cleaned
        · exact ih cleaned
      · exact cleaned

theorem withstands_removeIfThere {onRaise : GitHost → NotedFailure → Prop} (below : root <+: path)
    (soFar : Cleans root first host) :
    Program.Withstands gitWorld (fun after _ => Cleans root first after) onRaise host
      (removeIfThere path) := by
  refine withstands_ask (by simp) fun there seen responds => ?_
  obtain ⟨rfl, _⟩ := responds
  change Program.Withstands gitWorld _ onRaise _ (if _ then _ else _)
  split
  · exact withstands_removeTreeWithin 20 below soFar
  · exact soFar

/-- What the removal of one worktree leaves. -/
theorem withstands_removeWorktree (below : root <+: path) (soFar : Cleans root first host) :
    Program.Withstands gitWorld
      (fun after failures => Cleans root first after ∧
        (failures = [] → path ∉ after.worktrees ∨ path ∉ after.directories))
      (fun after _ => BrokenOff root first after) host (removeWorktree manager path) := by
  unfold removeWorktree
  refine Program.Withstands.through (fun after completed => Cleans root first after ∧
    (completed.returncode = 0 → path ∉ after.worktrees)) ?_ ?_
  · refine withstands_runGit (fun completed after responds _ => ?_) (fun after _ responds => ?_)
      fun _ _ _ checks => absurd checks Bool.false_ne_true
    · obtain ⟨shrunk, ended, _, does, pruneRefused⟩ := responds
      exact ⟨soFar.trans ⟨ShrunkAt.spares shrunk below, shrunk.directories, shrunk.worktrees,
        shrunk.locked, ended, by simpa using pruneRefused⟩, does⟩
    · obtain ⟨shrunk, _, brokenOff⟩ := responds
      exact ⟨soFar.spares.trans (ShrunkAt.spares shrunk below), brokenOff.trans (Bool.or_true _)⟩
  · rintro tried completed ⟨cleaned, succeeded⟩
    split
    · refine withstands_ask (by simp) fun there seen responds => ?_
      obtain ⟨rfl, isThere⟩ := responds
      change Program.Withstands gitWorld _ _ _ (if _ then _ else _)
      split
      · refine Program.Withstands.bind (withstands_removeTreeWithin 20 below cleaned)
          fun after _ done => ?_
        exact ⟨done, fun none => absurd none (List.cons_ne_nil _ _)⟩
      · rename_i away
        exact ⟨cleaned, fun _ => .inr fun directory => away (isThere.mpr directory)⟩
    · rename_i success
      exact ⟨cleaned, fun _ => .inl (succeeded (not_not.mp success))⟩

/-- **The removal of all worktrees**: what is not reported is no longer a worktree with a
directory. -/
theorem withstands_removeWorktrees {paths : List WorktreePath}
    (below : ∀ path ∈ paths, root <+: path) (soFar : Cleans root first host) :
    Program.Withstands gitWorld
      (fun after failures => Cleans root first after ∧ (failures = [] →
        ∀ path ∈ paths, path ∉ after.worktrees ∨ path ∉ after.directories))
      (fun after _ => BrokenOff root first after) host (removeWorktrees manager paths) := by
  induction paths generalizing first host with
  | nil => exact ⟨soFar, fun _ path member => absurd member List.not_mem_nil⟩
  | cons path rest ih =>
      obtain ⟨here, later⟩ := List.forall_mem_cons.mp below
      refine Program.Withstands.bind (withstands_removeWorktree here soFar) ?_
      rintro removed failures ⟨cleaned, left⟩
      have others := ih later (Cleans.refl root removed)
      refine Program.Withstands.bind (others.mono (fun _ _ facts => facts) fun _ _ broken =>
        ⟨cleaned.spares.trans broken.spares, broken.brokenOff⟩) ?_
      rintro after more ⟨cleanedMore, leftMore⟩
      refine ⟨cleaned.trans cleanedMore, fun none => ?_⟩
      obtain ⟨noFailures, noMore⟩ := List.append_eq_nil_iff.mp none
      refine List.forall_mem_cons.mpr ⟨?_, leftMore noMore⟩
      exact (left noFailures).imp (fun gone there => gone (cleanedMore.worktrees there))
        fun gone there => gone (cleanedMore.directories there)

/-- How the host is when the clean-up has come to its end. -/
structure CleanedUp (root : WorktreePath) (registered : List WorktreePath) (host after : GitHost)
    (message : Option String) : Prop where
  spares : Spares root host after
  ended : after.ended = host.ended
  tells : ∀ text, message = some text → ∃ details, text = cleanupMessage details
  gone : message = none → root ∉ after.directories
  forgotten : message = none →
    (∀ path ∈ host.worktrees, root <+: path → path ∈ registered ∧ path ∉ host.locked) →
      after.pruneRefused = true ∨ ∀ path, root <+: path → path ∉ after.worktrees

theorem withstands_cleanUp {registered : List WorktreePath}
    (below : ∀ path ∈ registered, root <+: path) :
    Program.Withstands gitWorld (fun after message => CleanedUp root registered host after message)
      (fun after _ => BrokenOff root host after) host (cleanUp manager registered root) := by
  unfold cleanUp
  have belowAll : ∀ path ∈ registered.reverse, root <+: path :=
    fun path member => below path (List.mem_reverse.mp member)
  refine Program.Withstands.bind (withstands_removeWorktrees belowAll (Cleans.refl root host)) ?_
  rintro removed failures ⟨cleaned, left⟩
  -- What pruning leaves is known from what it answers, and from what was there before it.
  refine Program.Withstands.through (fun after _ => Spares root host after ∧
    after.ended = host.ended ∧ (failures = [] →
      (∀ path ∈ host.worktrees, root <+: path → path ∈ registered ∧ path ∉ host.locked) →
        after.pruneRefused = true ∨ ∀ path, root <+: path → path ∉ after.worktrees)) ?_ ?_
  · refine withstands_runGit (fun completed after responds _ => ?_) (fun after _ responds => ?_)
      fun _ _ _ checks => absurd checks Bool.false_ne_true
    · obtain ⟨pruned, ended, _, does, pruneRefused⟩ := responds
      refine ⟨cleaned.spares.trans (Pruned.spares pruned), ended.trans cleaned.ended,
        fun none tracked => ?_⟩
      by_cases success : completed.returncode = 0
      · refine .inr fun path under there => ?_
        have wasThere : path ∈ removed.worktrees := pruned.worktrees there
        obtain ⟨listed, unlocked⟩ := tracked path (cleaned.worktrees wasThere) under
        have gone := left none path (List.mem_reverse.mpr listed)
        have directory := (does success path there).resolve_right fun locked =>
          unlocked (cleaned.locked locked)
        exact gone.elim (fun gone => gone wasThere) fun gone => gone directory
      · exact .inl (by simp [pruneRefused, success])
    · obtain ⟨pruned, _, brokenOff⟩ := responds
      exact ⟨cleaned.spares.trans (Pruned.spares pruned), brokenOff.trans (Bool.or_true _)⟩
  rintro pruned _ ⟨spared, ended, forgotten⟩
  refine Program.Withstands.bind (withstands_removeIfThere (List.prefix_refl root)
    (Cleans.refl root pruned)) fun last _ cleanedLast => ?_
  have spares := spared.trans cleanedLast.spares
  have endedLast := cleanedLast.ended.trans ended
  split
  · exact ⟨spares, endedLast, fun text same => ⟨_, (Option.some.inj same).symm⟩,
      fun none => absurd none (Option.some_ne_none _),
      fun none => absurd none (Option.some_ne_none _)⟩
  · rename_i noFailures
    refine withstands_ask (by simp) fun left after responds => ?_
    obtain ⟨rfl, isLeft⟩ := responds
    change CleanedUp root registered host _ (if _ then _ else _)
    split
    · exact ⟨spares, endedLast, fun text same => ⟨_, (Option.some.inj same).symm⟩,
        fun none => absurd none (Option.some_ne_none _),
        fun none => absurd none (Option.some_ne_none _)⟩
    · rename_i away
      refine ⟨spares, endedLast, fun text same => absurd same.symm (Option.some_ne_none _),
        fun _ directory => away (isLeft.mpr directory), fun _ tracked => ?_⟩
      refine (forgotten (not_not.mp noFailures) tracked).imp
        (fun refused => cleanedLast.pruneRefused.trans refused) fun gone path under there => ?_
      exact gone path under (cleanedLast.worktrees there)

end CleanUp

section Adding

/-- The worktrees of the list have been added, and no others below the root. -/
structure Built (root : WorktreePath) (start host : GitHost)
    (pairs : List (Revision × WorktreePath)) : Prop where
  spares : Spares root start host
  ended : host.ended = start.ended
  tracked : ∀ path ∈ host.worktrees, root <+: path →
    path ∈ pairs.map Prod.snd ∧ path ∉ host.locked
  stand : ∀ pair ∈ pairs, Stands host pair.1 pair.2

theorem withstands_demandRevision {onReturn : GitHost → Unit → Prop}
    {onRaise : GitHost → NotedFailure → Prop} {revision : Revision} {actualSha : String}
    (passes : lower actualSha = revision.sha.text → onReturn host ())
    (fails : ∀ exception, onRaise host exception) :
    Program.Withstands gitWorld onReturn onRaise host (demandRevision revision actualSha) := by
  unfold demandRevision
  exact Program.Withstands.demand passes fun _ => fails _

/-- A worktree that is verified stands at its revision. -/
theorem withstands_verifyHead (revision : Revision) :
    Program.Withstands gitWorld
      (fun after _ => Alike host after ∧ after.ended = host.ended ∧
        lower (after.commitAt path) = revision.sha.text)
      (fun after _ => Alike host after ∧ after.ended = host.ended) host
      (verifyHead manager revision path) := by
  unfold verifyHead
  refine Program.Withstands.through (fun after completed => Alike host after ∧
    after.ended = host.ended ∧ strip completed.stdout = after.commitAt path) ?_ ?_
  · refine withstands_runGit (fun completed after responds checked => ?_)
      (fun _ _ responds => ⟨responds.1, responds.2.1⟩)
      fun _ _ _ _ responds => ⟨responds.1, responds.2.1⟩
    obtain ⟨alike, ended, _, does, _⟩ := responds
    refine ⟨alike, ended, ?_⟩
    rw [Alike.commitAt alike]
    exact does (checked rfl)
  · exact fun after completed facts => withstands_demandRevision
      (fun same => ⟨facts.1, facts.2.1, facts.2.2 ▸ same⟩) fun _ => ⟨facts.1, facts.2.1⟩

theorem withstands_addWorktrees {start : GitHost} {done targets : List (Revision × WorktreePath)}
    {onRaise : GitHost → NotedFailure → Prop}
    (belowDone : ∀ pair ∈ done, root <+: pair.2) (below : ∀ pair ∈ targets, root <+: pair.2)
    (apart : (done ++ targets).Pairwise fun earlier later => ¬ later.2 <+: earlier.2)
    (built : Built root start host done) :
    Program.Withstands gitWorld
      (fun after result => Spares root start after ∧ after.ended = start.ended ∧
        (∀ path ∈ result.1, root <+: path) ∧ (result.2 = .ok () →
          result.1 = (done ++ targets).map Prod.snd ∧ Built root start after (done ++ targets)))
      onRaise host (addWorktrees manager (done.map Prod.snd) targets) := by
  have belowPaths : ∀ pairs : List (Revision × WorktreePath), (∀ pair ∈ pairs, root <+: pair.2) →
      ∀ path ∈ pairs.map Prod.snd, root <+: path := by
    intro pairs belowPairs path member
    obtain ⟨pair, listed, rfl⟩ := List.mem_map.mp member
    exact belowPairs pair listed
  induction targets generalizing done host with
  | nil =>
      refine ⟨built.spares, built.ended, belowPaths done belowDone, fun _ => ?_⟩
      rw [List.append_nil]
      exact ⟨rfl, built⟩
  | cons target rest ih =>
      obtain ⟨revision, path⟩ := target
      obtain ⟨here, later⟩ := List.forall_mem_cons.mp below
      have apartHere : ∀ pair ∈ done, ¬ path <+: pair.2 := fun pair member =>
        (List.pairwise_append.mp apart).2.2 pair member _ List.mem_cons_self
      -- One more worktree is added, or the attempt has failed somewhere below its path.
      refine Program.Withstands.through (fun after outcome => GrownAt path host after ∧
        after.ended = host.ended ∧ ((∃ completed, outcome = .ok completed) →
          path ∈ after.directories ∧ path ∈ after.worktrees ∧ path ∉ after.locked))
        (Program.Withstands.settled ?_) ?_
      · refine withstands_runGit (fun completed after responds checked => ?_)
          (fun after _ responds => ?_) fun completed after _ _ responds => ?_
        · obtain ⟨grown, ended, _, does, _⟩ := responds
          exact ⟨grown, ended, fun _ => does (checked rfl)⟩
        · exact ⟨responds.1, responds.2.1, fun ⟨_, same⟩ => nomatch same⟩
        · exact ⟨responds.1, responds.2.1, fun ⟨_, same⟩ => nomatch same⟩
      rintro added outcome ⟨grown, ended, there⟩
      have spares := built.spares.trans (GrownAt.spares grown here)
      have endedSame := ended.trans built.ended
      cases outcome with
      | error exception =>
          exact ⟨spares, endedSame, belowPaths done belowDone, fun same => nomatch same⟩
      | ok completed =>
          obtain ⟨directory, registered, unlocked⟩ := there ⟨completed, rfl⟩
          have belowNext : ∀ pair ∈ done ++ [(revision, path)], root <+: pair.2 := by
            simpa [or_imp, forall_and] using ⟨fun a b => belowDone (a, b), here⟩
          have paths : done.map Prod.snd ++ [path] = (done ++ [(revision, path)]).map Prod.snd := by
            rw [List.map_append]
            rfl
          refine Program.Withstands.through (fun after outcome => Alike added after ∧
            after.ended = added.ended ∧ (outcome = .ok () →
              lower (after.commitAt path) = revision.sha.text)) (Program.Withstands.settled ?_) ?_
          · exact (withstands_verifyHead revision).mono
              (fun _ _ facts => ⟨facts.1, facts.2.1, fun _ => facts.2.2⟩)
              fun _ _ facts => ⟨facts.1, facts.2, fun same => nomatch same⟩
          rintro verified outcome ⟨alike, endedAgain, commit⟩
          have sparesNext := spares.trans (Alike.spares alike)
          have endedNext := endedAgain.trans endedSame
          cases outcome with
          | error exception =>
              refine ⟨sparesNext, endedNext, ?_, fun same => nomatch same⟩
              rw [paths]
              exact belowPaths _ belowNext
          | ok value =>
              have builtNext : Built root start verified (done ++ [(revision, path)]) := {
                spares := sparesNext
                ended := endedNext
                tracked := fun other member under => by
                  rw [← paths, List.mem_append, List.mem_singleton, alike.locked]
                  by_cases same : other = path
                  · exact ⟨.inr same, same ▸ unlocked⟩
                  · rw [alike.worktrees, grown.worktrees other same] at member
                    obtain ⟨listed, free⟩ := built.tracked other member under
                    exact ⟨.inl listed, fun locked => free ((grown.locked other same).mp locked)⟩
                stand := fun pair member => by
                  rcases List.mem_append.mp member with earlier | new
                  · have stands := (built.stand pair earlier).grown grown (apartHere pair earlier)
                    exact ⟨alike.directories ▸ stands.directory, alike.worktrees ▸ stands.registered,
                      alike.commitAt ▸ stands.commit⟩
                  · rw [List.mem_singleton.mp new]
                    exact ⟨alike.directories ▸ directory, alike.worktrees ▸ registered, commit rfl⟩ }
              have continued := ih belowNext later (by simpa using apart) builtNext
              rw [← paths, List.append_assoc] at continued
              exact continued

/-- The worktrees that are used have been verified. -/
theorem withstands_usePair {onRaise : GitHost → NotedFailure → Prop} {start : GitHost}
    (base head : Revision) (spares : Spares root start host) (unused : host.ended = none)
    (noneBelow : ∀ path, root <+: path → path ∉ host.worktrees) :
    Program.Withstands gitWorld
      (fun after result => Spares root start after ∧ (∀ path ∈ result.1, root <+: path) ∧
        (∀ exception, after.ended = some (.error exception) → result.2 = .error exception) ∧
        (result.2 = .ok () → after.ended = some (.ok ()) ∧
          ∀ path ∈ after.worktrees, root <+: path → path ∈ result.1 ∧ path ∉ after.locked))
      onRaise host (usePair manager root base head) := by
  unfold usePair
  have belowBase : root <+: root ++ ["base"] := List.prefix_append _ _
  have belowHead : root <+: root ++ ["head"] := List.prefix_append _ _
  have different : root ++ ["base"] ≠ root ++ ["head"] := by simp
  have apart : ¬ root ++ ["head"] <+: root ++ ["base"] := by
    intro under
    exact different (under.eq_of_length (by simp)).symm
  have built : Built root host host [] := {
    spares := Spares.refl root host
    ended := rfl
    tracked := fun path member under => absurd member (noneBelow path under)
    stand := fun pair member => absurd member List.not_mem_nil }
  have adds := @withstands_addWorktrees manager host root host []
    [(base, root ++ ["base"]), (head, root ++ ["head"])] onRaise (by simp) (by simp) (by simp)
    built
  refine Program.Withstands.bind adds ?_
  rintro added ⟨registered, outcome⟩ ⟨sparesAdded, ended, below, completes⟩
  cases outcome with
  | error exception =>
      refine ⟨spares.trans sparesAdded, below, fun exception raised => ?_, fun same => nomatch same⟩
      rw [ended, unused] at raised
      cases raised
  | ok value =>
      obtain ⟨rfl, built⟩ := completes rfl
      refine ⟨fun workspaces same => ?_, fun reply after responds => ?_⟩
      · cases same
        exact ⟨built.stand (base, _) (by simp), built.stand (head, _) (by simp), different⟩
      · obtain ⟨used, endedNow, _, _⟩ := responds
        refine ⟨(spares.trans sparesAdded).trans (used.spares belowBase belowHead), below,
          fun exception raised => ?_, fun same => ?_⟩
        · rw [endedNow] at raised
          exact Option.some.inj raised
        · refine ⟨endedNow.trans (congrArg some same), fun path member under => ?_⟩
          rw [used.worktrees] at member
          rw [used.locked]
          exact built.tracked path member under

end Adding

section Whole

/-- Resolving a reference changes nothing. -/
theorem withstands_resolveRevision {ref : String} {role : RevisionRole} :
    Program.Withstands gitWorld (fun after _ => Alike host after ∧ after.ended = host.ended)
      (fun after _ => Alike host after ∧ after.ended = host.ended) host
      (resolveRevision manager ref role) := by
  unfold resolveRevision
  split
  · exact ⟨⟨rfl, rfl, rfl, rfl⟩, rfl⟩
  · refine Program.Withstands.through (fun after _ => Alike host after ∧ after.ended = host.ended)
      (withstands_runGit (fun _ _ responds _ => ⟨responds.1, responds.2.1⟩)
      (fun _ _ responds => ⟨responds.1, responds.2.1⟩)
      fun _ _ _ _ responds => ⟨responds.1, responds.2.1⟩) ?_
    intro after completed facts
    split
    · exact facts
    · exact facts

/-- A clean-up that failed is told of, in the exception or in one of its notes. -/
def TellsOfCleanUp (raised : NotedFailure) : Prop :=
  ∃ details, raised.failure = .gitWorkspace (cleanupMessage details) ∨
    cleanupMessage details ∈ raised.notes

end Whole

end GitWorkspaceManager

/-- The world always has a reply. -/
theorem gitWorld_replies (host : GitHost) (call : WorktreeCall) :
    ∃ reply after, host.Responds call reply after := by
  cases call with
  | git command =>
      refine ⟨none, { host with brokenOff := host.brokenOff || command.cleansUp }, ?_, rfl, rfl⟩
      cases command with
      | revParseVerify ref => exact ⟨rfl, rfl, rfl, rfl⟩
      | worktreeAdd path sha =>
          exact ⟨fun _ _ => Iff.rfl, fun _ _ => Iff.rfl, fun _ _ => Iff.rfl, fun _ _ => rfl⟩
      | revParseHead path => exact ⟨rfl, rfl, rfl, rfl⟩
      | worktreeRemove path =>
          exact ⟨subset_rfl, fun _ there _ => there, subset_rfl, fun _ there _ => there,
            subset_rfl, rfl⟩
      | worktreePrune => exact ⟨rfl, subset_rfl, fun _ there _ => there, subset_rfl, rfl⟩
  | makeRunRoot => exact ⟨.error "", host, rfl⟩
  | pathExists path =>
      by_cases there : path ∈ host.directories
      · exact ⟨true, host, rfl, fun _ => there, fun _ => rfl⟩
      · exact ⟨false, host, rfl, fun same => absurd same Bool.false_ne_true,
          fun present => absurd present there⟩
  | removeDirectory path =>
      exact ⟨(), host,
        ⟨subset_rfl, fun _ there _ => there, subset_rfl, fun _ there _ => there, subset_rfl, rfl⟩,
        rfl, rfl, rfl, rfl⟩
  | sleep => exact ⟨(), host, rfl⟩
  | use workspaces =>
      exact ⟨.ok (), { host with ended := some (.ok ()) }, ⟨fun _ _ _ => Iff.rfl, rfl, rfl⟩, rfl,
        rfl, rfl⟩

end PatchProof
