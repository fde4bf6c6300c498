import PatchProof.Context.Patterns
import PatchProof.Library.Program

/-!
# The Git commands of the retriever

Everything the retriever learns of a repository it learns from five Git commands.  What Git
answers to `git show` of a path and to `git diff` of literal paths is taken to depend on
nothing but the entries of the trees at these paths.

A command is visible for a set of excluded paths when none of the paths it names is
excluded.  Two repositories that agree outside of the excluded paths answer every visible
command alike (`answer_eq`).
-/

set_option autoImplicit false

namespace PatchProof

/-! ## Commands -/

inductive GitCommand where
  | revParse (sha : GitSha)
  | nameStatus (base head : GitSha)
  | diff (unified : Nat) (base head : GitSha) (paths : List RepositoryPath)
  | listTree (revision : GitSha)
  | showFile (revision : GitSha) (path : RepositoryPath)

structure CompletedProcess where
  returncode : Int
  stdout : List UInt8
  stderr : List UInt8 := []

/-- What escapes from the retriever. -/
inductive RetrievalError where
  | contextRetrieval (message : String)
  | couldNotComplete (command : GitCommand)
  | invalid (message : String)
  | undecodable
  | parserFailure

/-- A routine that runs Git commands, some of which may not complete. -/
abbrev Retrieval := Program (fun _ : GitCommand => Option CompletedProcess) RetrievalError

/-- A step without commands. -/
def Retrieval.lift {α : Type} (outcome : Except RetrievalError α) : Retrieval α := .done outcome

/-! ## Repositories -/

/-- What a tree holds at a path. -/
structure TreeEntry where
  mode : Nat
  content : List UInt8

/-- How Git answers from the entries at the paths that a command names. -/
structure GitBehavior where
  showEntry : GitSha → RepositoryPath → Option TreeEntry → Option CompletedProcess
  diffEntries : Nat → GitSha → GitSha →
    List (RepositoryPath × Option TreeEntry × Option TreeEntry) → Option CompletedProcess

structure GitRepository where
  resolve : GitSha → Option CompletedProcess
  nameStatus : GitSha → GitSha → Option CompletedProcess
  tree : GitSha → Option CompletedProcess
  entry : GitSha → RepositoryPath → Option TreeEntry

/-- What Git answers to a command. -/
def GitBehavior.answer (git : GitBehavior) (repository : GitRepository) :
    GitCommand → Option CompletedProcess
  | .revParse sha => repository.resolve sha
  | .nameStatus base head => repository.nameStatus base head
  | .diff unified base head paths =>
      git.diffEntries unified base head
        (paths.map fun path => (path, repository.entry base path, repository.entry head path))
  | .listTree revision => repository.tree revision
  | .showFile revision path => git.showEntry revision path (repository.entry revision path)

/-! ## Excluded paths -/

/-- Two repositories with the same revisions of these names, the same name-status diff and
tree listings, and the same entries at the paths that are not excluded. -/
structure AgreeOutside (excluded : List RepositoryPath) (revisions : List String)
    (first second : GitRepository) : Prop where
  resolve : ∀ sha, sha.text ∈ revisions → first.resolve sha = second.resolve sha
  nameStatus : ∀ base head, base.text ∈ revisions → head.text ∈ revisions →
    first.nameStatus base head = second.nameStatus base head
  tree : ∀ sha, sha.text ∈ revisions → first.tree sha = second.tree sha
  entry : ∀ sha path, sha.text ∈ revisions → path ∉ excluded →
    first.entry sha path = second.entry sha path

/-- A command that names these revisions only, and no excluded path. -/
def GitCommand.Visible (excluded : List RepositoryPath) (revisions : List String) :
    GitCommand → Prop
  | .revParse sha | .listTree sha => sha.text ∈ revisions
  | .nameStatus base head => base.text ∈ revisions ∧ head.text ∈ revisions
  | .diff _ base head paths =>
      base.text ∈ revisions ∧ head.text ∈ revisions ∧ ∀ path ∈ paths, path ∉ excluded
  | .showFile sha path => sha.text ∈ revisions ∧ path ∉ excluded

section Visible

variable {excluded : List RepositoryPath} {revisions : List String}

/-- **Visible commands have the same answers.** -/
theorem answer_eq {first second : GitRepository}
    (agree : AgreeOutside excluded revisions first second) (git : GitBehavior)
    {command : GitCommand} (visible : command.Visible excluded revisions) :
    git.answer first command = git.answer second command := by
  cases command with
  | revParse sha => exact agree.resolve sha visible
  | nameStatus base head => exact agree.nameStatus base head visible.1 visible.2
  | diff unified base head paths =>
      obtain ⟨baseNamed, headNamed, allowed⟩ := visible
      refine congrArg (git.diffEntries unified base head) (List.map_congr_left fun path mem => ?_)
      rw [agree.entry base path baseNamed (allowed path mem),
        agree.entry head path headNamed (allowed path mem)]
  | listTree sha => exact agree.tree sha visible
  | showFile sha path =>
      exact congrArg (git.showEntry sha path) (agree.entry sha path visible.1 visible.2)

variable (excluded revisions) in
/-- The protocol of a routine whose every command is visible. -/
def visibleOnly : Protocol (fun _ : GitCommand => Option CompletedProcess) Unit where
  Assumes _ _ := True
  Move _ command _ _ := command.Visible excluded revisions

variable (excluded revisions) in
/-- Every command is visible, and what is returned satisfies the condition. -/
structure Retrieval.Sees {α : Type} (returned : α → Prop) (routine : Retrieval α) : Prop where
  follows : Program.Follows (visibleOnly excluded revisions) (fun _ => returned)
    (fun _ _ => True) () routine

namespace Retrieval

variable {α β σ : Type} {returned : α → Prop} {routine : Retrieval α}

theorem Sees.pure {value : α} (holds : returned value) :
    Sees excluded revisions returned (Pure.pure value) := ⟨holds⟩

theorem Sees.raise {exception : RetrievalError} :
    Sees excluded revisions returned (Program.raise exception) := ⟨True.intro⟩

theorem Sees.ask {command : GitCommand} {next : Option CompletedProcess → Retrieval α}
    (visible : command.Visible excluded revisions)
    (after : ∀ reply, Sees excluded revisions returned (next reply)) :
    Sees excluded revisions returned (.ask command next) :=
  ⟨fun reply _ => ⟨(), visible, (after reply).follows⟩⟩

theorem Sees.lift {outcome : Except RetrievalError α}
    (holds : ∀ value, outcome = .ok value → returned value) :
    Sees excluded revisions returned (Retrieval.lift outcome) := by
  cases outcome with
  | ok value => exact .pure (holds value rfl)
  | error exception => exact .raise

theorem Sees.bind {rest : α → Retrieval β} {after : β → Prop}
    (first : Sees excluded revisions returned routine)
    (second : ∀ value, returned value → Sees excluded revisions after (rest value)) :
    Sees excluded revisions after (routine >>= rest) :=
  ⟨first.follows.bind fun _ value holds => (second value holds).follows⟩

theorem Sees.liftBind {outcome : Except RetrievalError α} {rest : α → Retrieval β}
    {after : β → Prop}
    (second : ∀ value, outcome = .ok value → Sees excluded revisions after (rest value)) :
    Sees excluded revisions after (Retrieval.lift outcome >>= rest) := by
  cases outcome with
  | ok value => exact second value rfl
  | error exception => exact .raise

theorem Sees.foldlM {items : List σ} {step : β → σ → Retrieval β} {kept : β → Prop} {start : β}
    (initial : kept start)
    (each : ∀ item ∈ items, ∀ value, kept value →
      Sees excluded revisions kept (step value item)) :
    Sees excluded revisions kept (items.foldlM step start) :=
  ⟨Program.Follows.foldlM initial fun item mem _ value holds => (each item mem value holds).follows⟩

/-- **A routine that sees nothing excluded has the same outcome in both repositories.** -/
theorem Sees.under_eq {first second : GitRepository}
    (sees : Sees excluded revisions returned routine)
    (agree : AgreeOutside excluded revisions first second) (git : GitBehavior) :
    routine.under (git.answer first) = routine.under (git.answer second) :=
  sees.follows.under_eq (fun _ => True.intro) fun _ _ _ visible => answer_eq agree git visible

end Retrieval

end Visible

end PatchProof
