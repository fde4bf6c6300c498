import PatchProof.Execution.Challenge
import PatchProof.Library.Program
import PatchProof.Library.Utf8
import Mathlib.Data.List.Infix

/-!
# The revisions of an executor request

A request document names BASE and HEAD by texts in which the pattern of an object name
occurs.  The pattern is not anchored, so the digits may have other characters around them,
and the executor passes the texts to Git as they are.

HEAD has to be what Git resolved for the pull request.  BASE is fetched first and looked at
afterwards, so a text that begins with a hyphen is an option of the fetch, and one with a
colon is a refspec.  With nothing around the digits every argument is read as it is meant.

Git is asked through calls; what it answers is open.
-/

set_option autoImplicit false

namespace PatchProof

/-! ## Accepted texts -/

/-- So many lowercase hexadecimal digits in a row, anywhere. -/
def containsHexRun (count : Nat) (text : String) : Bool :=
  text.toList.tails.any fun rest =>
    (rest.take count).length == count && (rest.take count).all isLowerHex

/-- The unanchored pattern of an object name. -/
def containsGitSha (text : String) : Bool := containsHexRun 40 text || containsHexRun 64 text

/-- A text that the pattern accepts. -/
structure RequestedRevision where
  text : String
  found : containsGitSha text = true
  deriving DecidableEq

/-- Nothing stands in front of the digits or behind them. -/
def RequestedRevision.Bare (revision : RequestedRevision) : Prop :=
  revision.text.toList.length = 40 ∨
    revision.text.toList.length = 64 ∧ revision.text.toList.all isLowerHex = true

/-- What the wire models accept as a request. -/
structure ExecutorRequest (isWord : Char → Bool) where
  repository : RepositoryName
  pullRequestNumber : PositiveInt
  baseSha : RequestedRevision
  headSha : RequestedRevision
  contract : ExecutionContract isWord
  contractOrigin : ExecutionContractOrigin := .repository

/-! ## Commands -/

/-- An argument of a Git command: a text of the executor, or one made from a request. -/
inductive GitArgument where
  | own (text : String)
  | remoteUrl (repository : RepositoryName)
  | pullRequestRef (number : PositiveInt)
  | revision (requested : String) (rest : String)
  deriving DecidableEq

/-- The argument as Git gets it. -/
def GitArgument.render : GitArgument → String
  | .own text => text
  | .remoteUrl repository => "https://github.com/" ++ repository.text ++ ".git"
  | .pullRequestRef number =>
      "+refs/pull/" ++ toString number.value ++ "/head:refs/patchproof/head"
  | .revision requested rest => requested ++ rest

/-- What begins with a hyphen is an option. -/
def IsOption (text : String) : Prop := text.toList.head? = some '-'

/-- An argument from a request is no option, and a revision is a full object name. -/
def GitArgument.ReadAsIntended : GitArgument → Prop
  | .own _ => True
  | .remoteUrl repository => ¬ IsOption (GitArgument.remoteUrl repository).render
  | .pullRequestRef number => ¬ IsOption (GitArgument.pullRequestRef number).render
  | .revision requested rest =>
      isGitSha requested = true ∧ ¬ IsOption (GitArgument.revision requested rest).render

abbrev GitArguments := List GitArgument

/-- A process that ended, or one that did not start or end in time. -/
inductive GitReply where
  | completed (returncode : Int) (stdout stderr : List UInt8)
  | incomplete

/-- Routines that run Git commands. -/
abbrev GitProgram := Program (fun _ : GitArguments => GitReply) PrepareException

/-! ## The executor -/

/-- What `_run` makes of a reply. -/
def GitReply.output : GitReply → Except PrepareException (List UInt8)
  | .completed 0 stdout _ => .ok stdout
  | .completed _ _ stderr => .error (.git ("Git preparation failed: " ++
      String.ofList ((Utf8.decode stderr).take 1000)))
  | .incomplete => .error (.git "bounded Git preparation failed")

/-- `_git_output`. -/
def gitOutput (directory : String) (arguments : GitArguments) : GitProgram (List UInt8) :=
  .ask (.own "git" :: .own "-C" :: .own directory :: arguments) fun reply => .done reply.output

/-- `bytes.decode()`. -/
def decodeOutput (output : List UInt8) : GitProgram String :=
  match String.fromUTF8? ⟨output.toArray⟩ with
  | some text => pure text
  | none => Program.raise (.value "'utf-8' codec cannot decode the output")

section Executor

variable {isWord : Char → Bool} (safeLoad : List UInt8 → YamlOutcome)

/-- `_prepare_repository`. -/
def prepareRepository (request : ExecutorRequest isWord) (destination : String) :
    GitProgram Unit := do
  let _ ← gitOutput destination [.own "init", .own "--bare"]
  let _ ← gitOutput destination
    [.own "remote", .own "add", .own "origin", .remoteUrl request.repository]
  let _ ← gitOutput destination
    [.own "fetch", .own "--no-tags", .own "origin", .pullRequestRef request.pullRequestNumber]
  let _ ← gitOutput destination
    [.own "fetch", .own "--no-tags", .own "origin", .revision request.baseSha.text ""]
  let resolved ← gitOutput destination [.own "rev-parse", .own "refs/patchproof/head"]
  let resolved ← decodeOutput resolved
  Program.demand (lower (strip resolved) = request.headSha.text)
    (.value "fetched pull-request HEAD does not match the webhook SHA")
  let _ ← gitOutput destination
    [.own "cat-file", .own "-e", .revision request.baseSha.text "^\x7bcommit\x7d"]

/-- The contract that is committed at a revision. -/
def showContract (repository : String) (revision : RequestedRevision) :
    GitProgram (ExecutionContract isWord) := do
  let raw ← gitOutput repository [.own "show", .revision revision.text ":.patchproof.yaml"]
  match ExecutionContract.loadBytes isWord safeLoad raw with
  | .ok contract => pure contract
  | .error error => Program.raise (.contract error)

/-- `_prepare_challenge`, up to the prepared challenge. -/
def prepareFetchedChallenge (request : ExecutorRequest isWord) (root : String) :
    GitProgram Unit := do
  let repository := root ++ "/repository.git"
  prepareRepository request repository
  match request.contractOrigin with
  | .repository =>
      let baseContract ← showContract safeLoad repository request.baseSha
      let headContract ← showContract safeLoad repository request.headSha
      Program.demand (baseContract = headContract ∧ headContract = request.contract)
        (.value "immutable BASE/HEAD execution contracts do not match")
  | .patchproofProbe | .patchproofManifest =>
      Program.demand (request.contract.synthesized = true)
        (.value "PatchProof-supplied execution requires a synthesized contract")

/-- `prepare_environment` and `execute`: what the candidate is refused for is checked
before Git is asked for anything. -/
def serveRequest (allowedRepositories : List RepositoryName)
    (candidate : Except PrepareException Unit) (request : ExecutorRequest isWord)
    (root : String) : GitProgram Unit := do
  Program.demand (request.repository ∈ allowedRepositories)
    (.permission "repository is not allowlisted")
  match candidate with
  | .ok () => prepareFetchedChallenge safeLoad request root
  | .error exception => Program.raise exception

end Executor

/-! ## Bare revisions -/

/-- A run of digits that is as long as the text is the text. -/
theorem all_of_containsHexRun {count : Nat} {text : String} (found : containsHexRun count text = true)
    (short : text.toList.length ≤ count) : text.toList.all isLowerHex = true := by
  obtain ⟨rest, isTail, run⟩ := List.any_eq_true.mp found
  rw [Bool.and_eq_true, beq_iff_eq, List.length_take] at run
  obtain ⟨length, digits⟩ := run
  have suffix := (List.mem_tails _ _).mp isTail
  have most := suffix.length_le
  have same : rest = text.toList := suffix.eq_of_length (by omega)
  rwa [List.take_of_length_le (by omega), same] at digits

/-- An accepted text without anything around the digits is an object name. -/
theorem RequestedRevision.bare_iff (revision : RequestedRevision) :
    revision.Bare ↔ isGitSha revision.text = true := by
  unfold RequestedRevision.Bare isGitSha
  simp only [Bool.and_eq_true, Bool.or_eq_true, beq_iff_eq]
  constructor
  · rintro (short | ⟨long, hex⟩)
    · refine ⟨.inl short, ?_⟩
      rcases Bool.or_eq_true_iff.mp revision.found with found | found
      · exact all_of_containsHexRun found (by omega)
      · exact all_of_containsHexRun found (by omega)
    · exact ⟨.inr long, hex⟩
  · rintro ⟨short | long, hex⟩
    · exact .inl short
    · exact .inr ⟨long, hex⟩

/-! ## What is read as intended -/

theorem not_isOption_append {front : String} {first : Char}
    (begins : front.toList.head? = some first) (other : first ≠ '-') (rest : String) :
    ¬ IsOption (front ++ rest) := by
  intro option
  rw [IsOption, String.toList_append, List.head?_append, begins] at option
  exact other (Option.some.inj option)

/-- An object name followed by something is no option. -/
theorem revision_readAsIntended {requested : String} (named : isGitSha requested = true)
    (rest : String) : (GitArgument.revision requested rest).ReadAsIntended := by
  refine ⟨named, ?_⟩
  simp only [isGitSha, Bool.and_eq_true, Bool.or_eq_true, beq_iff_eq, List.all_eq_true] at named
  cases digits : requested.toList with
  | nil => simp [digits] at named
  | cons digit more =>
      have isHex := named.2 digit (digits ▸ List.mem_cons_self)
      have begins : requested.toList.head? = some digit := by rw [digits, List.head?_cons]
      refine not_isOption_append begins ?_ rest
      rintro rfl
      exact absurd isHex (by decide)

theorem remoteUrl_readAsIntended (repository : RepositoryName) :
    (GitArgument.remoteUrl repository).ReadAsIntended := by
  have begins : "https://github.com/".toList.head? = some 'h' := by simp
  change ¬ IsOption ("https://github.com/" ++ repository.text ++ ".git")
  rw [String.append_assoc]
  exact not_isOption_append begins (by decide) _

theorem pullRequestRef_readAsIntended (number : PositiveInt) :
    (GitArgument.pullRequestRef number).ReadAsIntended := by
  have begins : "+refs/pull/".toList.head? = some '+' := by simp
  change ¬ IsOption ("+refs/pull/" ++ toString number.value ++ "/head:refs/patchproof/head")
  rw [String.append_assoc]
  exact not_isOption_append begins (by decide) _

/-- The commands in which every argument is read as intended, whatever Git answers. -/
def gitProtocol : Protocol (fun _ : GitArguments => GitReply) Unit where
  Assumes _ _ := True
  Move _ command _ _ := ∀ argument ∈ command, argument.ReadAsIntended

/-- In every run, every argument of every command is read as intended. -/
structure IssuesIntended {α : Type} (program : GitProgram α) : Prop where
  follows : program.Follows gitProtocol (fun _ _ => True) (fun _ _ => True) ()

section Intended

variable {α β : Type} {isWord : Char → Bool} {safeLoad : List UInt8 → YamlOutcome}

theorem IssuesIntended.bind {program : GitProgram α} {rest : α → GitProgram β}
    (first : IssuesIntended program) (second : ∀ value, IssuesIntended (rest value)) :
    IssuesIntended (program >>= rest) :=
  ⟨first.follows.bind fun _ value _ => (second value).follows⟩

theorem issuesIntended_pure (value : α) : IssuesIntended (pure value : GitProgram α) :=
  ⟨trivial⟩

theorem issuesIntended_raise (exception : PrepareException) :
    IssuesIntended (Program.raise exception : GitProgram α) := ⟨trivial⟩

theorem issuesIntended_demand {condition : Prop} [Decidable condition]
    (exception : PrepareException) :
    IssuesIntended (Program.demand condition exception : GitProgram Unit) :=
  ⟨Program.Follows.demand (fun _ => trivial) fun _ => trivial⟩

theorem issuesIntended_gitOutput (directory : String) {arguments : GitArguments}
    (intended : ∀ argument ∈ arguments, argument.ReadAsIntended) :
    IssuesIntended (gitOutput directory arguments) := by
  refine ⟨fun reply _ => ⟨(), ?_, ?_⟩⟩
  · intro argument mem
    simp only [List.mem_cons] at mem
    rcases mem with rfl | rfl | rfl | given
    · trivial
    · trivial
    · trivial
    · exact intended argument given
  · change Program.Follows _ _ _ _ (.done reply.output)
    cases reply.output <;> trivial

theorem issuesIntended_decodeOutput (output : List UInt8) :
    IssuesIntended (decodeOutput output) := by
  unfold decodeOutput
  split
  · exact issuesIntended_pure _
  · exact issuesIntended_raise _

theorem issuesIntended_prepareRepository {request : ExecutorRequest isWord} (destination : String)
    (base : isGitSha request.baseSha.text = true) :
    IssuesIntended (prepareRepository request destination) := by
  have named := revision_readAsIntended base
  unfold prepareRepository
  refine (issuesIntended_gitOutput _ ?_).bind fun _ => ?_
  · simp only [List.forall_mem_cons]
    exact ⟨trivial, trivial, List.forall_mem_nil _⟩
  refine (issuesIntended_gitOutput _ ?_).bind fun _ => ?_
  · simp only [List.forall_mem_cons]
    exact ⟨trivial, trivial, trivial, remoteUrl_readAsIntended _, List.forall_mem_nil _⟩
  refine (issuesIntended_gitOutput _ ?_).bind fun _ => ?_
  · simp only [List.forall_mem_cons]
    exact ⟨trivial, trivial, trivial, pullRequestRef_readAsIntended _, List.forall_mem_nil _⟩
  refine (issuesIntended_gitOutput _ ?_).bind fun _ => ?_
  · simp only [List.forall_mem_cons]
    exact ⟨trivial, trivial, trivial, named _, List.forall_mem_nil _⟩
  refine (issuesIntended_gitOutput _ ?_).bind fun _ => ?_
  · simp only [List.forall_mem_cons]
    exact ⟨trivial, trivial, List.forall_mem_nil _⟩
  refine (issuesIntended_decodeOutput _).bind fun _ => ?_
  refine (issuesIntended_demand _).bind fun _ => ?_
  refine (issuesIntended_gitOutput _ ?_).bind fun _ => ?_
  · simp only [List.forall_mem_cons]
    exact ⟨trivial, trivial, named _, List.forall_mem_nil _⟩
  exact issuesIntended_pure ()

theorem issuesIntended_showContract (repository : String) {revision : RequestedRevision}
    (named : isGitSha revision.text = true) :
    IssuesIntended
      (showContract safeLoad repository revision : GitProgram (ExecutionContract isWord)) := by
  unfold showContract
  refine (issuesIntended_gitOutput _ ?_).bind fun raw => ?_
  · simp only [List.forall_mem_cons]
    exact ⟨trivial, revision_readAsIntended named _, List.forall_mem_nil _⟩
  cases ExecutionContract.loadBytes isWord safeLoad raw with
  | ok contract => exact issuesIntended_pure contract
  | error error => exact issuesIntended_raise _

/-- With two object names, whatever Git answers, every argument is read as intended. -/
theorem issuesIntended_serveRequest {request : ExecutorRequest isWord}
    (allowedRepositories : List RepositoryName) (candidate : Except PrepareException Unit)
    (root : String) (base : isGitSha request.baseSha.text = true)
    (head : isGitSha request.headSha.text = true) :
    IssuesIntended (serveRequest safeLoad allowedRepositories candidate request root) := by
  unfold serveRequest
  refine (issuesIntended_demand _).bind fun _ => ?_
  cases candidate with
  | error exception => exact issuesIntended_raise exception
  | ok admitted =>
      change IssuesIntended (prepareFetchedChallenge safeLoad request root)
      unfold prepareFetchedChallenge
      refine (issuesIntended_prepareRepository _ base).bind fun _ => ?_
      cases request.contractOrigin with
      | repository =>
          refine (issuesIntended_showContract _ base).bind fun _ => ?_
          exact (issuesIntended_showContract _ head).bind fun _ => issuesIntended_demand _
      | patchproofProbe => exact issuesIntended_demand _
      | patchproofManifest => exact issuesIntended_demand _

end Intended

/-- The commands that are run when Git answers as told. -/
def issuedCommands {α : Type} (git : GitArguments → GitReply) : GitProgram α → List GitArguments
  | .done _ => []
  | .ask command next => command :: issuedCommands git (next (git command))

/-- What is issued is issued as intended when every run is. -/
theorem IssuesIntended.issued {α : Type} {program : GitProgram α} (intended : IssuesIntended program)
    (git : GitArguments → GitReply) :
    ∀ command ∈ issuedCommands git program, ∀ argument ∈ command, argument.ReadAsIntended := by
  obtain ⟨follows⟩ := intended
  induction program with
  | done outcome =>
      intro command mem
      cases mem
  | ask command next ih =>
      obtain ⟨_, moved, rest⟩ := follows (git command) trivial
      intro other mem
      rcases List.mem_cons.mp mem with rfl | later
      · exact moved
      · exact ih (git command) rest other later

/-- An option of the fetch with an object name behind it. -/
def optionRevision : RequestedRevision where
  text := "--upload-pack=touch /tmp/owned;aaaaaaaaaaaaaaaaaaaaaaaaaaaaaaaaaaaaaaaa"
  found := by decide +kernel

def hexRevision : RequestedRevision where
  text := "bbbbbbbbbbbbbbbbbbbbbbbbbbbbbbbbbbbbbbbb"
  found := by decide +kernel

/-- A request for the option at BASE. -/
def optionRequest : ExecutorRequest isAsciiWord where
  repository := ⟨"octo/service", isRepositoryName_octo⟩
  pullRequestNumber := ⟨7, seven_positive⟩
  baseSha := optionRevision
  headSha := hexRevision
  contract := ⟨claimingFields.values, claimingFields_valid⟩

/-- The executor of the requested repository, with a Git that succeeds. -/
def optionRun : List GitArguments :=
  issuedCommands (fun _ => .completed 0 [] [])
    (serveRequest (fun _ => .malformed) [optionRequest.repository] (.ok ()) optionRequest
      "/tmp/patchproof-executor")

end PatchProof
