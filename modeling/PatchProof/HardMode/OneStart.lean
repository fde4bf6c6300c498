import PatchProof.HardMode.LiveRun
import PatchProof.Library.Guard
import PatchProof.Library.Pool

/-!
# A declared run starts at most once

Any number of processes run `run_live` on the same journal and the same result.  Each of them looks
for the journal first and creates it much later, after the whole preparation.  A process that looks
when the journal is there refuses the run.  Two processes that both look before either has written
do both start, and both run the cases.

Starting at most once therefore rests on the schedule: between the look of a process and its own
first line, no other process writes a first line.  Under this condition, and when a preparation
gives up only with a configuration error, every process but one refuses.
-/

set_option autoImplicit false

namespace PatchProof

/-! ## The shared files -/

/-- The journal, if it has been opened, and the result, if it has been written. -/
structure LiveRunFiles where
  journal : Option (List JournalEntry)
  raw : Option RawRun

/-- What the surroundings reply to a step, apart from the shared files. -/
abbrev LiveRunInput : Type := (call : LiveRunCall) → LiveRunReply call

namespace LiveRunFiles

/-- The step of one process: looking never fails, and opening or writing may. -/
def answer (files : LiveRunFiles) (input : LiveRunInput) :
    (call : LiveRunCall) → LiveRunReply call × LiveRunFiles
  | .pathExists .journal => (files.journal.isSome, files)
  | .pathExists .raw => (files.raw.isSome, files)
  | .openJournal => match input .openJournal with
      | .ok _ => (.ok (), { files with journal := some (files.journal.getD []) })
      | .error failure => (.error failure, files)
  | .writeJournal entry => match input (.writeJournal entry) with
      | .ok _ => (.ok (), { files with journal := files.journal.map (· ++ [entry]) })
      | .error failure => (.error failure, files)
  | .writeRaw raw => match input (.writeRaw raw) with
      | .ok _ => (.ok (), { files with raw := some raw })
      | .error failure => (.error failure, files)
  | call => (input call, files)

/-- The files as an object that processes share. -/
def shared : SharedObject LiveRunReply LiveRunFiles LiveRunInput where
  answer := answer

end LiveRunFiles

/-! ## Steps -/

namespace LiveRunCall

/-- The step has written the line that declares the run as started. -/
@[simp] def startsRun : (call : LiveRunCall) → LiveRunReply call → Bool
  | .writeJournal (.runStarted _), .ok _ => true
  | _, _ => false

/-- The step has run a case. -/
@[simp] def runsCase : LiveRunCall → Bool
  | .runLiveCase _ _ _ => true
  | _ => false

/-- The step looks for the journal. -/
def looks : LiveRunCall → Bool
  | .pathExists .journal => true
  | _ => false

/-- What a reply of the surroundings raises. -/
@[simp] def raised : (call : LiveRunCall) → LiveRunReply call → Option LiveRunFailure
  | .loadHardModeManifest, .error failure => some failure
  | .providerFromEnvironment, .error failure => some failure
  | .preflightVertexAuthentication, .error failure => some failure
  | .readGate, .error failure => some failure
  | .prepareRepository _, .error failure => some failure
  | .makeParent, .error failure => some failure
  | .openJournal, .error failure => some failure
  | .writeJournal _, .error failure => some failure
  | .hashGate, .error failure => some failure
  | .writeRaw _, .error failure => some failure
  | .hashRaw, .error failure => some failure
  | _, _ => none

end LiveRunCall

section Runs

variable {ι : Type}

/-- A step of some process that has written a first line. -/
def startsRun (event : PoolEvent ι LiveRunReply) : Bool := event.call.startsRun event.reply

variable [DecidableEq ι]

/-- The steps since a process has looked for the journal, latest first. -/
def sinceLook (who : ι) (history : List (PoolEvent ι LiveRunReply)) :
    List (PoolEvent ι LiveRunReply) :=
  history.takeWhile fun event => !(decide (event.who = who) && event.call.looks)

/-- The processes, each with the provider that it was given, and the files they find. -/
def liveRuns (providers : ι → Option GeminiProviderSurface) (files : LiveRunFiles) :
    Pool ι LiveRunReply LiveRunFiles LiveRunFailure RawRun where
  shared := files
  threads who := runLive (providers who)

/-- The condition on a schedule.  No other process has started since the look of a process that
writes its first line, and what a process meets before it has started is a configuration error if
it is one at all. -/
structure Undisturbed (pool : Pool ι LiveRunReply LiveRunFiles LiveRunFailure RawRun) (who : ι)
    (call : LiveRunCall) (input : LiveRunInput) : Prop where
  alone : call.startsRun (input call) = true →
    (sinceLook who pool.history).any startsRun = false
  configuration : (pool.history.any fun event => decide (event.who = who) && startsRun event) =
    false → (call.raised (input call)).all LiveRunFailure.isConfiguration = true

instance (pool : Pool ι LiveRunReply LiveRunFiles LiveRunFailure RawRun) (who : ι)
    (call : LiveRunCall) (input : LiveRunInput) : Decidable (Undisturbed pool who call input) :=
  decidable_of_iff
    ((call.startsRun (input call) = true →
      (sinceLook who pool.history).any startsRun = false) ∧
    ((pool.history.any fun event => decide (event.who = who) && startsRun event) = false →
      (call.raised (input call)).all LiveRunFailure.isConfiguration = true))
    ⟨fun both => ⟨both.1, both.2⟩, fun undisturbed =>
      ⟨undisturbed.alone, undisturbed.configuration⟩⟩

/-- **A declared run starts at most once.**  One first line is written, cases are run by its writer
alone, and every other process that has ended has raised a `HardModeConfigurationError`. -/
structure StartsOnce (pool : Pool ι LiveRunReply LiveRunFiles LiveRunFailure RawRun) : Prop where
  once : (pool.history.filter startsRun).length ≤ 1
  cases : ∀ event ∈ pool.history, event.call.runsCase = true →
    ∃ start ∈ pool.history, startsRun start = true ∧ start.who = event.who
  others : ∀ who outcome, pool.threads who = .done outcome →
    (∃ start ∈ pool.history, startsRun start = true ∧ start.who = who) ∨
      ∃ message, outcome = .error (.hardMode (.configuration message))

/-! ## The protocol of one process -/

/-- How far a process has come. -/
inductive LiveRunPhase where
  | fresh
  | foundNoJournal
  | preparing
  | opened
  | started
  | refused
  | gaveUp (failure : LiveRunFailure)

/-- What a process asks while it prepares. -/
@[simp] def LiveRunCall.Prepares : LiveRunCall → Bool
  | .loadHardModeManifest | .providerFromEnvironment | .configuredModel
  | .preflightVertexAuthentication | .readGate | .prepareRepository _ | .makeParent => true
  | _ => false

/-- A line other than the first. -/
@[simp] def LiveRunCall.Continues : LiveRunCall → Bool
  | .writeJournal (.runStarted _) | .pathExists _ => false
  | _ => true

/-- The moves of a process. -/
inductive LiveRunMove :
    LiveRunPhase → (call : LiveRunCall) → LiveRunReply call → LiveRunPhase → Prop
  | journalThere : LiveRunMove .fresh (.pathExists .journal) true .refused
  | noJournal : LiveRunMove .fresh (.pathExists .journal) false .foundNoJournal
  | resultThere : LiveRunMove .foundNoJournal (.pathExists .raw) true .refused
  | noResult : LiveRunMove .foundNoJournal (.pathExists .raw) false .preparing
  | prepare {call : LiveRunCall} {reply : LiveRunReply call} (prepares : call.Prepares = true) :
      call.raised reply = none → LiveRunMove .preparing call reply .preparing
  | giveUp {call : LiveRunCall} {reply : LiveRunReply call} {failure : LiveRunFailure}
      (prepares : call.Prepares = true) :
      call.raised reply = some failure → LiveRunMove .preparing call reply (.gaveUp failure)
  | cannotOpen {failure : LiveRunFailure} :
      LiveRunMove .preparing .openJournal (.error failure) (.gaveUp failure)
  | opens : LiveRunMove .preparing .openJournal (.ok ()) .opened
  | cannotWrite {started : RunStarted} {failure : LiveRunFailure} :
      LiveRunMove .opened (.writeJournal (.runStarted started)) (.error failure) (.gaveUp failure)
  | starts {started : RunStarted} :
      LiveRunMove .opened (.writeJournal (.runStarted started)) (.ok ()) .started
  | continues {call : LiveRunCall} {reply : LiveRunReply call} (continues : call.Continues = true) :
      LiveRunMove .started call reply .started

/-- The protocol of `run_live`. -/
def liveRunProtocol : Protocol LiveRunReply LiveRunPhase where
  Assumes _ _ := True
  Move := LiveRunMove

/-- In which phase a process may raise which exception. -/
inductive LiveRunRaises : LiveRunPhase → LiveRunFailure → Prop
  | refused (message : String) : LiveRunRaises .refused (.hardMode (.configuration message))
  | misconfigured (message : String) : LiveRunRaises .preparing (.hardMode (.configuration message))
  | gaveUp (failure : LiveRunFailure) : LiveRunRaises (.gaveUp failure) failure
  | started (failure : LiveRunFailure) : LiveRunRaises .started failure

/-- A program of a live run that keeps to the protocol and returns in a phase. -/
abbrev Proceeds {α : Type} (first last : LiveRunPhase) (program : LiveRun α) : Prop :=
  program.Follows liveRunProtocol (fun phase _ => phase = last) LiveRunRaises first

/-- A part that stays in its phase is followed by a part that starts there. -/
theorem Proceeds.through {α β : Type} {first last : LiveRunPhase} {program : LiveRun α}
    {rest : α → LiveRun β} (middle : LiveRunPhase) (proceeds : Proceeds first middle program)
    (next : ∀ value, Proceeds middle last (rest value)) :
    Proceeds first last (program >>= rest) := by
  apply Program.Follows.bind proceeds
  rintro role value rfl
  exact next value

theorem Proceeds.bind {α β : Type} {first middle last : LiveRunPhase} {program : LiveRun α}
    {rest : α → LiveRun β} (proceeds : Proceeds first middle program)
    (next : ∀ value, Proceeds middle last (rest value)) : Proceeds first last (program >>= rest) :=
  proceeds.through middle next

/-- A loop whose rounds stay in their phase stays in it. -/
theorem Proceeds.foldlM {α β : Type} {phase : LiveRunPhase} {items : List α}
    {step : β → α → LiveRun β} (start : β)
    (round : ∀ value item, Proceeds phase phase (step value item)) :
    Proceeds phase phase (items.foldlM step start) := by
  refine @Program.Follows.foldlM _ _ _ _ _ _ _ _ _ items step (fun role _ => role = phase) start
    rfl ?_
  rintro item _ role value rfl
  exact round value item

/-- A raise of the harness while it prepares. -/
theorem proceeds_misconfigured {α : Type} (last : LiveRunPhase) (message : String) :
    Proceeds .preparing last (LiveRun.misconfigured message : LiveRun α) :=
  LiveRunRaises.misconfigured message

/-- A step of the preparation that may give up. -/
theorem proceeds_prepare {α : Type} {call : LiveRunCall} (prepares : call.Prepares = true)
    (next : LiveRunReply call → Except LiveRunFailure α)
    (raises : ∀ reply failure, next reply = .error failure → call.raised reply = some failure)
    (returns : ∀ reply value, next reply = .ok value → call.raised reply = none) :
    Proceeds .preparing .preparing (.ask call fun reply => .done (next reply)) := by
  intro reply _
  cases result : next reply with
  | ok value =>
      refine ⟨.preparing, .prepare prepares (returns reply value result), ?_⟩
      simp only [result]
      exact rfl
  | error failure =>
      refine ⟨.gaveUp failure, .giveUp prepares (raises reply failure result), ?_⟩
      simp only [result]
      exact LiveRunRaises.gaveUp failure

/-- A step after the start. -/
theorem proceeds_started {α : Type} {call : LiveRunCall} (continues : call.Continues = true)
    (next : LiveRunReply call → LiveRun α)
    (rest : ∀ reply, Proceeds .started .started (next reply)) :
    Proceeds .started .started (.ask call next) := by
  intro reply _
  exact ⟨.started, .continues continues, rest reply⟩

/-- A validated manifest has cases, so its preflight raises nothing else. -/
theorem modelCallBudgetPreflight_error {manifest : HardModeManifest} {failure : HardModeFailure}
    (fails : modelCallBudgetPreflight manifest = .error failure) :
    ∃ message, failure = .configuration message := by
  obtain ⟨others, counted⟩ : ∃ others, manifest.cases.length = others + 1 :=
    ⟨manifest.cases.length - 1, by have := manifest.counted.1; omega⟩
  unfold modelCallBudgetPreflight at fails
  rw [counted, manifest.protocol.deriveMaximumPossibleLogicalModelCalls_succ,
    manifest.protocol.deriveMaximumPossibleProviderCalls_succ, Guard.ok_bind,
    Guard.ok_bind] at fails
  split at fails
  · cases fails
    exact ⟨_, rfl⟩
  · split at fails
    · split_ifs at fails <;> cases fails <;> exact ⟨_, rfl⟩
    · cases fails
      exact ⟨_, rfl⟩

theorem proceeds_loadGate (manifestSha256 : String) (caseCount : Nat) :
    Proceeds .preparing .preparing (loadGate manifestSha256 caseCount) := by
  unfold loadGate
  apply Proceeds.through .preparing
  · apply proceeds_prepare rfl <;> rintro (failure | gate) <;> simp [LiveRunCall.raised]
  · intro gate
    cases gate with
    | none => exact proceeds_misconfigured _ _
    | some gate =>
        dsimp only
        split
        · exact proceeds_misconfigured _ _
        · exact .pure rfl

theorem proceeds_resolveProvider (providerConfig : Option GeminiProviderSurface) :
    Proceeds .preparing .preparing (resolveProvider providerConfig) := by
  cases providerConfig with
  | some surface => exact .pure rfl
  | none => apply proceeds_prepare rfl <;> rintro (failure | value) <;> simp [LiveRunCall.raised]

theorem proceeds_preflightAuthentication (surface : GeminiProviderSurface) :
    Proceeds .preparing .preparing (preflightAuthentication surface) := by
  cases surface with
  | geminiDeveloperApi => exact .pure rfl
  | vertexAi =>
      apply proceeds_prepare rfl <;> rintro (failure | value) <;> simp [LiveRunCall.raised]

theorem proceeds_prepareRepositories (manifest : LiveRunManifest) (manifestSha256 : String) :
    Proceeds .preparing .preparing (prepareRepositories manifest manifestSha256) := by
  unfold prepareRepositories
  apply Proceeds.bind (proceeds_loadGate _ _)
  intro gate
  apply Proceeds.through .preparing
  · apply Proceeds.foldlM
    intro _ case
    apply proceeds_prepare rfl <;> rintro (failure | value) <;> simp [LiveRunCall.raised]
  · intro _
    apply Proceeds.through .preparing
    · apply proceeds_prepare rfl <;> rintro (failure | value) <;> simp [LiveRunCall.raised]
    · exact fun _ => .pure rfl

theorem proceeds_prepareRun (providerConfig : Option GeminiProviderSurface) :
    Proceeds .preparing .preparing (prepareRun providerConfig) := by
  unfold prepareRun
  apply Proceeds.through .preparing
  · apply proceeds_prepare rfl <;> rintro (failure | loaded) <;> simp [LiveRunCall.raised]
  · intro loaded
    apply Proceeds.through .preparing
    · cases budget : modelCallBudgetPreflight loaded.1.toHardModeManifest with
      | ok callBudget => exact .pure rfl
      | error failure =>
          obtain ⟨message, rfl⟩ := modelCallBudgetPreflight_error budget
          exact LiveRunRaises.misconfigured message
    · intro callBudget
      split
      · exact proceeds_misconfigured _ _
      · apply Proceeds.bind (proceeds_resolveProvider providerConfig)
        intro resolvedSurface
        apply Proceeds.through .preparing
        · exact fun reply _ => ⟨.preparing, .prepare rfl rfl, rfl⟩
        · intro configuredModel
          split_ifs
          · exact proceeds_misconfigured _ _
          · exact proceeds_misconfigured _ _
          · apply Proceeds.bind (proceeds_preflightAuthentication resolvedSurface)
            intro _
            apply Proceeds.bind (proceeds_prepareRepositories _ _)
            exact fun _ => .pure rfl

/-! ## From the first line to the last -/

/-- The first line of a process. -/
theorem proceeds_firstLine (started : RunStarted) :
    Proceeds .preparing .started (appendJournal (.runStarted started)) := by
  apply Proceeds.through .opened
  · rintro (failure | _) _
    · exact ⟨_, .cannotOpen, .gaveUp failure⟩
    · exact ⟨_, .opens, rfl⟩
  · rintro _ (failure | _) _
    · exact ⟨_, .cannotWrite, .gaveUp failure⟩
    · exact ⟨_, .starts, rfl⟩

/-- Whatever a step after the start ends with. -/
theorem proceeds_ask {α : Type} {call : LiveRunCall} (continues : call.Continues = true)
    (next : LiveRunReply call → Except LiveRunFailure α) :
    Proceeds .started .started (.ask call fun reply => .done (next reply)) := by
  apply proceeds_started continues
  intro reply
  cases next reply with
  | ok value => exact rfl
  | error failure => exact LiveRunRaises.started failure

/-- Every later line. -/
theorem proceeds_appendJournal {entry : JournalEntry}
    (later : (LiveRunCall.writeJournal entry).Continues = true) :
    Proceeds .started .started (appendJournal entry) :=
  (proceeds_ask rfl _).bind fun _ => proceeds_ask later _

namespace PreparedRun

variable (prepared : PreparedRun)

theorem proceeds_paceBetweenCases (completedCaseId nextCaseId : String) :
    Proceeds .started .started (prepared.paceBetweenCases completedCaseId nextCaseId) := by
  unfold paceBetweenCases
  cases prepared.manifest.pacingPolicy with
  | none => exact .pure rfl
  | betweenCases =>
      apply Proceeds.through .started
      · exact proceeds_appendJournal rfl
      · intro _
        apply Proceeds.through .started
        · exact proceeds_started rfl _ fun _ => .pure rfl
        · exact fun _ => proceeds_appendJournal rfl

theorem proceeds_paceBefore (nextCaseId : String) (completed : Option String) :
    Proceeds .started .started (prepared.paceBefore nextCaseId completed) := by
  cases completed with
  | none => exact .pure rfl
  | some completedCaseId => exact prepared.proceeds_paceBetweenCases completedCaseId nextCaseId

theorem proceeds_caseResult (case : HardModeCase) :
    Proceeds .started .started (prepared.caseResult case) := by
  unfold caseResult
  split
  · exact .pure rfl
  · apply proceeds_started rfl
    rintro (⟨type, message⟩ | document)
    · exact .pure rfl
    · exact .pure rfl

theorem proceeds_runCase (done : Option String × List LiveCaseDocument) (case : HardModeCase) :
    Proceeds .started .started (prepared.runCase done case) := by
  unfold runCase
  apply Proceeds.bind (prepared.proceeds_paceBefore _ _)
  intro _
  apply Proceeds.bind (proceeds_appendJournal rfl)
  intro _
  apply Proceeds.bind (prepared.proceeds_caseResult case)
  intro result
  apply Proceeds.bind (proceeds_appendJournal rfl)
  exact fun _ => .pure rfl

theorem proceeds_execute : Proceeds .preparing .started prepared.execute := by
  unfold execute
  apply Proceeds.bind (proceeds_firstLine _)
  intro _
  apply Proceeds.through .started
  · exact Proceeds.foldlM _ prepared.proceeds_runCase
  · rintro ⟨_, results⟩
    apply Proceeds.bind (proceeds_ask rfl _)
    intro oracleGateSha256
    apply Proceeds.bind (proceeds_ask rfl _)
    intro _
    apply Proceeds.bind (proceeds_ask rfl _)
    intro rawSha256
    apply Proceeds.bind (proceeds_appendJournal rfl)
    exact fun _ => .pure rfl

end PreparedRun

/-- **One process keeps to its protocol.** -/
theorem proceeds_runLive (providerConfig : Option GeminiProviderSurface) :
    Proceeds .fresh .started (runLive providerConfig) := by
  rintro (_ | _) _
  · refine ⟨.foundNoJournal, .noJournal, ?_⟩
    rintro (_ | _) _
    · refine ⟨.preparing, .noResult, ?_⟩
      exact (proceeds_prepareRun providerConfig).bind PreparedRun.proceeds_execute
    · exact ⟨.refused, .resultThere, .refused alreadyStarted⟩
  · exact ⟨.refused, .journalThere, .refused alreadyStarted⟩

/-! ## What one step changes -/

namespace LiveRunFiles

variable (files : LiveRunFiles) (input : LiveRunInput)

theorem raised_answer (call : LiveRunCall) :
    call.raised (files.answer input call).1 = call.raised (input call) := by
  cases call with
  | pathExists file => cases file <;> rfl
  | openJournal => simp only [answer]; cases input .openJournal <;> rfl
  | writeJournal entry => simp only [answer]; cases input (.writeJournal entry) <;> rfl
  | writeRaw raw => simp only [answer]; cases input (.writeRaw raw) <;> rfl
  | _ => rfl

theorem startsRun_answer (call : LiveRunCall) :
    call.startsRun (files.answer input call).1 = call.startsRun (input call) := by
  cases call with
  | writeJournal entry =>
      simp only [answer]
      cases told : input (.writeJournal entry) <;> cases entry <;> rfl
  | _ => rfl

/-- No step removes the journal. -/
theorem journal_answer (call : LiveRunCall) (there : files.journal.isSome = true) :
    (files.answer input call).2.journal.isSome = true := by
  cases call with
  | pathExists file => cases file <;> exact there
  | openJournal => simp only [answer]; cases input .openJournal <;> simp [there]
  | writeJournal entry => simp only [answer]; cases input (.writeJournal entry) <;> simp [there]
  | writeRaw raw => simp only [answer]; cases input (.writeRaw raw) <;> exact there
  | _ => exact there

/-- A process that has opened the journal has created it. -/
theorem journal_opened (opens : (files.answer input .openJournal).1 = .ok ()) :
    (files.answer input .openJournal).2.journal.isSome = true := by
  simp only [answer] at opens ⊢
  cases told : input .openJournal with
  | ok _ => rfl
  | error failure => rw [told] at opens; cases opens

end LiveRunFiles

namespace LiveRunPhase

/-- The process has created the journal, or found it when it opened it. -/
@[simp] def HasJournal : LiveRunPhase → Bool
  | .opened | .started => true
  | _ => false

/-- The process has looked, and has not yet written. -/
@[simp] def IsWaiting : LiveRunPhase → Bool
  | .foundNoJournal | .preparing | .opened => true
  | _ => false

end LiveRunPhase

namespace LiveRunMove

variable {role moved : LiveRunPhase} {call : LiveRunCall} {reply : LiveRunReply call}

/-- Only a process that has opened the journal writes a first line. -/
theorem starts_iff (move : LiveRunMove role call reply moved) :
    call.startsRun reply = true ↔ role = .opened ∧ moved = .started := by
  cases move with
  | prepare prepares _ => cases call <;> simp_all [LiveRunCall.startsRun, LiveRunCall.Prepares]
  | giveUp prepares _ => cases call <;> simp_all [LiveRunCall.startsRun, LiveRunCall.Prepares]
  | continues continues =>
      cases call with
      | writeJournal entry =>
          cases entry <;> simp_all [LiveRunCall.startsRun, LiveRunCall.Continues]
      | _ => simp [LiveRunCall.startsRun]
  | _ => simp [LiveRunCall.startsRun]

/-- A process is started by its first line alone, and remains so. -/
theorem started_iff (move : LiveRunMove role call reply moved) :
    moved = .started ↔ role = .started ∨ call.startsRun reply = true := by
  rw [move.starts_iff]
  cases move <;> simp

/-- Only a process that has started runs cases. -/
theorem of_runsCase (move : LiveRunMove role call reply moved)
    (runs : call.runsCase = true) : moved = .started := by
  cases move with
  | prepare prepares _ => cases call <;> simp_all [LiveRunCall.runsCase, LiveRunCall.Prepares]
  | giveUp prepares _ => cases call <;> simp_all [LiveRunCall.runsCase, LiveRunCall.Prepares]
  | continues _ => rfl
  | _ => simp [LiveRunCall.runsCase] at runs

/-- A process that waits has looked just now and found nothing, or it waited before. -/
theorem of_isWaiting {files : LiveRunFiles} {input : LiveRunInput}
    (move : LiveRunMove role call (files.answer input call).1 moved)
    (waits : moved.IsWaiting = true) :
    (role.IsWaiting = true ∧ call.looks = false) ∨ files.journal.isSome = false := by
  generalize told : (files.answer input call).1 = reply at move
  cases move with
  | noJournal => exact .inr told
  | prepare prepares _ =>
      cases call <;> simp_all [LiveRunCall.looks, LiveRunCall.Prepares, LiveRunPhase.IsWaiting]
  | giveUp prepares _ => simp [LiveRunPhase.IsWaiting] at waits
  | continues _ => simp [LiveRunPhase.IsWaiting] at waits
  | _ => simp_all [LiveRunCall.looks, LiveRunPhase.IsWaiting]

/-- A process that has the journal has opened it just now, or it had it before. -/
theorem journal_of_hasJournal {files : LiveRunFiles} {input : LiveRunInput}
    (move : LiveRunMove role call (files.answer input call).1 moved)
    (before : role.HasJournal = true → files.journal.isSome = true)
    (has : moved.HasJournal = true) :
    (files.answer input call).2.journal.isSome = true := by
  generalize told : (files.answer input call).1 = reply at move
  cases move with
  | opens => exact files.journal_opened input told
  | starts => exact files.journal_answer input _ (before rfl)
  | continues _ => exact files.journal_answer input _ (before rfl)
  | _ => simp [LiveRunPhase.HasJournal] at has

/-- A process gives up with what it has just met. -/
theorem of_gaveUp {failure : LiveRunFailure}
    (move : LiveRunMove role call reply (.gaveUp failure)) :
    role ≠ .started ∧ call.raised reply = some failure := by
  cases move with
  | giveUp prepares raised => exact ⟨nofun, raised⟩
  | cannotOpen => exact ⟨nofun, rfl⟩
  | cannotWrite => exact ⟨nofun, rfl⟩

end LiveRunMove

/-! ## What holds along a schedule -/

/-- The phases account for the files and the steps so far. -/
structure LiveRunsAccounted (files : LiveRunFiles) (history : List (PoolEvent ι LiveRunReply))
    (phases : ι → LiveRunPhase) : Prop where
  journal : ∀ who, (phases who).HasJournal = true → files.journal.isSome = true
  writers : ∀ event ∈ history, startsRun event = true → phases event.who = .started
  written : ∀ who, phases who = .started →
    ∃ event ∈ history, startsRun event = true ∧ event.who = who
  once : (history.filter startsRun).length ≤ 1
  waiting : ∀ who, (phases who).IsWaiting = true →
    (sinceLook who history).any startsRun = false → history.any startsRun = false
  cases : ∀ event ∈ history, event.call.runsCase = true → phases event.who = .started
  gaveUp : ∀ who failure, phases who = .gaveUp failure → failure.isConfiguration = true

/-- A step of another process, or one that does not look, is a step since the look. -/
theorem sinceLook_cons {who : ι} {event : PoolEvent ι LiveRunReply}
    {history : List (PoolEvent ι LiveRunReply)}
    (quiet : event.who = who → event.call.looks = false) :
    sinceLook who (event :: history) = event :: sinceLook who history := by
  apply List.takeWhile_cons_of_pos
  by_cases same : event.who = who
  · simp [quiet same]
  · simp [same]

namespace LiveRunsAccounted

variable {files : LiveRunFiles} {history : List (PoolEvent ι LiveRunReply)}
  {phases : ι → LiveRunPhase} {who : ι} {call : LiveRunCall} {input : LiveRunInput}
  {moved : LiveRunPhase}

/-- Without a journal, nothing has been started. -/
theorem any_startsRun (accounted : LiveRunsAccounted files history phases)
    (none : files.journal.isSome = false) : history.any startsRun = false := by
  rw [List.any_eq_false]
  intro event mem starts
  have there := accounted.journal event.who (by rw [accounted.writers event mem starts]; rfl)
  rw [none] at there
  cases there

/-- A process that has not started has written no first line. -/
theorem own_any (accounted : LiveRunsAccounted files history phases)
    (not : phases who ≠ .started) :
    (history.any fun event => decide (event.who = who) && startsRun event) = false := by
  rw [List.any_eq_false]
  intro event mem both
  rw [Bool.and_eq_true, decide_eq_true_eq] at both
  exact not (both.1 ▸ accounted.writers event mem both.2)

/-- No process has looked yet. -/
theorem initially (files : LiveRunFiles) :
    LiveRunsAccounted files [] fun _ : ι => LiveRunPhase.fresh where
  journal _ has := absurd has Bool.false_ne_true
  writers _ mem := absurd mem List.not_mem_nil
  written _ started := LiveRunPhase.noConfusion started
  once := Nat.zero_le 1
  waiting _ waits := absurd waits Bool.false_ne_true
  cases _ mem := absurd mem List.not_mem_nil
  gaveUp _ _ gaveUp := LiveRunPhase.noConfusion gaveUp

/-- **One step keeps the account.** -/
theorem step {pool : Pool ι LiveRunReply LiveRunFiles LiveRunFailure RawRun}
    (accounted : LiveRunsAccounted pool.shared pool.history phases)
    (undisturbed : Undisturbed pool who call input)
    (move : LiveRunMove (phases who) call (pool.shared.answer input call).1 moved) :
    LiveRunsAccounted (pool.shared.answer input call).2
      (⟨who, call, (pool.shared.answer input call).1⟩ :: pool.history)
      (Function.update phases who moved) := by
  have stays : ∀ other, phases other = .started →
      Function.update phases who moved other = .started := by
    intro other started
    by_cases same : other = who
    · subst same
      rw [Function.update_self, move.started_iff]
      exact .inl started
    · rwa [Function.update_of_ne same]
  constructor
  case journal =>
    intro other has
    by_cases same : other = who
    · subst same
      rw [Function.update_self] at has
      exact move.journal_of_hasJournal (accounted.journal other) has
    · rw [Function.update_of_ne same] at has
      exact pool.shared.journal_answer input call (accounted.journal other has)
  case writers =>
    rintro event (_ | ⟨_, mem⟩) starts
    · rw [Function.update_self]
      exact (move.starts_iff.mp starts).2
    · exact stays _ (accounted.writers event mem starts)
  case written =>
    intro other started
    by_cases same : other = who
    · subst same
      rw [Function.update_self, move.started_iff] at started
      rcases started with before | now
      · obtain ⟨event, mem, starts, by_who⟩ := accounted.written other before
        exact ⟨event, .tail _ mem, starts, by_who⟩
      · exact ⟨_, .head _, now, rfl⟩
    · rw [Function.update_of_ne same] at started
      obtain ⟨event, mem, starts, by_who⟩ := accounted.written other started
      exact ⟨event, .tail _ mem, starts, by_who⟩
  case once =>
    rw [List.filter_cons]
    split
    · rename_i starts
      have waits : (phases who).IsWaiting = true := by rw [(move.starts_iff.mp starts).1]; rfl
      have alone := undisturbed.alone (by rw [← pool.shared.startsRun_answer]; exact starts)
      have nobody := accounted.waiting who waits alone
      have empty : pool.history.filter startsRun = [] := by
        rw [List.filter_eq_nil_iff]
        exact List.any_eq_false.mp nobody
      rw [empty]
      exact Nat.le_refl 1
    · exact accounted.once
  case waiting =>
    intro other waits alone
    by_cases same : other = who
    · subst same
      rw [Function.update_self] at waits
      rcases move.of_isWaiting waits with ⟨before, quiet⟩ | none
      · rw [sinceLook_cons fun _ => quiet, List.any_cons, Bool.or_eq_false_iff] at alone
        rw [List.any_cons, alone.1, accounted.waiting other before alone.2]
        rfl
      · rw [List.any_cons, accounted.any_startsRun none, Bool.or_false, Bool.eq_false_iff]
        intro starts
        rw [(move.starts_iff.mp starts).2] at waits
        cases waits
    · rw [Function.update_of_ne same] at waits
      rw [sinceLook_cons fun by_other => absurd by_other.symm same, List.any_cons,
        Bool.or_eq_false_iff] at alone
      rw [List.any_cons, alone.1, accounted.waiting other waits alone.2]
      rfl
  case cases =>
    rintro event (_ | ⟨_, mem⟩) runs
    · rw [Function.update_self]
      exact move.of_runsCase runs
    · exact stays _ (accounted.cases event mem runs)
  case gaveUp =>
    intro other failure gaveUp
    by_cases same : other = who
    · subst same
      rw [Function.update_self] at gaveUp
      subst gaveUp
      obtain ⟨not, raised⟩ := move.of_gaveUp
      have all := undisturbed.configuration (accounted.own_any not)
      rw [← pool.shared.raised_answer, raised] at all
      exact all
    · rw [Function.update_of_ne same] at gaveUp
      exact accounted.gaveUp other failure gaveUp

end LiveRunsAccounted

/-- Every step of a schedule under the condition keeps the account. -/
theorem keeps_liveRunsAccounted :
    Pool.Keeps LiveRunFiles.shared (fun _ : ι => liveRunProtocol)
      (@Undisturbed ι _) LiveRunsAccounted where
  assumed _ _ := trivial
  kept accounted undisturbed move := accounted.step undisturbed move

/-- **A declared run starts at most once, under the condition.**  In every state that any
processes reach on a schedule whose steps all meet it, at most one process has started, only that
one has run cases, and every other that has ended has raised a configuration error. -/
theorem startsOnce_of_undisturbed (providers : ι → Option GeminiProviderSurface)
    (files : LiveRunFiles) (schedule : List (ι × LiveRunInput))
    (along : Pool.Along LiveRunFiles.shared Undisturbed (liveRuns providers files) schedule) :
    StartsOnce (Pool.run LiveRunFiles.shared (liveRuns providers files) schedule) := by
  have initially : Pool.Accounted (fun _ => liveRunProtocol) (fun _ phase _ => phase = .started)
      (fun _ => LiveRunRaises) LiveRunsAccounted (liveRuns providers files) fun _ => .fresh := by
    exact ⟨fun who => proceeds_runLive (providers who), .initially files⟩
  obtain ⟨phases, accounted⟩ := Pool.run_invariant initially keeps_liveRunsAccounted schedule along
  refine ⟨accounted.holds.once, ?_, ?_⟩
  · intro event mem runs
    exact accounted.holds.written _ (accounted.holds.cases event mem runs)
  · intro who outcome ended
    have follows := accounted.follows who
    rw [ended] at follows
    cases outcome with
    | ok raw => exact .inl (accounted.holds.written who follows)
    | error failure =>
        generalize same : phases who = phase at follows
        cases follows with
        | refused message => exact .inr ⟨message, rfl⟩
        | misconfigured message => exact .inr ⟨message, rfl⟩
        | started failure => exact .inl (accounted.holds.written who same)
        | gaveUp failure =>
            have configuration := accounted.holds.gaveUp who failure same
            match failure, configuration with
            | .hardMode (.configuration message), _ => exact .inr ⟨message, rfl⟩

end Runs

/-! ## Two processes -/

/-- A manifest whose preflight passes, for a run without pauses. -/
def soloManifest : LiveRunManifest where
  protocol :=
    { claimCallsPerCase := 1
      candidateCallsPerCase := 3
      assessmentCallsPerDiscriminatingCase := 1
      transientProviderRetriesPerLogicalCall := 1
      maximumPossibleLogicalModelCalls := some 25
      maximumPossibleProviderCalls := some 50
      declaredAvailableProviderCalls := some 50
      modelCallBudgetPreflightPassed := some true
      oneClaimCall := HardModeProtocol.one_call
      candidateCalls := HardModeProtocol.three_calls
      oneAssessmentCall := HardModeProtocol.one_call
      retries := .inr rfl }
  cases := [⟨"a", .historicalPr, "r"⟩, ⟨"b", .historicalPr, "r"⟩, ⟨"c", .historicalPr, "s"⟩,
    ⟨"d", .historicalPr, "s"⟩, ⟨"e", .localSynthetic, "t"⟩]
  counted := by decide
  budgetConsistent := rfl
  covered := by decide
  declared := .inr ⟨rfl, rfl⟩
  declaredRunId := "run"
  modelName := "model"
  providerSurface := some .geminiDeveloperApi
  pacingPolicy := .none
  interCaseDelaySeconds := 0

/-- Everything succeeds. -/
def soundInput : LiveRunInput
  | .pathExists _ => false
  | .loadHardModeManifest => .ok (soloManifest, "m")
  | .providerFromEnvironment => .ok .geminiDeveloperApi
  | .configuredModel => none
  | .preflightVertexAuthentication => .ok ()
  | .readGate => .ok (some ⟨true, "m", 5, []⟩)
  | .prepareRepository _ => .ok ()
  | .makeParent => .ok ()
  | .openJournal => .ok ()
  | .writeJournal _ => .ok ()
  | .sleep _ => ()
  | .runLiveCase _ _ _ => .ok "done"
  | .hashGate => .ok "g"
  | .writeRaw _ => .ok ()
  | .hashRaw => .ok "w"

/-- Nothing has been written. -/
def noFiles : LiveRunFiles := ⟨none, none⟩

/-- The two processes. -/
def twoLiveRuns : Pool Bool LiveRunReply LiveRunFiles LiveRunFailure RawRun :=
  liveRuns (fun _ => none) noFiles

/-- Both processes look before either has written. -/
def racing : List (Bool × LiveRunInput) :=
  (true, soundInput) :: List.replicate 14 (false, soundInput) ++
    List.replicate 13 (true, soundInput)

/-- The second process looks after the first has written. -/
def successive : List (Bool × LiveRunInput) :=
  List.replicate 14 (false, soundInput) ++ [(true, soundInput)]

/-- Both processes start. -/
theorem racing_startsTwice :
    ¬ StartsOnce (Pool.run LiveRunFiles.shared twoLiveRuns racing) := by
  intro starts
  have twice :
      ((Pool.run LiveRunFiles.shared twoLiveRuns racing).history.filter startsRun).length = 2 := by
    decide +kernel
  have once := starts.once
  omega

/-- The second process refuses. -/
theorem successive_startsOnce :
    StartsOnce (Pool.run LiveRunFiles.shared twoLiveRuns successive) :=
  startsOnce_of_undisturbed _ _ successive (by decide +kernel)

end PatchProof
