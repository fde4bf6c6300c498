import PatchProof.Library.Pool

/-!
# One program at a time

A program runs alone against a shared object for as long as it is given inputs.  When
they run out it is cut off where it stands, which is a crash, and another program may
start from the object that it left.

`Secures` is the rule for such runs.  From a state on, an invariant holds at every
point at which the program can be cut off, and when the program ends, its outcome and
the state are as stated; the surroundings may be known to meet a condition at every
input.  It is proved part by part, like a Hoare triple, and `Secures.drive` says what it means for the runs themselves.
-/

set_option autoImplicit false

namespace Program

variable {Call : Type} {Reply : Call → Type} {σ Input ε α β : Type}

section Drive

variable (object : SharedObject Reply σ Input)

/-- Run a program alone until it ends or the inputs run out. -/
def drive : Program Reply ε α → σ → List Input → Program Reply ε α × σ
  | .done outcome, state, _ => (.done outcome, state)
  | .ask call next, state, [] => (.ask call next, state)
  | .ask call next, state, input :: rest =>
      (next (object.answer state input call).1).drive (object.answer state input call).2 rest

/-- Run programs one after another, each for its own inputs. -/
def driveAll (programs : List (Program Reply ε α × List Input)) (state : σ) : σ :=
  programs.foldl (fun reached attempt => (attempt.1.drive object reached attempt.2).2) state

theorem drive_append (program : Program Reply ε α) (state : σ) (inputs more : List Input) :
    program.drive object state (inputs ++ more) =
      (program.drive object state inputs).1.drive object (program.drive object state inputs).2
        more := by
  induction program generalizing state inputs with
  | done outcome => cases more <;> simp [drive]
  | ask call next ih =>
      cases inputs with
      | nil => simp [drive]
      | cons input rest => exact ih _ _ _

/-- Every program ends when it is given inputs for long enough. -/
theorem exists_drive_done (program : Program Reply ε α) (state : σ) (inputs : ℕ → Input) :
    ∃ count outcome, (program.drive object state ((List.range count).map inputs)).1 =
      .done outcome := by
  induction program generalizing state inputs with
  | done outcome => exact ⟨0, outcome, rfl⟩
  | ask call next ih =>
      obtain ⟨count, outcome, ended⟩ := ih (object.answer state (inputs 0) call).1
        (object.answer state (inputs 0) call).2 fun index => inputs (index + 1)
      refine ⟨count + 1, outcome, ?_⟩
      rw [List.range_succ_eq_map, List.map_cons, List.map_map]
      exact ended

end Drive

section Secures

variable (object : SharedObject Reply σ Input) (allowed : σ → Input → Prop) (Invariant : σ → Prop)

/-- From a state on, the invariant holds wherever the program is cut off, and its end
is as stated. -/
def Secures (onEnd : Except ε α → σ → Prop) : Program Reply ε α → σ → Prop
  | .done outcome, state => Invariant state ∧ onEnd outcome state
  | .ask call next, state => Invariant state ∧ ∀ input, allowed state input →
      Secures onEnd (next (object.answer state input call).1) (object.answer state input call).2

variable {object allowed Invariant} {onEnd : Except ε α → σ → Prop} {program : Program Reply ε α}
  {state : σ}

theorem Secures.invariant (secures : Secures object allowed Invariant onEnd program state) :
    Invariant state := by
  cases program with
  | done outcome => exact secures.1
  | ask call next => exact secures.1

theorem Secures.pure {value : α} (holds : Invariant state) (ends : onEnd (.ok value) state) :
    Secures object allowed Invariant onEnd (Pure.pure value) state := ⟨holds, ends⟩

theorem Secures.raise {exception : ε} (holds : Invariant state)
    (ends : onEnd (.error exception) state) :
    Secures object allowed Invariant onEnd (raise exception) state := ⟨holds, ends⟩

/-- A weaker statement about the end. -/
theorem Secures.mono {onEnd' : Except ε α → σ → Prop}
    (secures : Secures object allowed Invariant onEnd program state)
    (weaker : ∀ outcome state, Invariant state → onEnd outcome state → onEnd' outcome state) :
    Secures object allowed Invariant onEnd' program state := by
  induction program generalizing state with
  | done outcome => exact ⟨secures.1, weaker outcome state secures.1 secures.2⟩
  | ask call next ih =>
      exact ⟨secures.1, fun input meets => ih _ (secures.2 input meets)⟩

/-- **The bind rule.** -/
theorem Secures.bind {rest : α → Program Reply ε β} {after : Except ε β → σ → Prop}
    (first : Secures object allowed Invariant onEnd program state)
    (returned : ∀ value state, Invariant state → onEnd (.ok value) state →
      Secures object allowed Invariant after (rest value) state)
    (raised : ∀ exception state, Invariant state → onEnd (.error exception) state →
      after (.error exception) state) :
    Secures object allowed Invariant after (program >>= rest) state := by
  induction program generalizing state with
  | done outcome =>
      cases outcome with
      | ok value => exact returned value state first.1 first.2
      | error exception => exact ⟨first.1, raised exception state first.1 first.2⟩
  | ask call next ih =>
      exact ⟨first.1, fun input meets => ih _ (first.2 input meets)⟩

/-- **The handler rule.** -/
theorem Secures.catching {handler : ε → Program Reply ε α} {handled : Except ε α → σ → Prop}
    (body : Secures object allowed Invariant onEnd program state)
    (returned : ∀ value state, Invariant state → onEnd (.ok value) state →
      handled (.ok value) state)
    (handles : ∀ exception state, Invariant state → onEnd (.error exception) state →
      Secures object allowed Invariant handled (handler exception) state) :
    Secures object allowed Invariant handled (program.catching handler) state := by
  induction program generalizing state with
  | done outcome =>
      cases outcome with
      | ok value => exact ⟨body.1, returned value state body.1 body.2⟩
      | error exception => exact handles exception state body.1 body.2
  | ask call next ih =>
      exact ⟨body.1, fun input meets => ih _ (body.2 input meets)⟩

theorem Secures.demand {condition : Prop} [Decidable condition] {exception : ε}
    {onEnd : Except ε Unit → σ → Prop} (holds : Invariant state)
    (passes : condition → onEnd (.ok ()) state)
    (fails : ¬ condition → onEnd (.error exception) state) :
    Secures object allowed Invariant onEnd (demand condition exception) state := by
  unfold Program.demand
  split
  · exact ⟨holds, passes ‹_›⟩
  · exact ⟨holds, fails ‹_›⟩

/-- An end that says something about a return and nothing about a raise. -/
def Returning (onReturn : α → σ → Prop) : Except ε α → σ → Prop
  | .ok value, state => onReturn value state
  | .error _, _ => True

/-- The bind rule where nothing is said about raises. -/
theorem Secures.bindReturning {rest : α → Program Reply ε β} {between : α → σ → Prop}
    {after : β → σ → Prop}
    (first : Secures object allowed Invariant (Returning between) program state)
    (returned : ∀ value state, Invariant state → between value state →
      Secures object allowed Invariant (Returning after) (rest value) state) :
    Secures object allowed Invariant (Returning after) (program >>= rest) state :=
  first.bind returned fun _ _ _ _ => trivial

theorem Secures.demandReturning {condition : Prop} [Decidable condition] {exception : ε}
    {rest : Unit → Program Reply ε β} {after : β → σ → Prop} (holds : Invariant state)
    (returned : condition → Secures object allowed Invariant (Returning after) (rest ()) state) :
    Secures object allowed Invariant (Returning after) (Program.demand condition exception >>= rest)
      state := by
  unfold Program.demand
  split
  · exact returned ‹_›
  · exact ⟨holds, trivial⟩

/-- An invariant that every answer keeps is secured by every program. -/
theorem Secures.of_stable
    (stable : ∀ state input call, Invariant state → allowed state input →
      Invariant (object.answer state input call).2) (program : Program Reply ε α)
    (holds : Invariant state) :
    Secures object allowed Invariant (fun _ _ => True) program state := by
  induction program generalizing state with
  | done outcome => exact ⟨holds, trivial⟩
  | ask call next ih =>
      exact ⟨holds, fun input meets => ih _ (stable state input call holds meets)⟩

/-- Every input of a run meets the condition in the state in which it is used. -/
def MeetsAlong (object : SharedObject Reply σ Input) (allowed : σ → Input → Prop) :
    Program Reply ε α → σ → List Input → Prop
  | .done _, _, _ => True
  | .ask _ _, _, [] => True
  | .ask call next, state, input :: rest => allowed state input ∧
      MeetsAlong object allowed (next (object.answer state input call).1)
        (object.answer state input call).2 rest

theorem meetsAlong_of_forall {inputs : List Input} (program : Program Reply ε α) (state : σ)
    (meets : ∀ input ∈ inputs, ∀ state, allowed state input) :
    MeetsAlong object allowed program state inputs := by
  induction program generalizing state inputs with
  | done outcome => cases inputs <;> trivial
  | ask call next ih =>
      cases inputs with
      | nil => trivial
      | cons input rest =>
          exact ⟨meets input (List.mem_cons_self ..) state,
            ih _ _ fun other mem => meets other (List.mem_cons_of_mem _ mem)⟩

/-- **What a secured program does in a run**: wherever it is cut off, it is secured
from there on. -/
theorem Secures.drive {inputs : List Input}
    (secures : Secures object allowed Invariant onEnd program state)
    (meets : MeetsAlong object allowed program state inputs) :
    Secures object allowed Invariant onEnd (program.drive object state inputs).1
      (program.drive object state inputs).2 := by
  induction program generalizing state inputs with
  | done outcome => cases inputs <;> exact secures
  | ask call next ih =>
      cases inputs with
      | nil => exact secures
      | cons input rest => exact ih _ (secures.2 input meets.1) meets.2

/-- Programs that secure an invariant from every state that has it keep it in sequence. -/
theorem driveAll_keeps {programs : List (Program Reply ε α × List Input)}
    (secured : ∀ attempt ∈ programs, ∀ state, Invariant state →
      Secures object allowed Invariant onEnd attempt.1 state ∧
        MeetsAlong object allowed attempt.1 state attempt.2)
    (holds : Invariant state) : Invariant (driveAll object programs state) := by
  induction programs generalizing state with
  | nil => exact holds
  | cons attempt rest ih =>
      obtain ⟨secures, meets⟩ := secured attempt (List.mem_cons_self ..) state holds
      exact ih (fun other mem => secured other (List.mem_cons_of_mem _ mem))
        (secures.drive meets).invariant

/-- **From protocols to runs.**  An assertion about the role and the state that every
move keeps holds at the end of a program that follows the protocol. -/
theorem Follows.secures {ρ : Type} {protocol : Protocol Reply ρ} {onReturn : ρ → α → Prop}
    {onRaise : ρ → ε → Prop} {Assertion : ρ → σ → Prop} {role : ρ}
    (follows : Follows protocol onReturn onRaise role program)
    (assumed : ∀ state input call, allowed state input →
      protocol.Assumes call (object.answer state input call).1)
    (kept : ∀ role state input call moved, Assertion role state → allowed state input →
      protocol.Move role call (object.answer state input call).1 moved →
      Assertion moved (object.answer state input call).2)
    (holds : Assertion role state) :
    Secures object allowed (fun _ => True) (fun outcome state => ∃ role, Assertion role state ∧
      match outcome with
      | .ok value => onReturn role value
      | .error exception => onRaise role exception) program state := by
  induction program generalizing role state with
  | done outcome => cases outcome <;> exact ⟨trivial, role, holds, follows⟩
  | ask call next ih =>
      refine ⟨trivial, fun input meets => ?_⟩
      obtain ⟨moved, move, rest⟩ := follows _ (assumed state input call meets)
      exact ih _ rest (kept role state input call moved holds meets move)

end Secures

/-! ## Handlers -/

section Catching

variable {object : SharedObject Reply σ Input} {program : Program Reply ε α} {handler : ε → Program Reply ε α} {state : σ}
  {inputs : List Input}

/-- A program that has returned is not handled. -/
theorem drive_catching_of_ok {value : α}
    (returned : (program.drive object state inputs).1 = .done (.ok value)) :
    (program.catching handler).drive object state inputs = program.drive object state inputs := by
  induction program generalizing state inputs with
  | done outcome =>
      cases inputs <;> cases outcome with
      | ok value => rfl
      | error exception => cases returned
  | ask call next ih =>
      cases inputs with
      | nil => cases returned
      | cons input rest => exact ih _ returned

/-- A program that has raised goes on as its handler, with the inputs that are left. -/
theorem drive_catching_of_error {exception : ε}
    (raised : (program.drive object state inputs).1 = .done (.error exception)) :
    ∃ rest, (program.catching handler).drive object state inputs =
        (handler exception).drive object (program.drive object state inputs).2 rest ∧
      ∀ allowed, MeetsAlong object allowed (program.catching handler) state inputs →
        MeetsAlong object allowed (handler exception) (program.drive object state inputs).2
          rest := by
  induction program generalizing state inputs with
  | done outcome =>
      have is : outcome = .error exception := by
        cases inputs <;> exact Program.done.inj raised
      subst is
      cases inputs with
      | nil => exact ⟨[], rfl, fun _ meets => meets⟩
      | cons input rest => exact ⟨input :: rest, rfl, fun _ meets => meets⟩
  | ask call next ih =>
      cases inputs with
      | nil => cases raised
      | cons input rest =>
          obtain ⟨left, goesOn, meetsOn⟩ := ih _ raised
          exact ⟨left, goesOn, fun allowed meets => meetsOn allowed meets.2⟩

/-- A handled program has ended only if the program has. -/
theorem exists_done_of_catching {outcome : Except ε α}
    (ended : ((program.catching handler).drive object state inputs).1 = .done outcome) :
    ∃ reached, (program.drive object state inputs).1 = .done reached := by
  induction program generalizing state inputs with
  | done reached => exact ⟨reached, by cases inputs <;> rfl⟩
  | ask call next ih =>
      cases inputs with
      | nil => cases ended
      | cons input rest => exact ih _ ended

end Catching

end Program
