import PatchProof.Library.Program

/-!
# Programs in lockstep

One program keeps step with another when each of its observed calls is the call that the other
one makes next, and both go on with the same reply.  Between these calls it may make others of
its own.  The role of the follower is what is left of the leader, so that the rules for
following a protocol serve for comparing two programs.
-/

set_option autoImplicit false

namespace Program

variable {Call : Type} {Reply : Call → Type} {ε α β γ : Type}

/-- Binds associate. -/
theorem bind_bind (program : Program Reply ε α) (first : α → Program Reply ε β)
    (second : β → Program Reply ε γ) :
    (program.bind first).bind second = program.bind fun value => (first value).bind second := by
  induction program with
  | done outcome => cases outcome <;> rfl
  | ask call next ih => exact congrArg (ask call) (funext ih)

theorem bind_done (program : Program Reply ε α) :
    (program.bind fun value => .done (.ok value)) = program := by
  induction program with
  | done outcome => cases outcome <;> rfl
  | ask call next ih => exact congrArg (ask call) (funext ih)

section Lockstep

variable (observed : Call → Bool)

/-- The leader makes the observed calls, and waits during the others. -/
inductive Advances : Program Reply ε γ → (call : Call) → Reply call → Program Reply ε γ → Prop
  | shared {call : Call} {next : Reply call → Program Reply ε γ} {reply : Reply call}
      (seen : observed call = true) : Advances (.ask call next) call reply (next reply)
  | own {leader : Program Reply ε γ} {call : Call} {reply : Reply call}
      (unseen : observed call = false) : Advances leader call reply leader

/-- Calls that are made together with a leader, under some assumptions on the replies. -/
def lockstep (assumes : (call : Call) → Reply call → Prop) :
    Protocol Reply (Program Reply ε γ) := ⟨assumes, Advances observed⟩

variable {observed} {assumes : (call : Call) → Reply call → Prop}
  {onRaise : Program Reply ε γ → ε → Prop} {leader : Program Reply ε γ}

/-- A step aside, during which the leader waits. -/
abbrev Aside (observed : Call → Bool) (assumes : (call : Call) → Reply call → Prop)
    (onRaise : Program Reply ε γ → ε → Prop) (good : α → Prop) (leader : Program Reply ε γ)
    (step : Program Reply ε α) : Prop :=
  step.Follows (lockstep observed assumes) (fun residual value => residual = leader ∧ good value)
    onRaise leader

/-- **The rule for steps aside**: what comes after one goes on from the same leader. -/
theorem Aside.next {onReturn : Program Reply ε γ → β → Prop} {good : α → Prop}
    {step : Program Reply ε α} {rest : α → Program Reply ε β}
    (aside : Aside observed assumes onRaise good leader step)
    (goesOn : ∀ value, good value →
      (rest value).Follows (lockstep observed assumes) onReturn onRaise leader) :
    (step >>= rest).Follows (lockstep observed assumes) onReturn onRaise leader :=
  Follows.bind aside fun _ value holds => holds.1 ▸ goesOn value holds.2

/-- A part that makes observed calls only, whatever the replies. -/
abbrev AsksOnly (observed : Call → Bool) (program : Program Reply ε α) : Prop :=
  program.Follows ⟨fun _ _ => True, fun (_ : Unit) call _ _ => observed call = true⟩
    (fun _ _ => True) (fun _ _ => True) ()

/-- **A shared part keeps step with itself**, and both programs go on with its result. -/
theorem AsksOnly.shared {program : Program Reply ε α} {goOn : α → Program Reply ε γ}
    (asks : AsksOnly observed program)
    (together : ∀ exception, onRaise (.done (.error exception)) exception) :
    program.Follows (lockstep observed assumes) (fun residual value => residual = goOn value)
      onRaise (program >>= goOn) := by
  rw [bind_eq_bind]
  induction program with
  | done outcome =>
      cases outcome with
      | ok value => exact rfl
      | error exception => exact together exception
  | ask call next ih =>
      intro reply _
      obtain ⟨_, seen, rest⟩ := asks reply trivial
      exact ⟨(next reply).bind goOn, .shared seen, ih reply rest⟩

/-- A shared part, and what both programs go on with. -/
theorem AsksOnly.then {program : Program Reply ε α} {goOn : α → Program Reply ε γ}
    {onReturn : Program Reply ε γ → β → Prop} {rest : α → Program Reply ε β}
    (asks : AsksOnly observed program)
    (together : ∀ exception, onRaise (.done (.error exception)) exception)
    (goesOn : ∀ value, (rest value).Follows (lockstep observed assumes) onReturn onRaise
      (goOn value)) :
    (program >>= rest).Follows (lockstep observed assumes) onReturn onRaise (program >>= goOn) :=
  (asks.shared together).bind fun _ value same => same ▸ goesOn value

end Lockstep

end Program
