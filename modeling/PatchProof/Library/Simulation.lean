import PatchProof.Library.Pool

/-!
# Another implementation of the shared object

A second object that answers the same calls need not give the same replies: what it raises,
for one, may be worded differently.  When related states give agreeing replies and related
states again, and the protocols do not tell agreeing replies apart, then what is proved of
all pools on the first object holds of the pools on the second: the state that a schedule
reaches there is related to one of which the assertion holds (`run_simulated`).

How states are related may depend on the schedule that is left, so that inputs which are
only right in some order can be allowed for.
-/

set_option autoImplicit false

namespace Pool

variable {ι Call : Type} {Reply : Call → Type} {σ τ Input ε α ρ : Type} [DecidableEq ι]

/-- The second object answers the permitted calls as the first one does. -/
structure Simulates (object : SharedObject Reply σ Input) (other : SharedObject Reply τ Input)
    (protocol : ι → Protocol Reply ρ) (Agree : (call : Call) → Reply call → Reply call → Prop)
    (Permitted : Call → Prop) (Related : List (ι × Input) → σ → τ → Prop) : Prop where
  permitted : ∀ {who role call}, (∀ reply, (protocol who).Assumes call reply →
    ∃ moved, (protocol who).Move role call reply moved) → Permitted call
  assumes : ∀ {who call reply mirrored}, Agree call reply mirrored →
    (protocol who).Assumes call reply → (protocol who).Assumes call mirrored
  moves : ∀ {who role call reply mirrored moved}, Agree call reply mirrored →
    (protocol who).Move role call mirrored moved → (protocol who).Move role call reply moved
  answers : ∀ {tick rest state mirrored call}, Related (tick :: rest) state mirrored →
    Permitted call →
      Agree call (object.answer state tick.2 call).1 (other.answer mirrored tick.2 call).1 ∧
        Related rest (object.answer state tick.2 call).2 (other.answer mirrored tick.2 call).2
  idle : ∀ {tick rest state mirrored}, Related (tick :: rest) state mirrored →
    Related rest state mirrored

variable {object : SharedObject Reply σ Input} {other : SharedObject Reply τ Input}
  {protocol : ι → Protocol Reply ρ} {onReturn : ι → ρ → α → Prop} {onRaise : ι → ρ → ε → Prop}
  {Agree : (call : Call) → Reply call → Reply call → Prop} {Permitted : Call → Prop}
  {Related : List (ι × Input) → σ → τ → Prop} {Holds : σ → (ι → ρ) → Prop}
  {Meets : Input → Prop}

/-- **Assertions carry over to the second object.**  Programs that follow their protocols
lead, on the second object, to a state that is related to one of which the assertion holds,
when the inputs of the schedule are as the moves need them. -/
theorem run_simulated (simulates : Simulates object other protocol Agree Permitted Related)
    (keeps : Keeps object protocol (fun (_ : Pool ι Reply σ ε α) _ _ input => Meets input)
      (fun state _ roles => Holds state roles))
    (base : Pool ι Reply σ ε α) {pool : Pool ι Reply τ ε α} {roles : ι → ρ}
    {schedule : List (ι × Input)}
    (follows : ∀ who, Program.Follows (protocol who) (onReturn who) (onRaise who) (roles who)
      (pool.threads who))
    (related : Related schedule base.shared pool.shared) (holds : Holds base.shared roles)
    (meets : ∀ tick ∈ schedule, Meets tick.2) :
    ∃ state roles', Related [] state (run other pool schedule).shared ∧ Holds state roles' := by
  induction schedule generalizing base pool roles with
  | nil => exact ⟨base.shared, roles, related, holds⟩
  | cons tick rest ih =>
      obtain ⟨now, later⟩ := List.forall_mem_cons.mp meets
      cases thread : pool.threads tick.1 with
      | done outcome =>
          have same : Pool.step other pool tick = pool := step_of_done other thread
          rw [run, same]
          exact ih base follows (simulates.idle related) holds later
      | ask call next =>
          have followed := follows tick.1
          rw [thread] at followed
          have permitted : Permitted call := simulates.permitted fun reply assumed =>
            let ⟨moved, move, _⟩ := followed reply assumed
            ⟨moved, move⟩
          obtain ⟨agree, relatedNext⟩ := simulates.answers related permitted
          have assumed : (protocol tick.1).Assumes call
              (object.answer base.shared tick.2 call).1 := keeps.assumed holds now
          obtain ⟨moved, move, continues⟩ := followed _ (simulates.assumes agree assumed)
          have holdsNext := keeps.kept holds now (simulates.moves agree move)
          have moves : Pool.step other pool tick = _ := step_of_ask other thread
          rw [run, moves]
          refine ih ⟨_, base.threads, []⟩ (fun who => ?_) relatedNext holdsNext later
          by_cases same : who = tick.1
          · subst same
            simpa using continues
          · simpa [Function.update_of_ne same] using follows who

end Pool
