import PatchProof.Library.Program

/-!
# Programs in a world that changes

The surroundings of a routine have a state of their own, and what they reply depends on it
and changes it, but not always in one way: a command that fails may have done a part of its
work.  A world says which calls may be asked in which state, and which replies and which
next states are possible.  A program withstands the world when each call that it asks is
permitted and every end is as stated, whichever of the possible replies the world gives.

Unlike a protocol, where the role after a reply is the program's to choose, the next state
is the world's choice, and the program must be right for all of them.
-/

set_option autoImplicit false

/-- What may be asked, and what may be replied to it, in each state. -/
structure World {Call : Type} (Reply : Call → Type) (σ : Type) where
  Permits : σ → Call → Prop
  Responds : σ → (call : Call) → Reply call → σ → Prop

namespace Program

variable {Call : Type} {Reply : Call → Type} {ε α β σ : Type}

/-- From the state on, every call is permitted, and every end is as stated. -/
def Withstands (world : World Reply σ) (onReturn : σ → α → Prop) (onRaise : σ → ε → Prop) :
    σ → Program Reply ε α → Prop
  | state, .done (.ok value) => onReturn state value
  | state, .done (.error exception) => onRaise state exception
  | state, .ask call next => world.Permits state call ∧ ∀ reply after,
      world.Responds state call reply after →
        Withstands world onReturn onRaise after (next reply)

/-- The outcome of a program, which does not raise any more. -/
def settled : Program Reply ε α → Program Reply ε (Except ε α)
  | .done outcome => .done (.ok outcome)
  | .ask call next => .ask call fun reply => (next reply).settled

section Rules

variable {world : World Reply σ} {onReturn : σ → α → Prop} {onRaise : σ → ε → Prop} {state : σ}
  {program : Program Reply ε α}

/-- Weaker statements about the end. -/
theorem Withstands.mono {onReturn' : σ → α → Prop} {onRaise' : σ → ε → Prop}
    (withstands : Withstands world onReturn onRaise state program)
    (returns : ∀ state value, onReturn state value → onReturn' state value)
    (raises : ∀ state exception, onRaise state exception → onRaise' state exception) :
    Withstands world onReturn' onRaise' state program := by
  induction program generalizing state with
  | done outcome =>
      cases outcome with
      | ok value => exact returns state value withstands
      | error exception => exact raises state exception withstands
  | ask call next ih =>
      exact ⟨withstands.1, fun reply after responds => ih reply (withstands.2 reply after responds)⟩

/-- **The bind rule.** -/
theorem Withstands.bind {rest : α → Program Reply ε β} {afterwards : σ → β → Prop}
    (first : Withstands world onReturn onRaise state program)
    (second : ∀ state value, onReturn state value →
      Withstands world afterwards onRaise state (rest value)) :
    Withstands world afterwards onRaise state (program >>= rest) := by
  induction program generalizing state with
  | done outcome =>
      cases outcome with
      | ok value => exact second state value first
      | error exception => exact first
  | ask call next ih =>
      exact ⟨first.1, fun reply after responds => ih reply (first.2 reply after responds)⟩

/-- The bind rule, with what is known in between. -/
theorem Withstands.through {rest : α → Program Reply ε β} {afterwards : σ → β → Prop}
    (between : σ → α → Prop) (first : Withstands world between onRaise state program)
    (second : ∀ state value, between state value →
      Withstands world afterwards onRaise state (rest value)) :
    Withstands world afterwards onRaise state (program >>= rest) :=
  first.bind second

theorem Withstands.demand {condition : Prop} [Decidable condition] {exception : ε}
    {afterwards : σ → Unit → Prop} (passes : condition → afterwards state ())
    (fails : ¬ condition → onRaise state exception) :
    Withstands world afterwards onRaise state (Program.demand condition exception) := by
  unfold Program.demand
  split
  · exact passes ‹_›
  · exact fails ‹_›

/-- **The settling rule**: both ends are returned. -/
theorem Withstands.settled {ends : σ → Except ε α → Prop} {onRaise' : σ → ε → Prop}
    (withstands : Withstands world (fun state value => ends state (.ok value))
      (fun state exception => ends state (.error exception)) state program) :
    Withstands world ends onRaise' state program.settled := by
  induction program generalizing state with
  | done outcome =>
      cases outcome with
      | ok value => exact withstands
      | error exception => exact withstands
  | ask call next ih =>
      exact ⟨withstands.1, fun reply after responds => ih reply (withstands.2 reply after responds)⟩

end Rules

end Program
