import Mathlib.Tactic.Common

/-!
# Programs that ask their surroundings

A routine that calls other components, one call after another, is a tree: at a
leaf it has returned or raised, at a node it asks for something and continues
with the reply.  Nothing here says who answers.  The tree is a monad, so routines
are written in `do` notation, and every property of a routine is proved by
recursion on the tree.

The property used throughout is `Follows`.  A protocol says which calls a role
may make and which role it has after each reply; a program follows the protocol
from a role when, whatever the replies, each of its calls is a move of the role it
has by then.  A program is shown to follow a protocol part by part, by the rules
for binds and handlers below, and afterwards nothing needs to look at the program
again.
-/

set_option autoImplicit false

/-- A routine that asks calls and ends by returning or raising. -/
inductive Program {Call : Type} (Reply : Call → Type) (ε α : Type) : Type
  | done (outcome : Except ε α)
  | ask (call : Call) (next : Reply call → Program Reply ε α)

namespace Program

variable {Call : Type} {Reply : Call → Type} {ε α β : Type}

/-! ## Sequencing and handling -/

/-- Run a program, then continue with what it returned. -/
def bind : Program Reply ε α → (α → Program Reply ε β) → Program Reply ε β
  | .done (.ok value), rest => rest value
  | .done (.error exception), _ => .done (.error exception)
  | .ask call next, rest => .ask call fun reply => (next reply).bind rest

instance : Monad (Program Reply ε) where
  pure value := .done (.ok value)
  bind := bind

/-- Raise an exception. -/
def raise (exception : ε) : Program Reply ε α := .done (.error exception)

/-- Run a program, and handle what it raises. -/
def catching : Program Reply ε α → (ε → Program Reply ε α) → Program Reply ε α
  | .done (.ok value), _ => .done (.ok value)
  | .done (.error exception), handler => handler exception
  | .ask call next, handler => .ask call fun reply => (next reply).catching handler

/-- Raise the exception unless the condition holds. -/
def demand (condition : Prop) [Decidable condition] (exception : ε) : Program Reply ε Unit :=
  if condition then .done (.ok ()) else .done (.error exception)

/-- What the program asks next, unless it has ended. -/
def next? : Program Reply ε α → Option Call
  | .done _ => none
  | .ask call _ => some call

/-- How the program ended, if it has. -/
def outcome? : Program Reply ε α → Option (Except ε α)
  | .done outcome => some outcome
  | .ask _ _ => none

/-- How the program ends when every call has one reply. -/
def under (reply : (call : Call) → Reply call) : Program Reply ε α → Except ε α
  | .done outcome => outcome
  | .ask call next => (next (reply call)).under reply

@[simp]
theorem pure_eq_done (value : α) : (pure value : Program Reply ε α) = .done (.ok value) := rfl

@[simp]
theorem bind_eq_bind (program : Program Reply ε α) (rest : α → Program Reply ε β) :
    program >>= rest = program.bind rest := rfl

@[simp]
theorem outcome?_eq_some_iff {program : Program Reply ε α} {outcome : Except ε α} :
    program.outcome? = some outcome ↔ program = .done outcome := by
  cases program <;> simp [outcome?]

end Program

/-! ## Protocols -/

/-- The moves a role may make, and the replies they may rely on. -/
structure Protocol {Call : Type} (Reply : Call → Type) (ρ : Type) where
  Assumes : (call : Call) → Reply call → Prop
  Move : ρ → (call : Call) → Reply call → ρ → Prop

/-- Two roles at once: a move of both, relying on what each of them may rely on. -/
def Protocol.both {Call : Type} {Reply : Call → Type} {ρ ρ' : Type} (first : Protocol Reply ρ)
    (second : Protocol Reply ρ') : Protocol Reply (ρ × ρ') where
  Assumes call reply := first.Assumes call reply ∧ second.Assumes call reply
  Move roles call reply moved :=
    first.Move roles.1 call reply moved.1 ∧ second.Move roles.2 call reply moved.2

namespace Program

variable {Call : Type} {Reply : Call → Type} {ε α β ρ : Type}

section Follows

variable (protocol : Protocol Reply ρ) (onReturn : ρ → α → Prop) (onRaise : ρ → ε → Prop)

/-- From the role on, every call is a move, and at the end the role and the outcome
are as stated. -/
def Follows : ρ → Program Reply ε α → Prop
  | role, .done (.ok value) => onReturn role value
  | role, .done (.error exception) => onRaise role exception
  | role, .ask call next => ∀ reply, protocol.Assumes call reply →
      ∃ moved, protocol.Move role call reply moved ∧ Follows moved (next reply)

end Follows

section Rules

variable {protocol : Protocol Reply ρ} {onReturn : ρ → α → Prop} {onRaise : ρ → ε → Prop}
  {role : ρ} {program : Program Reply ε α}

theorem Follows.pure {value : α} (returned : onReturn role value) :
    Follows protocol onReturn onRaise role (Pure.pure value) := returned

theorem Follows.raise {exception : ε} (raised : onRaise role exception) :
    Follows protocol onReturn onRaise role (raise exception) := raised

/-- Weaker statements about the end. -/
theorem Follows.mono {onReturn' : ρ → α → Prop} {onRaise' : ρ → ε → Prop}
    (follows : Follows protocol onReturn onRaise role program)
    (returns : ∀ role value, onReturn role value → onReturn' role value)
    (raises : ∀ role exception, onRaise role exception → onRaise' role exception) :
    Follows protocol onReturn' onRaise' role program := by
  induction program generalizing role with
  | done outcome =>
      cases outcome with
      | ok value => exact returns role value follows
      | error exception => exact raises role exception follows
  | ask call next ih =>
      intro reply assumed
      obtain ⟨moved, move, rest⟩ := follows reply assumed
      exact ⟨moved, move, ih reply rest⟩

/-- **The bind rule.** -/
theorem Follows.bind {rest : α → Program Reply ε β} {after : ρ → β → Prop}
    (first : Follows protocol onReturn onRaise role program)
    (second : ∀ role value, onReturn role value →
      Follows protocol after onRaise role (rest value)) :
    Follows protocol after onRaise role (program >>= rest) := by
  induction program generalizing role with
  | done outcome =>
      cases outcome with
      | ok value => exact second role value first
      | error exception => exact first
  | ask call next ih =>
      intro reply assumed
      obtain ⟨moved, move, follows⟩ := first reply assumed
      exact ⟨moved, move, ih reply follows⟩

/-- **The handler rule.** -/
theorem Follows.catching {handler : ε → Program Reply ε α} {handled : ρ → ε → Prop}
    (body : Follows protocol onReturn onRaise role program)
    (handles : ∀ role exception, onRaise role exception →
      Follows protocol onReturn handled role (handler exception)) :
    Follows protocol onReturn handled role (program.catching handler) := by
  induction program generalizing role with
  | done outcome =>
      cases outcome with
      | ok value => exact body
      | error exception => exact handles role exception body
  | ask call next ih =>
      intro reply assumed
      obtain ⟨moved, move, follows⟩ := body reply assumed
      exact ⟨moved, move, ih reply follows⟩

theorem Follows.demand {condition : Prop} [Decidable condition] {exception : ε}
    {after : ρ → Unit → Prop} (passes : condition → after role ())
    (fails : ¬ condition → onRaise role exception) :
    Follows protocol after onRaise role (demand condition exception) := by
  unfold Program.demand
  split
  · exact passes ‹_›
  · exact fails ‹_›

/-- A role that may make every move another may make can stand in for it. -/
theorem Follows.standIn {other : ρ} (follows : Follows protocol onReturn onRaise role program)
    (moves : ∀ call reply moved, protocol.Move role call reply moved →
      protocol.Move other call reply moved)
    (returns : ∀ value, onReturn role value → onReturn other value)
    (raises : ∀ exception, onRaise role exception → onRaise other exception) :
    Follows protocol onReturn onRaise other program := by
  cases program with
  | done outcome =>
      cases outcome with
      | ok value => exact returns value follows
      | error exception => exact raises exception follows
  | ask call next =>
      intro reply assumed
      obtain ⟨moved, move, rest⟩ := follows reply assumed
      exact ⟨moved, moves call reply moved move, rest⟩

/-- A protocol that has the moves of another, with its roles in their place, is followed
by what follows the other. -/
theorem Follows.embed {ρ' : Type} {larger : Protocol Reply ρ'} (place : ρ → ρ')
    (follows : Follows protocol onReturn onRaise role program)
    (assumes : ∀ call reply, larger.Assumes call reply → protocol.Assumes call reply)
    (moves : ∀ role call reply moved, protocol.Move role call reply moved →
      larger.Move (place role) call reply (place moved)) :
    Follows larger (fun placed value => ∃ role, placed = place role ∧ onReturn role value)
      (fun placed exception => ∃ role, placed = place role ∧ onRaise role exception)
      (place role) program := by
  induction program generalizing role with
  | done outcome =>
      cases outcome with
      | ok value => exact ⟨role, rfl, follows⟩
      | error exception => exact ⟨role, rfl, follows⟩
  | ask call next ih =>
      intro reply assumed
      obtain ⟨moved, move, rest⟩ := follows reply (assumes call reply assumed)
      exact ⟨place moved, moves _ _ _ _ move, ih reply rest⟩

/-- **The rule for two protocols at once.** -/
theorem Follows.both {ρ' : Type} {second : Protocol Reply ρ'} {onReturn' : ρ' → α → Prop}
    {onRaise' : ρ' → ε → Prop} {role' : ρ'}
    (follows : Follows protocol onReturn onRaise role program)
    (also : Follows second onReturn' onRaise' role' program) :
    Follows (protocol.both second) (fun roles value => onReturn roles.1 value ∧ onReturn' roles.2 value)
      (fun roles exception => onRaise roles.1 exception ∧ onRaise' roles.2 exception)
      (role, role') program := by
  induction program generalizing role role' with
  | done outcome =>
      cases outcome with
      | ok value => exact ⟨follows, also⟩
      | error exception => exact ⟨follows, also⟩
  | ask call next ih =>
      intro reply assumed
      obtain ⟨moved, move, rest⟩ := follows reply assumed.1
      obtain ⟨moved', move', rest'⟩ := also reply assumed.2
      exact ⟨(moved, moved'), ⟨move, move'⟩, ih reply rest rest'⟩

/-- **The loop rule**: what each pass keeps holds after the loop. -/
theorem Follows.foldlM {σ : Type} {items : List σ} {step : β → σ → Program Reply ε β}
    {kept : ρ → β → Prop} {start : β} (initial : kept role start)
    (each : ∀ item ∈ items, ∀ role value, kept role value →
      Follows protocol kept onRaise role (step value item)) :
    Follows protocol kept onRaise role (items.foldlM step start) := by
  induction items generalizing role start with
  | nil => exact .pure initial
  | cons item rest ih =>
      rw [List.foldlM_cons]
      refine (each item List.mem_cons_self role start initial).bind fun moved value holds => ?_
      exact ih holds fun later mem => each later (List.mem_cons_of_mem _ mem)

/-- **Surroundings that answer every permitted call alike make no difference.** -/
theorem Follows.under_eq {first second : (call : Call) → Reply call}
    (follows : Follows protocol onReturn onRaise role program)
    (assumed : ∀ call, protocol.Assumes call (first call))
    (alike : ∀ role call moved, protocol.Move role call (first call) moved →
      first call = second call) : program.under first = program.under second := by
  induction program generalizing role with
  | done outcome => rfl
  | ask call next ih =>
      obtain ⟨moved, move, rest⟩ := follows (first call) (assumed call)
      rw [under, under, ← alike role call moved move]
      exact ih (first call) rest

end Rules

end Program
