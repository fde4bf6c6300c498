import Mathlib.Logic.Function.Basic
import PatchProof.Library.Program

/-!
# Programs that share an object

Several programs run against one shared object that answers their calls.  A
schedule picks, tick by tick, the program that moves next and what the
surroundings contribute to that answer.  A program that is never picked again has
crashed, and one that is first picked late has started late, so schedules cover
crashes and retries without further machinery.

`Pool.run_invariant` is the rule for reasoning about all schedules at once.  When
every program follows its protocol, an assertion about the shared object, the
history and the roles holds of every pool reached, provided each move keeps it;
moves may use a condition that the schedule is known to meet at each tick.
-/

set_option autoImplicit false

/-- An object that answers calls. -/
structure SharedObject {Call : Type} (Reply : Call → Type) (σ Input : Type) where
  answer : σ → Input → (call : Call) → Reply call × σ

/-- One answered call. -/
structure PoolEvent (ι : Type) {Call : Type} (Reply : Call → Type) where
  who : ι
  call : Call
  reply : Reply call

/-- The shared object, the programs, and the calls answered so far, latest first. -/
structure Pool (ι : Type) {Call : Type} (Reply : Call → Type) (σ ε α : Type) where
  shared : σ
  threads : ι → Program Reply ε α
  history : List (PoolEvent ι Reply) := []

namespace Pool

variable {ι Call : Type} {Reply : Call → Type} {σ Input ε α ρ : Type} [DecidableEq ι]
  (object : SharedObject Reply σ Input)

/-! ## Running -/

/-- Answer the next call of one program; a program that has ended does nothing. -/
def step (pool : Pool ι Reply σ ε α) (tick : ι × Input) : Pool ι Reply σ ε α :=
  match pool.threads tick.1 with
  | .done _ => pool
  | .ask call next =>
      let answered := object.answer pool.shared tick.2 call
      { shared := answered.2
        threads := Function.update pool.threads tick.1 (next answered.1)
        history := ⟨tick.1, call, answered.1⟩ :: pool.history }

def run (pool : Pool ι Reply σ ε α) : List (ι × Input) → Pool ι Reply σ ε α
  | [] => pool
  | tick :: rest => run (step object pool tick) rest

/-- Every answered call meets the condition in the pool that it is made in. -/
def Along (condition : Pool ι Reply σ ε α → ι → Call → Input → Prop) :
    Pool ι Reply σ ε α → List (ι × Input) → Prop
  | _, [] => True
  | pool, tick :: rest =>
      (∀ call, (pool.threads tick.1).next? = some call → condition pool tick.1 call tick.2) ∧
        Along condition (step object pool tick) rest

theorem step_of_done {pool : Pool ι Reply σ ε α} {tick : ι × Input} {outcome : Except ε α}
    (ended : pool.threads tick.1 = .done outcome) : step object pool tick = pool := by
  simp [step, ended]

theorem step_of_ask {pool : Pool ι Reply σ ε α} {tick : ι × Input} {call : Call}
    {next : Reply call → Program Reply ε α} (asks : pool.threads tick.1 = .ask call next) :
    step object pool tick =
      { shared := (object.answer pool.shared tick.2 call).2
        threads := Function.update pool.threads tick.1
          (next (object.answer pool.shared tick.2 call).1)
        history := ⟨tick.1, call, (object.answer pool.shared tick.2 call).1⟩ :: pool.history } := by
  simp [step, asks]

theorem run_append (pool : Pool ι Reply σ ε α) (schedule more : List (ι × Input)) :
    run object pool (schedule ++ more) = run object (run object pool schedule) more := by
  induction schedule generalizing pool with
  | nil => rfl
  | cons tick rest ih => exact ih _

/-! ## Assertions about all schedules -/

/-- The roles account for a pool: every program follows its protocol from the role
it has, and the assertion holds. -/
structure Accounted (protocol : ι → Protocol Reply ρ) (onReturn : ι → ρ → α → Prop)
    (onRaise : ι → ρ → ε → Prop)
    (Assertion : σ → List (PoolEvent ι Reply) → (ι → ρ) → Prop)
    (pool : Pool ι Reply σ ε α) (roles : ι → ρ) : Prop where
  follows : ∀ who, Program.Follows (protocol who) (onReturn who) (onRaise who) (roles who)
    (pool.threads who)
  holds : Assertion pool.shared pool.history roles

section Invariant

variable {object} {protocol : ι → Protocol Reply ρ} {onReturn : ι → ρ → α → Prop}
  {onRaise : ι → ρ → ε → Prop} {Assertion : σ → List (PoolEvent ι Reply) → (ι → ρ) → Prop}
  {condition : Pool ι Reply σ ε α → ι → Call → Input → Prop} {pool : Pool ι Reply σ ε α}
  {roles : ι → ρ}

/-- What every move must do for the assertion to hold along a schedule. -/
structure Keeps (object : SharedObject Reply σ Input) (protocol : ι → Protocol Reply ρ)
    (condition : Pool ι Reply σ ε α → ι → Call → Input → Prop)
    (Assertion : σ → List (PoolEvent ι Reply) → (ι → ρ) → Prop) : Prop where
  assumed : ∀ {pool : Pool ι Reply σ ε α} {roles : ι → ρ} {who : ι} {call : Call} {input : Input},
    Assertion pool.shared pool.history roles → condition pool who call input →
      (protocol who).Assumes call (object.answer pool.shared input call).1
  kept : ∀ {pool : Pool ι Reply σ ε α} {roles : ι → ρ} {who : ι} {call : Call} {input : Input}
    {moved : ρ}, Assertion pool.shared pool.history roles → condition pool who call input →
      (protocol who).Move (roles who) call (object.answer pool.shared input call).1 moved →
      Assertion (object.answer pool.shared input call).2
        (⟨who, call, (object.answer pool.shared input call).1⟩ :: pool.history)
        (Function.update roles who moved)

/-- One tick keeps a pool accounted for. -/
theorem Accounted.step
    (accounted : Accounted protocol onReturn onRaise Assertion pool roles)
    (keeps : Keeps object protocol condition Assertion) (tick : ι × Input)
    (meets : ∀ call, (pool.threads tick.1).next? = some call → condition pool tick.1 call tick.2) :
    ∃ roles', Accounted protocol onReturn onRaise Assertion (Pool.step object pool tick) roles' := by
  obtain ⟨who, input⟩ := tick
  cases thread : pool.threads who with
  | done outcome =>
      have same : Pool.step object pool (who, input) = pool := step_of_done object thread
      exact ⟨roles, same.symm ▸ accounted⟩
  | ask call next =>
      have allowed : condition pool who call input := meets call (by simp [thread, Program.next?])
      have followed := accounted.follows who
      rw [thread] at followed
      obtain ⟨moved, move, rest⟩ := followed _ (keeps.assumed accounted.holds allowed)
      refine ⟨Function.update roles who moved, ?_, ?_⟩
      · intro other
        have moves : Pool.step object pool (who, input) = _ := step_of_ask object thread
        rw [moves]
        by_cases same : other = who
        · subst same
          simpa using rest
        · simpa [Function.update_of_ne same] using accounted.follows other
      · have moves : Pool.step object pool (who, input) = _ := step_of_ask object thread
        rw [moves]
        exact keeps.kept accounted.holds allowed move

/-- **Assertions hold along schedules.**  When every program follows its protocol
and every move keeps the assertion, the assertion holds of every pool reached. -/
theorem run_invariant
    (accounted : Accounted protocol onReturn onRaise Assertion pool roles)
    (keeps : Keeps object protocol condition Assertion) (schedule : List (ι × Input))
    (along : Along object condition pool schedule) :
    ∃ roles', Accounted protocol onReturn onRaise Assertion (run object pool schedule) roles' := by
  induction schedule generalizing pool roles with
  | nil => exact ⟨roles, accounted⟩
  | cons tick rest ih =>
      obtain ⟨meets, later⟩ := along
      obtain ⟨roles', accounted'⟩ := accounted.step keeps tick meets
      exact ih accounted' later

/-- **Conditions hold along schedules.**  What the roles and the assertion say about the
next call of a program holds at every tick. -/
theorem along_of_invariant {property : Pool ι Reply σ ε α → ι → Call → Input → Prop}
    (accounted : Accounted protocol onReturn onRaise Assertion pool roles)
    (keeps : Keeps object protocol condition Assertion)
    (shows : ∀ {pool : Pool ι Reply σ ε α} {roles : ι → ρ} {who : ι} {call : Call} {input : Input},
      Accounted protocol onReturn onRaise Assertion pool roles → condition pool who call input →
      (pool.threads who).next? = some call → property pool who call input)
    (schedule : List (ι × Input)) (along : Along object condition pool schedule) :
    Along object property pool schedule := by
  induction schedule generalizing pool roles with
  | nil => trivial
  | cons tick rest ih =>
      obtain ⟨meets, later⟩ := along
      obtain ⟨roles', accounted'⟩ := accounted.step keeps tick meets
      exact ⟨fun call asks => shows accounted (meets call asks) asks, ih accounted' later⟩

/-- Two conditions that hold along a schedule hold together. -/
theorem Along.and {other : Pool ι Reply σ ε α → ι → Call → Input → Prop} {schedule : List (ι × Input)}
    (along : Along object condition pool schedule) (also : Along object other pool schedule) :
    Along object (fun pool who call input => condition pool who call input ∧
      other pool who call input) pool schedule := by
  induction schedule generalizing pool with
  | nil => trivial
  | cons tick rest ih =>
      exact ⟨fun call asks => ⟨along.1 call asks, also.1 call asks⟩, ih along.2 also.2⟩

/-- A condition on what a schedule contributes can be checked entry by entry. -/
theorem along_of_forall_mem (schedule : List (ι × Input))
    (meets : ∀ tick ∈ schedule, ∀ pool call, condition pool tick.1 call tick.2)
    (pool : Pool ι Reply σ ε α) : Along object condition pool schedule := by
  induction schedule generalizing pool with
  | nil => trivial
  | cons tick rest ih =>
      obtain ⟨now, later⟩ := List.forall_mem_cons.mp meets
      exact ⟨fun call _ => now _ call, ih later _⟩

/-- A condition that always holds need not be checked. -/
theorem along_of_always (always : ∀ pool who call input, condition pool who call input)
    (pool : Pool ι Reply σ ε α) (schedule : List (ι × Input)) :
    Along object condition pool schedule :=
  along_of_forall_mem schedule (fun _ _ _ _ => always _ _ _ _) pool

end Invariant

/-- Whether a schedule meets a condition can be computed by running it. -/
instance decidableAlong {condition : Pool ι Reply σ ε α → ι → Call → Input → Prop}
    [∀ pool who call input, Decidable (condition pool who call input)] :
    ∀ (pool : Pool ι Reply σ ε α) (schedule : List (ι × Input)),
      Decidable (Along object condition pool schedule)
  | _, [] => isTrue trivial
  | pool, tick :: rest =>
      have _ : Decidable (Along object condition (step object pool tick) rest) :=
        decidableAlong _ rest
      match asks : (pool.threads tick.1).next? with
      | none => decidable_of_iff (Along object condition (step object pool tick) rest)
          ⟨fun along => ⟨fun _ same => absurd (asks.symm.trans same) (Option.some_ne_none _).symm,
            along⟩, fun along => along.2⟩
      | some call => decidable_of_iff (condition pool tick.1 call tick.2 ∧
            Along object condition (step object pool tick) rest)
          ⟨fun along => ⟨fun _ same => Option.some.inj (asks.symm.trans same) ▸ along.1, along.2⟩,
            fun along => ⟨along.1 call asks, along.2⟩⟩

end Pool
