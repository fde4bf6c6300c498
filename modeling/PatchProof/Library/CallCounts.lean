import PatchProof.Library.Pool

/-!
# How many calls a program makes

The calls of a run are those that a program makes when its first call is answered by the first
answer, the next one by the next, and so on, so an answer may depend on everything before it.

A program that affords what comes after it starts with a number of calls and has enough of
them left when it returns or raises.  What is needed may depend on what is returned, so a
branch that ends a loop may use up what the other branches leave.

In a pool every program pays for its own calls, so the bound of each holds in every schedule.
-/

set_option autoImplicit false

namespace Program

variable {Call : Type} {Reply : Call → Type} {ε α β : Type}

/-- The calls of the program when its calls are answered one after another. -/
def calls (answers : Nat → (call : Call) → Reply call) : Nat → Program Reply ε α → List Call
  | _, .done _ => []
  | asked, .ask call next => call :: (next (answers asked call)).calls answers (asked + 1)

section Counting

variable (counted : Call → Bool)

/-- A counted call costs one of those that are left. -/
inductive Spending : Nat → (call : Call) → Reply call → Nat → Prop
  | free {left : Nat} {call : Call} {reply : Reply call} (other : counted call = false) :
      Spending left call reply left
  | paid {left : Nat} {call : Call} {reply : Reply call} (isCounted : counted call = true) :
      Spending (left + 1) call reply left

/-- Calls that cost, with any replies. -/
def spending : Protocol Reply Nat := ⟨fun _ _ => True, Spending counted⟩

/-- Starting with so many calls, the program has as many left as are needed after it. -/
abbrev Affords (needed : α → Nat) (raised : ε → Nat) (limit : Nat)
    (program : Program Reply ε α) : Prop :=
  program.Follows (spending counted) (fun left value => needed value ≤ left)
    (fun left exception => raised exception ≤ left) limit

variable {counted} {needed : α → Nat} {raised : ε → Nat} {program : Program Reply ε α}
  {limit most : Nat}

theorem Affords.mono (affords : program.Affords counted needed raised limit)
    (below : limit ≤ most) : program.Affords counted needed raised most := by
  induction program generalizing limit most with
  | done outcome =>
      cases outcome with
      | ok value => exact Nat.le_trans affords below
      | error exception => exact Nat.le_trans affords below
  | ask call next ih =>
      intro reply _
      obtain ⟨left, move, rest⟩ := affords reply trivial
      cases move with
      | free other => exact ⟨most, .free other, ih reply rest below⟩
      | paid isCounted =>
          obtain ⟨more, rfl⟩ : ∃ more, most = more + 1 := ⟨most - 1, by omega⟩
          exact ⟨more, .paid isCounted, ih reply rest (by omega)⟩

/-- **The rule for sequences**: the first part leaves what the second one starts with. -/
theorem Affords.bind {rest : α → Program Reply ε β} {after : β → Nat}
    (first : program.Affords counted needed raised limit)
    (second : ∀ value, (rest value).Affords counted after raised (needed value)) :
    (program >>= rest).Affords counted after raised limit :=
  Follows.bind first fun _ value enough => (second value).mono enough

/-- **The rule for handlers.** -/
theorem Affords.catching {handler : ε → Program Reply ε α} {after : ε → Nat}
    (body : program.Affords counted needed raised limit)
    (handles : ∀ exception, (handler exception).Affords counted needed after (raised exception)) :
    (program.catching handler).Affords counted needed after limit :=
  Follows.catching body fun _ exception enough => (handles exception).mono enough

theorem affords_demand {condition : Prop} {_ : Decidable condition} {exception : ε}
    (enough : raised exception ≤ limit) :
    (demand condition exception : Program Reply ε Unit).Affords counted (fun _ => limit) raised
      limit := by
  unfold demand
  split
  · exact Nat.le_refl limit
  · exact enough

/-- **No run makes more counted calls than its program starts with.** -/
theorem Affords.countP_calls_le (affords : program.Affords counted needed raised limit)
    (answers : Nat → (call : Call) → Reply call) (asked : Nat) :
    (program.calls answers asked).countP counted ≤ limit := by
  induction program generalizing limit asked with
  | done outcome => exact Nat.zero_le limit
  | ask call next ih =>
      obtain ⟨left, move, rest⟩ := affords (answers asked call) trivial
      have fewer := ih _ rest (asked + 1)
      rw [calls, List.countP_cons]
      cases move with
      | free other =>
          rw [if_neg (by rw [other]; exact Bool.false_ne_true)]
          exact fewer
      | paid isCounted =>
          rw [if_pos isCounted]
          exact Nat.succ_le_succ fewer

end Counting

end Program

/-! ## Counted calls in a pool -/

namespace Pool

variable {ι Call : Type} {Reply : Call → Type} {σ Input ε α : Type} [DecidableEq ι]
  {counted : Call → Bool}

/-- How many counted calls of one program were answered. -/
def spentBy (counted : Call → Bool) (history : List (PoolEvent ι Reply)) (who : ι) : Nat :=
  history.countP fun event => event.who = who && counted event.call

theorem spentBy_cons (event : PoolEvent ι Reply) (history : List (PoolEvent ι Reply)) (who : ι) :
    spentBy counted (event :: history) who =
      spentBy counted history who + if event.who = who ∧ counted event.call = true then 1 else 0 := by
  simp [spentBy, List.countP_cons]

/-- **Whatever the schedule, no program makes more counted calls than it starts with.** -/
theorem spentBy_run_le {object : SharedObject Reply σ Input} {needed : ι → α → Nat}
    {raised : ι → ε → Nat} {limit : ι → Nat} {pool : Pool ι Reply σ ε α}
    (affords : ∀ who, (pool.threads who).Affords counted (needed who) (raised who) (limit who))
    (fresh : pool.history = []) (schedule : List (ι × Input)) (who : ι) :
    spentBy counted (run object pool schedule).history who ≤ limit who := by
  have keeps : Keeps object (fun _ : ι => Program.spending counted)
      (fun (_ : Pool ι Reply σ ε α) _ _ _ => True)
      (fun _ history left => ∀ who, spentBy counted history who + left who ≤ limit who) := by
    refine ⟨fun _ _ => trivial, ?_⟩
    intro pool left mover call input moved within _ spends other
    rw [spentBy_cons]
    have before := within other
    by_cases same : other = mover
    · subst same
      rw [Function.update_self]
      generalize left other = remaining at spends before
      cases spends with
      | free notCounted =>
          simp only [notCounted, Bool.false_eq_true, and_false, if_false]
          exact before
      | paid isCounted =>
          rw [if_pos ⟨rfl, isCounted⟩]
          omega
    · rw [Function.update_of_ne same, if_neg fun both => same both.1.symm]
      exact before
  have started : Accounted (fun _ : ι => Program.spending counted)
      (fun who left value => needed who value ≤ left)
      (fun who left exception => raised who exception ≤ left)
      (fun _ history left => ∀ who, spentBy counted history who + left who ≤ limit who)
      pool limit := by
    refine ⟨affords, fun who => ?_⟩
    rw [fresh]
    exact Nat.le_of_eq (Nat.zero_add _)
  obtain ⟨left, accounted⟩ :=
    run_invariant started keeps schedule (along_of_always (fun _ _ _ _ => trivial) _ _)
  exact Nat.le_trans (Nat.le_add_right _ _) (accounted.holds who)

/-- When all counted calls are of one program, what it makes is all. -/
theorem countP_le_of_one {history : List (PoolEvent ι Reply)} {limit : Nat}
    (one : ∀ first ∈ history, ∀ second ∈ history, counted first.call = true →
      counted second.call = true → first.who = second.who)
    (each : ∀ who, spentBy counted history who ≤ limit) :
    history.countP (fun event => counted event.call) ≤ limit := by
  rcases Nat.eq_zero_or_pos (history.countP fun event => counted event.call) with none | some
  · rw [none]
    exact Nat.zero_le limit
  · obtain ⟨first, mem, isCounted⟩ := List.countP_pos_iff.mp some
    have same : history.countP (fun event => counted event.call) =
        spentBy counted history first.who := by
      refine List.countP_congr fun event inHistory => ?_
      simp only [Bool.and_eq_true, decide_eq_true_eq]
      exact ⟨fun also => ⟨one event inHistory first mem also isCounted, also⟩, And.right⟩
    rw [same]
    exact each first.who

end Pool
