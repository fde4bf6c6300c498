import Mathlib.Tactic.Common

/-!
# Sequenced computations that may raise

A routine that checks its arguments one after another and raises at the first
check that fails is a chain of binds in `Except`.  What one needs to know about
such a chain is when it returns: exactly when every step before the last
returned.  This module states that once, for a bind and for the check
`require`, so that a routine with many checks is inverted by rewriting rather
than by splitting each conditional.
-/

set_option autoImplicit false

namespace Guard

variable {ε α β : Type}

/-! ## Binds -/

theorem bind_eq_ok_iff {first : Except ε α} {rest : α → Except ε β} {value : β} :
    (first >>= rest) = .ok value ↔ ∃ middle, first = .ok middle ∧ rest middle = .ok value := by
  cases first with
  | error exception =>
      constructor
      · intro returned
        cases returned
      · rintro ⟨_, absurdity, _⟩
        cases absurdity
  | ok middle =>
      constructor
      · intro returned
        exact ⟨middle, rfl, returned⟩
      · rintro ⟨_, same, returned⟩
        cases same
        exact returned

theorem bind_eq_error_iff {first : Except ε α} {rest : α → Except ε β} {raised : ε} :
    (first >>= rest) = .error raised ↔
      first = .error raised ∨ ∃ middle, first = .ok middle ∧ rest middle = .error raised := by
  cases first with
  | error exception =>
      constructor
      · intro failed
        exact .inl (congrArg Except.error (Except.error.inj failed))
      · rintro (same | ⟨_, absurdity, _⟩)
        · exact congrArg Except.error (Except.error.inj same)
        · cases absurdity
  | ok middle =>
      constructor
      · intro failed
        exact .inr ⟨middle, rfl, failed⟩
      · rintro (absurdity | ⟨_, same, failed⟩)
        · cases absurdity
        · cases same
          exact failed

@[simp]
theorem ok_bind (value : α) (rest : α → Except ε β) :
    ((.ok value : Except ε α) >>= rest) = rest value := rfl

@[simp]
theorem error_bind (exception : ε) (rest : α → Except ε β) :
    ((.error exception : Except ε α) >>= rest) = .error exception := rfl

@[simp]
theorem pure_eq_ok (value : α) : (pure value : Except ε α) = .ok value := rfl

@[simp]
theorem throw_eq_error (exception : ε) :
    (throw exception : Except ε α) = .error exception := rfl

/-- A loop that may raise keeps what each of its passes keeps. -/
theorem foldlM_kept {σ : Type} {step : β → σ → Except ε β} (kept : β → Prop)
    (each : ∀ value item next, kept value → step value item = .ok next → kept next)
    {items : List σ} {start final : β} (initial : kept start)
    (returned : items.foldlM step start = .ok final) : kept final := by
  induction items generalizing start with
  | nil =>
      cases returned
      exact initial
  | cons item rest ih =>
      rw [List.foldlM_cons] at returned
      obtain ⟨next, passed, more⟩ := bind_eq_ok_iff.mp returned
      exact ih (each start item next initial passed) more

/-! ## Checks -/

/-- Raise the exception unless the condition holds. -/
def require (condition : Prop) [Decidable condition] (exception : ε) : Except ε Unit :=
  if condition then .ok () else .error exception

@[simp]
theorem require_eq_ok_iff {condition : Prop} [Decidable condition] {exception : ε} {value : Unit} :
    require condition exception = .ok value ↔ condition := by
  unfold require
  split <;> simp_all

@[simp]
theorem require_eq_error_iff {condition : Prop} [Decidable condition] {exception raised : ε} :
    require condition exception = .error raised ↔ ¬ condition ∧ exception = raised := by
  unfold require
  split <;> simp_all

theorem require_of_holds {condition : Prop} [Decidable condition] (holds : condition)
    (exception : ε) : require condition exception = .ok () :=
  require_eq_ok_iff.mpr holds

theorem require_of_fails {condition : Prop} [Decidable condition] (fails : ¬ condition)
    (exception : ε) : require condition exception = .error exception :=
  require_eq_error_iff.mpr ⟨fails, rfl⟩

/-- A check followed by the rest returns exactly when the check holds and the
rest returns. -/
theorem require_bind_eq_ok_iff {condition : Prop} [Decidable condition] {exception : ε}
    {rest : Unit → Except ε β} {value : β} :
    (require condition exception >>= rest) = .ok value ↔ condition ∧ rest () = .ok value := by
  rw [bind_eq_ok_iff]
  constructor
  · rintro ⟨_, checked, returned⟩
    exact ⟨require_eq_ok_iff.mp checked, returned⟩
  · rintro ⟨holds, returned⟩
    exact ⟨(), require_eq_ok_iff.mpr holds, returned⟩

/-! ## Two computations side by side -/

/-- Two outcomes that agree: both return, with related values, or both raise, with
related exceptions. -/
inductive Related {δ γ : Type} (onReturn : α → γ → Prop) (onRaise : ε → δ → Prop) :
    Except ε α → Except δ γ → Prop
  | returned {value : α} {other : γ} (related : onReturn value other) :
      Related onReturn onRaise (.ok value) (.ok other)
  | raised {exception : ε} {other : δ} (related : onRaise exception other) :
      Related onReturn onRaise (.error exception) (.error other)

section Related

variable {δ γ : Type} {onReturn : α → γ → Prop} {onRaise : ε → δ → Prop}

/-- A shared first step, then related continuations. -/
theorem Related.bind {σ : Type} {onRaise : ε → ε → Prop} (reflexive : ∀ exception, onRaise exception exception)
    {first : Except ε σ} {rest : σ → Except ε α} {other : σ → Except ε γ}
    (related : ∀ middle, first = .ok middle → Related onReturn onRaise (rest middle) (other middle)) :
    Related onReturn onRaise (first >>= rest) (first >>= other) := by
  cases first with
  | error exception => exact .raised (reflexive exception)
  | ok middle => exact related middle rfl

/-- The same check with related exceptions, then related continuations. -/
theorem Related.require {condition otherCondition : Prop} [Decidable condition]
    [Decidable otherCondition] {exception : ε} {other : δ} {rest : Unit → Except ε α}
    {otherRest : Unit → Except δ γ} (same : condition ↔ otherCondition)
    (raised : onRaise exception other)
    (related : condition → Related onReturn onRaise (rest ()) (otherRest ())) :
    Related onReturn onRaise (Guard.require condition exception >>= rest)
      (Guard.require otherCondition other >>= otherRest) := by
  by_cases holds : condition
  · rw [require_of_holds holds, require_of_holds (same.mp holds)]
    exact related holds
  · rw [require_of_fails holds, require_of_fails (fun now => holds (same.mpr now))]
    exact .raised raised

end Related

end Guard
