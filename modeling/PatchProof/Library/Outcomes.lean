import PatchProof.Library.Folds

/-!
# What a computation raises when it does not return

To know when a computation returns is not enough where some exceptions are part of its interface
and others are not.  Here the condition under which a computation returns comes with what it
raises otherwise.  The rules are those of sequences and of loops.
-/

set_option autoImplicit false

namespace Folds

variable {α β γ ε : Type}

/-- The computation returns exactly when the condition holds, and then a value with these facts;
otherwise it raises one of the foreseen exceptions. -/
inductive EndsWhen (foreseen : ε → Prop) (condition : Prop) (facts : α → Prop) :
    Except ε α → Prop
  | returned {value : α} (holds : condition) (known : facts value) :
      EndsWhen foreseen condition facts (.ok value)
  | raised {exception : ε} (fails : ¬ condition) (expected : foreseen exception) :
      EndsWhen foreseen condition facts (.error exception)

namespace EndsWhen

variable {foreseen : ε → Prop} {condition more other : Prop} {facts weaker : α → Prop}
  {later : β → Prop}

theorem of_ok {computation : Except ε α} {value : α}
    (ends : EndsWhen foreseen condition facts computation) (same : computation = .ok value) :
    condition ∧ facts value := by
  subst same
  cases ends with
  | returned holds known => exact ⟨holds, known⟩

theorem mono {computation : Except ε α} (ends : EndsWhen foreseen condition facts computation)
    (weaken : ∀ value, computation = .ok value → facts value → weaker value) :
    EndsWhen foreseen condition weaker computation := by
  cases ends with
  | returned holds known => exact .returned holds (weaken _ rfl known)
  | raised fails expected => exact .raised fails expected

/-- Conditions that are equivalent stand for each other. -/
theorem congr {computation : Except ε α} (ends : EndsWhen foreseen condition facts computation)
    (same : condition ↔ other) : EndsWhen foreseen other facts computation := by
  cases ends with
  | returned holds known => exact .returned (same.mp holds) known
  | raised fails expected => exact .raised (fun holds => fails (same.mpr holds)) expected

/-- **The rule of sequences.** -/
theorem bind {first : Except ε α} {rest : α → Except ε β}
    (begins : EndsWhen foreseen condition facts first)
    (goesOn : ∀ middle, facts middle → EndsWhen foreseen more later (rest middle)) :
    EndsWhen foreseen (condition ∧ more) later (first >>= rest) := by
  cases begins with
  | raised fails expected => exact .raised (fun both => fails both.1) expected
  | returned holds known =>
      rw [Guard.ok_bind]
      apply (goesOn _ known).congr
      constructor
      · intro holdsToo
        exact ⟨holds, holdsToo⟩
      · exact And.right

/-- Where the guard holds, the condition may be put under it. -/
theorem guarded {guard : Prop} {computation : Except ε α}
    (ends : EndsWhen foreseen condition facts computation) (holds : guard) :
    EndsWhen foreseen (guard → condition) facts computation := by
  apply ends.congr
  constructor
  · intro fits _
    exact fits
  · intro fits
    exact fits holds

/-- Where the guard does not hold, a value is returned anyway. -/
theorem skipped {guard : Prop} {value : α} (fails : ¬ guard) (known : facts value) :
    EndsWhen foreseen (guard → condition) facts (.ok value) :=
  .returned (fun holds => absurd holds fails) known

/-- Under the condition a value is returned. -/
theorem returns {computation : Except ε α} (ends : EndsWhen foreseen condition facts computation)
    (holds : condition) : ∃ value, computation = .ok value ∧ facts value := by
  cases ends with
  | returned _ known => exact ⟨_, rfl, known⟩
  | raised fails _ => exact absurd holds fails

/-- What is made of a value is returned when the value is. -/
theorem map {first : Except ε α} {make : α → Except ε β}
    (begins : EndsWhen foreseen condition facts first)
    (made : ∀ value, facts value → ∃ result, make value = .ok result ∧ later result) :
    EndsWhen foreseen condition later (first >>= make) := by
  cases begins with
  | raised fails expected => exact .raised fails expected
  | returned holds known =>
      obtain ⟨result, returns, knownToo⟩ := made _ known
      rw [Guard.ok_bind, returns]
      exact .returned holds knownToo

/-- Some value is returned exactly when the condition holds. -/
theorem exists_iff {computation : Except ε α}
    (ends : EndsWhen foreseen condition facts computation) :
    (∃ value, computation = .ok value ∧ facts value) ↔ condition := by
  constructor
  · rintro ⟨value, same, _⟩
    exact (ends.of_ok same).1
  · exact ends.returns

/-- **The rule of loops**, where the checks follow a view of the value. -/
theorem loop {step : β → α → Except ε β} (view : β → γ) (check : γ → α → Prop)
    (after : γ → α → γ)
    (passes : ∀ value item, EndsWhen foreseen (check (view value) item)
      (fun next => view next = after (view value) item) (step value item))
    (items : List α) (start : β) :
    EndsWhen foreseen (Checked check after (view start) items)
      (fun final => view final = items.foldl after (view start)) (items.foldlM step start) := by
  induction items generalizing start with
  | nil => exact .returned trivial rfl
  | cons item rest ih =>
      rw [List.foldlM_cons]
      apply (passes start item).bind
      intro next moved
      rw [List.foldl_cons, ← moved]
      exact ih next

/-- A loop in which every item is checked for itself. -/
theorem each {step : β → α → Except ε β} (fits : α → Prop)
    (passes : ∀ value item, EndsWhen foreseen (fits item) (fun _ => True) (step value item))
    (items : List α) (start : β) :
    EndsWhen foreseen (∀ item ∈ items, fits item) (fun _ => True) (items.foldlM step start) := by
  have loops := loop (fun _ => ()) (fun _ item => fits item) (fun _ _ => ())
    (fun value item => (passes value item).mono fun _ _ _ => rfl) items start
  exact (loops.mono fun _ _ _ => trivial).congr (checked_each fits _ items ())

end EndsWhen

/-- Nothing is said of the exceptions. -/
abbrev ReturnsWhen (condition : Prop) (facts : α → Prop) : Except ε α → Prop :=
  EndsWhen (fun _ => True) condition facts

theorem returnsWhen_require {condition : Prop} [Decidable condition] (exception : ε) :
    ReturnsWhen condition (fun _ => True) (Guard.require condition exception) := by
  unfold Guard.require
  split
  · rename_i holds
    exact .returned holds trivial
  · rename_i fails
    exact .raised fails trivial

end Folds
