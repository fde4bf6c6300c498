import PatchProof.Library.Guard
import PatchProof.Library.Program

/-!
# Running a program with one reply to every call

When every call has one reply, a program is a computation that returns or raises, and what it
is composed of runs in the same order.
-/

set_option autoImplicit false

namespace Program

variable {Call : Type} {Reply : Call → Type} {ε α β : Type}
  {reply : (call : Call) → Reply call}

theorem under_ask (call : Call) (next : Reply call → Program Reply ε α) :
    (Program.ask call next).under reply = (next (reply call)).under reply := rfl

theorem under_bind (program : Program Reply ε α) (rest : α → Program Reply ε β) :
    (program >>= rest).under reply =
      program.under reply >>= fun value => (rest value).under reply := by
  rw [bind_eq_bind]
  induction program with
  | done outcome =>
      cases outcome with
      | error exception => rfl
      | ok value => rfl
  | ask call next ih => exact ih (reply call)

theorem under_foldlM {step : β → α → Program Reply ε β} (items : List α) (start : β) :
    (items.foldlM step start).under reply =
      items.foldlM (fun value item => (step value item).under reply) start := by
  induction items generalizing start with
  | nil => rfl
  | cons item rest ih =>
      rw [List.foldlM_cons, under_bind, List.foldlM_cons]
      congr 1
      funext value
      exact ih value

end Program
