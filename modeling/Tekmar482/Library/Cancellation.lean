import Tekmar482.Library.Contract

/-!
# Bounded and cancelled routines

How many calls a routine makes, and what becomes of it when one of its calls raises an
exception that it does not handle. Such a call ends the routine, but for the calls of its
final routines.
-/

namespace Routine

variable {Op Op' : Type} {Reply : Op → Type} {Reply' : Op' → Type} {Exc α β : Type}

/-- How a routine has ended. -/
def result : Routine Op Reply Exc α → Option (Except Exc α)
  | pure a => some (.ok a)
  | raise e => some (.error e)
  | hang | call _ _ => none

/-- A routine that has ended meets its postcondition. -/
theorem Follows.result {γ : Type} {contract : Contract Op Reply Exc γ}
    {Q : γ → Except Exc α → Prop} {routine : Routine Op Reply Exc α} {g : γ}
    {outcome : Except Exc α} (h : routine.Follows contract Q g) (hresult : routine.result = some outcome) : Q g outcome := by
  cases routine with
  | pure a =>
      cases hresult
      exact h
  | raise e =>
      cases hresult
      exact h
  | hang => cases hresult
  | call op next => cases hresult

/-! ### A bound on the calls -/

/-- The routine ends after at most so many calls. -/
def Within : Routine Op Reply Exc α → Nat → Prop
  | pure _, _ | raise _, _ => True
  | call _ next, n + 1 => ∀ reply, (next reply).Within n
  | hang, _ | call _ _, 0 => False

section Within

variable {n m : Nat}

theorem Within.mono {routine : Routine Op Reply Exc α} (h : routine.Within n) (hle : n ≤ m) :
    routine.Within m := by
  induction routine generalizing n m with
  | pure a => trivial
  | raise e => trivial
  | hang => exact h.elim
  | call op next ih =>
      cases n with
      | zero => exact h.elim
      | succ n =>
          cases m with
          | zero => omega
          | succ m => exact fun reply => ih reply (h reply) (by omega)

/-- The calls that are left. -/
theorem Within.next {op : Op} {next : Except Exc (Reply op) → Routine Op Reply Exc α}
    (h : (call op next).Within n) (reply : Except Exc (Reply op)) : (next reply).Within n := by
  cases n with
  | zero => exact h.elim
  | succ n => exact (h reply).mono (Nat.le_succ n)

theorem Within.perform (op : Op) :
    (perform op : Routine Op Reply Exc (Reply op)).Within 1 := by
  intro reply
  cases reply <;> trivial

theorem Within.bind {routine : Routine Op Reply Exc α} {f : α → Routine Op Reply Exc β}
    (h : routine.Within n) (hf : ∀ a, (f a).Within m) : (routine >>= f).Within (n + m) := by
  induction routine generalizing n with
  | pure a => exact (hf a).mono (Nat.le_add_left m n)
  | raise e => trivial
  | hang => exact h.elim
  | call op next ih =>
      cases n with
      | zero => exact h.elim
      | succ n =>
          rw [Nat.add_right_comm]
          exact fun reply => ih reply (h reply)

theorem Within.tryExcept {body : Routine Op Reply Exc α} {handler : Exc → Routine Op Reply Exc α}
    (h : body.Within n) (hhandler : ∀ e, (handler e).Within m) :
    (body.tryExcept handler).Within (n + m) := by
  induction body generalizing n with
  | pure a => trivial
  | raise e => exact (hhandler e).mono (Nat.le_add_left m n)
  | hang => exact h.elim
  | call op next ih =>
      cases n with
      | zero => exact h.elim
      | succ n =>
          rw [Nat.add_right_comm]
          exact fun reply => ih reply (h reply)

theorem Within.lift {embed : Op → Op'}
    {convert : ∀ op, Except Exc (Reply' (embed op)) → Except Exc (Reply op)}
    {routine : Routine Op Reply Exc α} (h : routine.Within n) :
    (routine.lift embed convert).Within n := by
  induction routine generalizing n with
  | pure a => trivial
  | raise e => trivial
  | hang => exact h.elim
  | call op next ih =>
      cases n with
      | zero => exact h.elim
      | succ n => exact fun reply => ih _ (h _)

end Within

/-! ### Exceptions that end a routine -/

/-- The routine raises `e` after at most so many calls that return. -/
def RaisesWithin (e : Exc) : Routine Op Reply Exc α → Nat → Prop
  | raise e', _ => e' = e
  | call _ next, n + 1 => ∀ reply, RaisesWithin e (next (.ok reply)) n
  | pure _, _ | hang, _ | call _ _, 0 => False

/-- Whichever call raises `e`, the routine raises it after at most so many calls more. -/
def EndsOn (e : Exc) (n : Nat) : Routine Op Reply Exc α → Prop
  | call _ next => RaisesWithin e (next (.error e)) n ∧ ∀ reply, EndsOn e n (next reply)
  | _ => True

section EndsOn

variable {e : Exc} {n m : Nat}

theorem RaisesWithin.bind {routine : Routine Op Reply Exc α} {f : α → Routine Op Reply Exc β}
    (h : routine.RaisesWithin e n) : (routine >>= f).RaisesWithin e n := by
  induction routine generalizing n with
  | pure a => exact h.elim
  | raise e' => exact h
  | hang => exact h.elim
  | call op next ih =>
      cases n with
      | zero => exact h.elim
      | succ n => exact fun reply => ih _ (h reply)

/-- A handler that raises `e` again. -/
theorem RaisesWithin.tryExcept {body : Routine Op Reply Exc α}
    {handler : Exc → Routine Op Reply Exc α} (h : body.RaisesWithin e n)
    (hhandler : handler e = raise e) : (body.tryExcept handler).RaisesWithin e n := by
  induction body generalizing n with
  | pure a => exact h.elim
  | raise e' =>
      cases h
      change (handler e).RaisesWithin e n
      rw [hhandler]
      exact rfl
  | hang => exact h.elim
  | call op next ih =>
      cases n with
      | zero => exact h.elim
      | succ n => exact fun reply => ih _ (h reply)

/-- The final call of a routine comes on top. -/
theorem RaisesWithin.tryFinally {op : Op} {body : Routine Op Reply Exc α}
    (h : body.RaisesWithin e n) : (body.tryFinally (perform op)).RaisesWithin e (n + 1) := by
  induction body generalizing n with
  | pure a => exact h.elim
  | raise e' => exact fun _ => h
  | hang => exact h.elim
  | call op' next ih =>
      cases n with
      | zero => exact h.elim
      | succ n => exact fun reply => ih _ (h reply)

section Lift

variable {embed : Op → Op'}
  {convert : ∀ op, Except Exc (Reply' (embed op)) → Except Exc (Reply op)}

theorem RaisesWithin.lift (hok : ∀ op reply, ∃ value, convert op (.ok reply) = .ok value)
    {routine : Routine Op Reply Exc α} (h : routine.RaisesWithin e n) :
    (routine.lift embed convert).RaisesWithin e n := by
  induction routine generalizing n with
  | pure a => exact h.elim
  | raise e' => exact h
  | hang => exact h.elim
  | call op next ih =>
      cases n with
      | zero => exact h.elim
      | succ n =>
          intro reply
          obtain ⟨value, hvalue⟩ := hok op reply
          have hrest := ih _ (h value)
          rwa [← hvalue] at hrest

theorem EndsOn.lift (hok : ∀ op reply, ∃ value, convert op (.ok reply) = .ok value)
    (herror : ∀ op, convert op (.error e) = .error e) {routine : Routine Op Reply Exc α}
    (h : routine.EndsOn e n) : (routine.lift embed convert).EndsOn e n := by
  induction routine with
  | pure a => trivial
  | raise e' => trivial
  | hang => trivial
  | call op next ih =>
      constructor
      · have hraises := h.1.lift hok
        rwa [← herror op] at hraises
      · exact fun reply => ih _ (h.2 _)

end Lift

theorem EndsOn.pure (a : α) : (Pure.pure a : Routine Op Reply Exc α).EndsOn e n := trivial

theorem EndsOn.perform (op : Op) :
    (perform op : Routine Op Reply Exc (Reply op)).EndsOn e n := by
  constructor
  · exact rfl
  · intro reply
    cases reply <;> trivial

theorem EndsOn.bind {routine : Routine Op Reply Exc α} {f : α → Routine Op Reply Exc β}
    (h : routine.EndsOn e n) (hf : ∀ a, (f a).EndsOn e n) : (routine >>= f).EndsOn e n := by
  induction routine with
  | pure a => exact hf a
  | raise e' => trivial
  | hang => trivial
  | call op next ih => exact ⟨h.1.bind, fun reply => ih reply (h.2 reply)⟩

theorem EndsOn.tryExcept {body : Routine Op Reply Exc α} {handler : Exc → Routine Op Reply Exc α}
    (h : body.EndsOn e n) (hhandler : ∀ e', (handler e').EndsOn e n)
    (hraise : handler e = raise e) : (body.tryExcept handler).EndsOn e n := by
  induction body with
  | pure a => trivial
  | raise e' => exact hhandler e'
  | hang => trivial
  | call op next ih => exact ⟨h.1.tryExcept hraise, fun reply => ih reply (h.2 reply)⟩

theorem EndsOn.tryFinally {op : Op} {body : Routine Op Reply Exc α} (h : body.EndsOn e n) :
    (body.tryFinally (Routine.perform op)).EndsOn e (n + 1) := by
  induction body with
  | pure a => exact (EndsOn.perform op).bind fun _ => trivial
  | raise e' => exact (EndsOn.perform op).bind fun _ => trivial
  | hang => trivial
  | call op' next ih => exact ⟨h.1.tryFinally, fun reply => ih reply (h.2 reply)⟩

end EndsOn

end Routine
