import Mathlib.Tactic.TypeStar

/-!
# Routines of awaited calls

A routine is a program that awaits calls: it asks for one operation at a time and
goes on with the reply, or with the exception the call raised. What a routine does
is judged against the replies its environment may give: `All` is the
postcondition for all of them, `Possible` for some of them, and `Runs` lists the
replies of one execution.
-/

/-- A program that awaits operations. `hang` is a routine that is never resumed. -/
inductive Routine (Op : Type) (Reply : Op → Type) (Exc α : Type) where
  | pure (a : α)
  | raise (e : Exc)
  | hang
  | call (op : Op) (next : Except Exc (Reply op) → Routine Op Reply Exc α)

namespace Routine

variable {Op : Type} {Reply : Op → Type} {Exc α β : Type}

/-- Sequencing: an exception of the first routine skips the second. -/
def bind : Routine Op Reply Exc α → (α → Routine Op Reply Exc β) → Routine Op Reply Exc β
  | pure a, f => f a
  | raise e, _ => raise e
  | hang, _ => hang
  | call op next, f => call op fun reply => (next reply).bind f

instance : Monad (Routine Op Reply Exc) where
  pure := Routine.pure
  bind := Routine.bind

/-- Await one operation and return its reply or raise its exception. -/
def perform (op : Op) : Routine Op Reply Exc (Reply op) :=
  call op fun reply =>
    match reply with
    | .ok r => pure r
    | .error e => raise e

/-- A computation that may fail, without awaiting anything. -/
def ofExcept : Except Exc α → Routine Op Reply Exc α
  | .ok a => pure a
  | .error e => raise e

/-- Run a routine and then the final routine, whatever the outcome of the first was. -/
def tryFinally (body : Routine Op Reply Exc α) (final : Routine Op Reply Exc β) :
    Routine Op Reply Exc α :=
  match body with
  | pure a => final.bind fun _ => pure a
  | raise e => final.bind fun _ => raise e
  | hang => hang
  | call op next => call op fun reply => (next reply).tryFinally final

/-- The outcome predicate of a sequence, after the outcome of its first routine. -/
def andThen (post : β → Prop) (fail : Exc → Prop) : Except Exc β → Prop
  | .ok b => post b
  | .error e => fail e

section Semantics

variable (admissible : (op : Op) → Except Exc (Reply op) → Prop)

/-- Every execution with admissible replies ends with an outcome in `Q`. -/
def All (Q : Except Exc α → Prop) : Routine Op Reply Exc α → Prop
  | pure a => Q (.ok a)
  | raise e => Q (.error e)
  | hang => True
  | call op next => ∀ reply, admissible op reply → All Q (next reply)

/-- Some execution with admissible replies ends with an outcome in `Q`. -/
def Possible (Q : Except Exc α → Prop) : Routine Op Reply Exc α → Prop
  | pure a => Q (.ok a)
  | raise e => Q (.error e)
  | hang => False
  | call op next => ∃ reply, admissible op reply ∧ Possible Q (next reply)

/-- One execution, with the operations and replies it went through. -/
inductive Runs : Routine Op Reply Exc α → List ((op : Op) × Except Exc (Reply op)) →
    Except Exc α → Prop
  | pure (a : α) : Runs (.pure a) [] (.ok a)
  | raise (e : Exc) : Runs (.raise e) [] (.error e)
  | call {op : Op} {next : Except Exc (Reply op) → Routine Op Reply Exc α}
      {reply : Except Exc (Reply op)} {trace : List ((op : Op) × Except Exc (Reply op))}
      {result : Except Exc α} (tail : Runs (next reply) trace result) :
      Runs (.call op next) (⟨op, reply⟩ :: trace) result

/-- The replies of an execution determine its outcome. -/
theorem Runs.unique {routine : Routine Op Reply Exc α}
    {trace : List ((op : Op) × Except Exc (Reply op))} {result other : Except Exc α}
    (h : Runs routine trace result) (h' : Runs routine trace other) : result = other := by
  induction h with
  | pure a =>
      cases h'
      rfl
  | raise e =>
      cases h'
      rfl
  | call tail ih =>
      cases h' with
      | call tail' => exact ih tail'

/-- The outcome with the replies of a fixed environment, if the routine comes to one. -/
def outcome {σ : Type} (answer : σ → (op : Op) → Except Exc (Reply op) × σ) :
    Routine Op Reply Exc α → σ → Option (Except Exc α)
  | pure a, _ => some (.ok a)
  | raise e, _ => some (.error e)
  | hang, _ => none
  | call op next, s => outcome answer (next (answer s op).1) (answer s op).2

theorem runs_of_outcome {σ : Type} {answer : σ → (op : Op) → Except Exc (Reply op) × σ}
    {routine : Routine Op Reply Exc α} {s : σ} {result : Except Exc α}
    (h : routine.outcome answer s = some result) : ∃ trace, Runs routine trace result := by
  induction routine generalizing s with
  | pure a =>
      cases h
      exact ⟨[], .pure a⟩
  | raise e =>
      cases h
      exact ⟨[], .raise e⟩
  | hang => cases h
  | call op next ih =>
      obtain ⟨trace, hruns⟩ := ih _ h
      exact ⟨⟨op, (answer s op).1⟩ :: trace, .call hruns⟩

/-- A result that is found by evaluation is that of an execution. -/
theorem runs_of_returned {σ : Type} {answer : σ → (op : Op) → Except Exc (Reply op) × σ}
    {routine : Routine Op Reply Exc α} {s : σ} {p : α → Bool}
    (h : ((routine.outcome answer s).bind Except.toOption).any p = true) :
    ∃ trace a, Runs routine trace (.ok a) ∧ p a = true := by
  obtain ⟨a, hreturned, ha⟩ := (Option.any_eq_true _ _).mp h
  obtain ⟨result, houtcome, hok⟩ := Option.bind_eq_some_iff.mp hreturned
  cases result with
  | error e => cases hok
  | ok b =>
      cases hok
      obtain ⟨trace, hruns⟩ := runs_of_outcome houtcome
      exact ⟨trace, a, hruns, ha⟩

variable {admissible}

/-- The postcondition holds of every execution with admissible replies. -/
theorem All.runs {Q : Except Exc α → Prop} {routine : Routine Op Reply Exc α}
    {trace : List ((op : Op) × Except Exc (Reply op))} {result : Except Exc α}
    (h : routine.All admissible Q) (hruns : Runs routine trace result)
    (hreplies : ∀ item ∈ trace, admissible item.1 item.2) : Q result := by
  induction hruns with
  | pure a => exact h
  | raise e => exact h
  | @call op next reply trace result tail ih =>
      have hfirst := hreplies ⟨op, reply⟩ List.mem_cons_self
      exact ih (h reply hfirst) fun item hitem => hreplies item (List.mem_cons_of_mem _ hitem)

/-- A possible outcome is reached by an execution with admissible replies. -/
theorem Possible.runs {Q : Except Exc α → Prop} {routine : Routine Op Reply Exc α}
    (h : routine.Possible admissible Q) :
    ∃ trace result, Runs routine trace result ∧ (∀ item ∈ trace, admissible item.1 item.2) ∧
      Q result := by
  induction routine with
  | pure a => exact ⟨[], _, .pure a, fun _ hitem => absurd hitem List.not_mem_nil, h⟩
  | raise e => exact ⟨[], _, .raise e, fun _ hitem => absurd hitem List.not_mem_nil, h⟩
  | hang => exact h.elim
  | call op next ih =>
      obtain ⟨reply, hreply, htail⟩ := h
      obtain ⟨trace, result, hruns, htrace, hresult⟩ := ih reply htail
      refine ⟨⟨op, reply⟩ :: trace, result, .call hruns, ?_, hresult⟩
      intro item hitem
      rcases List.mem_cons.mp hitem with rfl | hrest
      · exact hreply
      · exact htrace item hrest

/-- The consequence rule. -/
theorem All.mono {Q R : Except Exc α → Prop} {routine : Routine Op Reply Exc α}
    (h : routine.All admissible Q) (hQR : ∀ result, Q result → R result) :
    routine.All admissible R := by
  induction routine with
  | pure a => exact hQR _ h
  | raise e => exact hQR _ h
  | hang => trivial
  | call op next ih => exact fun reply hreply => ih reply (h reply hreply)

theorem Possible.mono {Q R : Except Exc α → Prop} {routine : Routine Op Reply Exc α}
    (h : routine.Possible admissible Q) (hQR : ∀ result, Q result → R result) :
    routine.Possible admissible R := by
  induction routine with
  | pure a => exact hQR _ h
  | raise e => exact hQR _ h
  | hang => exact h
  | call op next ih =>
      obtain ⟨reply, hreply, htail⟩ := h
      exact ⟨reply, hreply, ih reply htail⟩

/-- A postcondition that every outcome meets holds of every routine. -/
theorem All.of_forall {Q : Except Exc α → Prop} (routine : Routine Op Reply Exc α)
    (h : ∀ result, Q result) : routine.All admissible Q := by
  induction routine with
  | pure a => exact h _
  | raise e => exact h _
  | hang => trivial
  | call op next ih => exact fun reply _ => ih reply

@[simp] theorem all_pure {Q : Except Exc α → Prop} {a : α} :
    (Pure.pure a : Routine Op Reply Exc α).All admissible Q ↔ Q (.ok a) := Iff.rfl

@[simp] theorem possible_pure {Q : Except Exc α → Prop} {a : α} :
    (Pure.pure a : Routine Op Reply Exc α).Possible admissible Q ↔ Q (.ok a) := Iff.rfl

@[simp] theorem all_raise {Q : Except Exc α → Prop} {e : Exc} :
    (raise e : Routine Op Reply Exc α).All admissible Q ↔ Q (.error e) := Iff.rfl

/-- The rule of sequencing. -/
@[simp] theorem all_bind {Q : Except Exc β → Prop} {routine : Routine Op Reply Exc α}
    {f : α → Routine Op Reply Exc β} :
    (routine >>= f).All admissible Q ↔
      routine.All admissible (andThen (fun a => (f a).All admissible Q) fun e => Q (.error e)) := by
  induction routine with
  | pure a => exact Iff.rfl
  | raise e => exact Iff.rfl
  | hang => exact Iff.rfl
  | call op next ih => exact forall_congr' fun reply => imp_congr_right fun _ => ih reply

@[simp] theorem possible_bind {Q : Except Exc β → Prop} {routine : Routine Op Reply Exc α}
    {f : α → Routine Op Reply Exc β} :
    (routine >>= f).Possible admissible Q ↔
      routine.Possible admissible
        (andThen (fun a => (f a).Possible admissible Q) fun e => Q (.error e)) := by
  induction routine with
  | pure a => exact Iff.rfl
  | raise e => exact Iff.rfl
  | hang => exact Iff.rfl
  | call op next ih => exact exists_congr fun reply => and_congr_right fun _ => ih reply

/-- The rule of one awaited operation. -/
@[simp] theorem all_perform {op : Op} {Q : Except Exc (Reply op) → Prop} :
    (perform op).All admissible Q ↔ ∀ reply, admissible op reply → Q reply := by
  refine forall_congr' fun reply => imp_congr_right fun _ => ?_
  cases reply <;> exact Iff.rfl

@[simp] theorem possible_perform {op : Op} {Q : Except Exc (Reply op) → Prop} :
    (perform op).Possible admissible Q ↔ ∃ reply, admissible op reply ∧ Q reply := by
  refine exists_congr fun reply => and_congr_right fun _ => ?_
  cases reply <;> exact Iff.rfl

@[simp] theorem andThen_ok {post : β → Prop} {fail : Exc → Prop} {b : β} :
    andThen post fail (.ok b) ↔ post b := Iff.rfl

@[simp] theorem andThen_error {post : β → Prop} {fail : Exc → Prop} {e : Exc} :
    andThen post fail (.error e) ↔ fail e := Iff.rfl

/-! ### Outcomes without an exception -/

/-- Every execution that returns, returns a value in `P`. -/
def Ensures (admissible : (op : Op) → Except Exc (Reply op) → Prop) (P : α → Prop)
    (routine : Routine Op Reply Exc α) : Prop :=
  routine.All admissible fun result => ∀ a, result = .ok a → P a

/-- Some execution returns. -/
def CanReturn (admissible : (op : Op) → Except Exc (Reply op) → Prop)
    (routine : Routine Op Reply Exc α) : Prop :=
  routine.Possible admissible fun result => ∃ a, result = .ok a

theorem Ensures.runs {P : α → Prop} {routine : Routine Op Reply Exc α}
    {trace : List ((op : Op) × Except Exc (Reply op))} {a : α}
    (h : routine.Ensures admissible P) (hruns : Runs routine trace (.ok a))
    (hreplies : ∀ item ∈ trace, admissible item.1 item.2) : P a :=
  All.runs h hruns hreplies a rfl

theorem CanReturn.runs {routine : Routine Op Reply Exc α} (h : routine.CanReturn admissible) :
    ∃ trace a, Runs routine trace (.ok a) ∧ ∀ item ∈ trace, admissible item.1 item.2 := by
  obtain ⟨trace, result, hruns, htrace, a, rfl⟩ := Possible.runs h
  exact ⟨trace, a, hruns, htrace⟩

theorem Ensures.of_forall {P : α → Prop} (routine : Routine Op Reply Exc α) (h : ∀ a, P a) :
    routine.Ensures admissible P :=
  All.of_forall routine fun _ a _ => h a

theorem Ensures.pure {P : α → Prop} {a : α} (h : P a) :
    (Pure.pure a : Routine Op Reply Exc α).Ensures admissible P := by
  rintro b hb
  injection hb with hb
  exact hb ▸ h

theorem CanReturn.pure (a : α) :
    (Pure.pure a : Routine Op Reply Exc α).CanReturn admissible :=
  ⟨a, rfl⟩

/-- The rule of sequencing with an intermediate condition. -/
theorem Ensures.bind {P : α → Prop} {R : β → Prop} {routine : Routine Op Reply Exc α}
    {f : α → Routine Op Reply Exc β} (h : routine.Ensures admissible P)
    (hf : ∀ a, P a → (f a).Ensures admissible R) : (routine >>= f).Ensures admissible R := by
  refine all_bind.mpr (All.mono h ?_)
  intro result hresult
  cases result with
  | ok a => exact hf a (hresult a rfl)
  | error e =>
      intro b hb
      cases hb

theorem CanReturn.bind {routine : Routine Op Reply Exc α} {f : α → Routine Op Reply Exc β}
    (h : routine.CanReturn admissible) (hf : ∀ a, (f a).CanReturn admissible) :
    (routine >>= f).CanReturn admissible := by
  refine possible_bind.mpr (Possible.mono h ?_)
  rintro result ⟨a, rfl⟩
  exact hf a

theorem Ensures.perform {op : Op} {P : Reply op → Prop}
    (h : ∀ reply, admissible op (.ok reply) → P reply) :
    (perform op).Ensures admissible P := by
  refine all_perform.mpr ?_
  rintro _ hreply reply rfl
  exact h reply hreply

theorem CanReturn.perform {op : Op} (reply : Reply op) (h : admissible op (.ok reply)) :
    (perform op).CanReturn admissible :=
  possible_perform.mpr ⟨.ok reply, h, reply, rfl⟩

end Semantics

end Routine
