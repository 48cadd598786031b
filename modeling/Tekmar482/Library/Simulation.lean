import Tekmar482.Library.Contract

/-!
# Simulation of routines

A routine is simulated by another when each of its executions has a counterpart with the same
outcome. The calls of the two correspond segment by segment, so one call of the simulating
routine may stand for many calls of the other, or for none.
-/

namespace Routine

/-! ## Executions of composed routines -/

section Executions

variable {Op : Type} {Reply : Op → Type} {Exc α β γ : Type}

theorem bind_pure_self (routine : Routine Op Reply Exc α) : routine.bind pure = routine := by
  induction routine with
  | pure a => rfl
  | raise e => rfl
  | hang => rfl
  | call op next ih => exact congrArg (call op) (funext ih)

theorem bind_bind (routine : Routine Op Reply Exc α) (f : α → Routine Op Reply Exc β)
    (g : β → Routine Op Reply Exc γ) :
    (routine.bind f).bind g = routine.bind fun a => (f a).bind g := by
  induction routine with
  | pure a => rfl
  | raise e => rfl
  | hang => rfl
  | call op next ih => exact congrArg (call op) (funext ih)

instance : LawfulMonad (Routine Op Reply Exc) :=
  LawfulMonad.mk' (Routine Op Reply Exc) bind_pure_self (fun _ _ => rfl) bind_bind

/-- An execution of a sequence: one of the first routine, and then one of the second if the
first has returned. -/
theorem runs_bind {routine : Routine Op Reply Exc α} {f : α → Routine Op Reply Exc β}
    {trace : List ((op : Op) × Except Exc (Reply op))} {result : Except Exc β} :
    Runs (routine.bind f) trace result ↔
      ∃ first outcome rest, Runs routine first outcome ∧ trace = first ++ rest ∧
        andThen (fun a => Runs (f a) rest result) (fun e => rest = [] ∧ result = .error e)
          outcome := by
  induction routine generalizing trace with
  | pure a =>
      constructor
      · intro h
        exact ⟨[], .ok a, trace, .pure a, rfl, h⟩
      · rintro ⟨_, _, rest, ⟨⟩, rfl, h⟩
        exact h
  | raise e =>
      constructor
      · intro h
        obtain ⟨⟩ := h
        exact ⟨[], .error e, [], .raise e, rfl, rfl, rfl⟩
      · rintro ⟨_, _, rest, ⟨⟩, rfl, rfl, rfl⟩
        exact .raise e
  | hang =>
      constructor
      · intro h
        cases h
      · rintro ⟨_, _, _, h, -⟩
        cases h
  | call op next ih =>
      constructor
      · intro h
        cases h with
        | @call _ _ reply trace _ tail =>
            obtain ⟨first, outcome, rest, hfirst, rfl, hrest⟩ := (ih reply).mp tail
            exact ⟨⟨op, reply⟩ :: first, outcome, rest, .call hfirst, rfl, hrest⟩
      · rintro ⟨_, outcome, rest, hfirst, rfl, hrest⟩
        cases hfirst with
        | @call _ _ reply first _ tail =>
            exact .call ((ih reply).mpr ⟨first, outcome, rest, tail, rfl, hrest⟩)

/-- An execution with a handler: one of the body, and then one of the handler if the body has
raised. -/
theorem runs_tryExcept {body : Routine Op Reply Exc α} {handler : Exc → Routine Op Reply Exc α}
    {trace : List ((op : Op) × Except Exc (Reply op))} {result : Except Exc α} :
    Runs (body.tryExcept handler) trace result ↔
      ∃ first outcome rest, Runs body first outcome ∧ trace = first ++ rest ∧
        andThen (fun a => rest = [] ∧ result = .ok a) (fun e => Runs (handler e) rest result)
          outcome := by
  induction body generalizing trace with
  | pure a =>
      constructor
      · intro h
        obtain ⟨⟩ := h
        exact ⟨[], .ok a, [], .pure a, rfl, rfl, rfl⟩
      · rintro ⟨_, _, rest, ⟨⟩, rfl, rfl, rfl⟩
        exact .pure a
  | raise e =>
      constructor
      · intro h
        exact ⟨[], .error e, trace, .raise e, rfl, h⟩
      · rintro ⟨_, _, rest, ⟨⟩, rfl, h⟩
        exact h
  | hang =>
      constructor
      · intro h
        cases h
      · rintro ⟨_, _, _, h, -⟩
        cases h
  | call op next ih =>
      constructor
      · intro h
        cases h with
        | @call _ _ reply trace _ tail =>
            obtain ⟨first, outcome, rest, hfirst, rfl, hrest⟩ := (ih reply).mp tail
            exact ⟨⟨op, reply⟩ :: first, outcome, rest, .call hfirst, rfl, hrest⟩
      · rintro ⟨_, outcome, rest, hfirst, rfl, hrest⟩
        cases hfirst with
        | @call _ _ reply first _ tail =>
            exact .call ((ih reply).mpr ⟨first, outcome, rest, tail, rfl, hrest⟩)

end Executions

/-! ## Routines that return -/

section AlwaysReturns

variable {Op : Type} {Reply : Op → Type} {Exc α β : Type}
  {admissible : (op : Op) → Except Exc (Reply op) → Prop}

/-- Every execution with admissible replies returns a value in `P`. -/
def AlwaysReturns (admissible : (op : Op) → Except Exc (Reply op) → Prop) (P : α → Prop)
    (routine : Routine Op Reply Exc α) : Prop :=
  routine.All admissible fun result => ∃ a, result = .ok a ∧ P a

theorem AlwaysReturns.runs {P : α → Prop} {routine : Routine Op Reply Exc α}
    {trace : List ((op : Op) × Except Exc (Reply op))} {result : Except Exc α}
    (h : routine.AlwaysReturns admissible P) (hruns : Runs routine trace result)
    (hreplies : ∀ item ∈ trace, admissible item.1 item.2) : ∃ a, result = .ok a ∧ P a :=
  All.runs h hruns hreplies

theorem AlwaysReturns.pure {P : α → Prop} {a : α} (h : P a) :
    (Pure.pure a : Routine Op Reply Exc α).AlwaysReturns admissible P :=
  ⟨a, rfl, h⟩

theorem AlwaysReturns.bind {P : α → Prop} {R : β → Prop} {routine : Routine Op Reply Exc α}
    {f : α → Routine Op Reply Exc β} (h : routine.AlwaysReturns admissible P)
    (hf : ∀ a, P a → (f a).AlwaysReturns admissible R) :
    (routine >>= f).AlwaysReturns admissible R := by
  apply all_bind.mpr
  apply h.mono
  rintro _ ⟨a, rfl, ha⟩
  exact hf a ha

theorem AlwaysReturns.perform {op : Op} {P : Reply op → Prop}
    (h : ∀ reply, admissible op reply → ∃ value, reply = .ok value ∧ P value) :
    (perform op : Routine Op Reply Exc (Reply op)).AlwaysReturns admissible P :=
  all_perform.mpr h

/-- A body returns if its handler does. -/
theorem AlwaysReturns.tryExcept {P : α → Prop} {body : Routine Op Reply Exc α}
    {handler : Exc → Routine Op Reply Exc α}
    (h : body.All admissible
      (andThen P fun e => (handler e).AlwaysReturns admissible P)) :
    (body.tryExcept handler).AlwaysReturns admissible P := by
  induction body with
  | pure a => exact ⟨a, rfl, h⟩
  | raise e => exact h
  | hang => trivial
  | call op next ih => exact fun reply hreply => ih reply (h reply hreply)

end AlwaysReturns

/-! ## Corresponding executions -/

/-- Two lists that correspond segment by segment. -/
inductive Matching {ι κ : Type} (Segment : List ι → List κ → Prop) : List ι → List κ → Prop
  | nil : Matching Segment [] []
  | append {first rest : List ι} {first' rest' : List κ} (segment : Segment first first')
      (tail : Matching Segment rest rest') : Matching Segment (first ++ rest) (first' ++ rest')

section Matching

variable {ι κ : Type} {Segment : List ι → List κ → Prop} {first rest : List ι}
  {first' rest' : List κ}

theorem Matching.single (h : Segment first first') : Matching Segment first first' := by
  have happend := Matching.append h Matching.nil
  rwa [List.append_nil, List.append_nil] at happend

theorem Matching.concat (h : Matching Segment first first') (hrest : Matching Segment rest rest') :
    Matching Segment (first ++ rest) (first' ++ rest') := by
  induction h with
  | nil => exact hrest
  | append segment _ ih =>
      rw [List.append_assoc, List.append_assoc]
      exact .append segment ih

end Matching

/-- How the calls of two kinds of routines correspond, and the replies that are considered. -/
structure Correspondence (Op Op' : Type) (Reply : Op → Type) (Reply' : Op' → Type)
    (Exc : Type) where
  admits : (op : Op') → Except Exc (Reply' op) → Prop
  segment : List ((op : Op) × Except Exc (Reply op)) →
    List ((op : Op') × Except Exc (Reply' op)) → Prop

section Simulates

variable {Op Op' : Type} {Reply : Op → Type} {Reply' : Op' → Type} {Exc α β : Type}

/-- Every admitted execution of the first routine has a counterpart of the second. -/
def Simulates (c : Correspondence Op Op' Reply Reply' Exc) (concrete : Routine Op' Reply' Exc α)
    (abstract : Routine Op Reply Exc α) : Prop :=
  ∀ trace' result, Runs concrete trace' result → (∀ item ∈ trace', c.admits item.1 item.2) →
    ∃ trace, Runs abstract trace result ∧ Matching c.segment trace trace'

variable {c : Correspondence Op Op' Reply Reply' Exc}

theorem Simulates.pure (a : α) :
    Simulates c (Pure.pure a : Routine Op' Reply' Exc α) (Pure.pure a) := by
  rintro _ _ ⟨⟩ -
  exact ⟨[], .pure a, .nil⟩

/-- The rule of sequencing. -/
theorem Simulates.bind {concrete : Routine Op' Reply' Exc α} {abstract : Routine Op Reply Exc α}
    {f' : α → Routine Op' Reply' Exc β} {f : α → Routine Op Reply Exc β}
    (h : Simulates c concrete abstract) (hf : ∀ a, Simulates c (f' a) (f a)) :
    Simulates c (concrete >>= f') (abstract >>= f) := by
  intro trace' result hruns hadmits
  obtain ⟨first', outcome, rest', hfirst, rfl, hrest⟩ := runs_bind.mp hruns
  obtain ⟨hfirst', hrest'⟩ := List.forall_mem_append.mp hadmits
  obtain ⟨first, hfirst, hmatching⟩ := h first' outcome hfirst hfirst'
  cases outcome with
  | ok a =>
      obtain ⟨rest, hrest, hmatching'⟩ := hf a rest' result hrest hrest'
      exact ⟨first ++ rest, runs_bind.mpr ⟨first, .ok a, rest, hfirst, rfl, hrest⟩,
        hmatching.concat hmatching'⟩
  | error e =>
      obtain ⟨rfl, rfl⟩ := hrest
      refine ⟨first, runs_bind.mpr ⟨first, .error e, [], hfirst, ?_, rfl, rfl⟩, ?_⟩
      · exact (List.append_nil first).symm
      · rwa [List.append_nil]

/-- A routine of the simulating kind with its calls embedded. -/
theorem Simulates.lift {embed : Op → Op'}
    {convert : ∀ op, Except Exc (Reply' (embed op)) → Except Exc (Reply op)}
    (hsegment : ∀ op reply', c.segment [⟨op, convert op reply'⟩] [⟨embed op, reply'⟩])
    (routine : Routine Op Reply Exc α) :
    Simulates c (routine.lift embed convert) routine := by
  intro trace' result hruns hadmits
  clear hadmits
  induction routine generalizing trace' with
  | pure a =>
      obtain ⟨⟩ := hruns
      exact ⟨[], .pure a, .nil⟩
  | raise e =>
      obtain ⟨⟩ := hruns
      exact ⟨[], .raise e, .nil⟩
  | hang => cases hruns
  | call op next ih =>
      cases hruns with
      | @call _ _ reply' rest' _ tail =>
          obtain ⟨rest, hrest, hmatching⟩ := ih _ rest' tail
          exact ⟨⟨op, convert op reply'⟩ :: rest, .call hrest,
            .append (hsegment op reply') hmatching⟩

/-- A routine that returns one value stands for one call that returns it. -/
theorem Simulates.perform (op : Op) (a : Reply op) {concrete : Routine Op' Reply' Exc (Reply op)}
    (hreturns : concrete.AlwaysReturns c.admits fun value => value = a)
    (hsegment : ∀ trace', Runs concrete trace' (.ok a) → c.segment [⟨op, .ok a⟩] trace') :
    Simulates c concrete (Routine.perform op) := by
  intro trace' result hruns hadmits
  obtain ⟨a, rfl, rfl⟩ := hreturns.runs hruns hadmits
  exact ⟨[⟨op, .ok a⟩], .call (.pure a), .single (hsegment trace' hruns)⟩

/-- A routine that returns one value may stand for no call at all. -/
theorem Simulates.skip {a : α} {concrete : Routine Op' Reply' Exc α}
    (hreturns : concrete.AlwaysReturns c.admits fun value => value = a)
    (hsegment : ∀ trace', Runs concrete trace' (.ok a) → c.segment [] trace') :
    Simulates c concrete (Pure.pure a) := by
  intro trace' result hruns hadmits
  obtain ⟨a, rfl, rfl⟩ := hreturns.runs hruns hadmits
  exact ⟨[], .pure a, .single (hsegment trace' hruns)⟩

/-- A handler of a body that does not raise is never called. -/
theorem Simulates.unhandled {body : Routine Op' Reply' Exc α} {abstract : Routine Op Reply Exc α}
    {handler : Exc → Routine Op' Reply' Exc α} (h : Simulates c body abstract)
    (hreturns : body.AlwaysReturns c.admits fun _ => True) :
    Simulates c (body.tryExcept handler) abstract := by
  intro trace' result hruns hadmits
  obtain ⟨first', outcome, rest', hfirst, rfl, hrest⟩ := runs_tryExcept.mp hruns
  obtain ⟨hfirst', -⟩ := List.forall_mem_append.mp hadmits
  obtain ⟨a, rfl, -⟩ := hreturns.runs hfirst hfirst'
  obtain ⟨rfl, rfl⟩ := hrest
  rw [List.append_nil]
  exact h first' (.ok a) hfirst hfirst'

end Simulates

end Routine
