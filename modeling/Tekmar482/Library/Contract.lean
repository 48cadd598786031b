import Tekmar482.Library.Routine

/-!
# Contracts of routines

A contract follows a routine with a ghost state. In each ghost state it says which
operations may be asked for, and which replies, with which next ghost state, the
environment may give. A routine that follows a contract can be checked call by
call, so a machine that answers its calls keeps what the contract says.
-/

namespace Routine

variable {Op Op' : Type} {Reply : Op → Type} {Reply' : Op' → Type} {Exc α β γ γ' : Type}

/-- What may be asked for in a ghost state, and what may follow. -/
structure Contract (Op : Type) (Reply : Op → Type) (Exc γ : Type) where
  requires : γ → Op → Prop
  answers : γ → (op : Op) → Except Exc (Reply op) → γ → Prop

/-- Every call that the routine comes to is allowed, and its outcome meets `Q`. -/
def Follows (contract : Contract Op Reply Exc γ) (Q : γ → Except Exc α → Prop) :
    Routine Op Reply Exc α → γ → Prop
  | pure a, g => Q g (.ok a)
  | raise e, g => Q g (.error e)
  | hang, _ => True
  | call op next, g => contract.requires g op ∧
      ∀ reply g', contract.answers g op reply g' → Follows contract Q (next reply) g'

section Rules

variable {contract : Contract Op Reply Exc γ}

/-- The consequence rule. -/
theorem Follows.mono {Q R : γ → Except Exc α → Prop} {routine : Routine Op Reply Exc α} {g : γ}
    (h : routine.Follows contract Q g) (hQR : ∀ g' result, Q g' result → R g' result) :
    routine.Follows contract R g := by
  induction routine generalizing g with
  | pure a => exact hQR g _ h
  | raise e => exact hQR g _ h
  | hang => trivial
  | call op next ih =>
      constructor
      · exact h.1
      · intro reply g' hanswer
        exact ih reply (h.2 reply g' hanswer)

/-- Two postconditions of one contract hold together. -/
theorem Follows.and {Q R : γ → Except Exc α → Prop} {routine : Routine Op Reply Exc α} {g : γ}
    (h : routine.Follows contract Q g) (h' : routine.Follows contract R g) :
    routine.Follows contract (fun g' result => Q g' result ∧ R g' result) g := by
  induction routine generalizing g with
  | pure a => exact ⟨h, h'⟩
  | raise e => exact ⟨h, h'⟩
  | hang => trivial
  | call op next ih =>
      constructor
      · exact h.1
      · intro reply g' hanswer
        exact ih reply (h.2 reply g' hanswer) (h'.2 reply g' hanswer)

/-- A postcondition that every outcome meets, under a contract that allows every call. -/
theorem Follows.of_forall {Q : γ → Except Exc α → Prop} (routine : Routine Op Reply Exc α)
    (hrequires : ∀ g op, contract.requires g op) (h : ∀ g result, Q g result) (g : γ) :
    routine.Follows contract Q g := by
  induction routine generalizing g with
  | pure a => exact h g _
  | raise e => exact h g _
  | hang => trivial
  | call op next ih =>
      constructor
      · exact hrequires g op
      · exact fun reply g' _ => ih reply g'

/-- The rule of sequencing. -/
theorem follows_bind {Q : γ → Except Exc β → Prop} {routine : Routine Op Reply Exc α}
    {f : α → Routine Op Reply Exc β} {g : γ} :
    (routine >>= f).Follows contract Q g ↔
      routine.Follows contract
        (fun g' => andThen (fun a => (f a).Follows contract Q g') fun e => Q g' (.error e)) g := by
  induction routine generalizing g with
  | pure a => exact Iff.rfl
  | raise e => exact Iff.rfl
  | hang => exact Iff.rfl
  | call op next ih =>
      apply and_congr_right
      intro _
      apply forall_congr'
      intro reply
      apply forall_congr'
      intro g'
      apply imp_congr_right
      intro _
      exact ih reply

/-- The rule of one awaited operation. -/
theorem follows_perform {op : Op} {Q : γ → Except Exc (Reply op) → Prop} {g : γ} :
    (perform op : Routine Op Reply Exc (Reply op)).Follows contract Q g ↔
      contract.requires g op ∧ ∀ reply g', contract.answers g op reply g' → Q g' reply := by
  apply and_congr_right
  intro _
  apply forall_congr'
  intro reply
  cases reply <;> exact Iff.rfl

/-- The rule of a final routine. -/
theorem follows_tryFinally {Q : γ → Except Exc α → Prop} {body : Routine Op Reply Exc α}
    {final : Routine Op Reply Exc β} {g : γ}
    (h : body.Follows contract (fun g' result =>
      final.Follows contract (fun g'' => andThen (fun _ => Q g'' result) fun e => Q g'' (.error e))
        g') g) :
    (body.tryFinally final).Follows contract Q g := by
  induction body generalizing g with
  | pure a => exact follows_bind.mpr h
  | raise e => exact follows_bind.mpr h
  | hang => trivial
  | call op next ih =>
      constructor
      · exact h.1
      · intro reply g' hanswer
        exact ih reply (h.2 reply g' hanswer)

/-! ### Outcomes without an exception -/

/-- The routine follows the contract, and what it returns meets `P`. -/
abbrev Delivers (contract : Contract Op Reply Exc γ) (P : α → γ → Prop)
    (routine : Routine Op Reply Exc α) (g : γ) : Prop :=
  routine.Follows contract (fun g' result => ∀ a, result = .ok a → P a g') g

theorem Delivers.weaken {P : α → γ → Prop} {routine : Routine Op Reply Exc α} {g : γ}
    (h : routine.Delivers contract P g) : routine.Delivers contract (fun _ _ => True) g :=
  h.mono fun _ _ _ _ _ => trivial

theorem Delivers.and {P R : α → γ → Prop} {routine : Routine Op Reply Exc α} {g : γ}
    (h : routine.Delivers contract P g) (h' : routine.Delivers contract R g) :
    routine.Delivers contract (fun a g' => P a g' ∧ R a g') g :=
  (Follows.and h h').mono fun _ _ hboth a ha => ⟨hboth.1 a ha, hboth.2 a ha⟩

theorem Delivers.pure {P : α → γ → Prop} {a : α} {g : γ} (h : P a g) :
    (Pure.pure a : Routine Op Reply Exc α).Delivers contract P g := by
  rintro b hb
  injection hb with hb
  exact hb ▸ h

theorem Delivers.raise {P : α → γ → Prop} {e : Exc} {g : γ} :
    (raise e : Routine Op Reply Exc α).Delivers contract P g :=
  fun _ h => nomatch h

theorem Delivers.ofExcept {P : α → γ → Prop} {value : Except Exc α} {g : γ}
    (h : ∀ a, value = .ok a → P a g) :
    (ofExcept value : Routine Op Reply Exc α).Delivers contract P g := by
  cases value with
  | ok a => exact Delivers.pure (h a rfl)
  | error e => exact Delivers.raise

theorem Delivers.bind {P : α → γ → Prop} {R : β → γ → Prop} {routine : Routine Op Reply Exc α}
    {f : α → Routine Op Reply Exc β} {g : γ} (h : routine.Delivers contract P g)
    (hf : ∀ a g', P a g' → (f a).Delivers contract R g') :
    (routine >>= f).Delivers contract R g := by
  apply follows_bind.mpr
  apply Follows.mono h
  intro g' result hresult
  cases result with
  | ok a => exact hf a g' (hresult a rfl)
  | error e => exact fun _ h => nomatch h

theorem Delivers.of_forall (routine : Routine Op Reply Exc α)
    (hrequires : ∀ g op, contract.requires g op) (g : γ) :
    routine.Delivers contract (fun _ _ => True) g :=
  Follows.of_forall routine hrequires (fun _ _ _ _ => trivial) g

theorem Delivers.perform {op : Op} {P : Reply op → γ → Prop} {g : γ}
    (hrequires : contract.requires g op)
    (h : ∀ reply g', contract.answers g op (.ok reply) g' → P reply g') :
    (perform op : Routine Op Reply Exc (Reply op)).Delivers contract P g := by
  apply follows_perform.mpr
  constructor
  · exact hrequires
  · rintro _ g' hanswer reply rfl
    exact h reply g' hanswer

/-! ### Outcomes with an exception -/

/-- The routine follows the contract, and what it raises meets `P`. -/
abbrev Throws (contract : Contract Op Reply Exc γ) (P : Exc → γ → Prop)
    (routine : Routine Op Reply Exc α) (g : γ) : Prop :=
  routine.Follows contract (fun g' result => ∀ e, result = .error e → P e g') g

theorem Throws.pure {P : Exc → γ → Prop} {a : α} {g : γ} :
    (Pure.pure a : Routine Op Reply Exc α).Throws contract P g :=
  fun _ h => nomatch h

theorem Throws.bind {P : Exc → γ → Prop} {routine : Routine Op Reply Exc α}
    {f : α → Routine Op Reply Exc β} {g : γ} (h : routine.Throws contract P g)
    (hf : ∀ a g', (f a).Throws contract P g') : (routine >>= f).Throws contract P g := by
  apply follows_bind.mpr
  apply Follows.mono h
  intro g' result hresult
  cases result with
  | ok a => exact hf a g'
  | error e => exact fun _ he => hresult _ (Except.error.inj he ▸ rfl)

theorem Throws.perform {op : Op} {P : Exc → γ → Prop} {g : γ} (hrequires : contract.requires g op)
    (h : ∀ e g', contract.answers g op (.error e) g' → P e g') :
    (perform op : Routine Op Reply Exc (Reply op)).Throws contract P g := by
  apply follows_perform.mpr
  constructor
  · exact hrequires
  · rintro _ g' hanswer e rfl
    exact h e g' hanswer

end Rules

/-! ### Routines inside a larger set of operations -/

/-- The same routine over other operations. -/
def lift (embed : Op → Op') (convert : ∀ op, Except Exc (Reply' (embed op)) → Except Exc (Reply op)) :
    Routine Op Reply Exc α → Routine Op' Reply' Exc α
  | pure a => pure a
  | raise e => raise e
  | hang => hang
  | call op next => call (embed op) fun reply => (next (convert op reply)).lift embed convert

/-- The simulation rule: a lifted routine follows a contract whose answers are
answers of the routine's own contract, up to a relation of the ghost states. -/
theorem Follows.lift {contract : Contract Op Reply Exc γ} {contract' : Contract Op' Reply' Exc γ'}
    {embed : Op → Op'} {convert : ∀ op, Except Exc (Reply' (embed op)) → Except Exc (Reply op)}
    (related : γ → γ' → Prop)
    (hrequires : ∀ g g' op, related g g' → contract.requires g op →
      contract'.requires g' (embed op))
    (hanswers : ∀ g g' op reply next', related g g' →
      contract'.answers g' (embed op) reply next' →
      ∃ next, contract.answers g op (convert op reply) next ∧ related next next')
    {Q : γ → Except Exc α → Prop} {Q' : γ' → Except Exc α → Prop}
    (hpost : ∀ g g' result, related g g' → Q g result → Q' g' result)
    {routine : Routine Op Reply Exc α} {g : γ} {g' : γ'}
    (h : routine.Follows contract Q g) (hrelated : related g g') :
    (routine.lift embed convert).Follows contract' Q' g' := by
  induction routine generalizing g g' with
  | pure a => exact hpost g g' _ hrelated h
  | raise e => exact hpost g g' _ hrelated h
  | hang => trivial
  | call op next ih =>
      constructor
      · exact hrequires g g' op hrelated h.1
      · intro reply after' hanswer
        obtain ⟨after, hafter, hrelated'⟩ := hanswers g g' op reply after' hrelated hanswer
        exact ih _ (h.2 _ after hafter) hrelated'

/-- The contract of a larger set of operations, for those that are embedded in it. -/
def Contract.comap (contract : Contract Op' Reply' Exc γ) (embed : Op → Op')
    (convert : ∀ op, Except Exc (Reply' (embed op)) → Except Exc (Reply op)) :
    Contract Op Reply Exc γ where
  requires g op := contract.requires g (embed op)
  answers g op reply g' := ∃ reply', contract.answers g (embed op) reply' g' ∧
    convert op reply' = reply

/-- The rule of a lifted routine. -/
theorem Follows.lift_comap {contract : Contract Op' Reply' Exc γ} {embed : Op → Op'}
    {convert : ∀ op, Except Exc (Reply' (embed op)) → Except Exc (Reply op)}
    {Q : γ → Except Exc α → Prop} {routine : Routine Op Reply Exc α} {g : γ}
    (h : routine.Follows (contract.comap embed convert) Q g) :
    (routine.lift embed convert).Follows contract Q g := by
  induction routine generalizing g with
  | pure a => exact h
  | raise e => exact h
  | hang => trivial
  | call op next ih =>
      constructor
      · exact h.1
      · intro reply g' hanswer
        exact ih _ (h.2 _ g' ⟨reply, hanswer, rfl⟩)

/-! ### Handlers -/

/-- Run a routine, and a handler on the exception it raises. -/
def tryExcept (body : Routine Op Reply Exc α) (handler : Exc → Routine Op Reply Exc α) :
    Routine Op Reply Exc α :=
  match body with
  | pure a => pure a
  | raise e => handler e
  | hang => hang
  | call op next => call op fun reply => (next reply).tryExcept handler

theorem lift_bind {embed : Op → Op'}
    {convert : ∀ op, Except Exc (Reply' (embed op)) → Except Exc (Reply op)}
    (routine : Routine Op Reply Exc α) (f : α → Routine Op Reply Exc β) :
    (routine.bind f).lift embed convert =
      (routine.lift embed convert).bind fun a => (f a).lift embed convert := by
  induction routine with
  | pure a => rfl
  | raise e => rfl
  | hang => rfl
  | call op next ih =>
      apply congrArg (call (embed op))
      funext reply
      exact ih (convert op reply)

theorem lift_tryFinally {embed : Op → Op'}
    {convert : ∀ op, Except Exc (Reply' (embed op)) → Except Exc (Reply op)}
    (body : Routine Op Reply Exc α) (final : Routine Op Reply Exc β) :
    (body.tryFinally final).lift embed convert =
      (body.lift embed convert).tryFinally (final.lift embed convert) := by
  induction body with
  | pure a => exact lift_bind final fun _ => .pure a
  | raise e => exact lift_bind final fun _ => .raise e
  | hang => rfl
  | call op next ih =>
      apply congrArg (call (embed op))
      funext reply
      exact ih (convert op reply)

theorem lift_tryExcept {embed : Op → Op'}
    {convert : ∀ op, Except Exc (Reply' (embed op)) → Except Exc (Reply op)}
    (body : Routine Op Reply Exc α) (handler : Exc → Routine Op Reply Exc α) :
    (body.tryExcept handler).lift embed convert =
      (body.lift embed convert).tryExcept fun e => (handler e).lift embed convert := by
  induction body with
  | pure a => rfl
  | raise e => rfl
  | hang => rfl
  | call op next ih =>
      apply congrArg (call (embed op))
      funext reply
      exact ih (convert op reply)

/-- The rule of a handler. -/
theorem Follows.tryExcept {contract : Contract Op Reply Exc γ} {Q : γ → Except Exc α → Prop}
    {body : Routine Op Reply Exc α} {handler : Exc → Routine Op Reply Exc α} {g : γ}
    (h : body.Follows contract
      (fun g' => andThen (fun a => Q g' (.ok a)) fun e => (handler e).Follows contract Q g') g) :
    (body.tryExcept handler).Follows contract Q g := by
  induction body generalizing g with
  | pure a => exact h
  | raise e => exact h
  | hang => trivial
  | call op next ih =>
      constructor
      · exact h.1
      · intro reply g' hanswer
        exact ih reply (h.2 reply g' hanswer)

theorem Delivers.tryExcept {contract : Contract Op Reply Exc γ} {P : α → γ → Prop}
    {body : Routine Op Reply Exc α} {handler : Exc → Routine Op Reply Exc α} {g : γ}
    (h : body.Delivers contract P g) (hhandler : ∀ e g', (handler e).Delivers contract P g') :
    (body.tryExcept handler).Delivers contract P g := by
  apply Follows.tryExcept
  apply h.mono
  intro g' result hresult
  cases result with
  | ok a => exact hresult
  | error e => exact hhandler e g'

/-! ### Contracts kept in every ghost state -/

/-- The routine follows the contract from every ghost state. -/
def Obeys (contract : Contract Op Reply Exc γ) (routine : Routine Op Reply Exc α) : Prop :=
  ∀ g, routine.Delivers contract (fun _ _ => True) g

namespace Obeys

variable {contract : Contract Op Reply Exc γ}

theorem pure (a : α) : Obeys contract (Pure.pure a : Routine Op Reply Exc α) :=
  fun _ => Delivers.pure trivial

theorem raise (e : Exc) : Obeys contract (raise e : Routine Op Reply Exc α) :=
  fun _ => Delivers.raise

theorem perform {op : Op} (hrequires : ∀ g, contract.requires g op) :
    Obeys contract (perform op : Routine Op Reply Exc (Reply op)) :=
  fun g => Delivers.perform (hrequires g) fun _ _ _ => trivial

/-- A contract that allows every call is obeyed. -/
theorem of_forall (routine : Routine Op Reply Exc α) (hrequires : ∀ g op, contract.requires g op) :
    Obeys contract routine :=
  Delivers.of_forall routine hrequires

/-- A routine after one whose outcome does not matter. -/
theorem delivers_bind {R : β → γ → Prop} {routine : Routine Op Reply Exc α}
    {f : α → Routine Op Reply Exc β} {g : γ} (h : Obeys contract routine)
    (hf : ∀ a g', (f a).Delivers contract R g') : (routine >>= f).Delivers contract R g :=
  Delivers.bind (h g) fun a g' _ => hf a g'

theorem bind {routine : Routine Op Reply Exc α} {f : α → Routine Op Reply Exc β}
    (h : Obeys contract routine) (hf : ∀ a, Obeys contract (f a)) :
    Obeys contract (routine >>= f) :=
  fun _ => h.delivers_bind hf

theorem tryExcept {body : Routine Op Reply Exc α} {handler : Exc → Routine Op Reply Exc α}
    (h : Obeys contract body) (hhandler : ∀ e, Obeys contract (handler e)) :
    Obeys contract (body.tryExcept handler) :=
  fun g => Delivers.tryExcept (h g) hhandler

end Obeys

/-! ### Executions under a contract -/

/-- The calls of a routine, with replies that the contract gives, up to a ghost state and
the rest of the routine. -/
inductive Proceeds (contract : Contract Op Reply Exc γ) : Routine Op Reply Exc α → γ →
    List ((op : Op) × Except Exc (Reply op)) → γ → Routine Op Reply Exc α → Prop
  | here (routine : Routine Op Reply Exc α) (g : γ) : Proceeds contract routine g [] g routine
  | call {op : Op} {next : Except Exc (Reply op) → Routine Op Reply Exc α}
      {rest : Routine Op Reply Exc α} {reply : Except Exc (Reply op)}
      {trace : List ((op : Op) × Except Exc (Reply op))} {g g' g'' : γ}
      (hanswer : contract.answers g op reply g')
      (tail : Proceeds contract (next reply) g' trace g'' rest) :
      Proceeds contract (.call op next) g (⟨op, reply⟩ :: trace) g'' rest

/-- An execution proceeds up to its result. -/
abbrev Completes (contract : Contract Op Reply Exc γ) (routine : Routine Op Reply Exc α) (g : γ)
    (trace : List ((op : Op) × Except Exc (Reply op))) (g' : γ) (result : Except Exc α) : Prop :=
  Proceeds contract routine g trace g' (ofExcept result)

/-- What is left of a routine follows the contract as well. -/
theorem Follows.proceeds {contract : Contract Op Reply Exc γ} {Q : γ → Except Exc α → Prop}
    {routine rest : Routine Op Reply Exc α} {trace : List ((op : Op) × Except Exc (Reply op))}
    {g g' : γ} (h : routine.Follows contract Q g)
    (hproceeds : Proceeds contract routine g trace g' rest) : rest.Follows contract Q g' := by
  induction hproceeds with
  | here routine g => exact h
  | call hanswer _ ih => exact ih (h.2 _ _ hanswer)

/-- An execution of a routine that follows a contract meets its postcondition. -/
theorem Follows.completes {contract : Contract Op Reply Exc γ} {Q : γ → Except Exc α → Prop}
    {routine : Routine Op Reply Exc α} {trace : List ((op : Op) × Except Exc (Reply op))}
    {g g' : γ} {result : Except Exc α} (h : routine.Follows contract Q g)
    (hcompletes : Completes contract routine g trace g' result) : Q g' result := by
  have hrest := h.proceeds hcompletes
  cases result with
  | ok a => exact hrest
  | error e => exact hrest

/-- What every answer keeps of the ghost state holds as long as the routine proceeds. -/
theorem Proceeds.keeps {contract : Contract Op Reply Exc γ} {P : γ → Prop}
    {routine rest : Routine Op Reply Exc α} {trace : List ((op : Op) × Except Exc (Reply op))}
    {g g' : γ} (h : Proceeds contract routine g trace g' rest)
    (hanswers : ∀ g op reply g', P g → contract.answers g op reply g' → P g') (hP : P g) :
    P g' := by
  induction h with
  | here routine g => exact hP
  | call hanswer _ ih => exact ih (hanswers _ _ _ _ hP hanswer)

/-! ### Annotated executions -/

/-- A routine that follows a contract meets its postcondition after an execution
whose calls, one after the other, bring the ghost state on as the contract says. -/
theorem Follows.foldl {ι : Type} {contract : Contract Op Reply Exc γ}
    {answer : ι → (op : Op) × Except Exc (Reply op)} {after : γ → ι → γ}
    {Q : γ → Except Exc α → Prop} {routine : Routine Op Reply Exc α} {items : List ι}
    {result : Except Exc α} {g : γ} (h : routine.Follows contract Q g)
    (hruns : Runs routine (items.map answer) result)
    (hanswers : ∀ item ∈ items, ∀ g',
      contract.answers g' (answer item).1 (answer item).2 (after g' item)) :
    Q (items.foldl after g) result := by
  induction items generalizing routine g with
  | nil =>
      cases hruns with
      | pure a => exact h
      | raise e => exact h
  | cons item rest ih =>
      have hanswer := hanswers item List.mem_cons_self g
      have hrest := fun other hother => hanswers other (List.mem_cons_of_mem item hother)
      rw [List.map_cons] at hruns
      generalize answer item = first at hruns hanswer
      cases hruns with
      | call tail => exact ih (h.2 _ _ hanswer) tail hrest

/-- An execution whose replies the contract admits, with the ghost state that they bring about. -/
theorem Follows.runs {contract : Contract Op Reply Exc γ} {Q : γ → Except Exc α → Prop}
    {routine : Routine Op Reply Exc α} {g : γ} (h : routine.Follows contract Q g)
    {trace : List ((op : Op) × Except Exc (Reply op))} {result : Except Exc α}
    (hruns : Runs routine trace result) (after : γ → (op : Op) × Except Exc (Reply op) → γ)
    (hanswers : ∀ item ∈ trace, ∀ g', contract.answers g' item.1 item.2 (after g' item)) :
    Q (trace.foldl after g) result := by
  have hitems : Runs routine (trace.map fun item => item) result := by rwa [List.map_id']
  exact h.foldl hitems hanswers

/-! ### Which operations a routine asks for -/

/-- Every operation that the routine may come to meets `P`. -/
def Asks (P : Op → Prop) : Routine Op Reply Exc α → Prop
  | pure _ | raise _ | hang => True
  | call op next => P op ∧ ∀ reply, Asks P (next reply)

section Asks

variable {P : Op → Prop}

theorem Asks.mono {P' : Op → Prop} {routine : Routine Op Reply Exc α} (h : routine.Asks P)
    (hP : ∀ op, P op → P' op) : routine.Asks P' := by
  induction routine with
  | pure a => trivial
  | raise e => trivial
  | hang => trivial
  | call op next ih => exact ⟨hP op h.1, fun reply => ih reply (h.2 reply)⟩

theorem Asks.of_forall (routine : Routine Op Reply Exc α) (hP : ∀ op, P op) : routine.Asks P := by
  induction routine with
  | pure a => trivial
  | raise e => trivial
  | hang => trivial
  | call op next ih => exact ⟨hP op, ih⟩

theorem Asks.pure (a : α) : (Pure.pure a : Routine Op Reply Exc α).Asks P := trivial

theorem Asks.bind {routine : Routine Op Reply Exc α} {f : α → Routine Op Reply Exc β}
    (h : routine.Asks P) (hf : ∀ a, (f a).Asks P) : (routine >>= f).Asks P := by
  induction routine with
  | pure a => exact hf a
  | raise e => trivial
  | hang => trivial
  | call op next ih => exact ⟨h.1, fun reply => ih reply (h.2 reply)⟩

theorem Asks.perform {op : Op} (h : P op) :
    (perform op : Routine Op Reply Exc (Reply op)).Asks P := by
  constructor
  · exact h
  · intro reply
    cases reply <;> trivial

theorem Asks.ofExcept (value : Except Exc α) :
    (ofExcept value : Routine Op Reply Exc α).Asks P := by
  cases value <;> trivial

theorem Asks.tryExcept {body : Routine Op Reply Exc α} {handler : Exc → Routine Op Reply Exc α}
    (h : body.Asks P) (hhandler : ∀ e, (handler e).Asks P) : (body.tryExcept handler).Asks P := by
  induction body with
  | pure a => trivial
  | raise e => exact hhandler e
  | hang => trivial
  | call op next ih => exact ⟨h.1, fun reply => ih reply (h.2 reply)⟩

theorem Asks.tryFinally {body : Routine Op Reply Exc α} {final : Routine Op Reply Exc β}
    (h : body.Asks P) (hfinal : final.Asks P) : (body.tryFinally final).Asks P := by
  induction body with
  | pure a => exact hfinal.bind fun _ => Asks.pure a
  | raise e => exact @Asks.bind Op Reply Exc β α P final _ hfinal fun _ => trivial
  | hang => trivial
  | call op next ih => exact ⟨h.1, fun reply => ih reply (h.2 reply)⟩

theorem Asks.runs {routine : Routine Op Reply Exc α} (h : routine.Asks P)
    {trace : List ((op : Op) × Except Exc (Reply op))} {result : Except Exc α}
    (hruns : Runs routine trace result) : ∀ item ∈ trace, P item.1 := by
  induction hruns with
  | pure a => exact fun _ hitem => absurd hitem List.not_mem_nil
  | raise e => exact fun _ hitem => absurd hitem List.not_mem_nil
  | call tail ih => exact List.forall_mem_cons.mpr ⟨h.1, ih (h.2 _)⟩

theorem Asks.lift {P' : Op' → Prop} {embed : Op → Op'}
    {convert : ∀ op, Except Exc (Reply' (embed op)) → Except Exc (Reply op)}
    {routine : Routine Op Reply Exc α} (h : routine.Asks P) (hP : ∀ op, P op → P' (embed op)) :
    (routine.lift embed convert).Asks P' := by
  induction routine with
  | pure a => trivial
  | raise e => trivial
  | hang => trivial
  | call op next ih => exact ⟨hP op h.1, fun reply => ih _ (h.2 _)⟩

/-- The frame rule: what the operations of a routine keep of the ghost state, the
routine keeps. -/
theorem Asks.follows {contract : Contract Op Reply Exc γ} {Q : γ → Except Exc α → Prop}
    {routine : Routine Op Reply Exc α} {g g' : γ} (h : routine.Asks P) (kept : γ → γ → Prop)
    (hrequires : ∀ g' op, P op → contract.requires g' op)
    (hanswers : ∀ g' op reply next, P op → kept g g' → contract.answers g' op reply next →
      kept g next)
    (hpost : ∀ g' result, kept g g' → Q g' result) (hkept : kept g g') :
    routine.Follows contract Q g' := by
  induction routine generalizing g' with
  | pure a => exact hpost g' _ hkept
  | raise e => exact hpost g' _ hkept
  | hang => trivial
  | call op next ih =>
      constructor
      · exact hrequires g' op h.1
      · intro reply next' hanswer
        exact ih reply (h.2 reply) (hanswers g' op reply next' h.1 hkept hanswer)

end Asks

end Routine
