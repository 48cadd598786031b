import Tekmar482.DrainingWriters

/-!
# The future that blocked writers share

The callbacks of the protocol and the turns of its writers leave at most one drain waiter
pending, the shared one, and only while writing is paused.
-/

namespace Tekmar482

namespace TpckProtocol

variable {errors : PyException → Prop} {p q : TpckProtocol}

/-! ## The shared waiter -/

/-- A pending drain waiter is the shared one, and writing is paused. What the protocol
raises is one of the errors. -/
structure SharesWaiter (errors : PyException → Prop) (p : TpckProtocol) : Prop where
  pending : ∀ waiter : Nat, p.drainWaiters[waiter]? = some .pending →
    p.drainWaiter = some waiter ∧ p.paused = true
  error : ∀ err, p.error = some err → errors err
  exceptions : ∀ (waiter : Nat) (err : PyException),
    p.drainWaiters[waiter]? = some (.exception err) → errors err

/-- What the callbacks and the writers do to the drain waiters: none is lost, and none is
cancelled. -/
def KeepsWaiters (p q : TpckProtocol) : Prop :=
  ∀ (waiter : Nat) (future : Waiter), p.drainWaiters[waiter]? = some future →
    future ≠ .cancelled →
      ∃ after, q.drainWaiters[waiter]? = some after ∧ after ≠ .cancelled

theorem KeepsWaiters.refl (p : TpckProtocol) : KeepsWaiters p p :=
  fun _ future h hne => ⟨future, h, hne⟩

theorem KeepsWaiters.trans {r : TpckProtocol} (h : KeepsWaiters p q) (h' : KeepsWaiters q r) :
    KeepsWaiters p r := by
  intro waiter future hfuture hne
  obtain ⟨between, hbetween, hbetween_ne⟩ := h waiter future hfuture hne
  exact h' waiter between hbetween hbetween_ne

theorem keepsWaiters_of_same (h : q.drainWaiters = p.drainWaiters) : KeepsWaiters p q :=
  fun _ future hfuture hne => ⟨future, h ▸ hfuture, hne⟩

theorem SharesWaiter.pauseWriting (h : p.SharesWaiter errors) :
    p.pauseWriting.SharesWaiter errors :=
  ⟨fun waiter hpending => ⟨(h.pending waiter hpending).1, rfl⟩, h.error, h.exceptions⟩

/-- The drain waiters after a wake. -/
theorem getElem?_wakeDrainWaiter (p : TpckProtocol) (err : Option PyException) (waiter : Nat) :
    (p.wakeDrainWaiter err).drainWaiters[waiter]? =
      if p.drainWaiter = some waiter then
        p.drainWaiters[waiter]?.map fun future =>
          if future.done then future else err.elim .result .exception
      else p.drainWaiters[waiter]? := by
  cases hshared : p.drainWaiter with
  | none => simp [wakeDrainWaiter, hshared]
  | some shared =>
      simp only [wakeDrainWaiter, hshared, List.getElem?_modify, Option.some.injEq]
      by_cases heq : shared = waiter
      · subst heq
        cases err <;> simp
      · simp [heq]

theorem keepsWaiters_wakeDrainWaiter (p : TpckProtocol) (err : Option PyException) :
    KeepsWaiters p (p.wakeDrainWaiter err) := by
  intro waiter future hfuture hne
  rw [getElem?_wakeDrainWaiter, hfuture]
  split
  · refine ⟨_, rfl, ?_⟩
    dsimp only
    split
    · exact hne
    · cases err <;> exact nofun
  · exact ⟨future, rfl, hne⟩

/-- A wake leaves no pending waiter. -/
theorem SharesWaiter.wakeDrainWaiter {err : Option PyException}
    (hpending : ∀ waiter : Nat, p.drainWaiters[waiter]? = some .pending →
      p.drainWaiter = some waiter)
    (herror : ∀ err, p.error = some err → errors err)
    (hexceptions : ∀ (waiter : Nat) (err : PyException),
      p.drainWaiters[waiter]? = some (.exception err) → errors err)
    (herr : ∀ raised, err = some raised → errors raised) :
    (p.wakeDrainWaiter err).SharesWaiter errors := by
  constructor
  case pending =>
    intro waiter hafter
    rw [getElem?_wakeDrainWaiter] at hafter
    split at hafter
    · obtain ⟨future, -, hwoken⟩ := Option.map_eq_some_iff.mp hafter
      split at hwoken
      · rename_i hdone
        subst hwoken
        cases hdone
      · cases err <;> cases hwoken
    · rename_i hne
      exact absurd (hpending waiter hafter) hne
  case error =>
    intro raised hraised
    rw [wakeDrainWaiter_error] at hraised
    exact herror raised hraised
  case exceptions =>
    intro waiter raised hafter
    rw [getElem?_wakeDrainWaiter] at hafter
    split at hafter
    · obtain ⟨future, hfuture, hwoken⟩ := Option.map_eq_some_iff.mp hafter
      split at hwoken
      · exact hexceptions waiter raised (hwoken ▸ hfuture)
      · cases err with
        | none => cases hwoken
        | some other =>
            cases hwoken
            exact herr _ rfl
    · exact hexceptions waiter raised hafter

theorem SharesWaiter.resumeWriting (h : p.SharesWaiter errors) :
    p.resumeWriting.SharesWaiter errors :=
  .wakeDrainWaiter (fun waiter hpending => (h.pending waiter hpending).1) h.error h.exceptions
    nofun

theorem SharesWaiter.connectionLost (h : p.SharesWaiter errors) {exc : Option PyException}
    (hexc : errors (p.lostError exc)) : (p.connectionLost exc).SharesWaiter errors := by
  have hwoken : ({ p with transport := none, error := some (p.lostError exc), packetEvent := true
      }.wakeDrainWaiter (some (p.lostError exc))).SharesWaiter errors := by
    refine .wakeDrainWaiter (fun waiter hpending => (h.pending waiter hpending).1) ?_
      h.exceptions ?_
    · intro err herr
      exact Option.some.inj herr ▸ hexc
    · intro err herr
      exact Option.some.inj herr ▸ hexc
  exact ⟨hwoken.pending, hwoken.error, hwoken.exceptions⟩

/-! ## A turn of a writer -/

/-- How a turn ends: the writer awaits the shared waiter, or it returns or raises because
writing is not paused. -/
inductive Finished (errors : PyException → Prop) (p : TpckProtocol) :
    TpckProtocol → WriterState → Prop
  | awaits {q : TpckProtocol} {waiter : Nat} (hpaused : q.paused = true)
      (hpending : q.drainWaiters[waiter]? = some .pending) (hkeeps : KeepsWaiters p q)
      (hshares : q.SharesWaiter errors) : Finished errors p q (.awaiting waiter)
  | raises {err : PyException} (hpaused : p.paused = false) (herror : p.error = some err) :
      Finished errors p p (.ended (.error err))
  | returns (hpaused : p.paused = false) : Finished errors p p (.ended (.ok ()))

theorem getElem?_createWaiter {waiter : Nat} {future : Waiter}
    (h : p.createWaiter.drainWaiters[waiter]? = some future) :
    p.drainWaiters[waiter]? = some future ∨
      waiter = p.drainWaiters.length ∧ future = .pending := by
  rcases lt_trichotomy waiter p.drainWaiters.length with hlt | heq | hgt
  · rw [createWaiter, List.getElem?_append_left hlt] at h
    exact .inl h
  · rw [createWaiter, heq, List.getElem?_concat_length] at h
    exact .inr ⟨heq, (Option.some.inj h).symm⟩
  · have hlen : (p.drainWaiters ++ [Waiter.pending]).length ≤ waiter := by
      rw [List.length_append, List.length_singleton]
      exact hgt
    rw [createWaiter, List.getElem?_eq_none hlen] at h
    cases h

theorem SharesWaiter.createWaiter (h : p.SharesWaiter errors) (hpaused : p.paused = true)
    (hnone : ∀ waiter : Nat, p.drainWaiters[waiter]? ≠ some .pending) :
    p.createWaiter.SharesWaiter errors := by
  constructor
  case pending =>
    intro waiter hpending
    rcases getElem?_createWaiter hpending with hbefore | ⟨rfl, -⟩
    · exact absurd hbefore (hnone waiter)
    · exact ⟨rfl, hpaused⟩
  case error => exact h.error
  case exceptions =>
    intro waiter err hexception
    rcases getElem?_createWaiter hexception with hbefore | ⟨-, hpending⟩
    · exact h.exceptions waiter err hbefore
    · cases hpending

theorem keepsWaiters_createWaiter (p : TpckProtocol) : KeepsWaiters p p.createWaiter := by
  intro waiter future hfuture hne
  have hlt : waiter < p.drainWaiters.length := (List.getElem?_eq_some_iff.mp hfuture).1
  exact ⟨future, (List.getElem?_append_left hlt).trans hfuture, hne⟩

theorem finishWrite_finished (h : p.SharesWaiter errors) :
    Finished errors p p.finishWrite.1 p.finishWrite.2 := by
  have hcreated (hpaused : p.paused = true)
      (hnone : ∀ waiter : Nat, p.drainWaiters[waiter]? ≠ some .pending)
      (hdrain : p.drain = (p.createWaiter, some p.drainWaiters.length)) :
      Finished errors p p.finishWrite.1 p.finishWrite.2 := by
    simp only [finishWrite, hdrain]
    exact .awaits hpaused List.getElem?_concat_length (keepsWaiters_createWaiter p)
      (h.createWaiter hpaused hnone)
  cases hpaused : p.paused with
  | false =>
      have hdrain : p.drain = (p, none) := by rw [drain, hpaused, if_neg Bool.false_ne_true]
      cases herror : p.error with
      | none =>
          simp only [finishWrite, hdrain, herror]
          exact .returns hpaused
      | some err =>
          simp only [finishWrite, hdrain, herror]
          exact .raises hpaused herror
  | true =>
      cases hshared : p.drainWaiter with
      | none =>
          refine hcreated hpaused (fun waiter hpending => ?_) ?_
          · cases hshared.symm.trans (h.pending waiter hpending).1
          · simp only [drain, hpaused, hshared, if_true]
      | some shared =>
          by_cases hpending : p.drainWaiters[shared]? = some .pending
          · have hdrain : p.drain = (p, some shared) := by
              simp only [drain, hpaused, hshared, hpending, if_true]
            simp only [finishWrite, hdrain]
            exact .awaits hpaused hpending (.refl p) h
          · refine hcreated hpaused (fun waiter hother => ?_) ?_
            · have heq := hshared.symm.trans (h.pending waiter hother).1
              exact hpending (Option.some.inj heq ▸ hother)
            · simp only [drain, hpaused, hshared, hpending, if_true, if_false]

theorem Finished.error {err : PyException} (h : Finished errors p q (.ended (.error err))) :
    p.error = some err := by
  cases h with
  | raises hpaused herror => exact herror

theorem fst_finishWrite (p : TpckProtocol) : p.finishWrite.1 = p.drain.1 := by
  rw [finishWrite]
  split
  · rename_i hdrain
    rw [hdrain]
  · rename_i hdrain
    rw [hdrain]
    split <;> rfl

/-- While writing is paused a turn ends with a waiter. -/
theorem snd_finishWrite (hpaused : p.paused = true) :
    ∃ waiter, p.finishWrite.2 = .awaiting waiter := by
  have hdrain : ∃ waiter, p.drain.2 = some waiter := by
    rw [drain, if_pos hpaused]
    split
    · exact ⟨_, rfl⟩
    · split <;> exact ⟨_, rfl⟩
  obtain ⟨waiter, hwaiter⟩ := hdrain
  rw [finishWrite]
  split
  · exact ⟨_, rfl⟩
  · rename_i hnone
    rw [hnone] at hwaiter
    cases hwaiter

@[simp] theorem paused_finishWrite (p : TpckProtocol) : p.finishWrite.1.paused = p.paused := by
  rw [fst_finishWrite, drain]
  split
  · split
    · rfl
    · split <;> rfl
  · rfl

@[simp] theorem closedMessage_finishWrite (p : TpckProtocol) :
    p.finishWrite.1.closedMessage = p.closedMessage := by
  rw [fst_finishWrite, drain]
  split
  · split
    · rfl
    · split <;> rfl
  · rfl

@[simp] theorem closedMessage_wakeDrainWaiter (p : TpckProtocol) (err : Option PyException) :
    (p.wakeDrainWaiter err).closedMessage = p.closedMessage := by
  simp only [wakeDrainWaiter]
  split <;> rfl

@[simp] theorem paused_wakeDrainWaiter (p : TpckProtocol) (err : Option PyException) :
    (p.wakeDrainWaiter err).paused = p.paused := by
  simp only [wakeDrainWaiter]
  split <;> rfl

theorem requireTransport_error {err : PyException}
    (h : p.requireTransport = .error err) :
    p.error = some err ∨ err = .connectionClosedError p.closedMessage := by
  rw [requireTransport] at h
  split at h
  · rename_i other herror
    exact .inl (Except.error.inj h ▸ herror)
  · split at h
    · cases h
    · exact .inr (Except.error.inj h).symm

/-- A waiter that has not been cancelled gives no cancellation. -/
theorem outcome_ne_cancelled (hp : p.SharesWaiter errors)
    (herrors : ∀ err, errors err → err ≠ .cancelledError) {waiter : Nat} {future : Waiter}
    (hfuture : p.drainWaiters[waiter]? = some future) (hne : future ≠ .cancelled) :
    future.outcome ≠ some (.error .cancelledError) := by
  cases future with
  | pending | result => exact nofun
  | cancelled => exact absurd rfl hne
  | exception err =>
      intro houtcome
      exact herrors err (hp.exceptions waiter err hfuture)
        (Except.error.inj (Option.some.inj houtcome))

end TpckProtocol

end Tekmar482
