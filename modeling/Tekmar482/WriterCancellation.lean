import Tekmar482.SparedWriters

/-!
# Cancelling blocked writers

A cancellation reaches the other writers through the future they share. As long as no
writer is cancelled beside another one that awaits the same pending future, a writer gets
what the connection gives it: writing is resumed, or the connection is lost.
-/

namespace Tekmar482

namespace DrainingWriters

open TpckProtocol

section Blocked

variable {errors : PyException → Prop} {s t : DrainingWriters}

/-! ## A writer that was blocked -/

/-- What a writer that was blocked gets, unless it is cancelled: it waits, it returns, or it
raises one of the errors. -/
def Answered (errors : PyException → Prop) (writer : Nat) (s : DrainingWriters) : Prop :=
  ∃ task, s.writers writer = some task ∧
    (task.cancelled = false → ∀ err, task.state = .ended (.error err) → errors err)

theorem Answered.step {writer : Nat} {action : WriterAction} (h : s.Answered errors writer)
    (hsound : s.Sound errors) (hstep : s.step action = some t) : t.Answered errors writer := by
  obtain ⟨task, htask, hanswer⟩ := h
  rcases step_task htask hstep with ⟨after, hafter, hsame, hnot⟩ |
    ⟨waiter, outcome, hstate, houtcome, rfl⟩
  · exact ⟨after, hafter, fun hcancelled err herr => hanswer (hnot hcancelled) err (hsame ▸ herr)⟩
  · obtain ⟨after, hafter, hcancelled, hturn⟩ := writers_wakeUp s writer task outcome
    refine ⟨after, hafter, fun hnot err herr => ?_⟩
    rw [hcancelled] at hnot
    have htaskSound := hsound.tasks writer task htask hnot
    simp only [hstate] at htaskSound
    obtain ⟨hmust, future, hfuture, hne⟩ := htaskSound
    rw [hfuture, Option.bind_some] at houtcome
    rcases hturn with ⟨raised, hreceived, hraised⟩ | ⟨-, hfinish, -⟩
    · cases herr.symm.trans hraised
      rw [WriterTask.received, hmust, if_neg Bool.false_ne_true] at hreceived
      rw [hreceived] at houtcome
      cases future with
      | pending | result => cases houtcome
      | cancelled => exact absurd rfl hne
      | exception other =>
          cases houtcome
          exact hsound.shares.exceptions waiter err hfuture
    · have hfinished := finishWrite_finished hsound.shares
      rw [← hfinish, herr] at hfinished
      exact hsound.shares.error err hfinished.error

/-- A writer that has waited since writing was paused, or has failed. -/
def HeldUp (writer : Nat) (s : DrainingWriters) : Prop :=
  ∃ task, s.writers writer = some task ∧
    ((∃ waiter, task.state = .awaiting waiter) ∧ s.protocol.paused = true ∨
      ∃ err, task.state = .ended (.error err))

theorem HeldUp.step {writer : Nat} {action : WriterAction} (h : s.HeldUp writer)
    (hresume : action ≠ .resumeWriting) (hstep : s.step action = some t) : t.HeldUp writer := by
  obtain ⟨task, htask, hheld⟩ := h
  rcases step_task htask hstep with ⟨after, hafter, hsame, -⟩ |
    ⟨waiter, outcome, hstate, houtcome, rfl⟩
  · refine ⟨after, hafter, ?_⟩
    rw [hsame]
    exact hheld.imp_left fun ⟨hawaits, hpaused⟩ =>
      ⟨hawaits, (step_protocol hstep).paused_eq hresume hpaused⟩
  · obtain ⟨after, hafter, -, hturn⟩ := writers_wakeUp s writer task outcome
    refine ⟨after, hafter, ?_⟩
    rcases hturn with ⟨err, -, herr⟩ | ⟨-, hfinish, hprotocol⟩
    · exact .inr ⟨err, herr⟩
    · have hpaused : s.protocol.paused = true := by
        rcases hheld with ⟨-, hpaused⟩ | ⟨err, herr⟩
        · exact hpaused
        · cases hstate.symm.trans herr
      rw [hprotocol, hfinish, paused_finishWrite]
      exact .inl ⟨snd_finishWrite hpaused, hpaused⟩

end Blocked

/-! ## Runs -/

/-- The errors that the lost connections of some actions leave. -/
def LostErrors (closedMessage : String) (actions : List WriterAction) (err : PyException) : Prop :=
  ∃ exc, exc ≠ some .cancelledError ∧ .connectionLost exc ∈ actions ∧
    err = exc.getD (.connectionClosedError closedMessage)

theorem LostErrors.ne_cancelled {closedMessage : String} {actions : List WriterAction}
    {err : PyException} (h : LostErrors closedMessage actions err) : err ≠ .cancelledError := by
  obtain ⟨exc, hexc, -, rfl⟩ := h
  cases exc with
  | none => exact nofun
  | some other => exact fun heq => hexc (congrArg some heq)

theorem Idle.sound {s : DrainingWriters} (h : s.Idle) (errors : PyException → Prop) :
    s.Sound errors := by
  obtain ⟨hwaiters, -, herror, hwriters⟩ := h
  refine ⟨⟨?_, ?_, ?_⟩, ?_⟩
  · intro waiter hpending
    rw [hwaiters] at hpending
    cases hpending
  · intro err hsome
    cases herror.symm.trans hsome
  · intro waiter err hexception
    rw [hwaiters] at hexception
    cases hexception
  · intro writer task htask
    rw [hwriters] at htask
    cases htask

/-- What a writer that has not been cancelled gets in a run. -/
structure Undisturbed (s t : DrainingWriters) (actions : List WriterAction) (writer : Nat)
    (task : WriterTask) : Prop where
  /-- It does not end with a cancellation. -/
  uncancelled : task.state ≠ .ended (.error .cancelledError)
  /-- From a state in which it is blocked it returns only when writing is resumed, and it
  raises only the error of the connection. -/
  blocked : ∀ before rest, actions = before ++ rest → ∃ u, Machine.Run step s before u ∧
    (u.Blocked writer →
      (task.state = .ended (.ok ()) → .resumeWriting ∈ rest) ∧
      ∀ err, task.state = .ended (.error err) →
        LostErrors s.protocol.closedMessage actions err)

/-- In every run in which no writer is cancelled beside another one that awaits the same
pending waiter, the writers that are not cancelled are not disturbed. -/
theorem writers_undisturbed {s t : DrainingWriters} {actions : List WriterAction} (hidle : s.Idle)
    (hrun : Machine.RunWhere step SparesOthers s actions t) {writer : Nat} {task : WriterTask}
    (htask : t.writers writer = some task) (hnot : task.cancelled = false) :
    Undisturbed s t actions writer task := by
  let errors := LostErrors s.protocol.closedMessage actions
  let inv (u : DrainingWriters) := u.Sound errors ∧
    u.protocol.closedMessage = s.protocol.closedMessage
  have hpreserve (u : DrainingWriters) (action : WriterAction) (u' : DrainingWriters) (h : inv u)
      (hallowed : u.SparesOthers action ∧ action ∈ actions) (hstep : u.step action = some u') :
      inv u' := by
    refine ⟨h.1.step (fun err => LostErrors.ne_cancelled) hallowed.1 ?_ hstep,
      (step_protocol hstep).closedMessage_eq.trans h.2⟩
    rintro exc hexc rfl
    refine ⟨exc, hexc, hallowed.2, ?_⟩
    rw [lostError, h.2]
  have hstart : inv s := ⟨hidle.sound errors, rfl⟩
  have hrun := hrun.with_mem
  constructor
  case uncancelled =>
    intro hcancelled
    have hsound := (hrun.invariant hpreserve hstart).1.tasks writer task htask hnot
    simp only [hcancelled] at hsound
    exact hsound rfl
  case blocked =>
    rintro before rest rfl
    obtain ⟨u, hbefore, hrest⟩ := hrun.of_append
    have hu := hbefore.invariant hpreserve hstart
    refine ⟨u, hbefore.mono fun _ _ _ => trivial, ?_⟩
    rintro ⟨blocked, waiter, hblocked, hstate, hpending⟩
    constructor
    · intro hreturned
      by_contra hresume
      have hheld : u.HeldUp writer :=
        ⟨blocked, hblocked, .inl ⟨⟨waiter, hstate⟩, (hu.1.shares.pending waiter hpending).2⟩⟩
      obtain ⟨after, hafter, hend⟩ := hrest.with_mem.invariant
        (fun _ _ _ h hallowed hstep => h.step (fun heq => hresume (heq ▸ hallowed.2)) hstep) hheld
      cases htask.symm.trans hafter
      rw [hreturned] at hend
      rcases hend with ⟨⟨other, hother⟩, -⟩ | ⟨err, herr⟩
      · cases hother
      · cases herr
    · have hanswered : u.Answered errors writer := by
        refine ⟨blocked, hblocked, fun _ err herr => ?_⟩
        cases hstate.symm.trans herr
      have hend := hrest.invariant (fun v action v' (h : inv v ∧ v.Answered errors writer) hallowed
        hstep => ⟨hpreserve v action v' h.1 hallowed hstep, h.2.step h.1.1 hstep⟩) ⟨hu, hanswered⟩
      obtain ⟨after, hafter, hanswer⟩ := hend.2
      cases htask.symm.trans hafter
      exact hanswer hnot

/-- A protocol with an open connection, and no writer. -/
def opened : DrainingWriters :=
  { protocol := TpckProtocol.connectionMade { closedMessage := "closed" } true }

theorem idle_opened : opened.Idle := ⟨rfl, rfl, rfl, rfl⟩

/-- One writer is cancelled while it is the only one, and the next one returns. -/
theorem writers_undisturbed_resumed :
    ∃ t task, Undisturbed opened t [.pauseWriting, .writePacket 0 {} false, .cancel 0, .wakeUp 0,
        .writePacket 1 {} false, .resumeWriting, .wakeUp 1] 1 task ∧
      task.state = .ended (.ok ()) := by
  have hrun : ∃ t, Machine.RunWhere step SparesOthers opened [.pauseWriting,
        .writePacket 0 {} false, .cancel 0, .wakeUp 0, .writePacket 1 {} false, .resumeWriting,
        .wakeUp 1] t ∧
      t.writers 1 = some { state := .ended (.ok ()) } := by
    refine ⟨_, .cons ?_ rfl (.cons ?_ rfl (.cons ?sole rfl (.cons ?_ rfl (.cons ?_ rfl
      (.cons ?_ rfl (.cons ?_ rfl (.nil _))))))), rfl⟩
    case sole =>
      intro task waiter _ _ _ other otherTask hne hother
      cases hother.symm.trans (writers_setWriter_of_ne _ hne _)
    all_goals exact trivial
  obtain ⟨t, hrun, htask⟩ := hrun
  exact ⟨t, _, writers_undisturbed idle_opened hrun htask rfl, rfl⟩

/-- Two writers share a waiter, and the cancellation of one ends the other. -/
theorem writers_disturbed_cancel :
    ∃ t task, opened.Idle ∧
      Machine.Run step opened [.pauseWriting, .writePacket 0 {} false, .writePacket 1 {} false,
        .cancel 0, .wakeUp 1] t ∧
      t.writers 1 = some task ∧ task.cancelled = false ∧
      task.state = .ended (.error .cancelledError) :=
  ⟨_, _, idle_opened, .cons trivial rfl (.cons trivial rfl (.cons trivial rfl (.cons trivial rfl
    (.cons trivial rfl (.nil _))))), rfl, rfl, rfl⟩

/-! ## A writer that shares a cancelled waiter -/

/-- A writer that can only end with a cancellation. -/
def Doomed (writer : Nat) (s : DrainingWriters) : Prop :=
  ∃ task, s.writers writer = some task ∧
    ((∃ waiter, task.state = .awaiting waiter ∧
        s.protocol.drainWaiters[waiter]? = some .cancelled) ∨
      task.state = .ended (.error .cancelledError))

theorem Doomed.step {s t : DrainingWriters} {writer : Nat} {action : WriterAction}
    (h : s.Doomed writer) (hstep : s.step action = some t) : t.Doomed writer := by
  obtain ⟨task, htask, hdoomed⟩ := h
  rcases step_task htask hstep with ⟨after, hafter, hsame, -⟩ |
    ⟨waiter, outcome, hstate, houtcome, rfl⟩
  · refine ⟨after, hafter, ?_⟩
    rw [hsame]
    refine hdoomed.imp_left fun ⟨waiter, hstate, hcancelled⟩ => ?_
    exact ⟨waiter, hstate, (step_protocol hstep).cancelled_eq hcancelled⟩
  · obtain ⟨after, hafter, -, hturn⟩ := writers_wakeUp s writer task outcome
    refine ⟨after, hafter, .inr ?_⟩
    have hcancelled : outcome = .error .cancelledError := by
      rcases hdoomed with ⟨other, hother, hcancelled⟩ | hended
      · cases hstate.symm.trans hother
        rw [hcancelled] at houtcome
        exact (Option.some.inj houtcome).symm
      · cases hstate.symm.trans hended
    have hreceived : task.received outcome = .error .cancelledError := by
      rw [WriterTask.received, hcancelled, ite_self]
    rcases hturn with ⟨err, herr, hend⟩ | ⟨hok, -, -⟩
    · cases hreceived.symm.trans herr
      exact hend
    · cases hreceived.symm.trans hok

/-- A step that does not spare another writer ends it with a cancellation, or leaves it
waiting for ever. -/
theorem doomed_of_not_spares {s t u : DrainingWriters} {action : WriterAction}
    {actions : List WriterAction} (hspares : ¬ s.SparesOthers action)
    (hstep : s.step action = some t) (hrun : Machine.Run step t actions u) :
    ∃ writer task, s.Blocked writer ∧ action ≠ .cancel writer ∧
      s.writers writer = some task ∧ task.cancelled = false ∧ u.Doomed writer := by
  cases action with
  | cancel writer =>
      simp only [SparesOthers, not_forall] at hspares
      obtain ⟨task, waiter, htask, hstate, hpending, other, otherTask, hne, hother, hotherState,
        hnot⟩ := hspares
      have hdoomed : t.Doomed other := by
        rw [DrainingWriters.step, htask] at hstep
        simp only [hstate, DrainingWriters.cancel, hpending, if_true] at hstep
        cases hstep
        refine ⟨otherTask, (writers_setWriter_of_ne _ hne _).trans hother,
          .inl ⟨waiter, hotherState, ?_⟩⟩
        exact List.getElem?_set_self (List.getElem?_eq_some_iff.mp hpending).1
      refine ⟨other, otherTask, ⟨otherTask, waiter, hother, hotherState, hpending⟩, ?_, hother,
        Bool.eq_false_of_not_eq_true hnot, ?_⟩
      · exact fun heq => hne (WriterAction.cancel.inj heq).symm
      · exact hrun.invariant (fun _ _ _ h _ hstep => h.step hstep) hdoomed
  | _ => exact absurd trivial hspares

end DrainingWriters

end Tekmar482
