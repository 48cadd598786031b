import Tekmar482.SharedWaiter

/-!
# What a step does to the writers

A step is the next turn of one task, or it leaves the states of all tasks that have
started. What it does to the protocol does not depend on the tasks.
-/

namespace Tekmar482

namespace DrainingWriters

open TpckProtocol

variable {s t : DrainingWriters}

/-! ## The tasks -/

/-- The turn of a writer is that of a task whose waiter has an outcome. -/
theorem step_wakeUp {writer : Nat} (hstep : s.step (.wakeUp writer) = some t) :
    ∃ task waiter outcome, s.writers writer = some task ∧ task.state = .awaiting waiter ∧
      s.protocol.drainWaiters[waiter]?.bind Waiter.outcome = some outcome ∧
      s.wakeUp writer task outcome = t := by
  rw [DrainingWriters.step] at hstep
  split at hstep
  · rename_i task htask
    split at hstep
    · rename_i waiter hstate
      obtain ⟨outcome, houtcome, hafter⟩ := Option.map_eq_some_iff.mp hstep
      exact ⟨task, waiter, outcome, htask, hstate, houtcome, hafter⟩
    · cases hstep
  · cases hstep

/-- A step leaves the state of a task and does not undo its cancellation, unless it is the
next turn of the task. -/
theorem step_task {writer : Nat} {task : WriterTask} {action : WriterAction}
    (htask : s.writers writer = some task) (hstep : s.step action = some t) :
    (∃ after, t.writers writer = some after ∧ after.state = task.state ∧
        (after.cancelled = false → task.cancelled = false)) ∨
      ∃ waiter outcome, task.state = .awaiting waiter ∧
        s.protocol.drainWaiters[waiter]?.bind Waiter.outcome = some outcome ∧
        s.wakeUp writer task outcome = t := by
  have hsame (hwriters : t.writers writer = s.writers writer) :
      ∃ after, t.writers writer = some after ∧ after.state = task.state ∧
        (after.cancelled = false → task.cancelled = false) :=
    ⟨task, hwriters.trans htask, rfl, id⟩
  cases action with
  | pauseWriting | resumeWriting =>
      cases hstep
      exact .inl (hsame rfl)
  | connectionLost exc =>
      rw [DrainingWriters.step] at hstep
      split at hstep
      · cases hstep
      · cases hstep
        exact .inl (hsame rfl)
  | writePacket other packet pauses =>
      rw [DrainingWriters.step] at hstep
      split at hstep
      · cases hstep
      · rename_i hnone
        cases hstep
        have hne : writer ≠ other := by
          rintro rfl
          cases hnone.symm.trans htask
        refine .inl (hsame ?_)
        rw [DrainingWriters.writePacket]
        split
        · exact writers_setWriter_of_ne _ hne _
        · split <;> exact writers_setWriter_of_ne _ hne _
  | wakeUp other =>
      obtain ⟨otherTask, waiter, outcome, hother, hstate, houtcome, rfl⟩ := step_wakeUp hstep
      by_cases heq : writer = other
      · subst heq
        cases htask.symm.trans hother
        exact .inr ⟨waiter, outcome, hstate, houtcome, rfl⟩
      · refine .inl (hsame ?_)
        rw [DrainingWriters.wakeUp]
        split <;> exact writers_setWriter_of_ne _ heq _
  | cancel other =>
      rw [DrainingWriters.step] at hstep
      split at hstep
      · rename_i otherTask hother
        split at hstep
        · cases hstep
          by_cases heq : writer = other
          · subst heq
            cases htask.symm.trans hother
            rw [DrainingWriters.cancel]
            split <;> exact .inl ⟨_, writers_setWriter_self .., rfl, nofun⟩
          · refine .inl (hsame ?_)
            rw [DrainingWriters.cancel]
            split <;> exact writers_setWriter_of_ne _ heq _
        · cases hstep
          exact .inl (hsame rfl)
      · cases hstep

/-- The task of a writer after its next turn. -/
theorem writers_wakeUp (s : DrainingWriters) (writer : Nat) (task : WriterTask)
    (outcome : Except PyException Unit) :
    ∃ after, (s.wakeUp writer task outcome).writers writer = some after ∧
      after.cancelled = task.cancelled ∧
      ((∃ err, task.received outcome = .error err ∧ after.state = .ended (.error err)) ∨
        task.received outcome = .ok () ∧ after.state = s.protocol.finishWrite.2 ∧
          (s.wakeUp writer task outcome).protocol = s.protocol.finishWrite.1) := by
  rw [DrainingWriters.wakeUp]
  split
  · rename_i err hraised
    exact ⟨_, writers_setWriter_self .., rfl, .inl ⟨err, hraised, rfl⟩⟩
  · rename_i hreceived
    exact ⟨_, writers_setWriter_self .., rfl, .inr ⟨hreceived, rfl, rfl⟩⟩

/-! ## The protocol -/

/-- What a step can do to the protocol. -/
inductive ProtocolStep (p : TpckProtocol) : WriterAction → TpckProtocol → Prop
  | same (action : WriterAction) : ProtocolStep p action p
  | finished (action : WriterAction) : ProtocolStep p action p.finishWrite.1
  | pausedFinished (action : WriterAction) : ProtocolStep p action p.pauseWriting.finishWrite.1
  | cancelled (action : WriterAction) (waiter : Nat) :
      ProtocolStep p action { p with drainWaiters := p.drainWaiters.set waiter .cancelled }
  | paused (action : WriterAction) : ProtocolStep p action p.pauseWriting
  | resumed : ProtocolStep p .resumeWriting p.resumeWriting
  | lost (exc : Option PyException) (hexc : exc ≠ some .cancelledError) :
      ProtocolStep p (.connectionLost exc) (p.connectionLost exc)

theorem step_protocol {action : WriterAction} (hstep : s.step action = some t) :
    ProtocolStep s.protocol action t.protocol := by
  cases action with
  | pauseWriting =>
      cases hstep
      exact .paused _
  | resumeWriting =>
      cases hstep
      exact .resumed
  | connectionLost exc =>
      rw [DrainingWriters.step] at hstep
      split at hstep
      · cases hstep
      · rename_i hexc
        cases hstep
        exact .lost exc hexc
  | writePacket writer packet pauses =>
      rw [DrainingWriters.step] at hstep
      split at hstep
      · cases hstep
      · cases hstep
        rw [DrainingWriters.writePacket]
        split
        · exact .same _
        · split
          · exact .same _
          · cases pauses with
            | false => exact .finished _
            | true => exact .pausedFinished _
  | wakeUp writer =>
      obtain ⟨task, waiter, outcome, -, -, -, rfl⟩ := step_wakeUp hstep
      rw [DrainingWriters.wakeUp]
      split
      · exact .same _
      · exact .finished _
  | cancel writer =>
      rw [DrainingWriters.step] at hstep
      split at hstep
      · split at hstep
        · cases hstep
          rw [DrainingWriters.cancel]
          split
          · exact .cancelled _ _
          · exact .same _
        · cases hstep
          exact .same _
      · cases hstep

/-- Writing stays paused until it is resumed. -/
theorem ProtocolStep.paused_eq {p q : TpckProtocol} {action : WriterAction}
    (h : ProtocolStep p action q) (hresume : action ≠ .resumeWriting) (hpaused : p.paused = true) :
    q.paused = true := by
  cases h with
  | same | cancelled => exact hpaused
  | finished => rwa [paused_finishWrite]
  | pausedFinished => rw [paused_finishWrite]; rfl
  | paused => rfl
  | resumed => exact absurd rfl hresume
  | lost exc =>
      rw [connectionLost]
      simpa using hpaused

theorem ProtocolStep.closedMessage_eq {p q : TpckProtocol} {action : WriterAction}
    (h : ProtocolStep p action q) : q.closedMessage = p.closedMessage := by
  cases h with
  | same | cancelled | paused => rfl
  | finished => exact closedMessage_finishWrite p
  | pausedFinished => exact closedMessage_finishWrite p.pauseWriting
  | resumed => exact closedMessage_wakeDrainWaiter { p with paused := false } none
  | lost exc => simp [connectionLost]

/-- A cancelled waiter stays cancelled. -/
theorem ProtocolStep.cancelled_eq {p q : TpckProtocol} {action : WriterAction} {waiter : Nat}
    (h : ProtocolStep p action q) (hcancelled : p.drainWaiters[waiter]? = some .cancelled) :
    q.drainWaiters[waiter]? = some .cancelled := by
  have hlt : waiter < p.drainWaiters.length := (List.getElem?_eq_some_iff.mp hcancelled).1
  have hfinish (r : TpckProtocol) (hr : r.drainWaiters = p.drainWaiters) :
      r.finishWrite.1.drainWaiters[waiter]? = some .cancelled := by
    have hcreated : r.createWaiter.drainWaiters[waiter]? = some .cancelled := by
      rw [createWaiter, hr]
      exact (List.getElem?_append_left hlt).trans hcancelled
    have hsame : r.drainWaiters[waiter]? = some .cancelled := hr ▸ hcancelled
    rw [fst_finishWrite, drain]
    split
    · split
      · exact hcreated
      · split
        · exact hsame
        · exact hcreated
    · exact hsame
  have hwake (r : TpckProtocol) (err : Option PyException) (hr : r.drainWaiters = p.drainWaiters) :
      (r.wakeDrainWaiter err).drainWaiters[waiter]? = some .cancelled := by
    rw [getElem?_wakeDrainWaiter, hr, hcancelled]
    split <;> rfl
  cases h with
  | same | paused => exact hcancelled
  | finished => exact hfinish p rfl
  | pausedFinished => exact hfinish p.pauseWriting rfl
  | cancelled action other =>
      by_cases heq : other = waiter
      · subst heq
        exact List.getElem?_set_self hlt
      · exact (List.getElem?_set_ne heq).trans hcancelled
  | resumed => exact hwake _ none rfl
  | lost exc => exact hwake _ _ rfl

end DrainingWriters

end Tekmar482
