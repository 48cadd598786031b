import Tekmar482.WriterSteps

/-!
# Writers that spare each other

The invariant of the writers that have not been cancelled: the waiters they await have not
been cancelled either. A cancellation keeps it when no other writer awaits the same pending
waiter.
-/

namespace Tekmar482

namespace DrainingWriters

open TpckProtocol

/-- No writer is cancelled while another one, that is not, awaits the same pending waiter. -/
def SparesOthers (self : DrainingWriters) : WriterAction → Prop
  | .cancel writer => ∀ task waiter, self.writers writer = some task →
      task.state = .awaiting waiter → self.protocol.drainWaiters[waiter]? = some .pending →
      ∀ other otherTask, other ≠ writer → self.writers other = some otherTask →
        otherTask.state = .awaiting waiter → otherTask.cancelled = true
  | _ => True

/-- What holds of the task of a writer that has not been cancelled: its waiter has not been
cancelled either, and it has not ended with a cancellation. -/
def TaskSound (protocol : TpckProtocol) (task : WriterTask) : Prop :=
  task.cancelled = false →
    match task.state with
    | .awaiting waiter => task.mustCancel = false ∧
        ∃ future, protocol.drainWaiters[waiter]? = some future ∧ future ≠ .cancelled
    | .ended outcome => outcome ≠ .error .cancelledError

theorem TaskSound.keeps {p q : TpckProtocol} {task : WriterTask} (h : TaskSound p task)
    (hkeeps : KeepsWaiters p q) : TaskSound q task := by
  intro hnot
  have hbefore := h hnot
  cases hstate : task.state with
  | awaiting waiter =>
      simp only [hstate] at hbefore ⊢
      obtain ⟨hmust, future, hfuture, hne⟩ := hbefore
      exact ⟨hmust, hkeeps waiter future hfuture hne⟩
  | ended outcome =>
      simp only [hstate] at hbefore ⊢
      exact hbefore

variable {errors : PyException → Prop} {s t : DrainingWriters}

/-- The invariant of the writers. -/
structure Sound (errors : PyException → Prop) (s : DrainingWriters) : Prop where
  shares : s.protocol.SharesWaiter errors
  tasks : ∀ writer task, s.writers writer = some task → TaskSound s.protocol task

theorem Sound.keeps (h : s.Sound errors) (hwriters : t.writers = s.writers)
    (hkeeps : KeepsWaiters s.protocol t.protocol) (hshares : t.protocol.SharesWaiter errors) :
    t.Sound errors :=
  ⟨hshares, fun writer task htask => (h.tasks writer task (hwriters ▸ htask)).keeps hkeeps⟩

theorem Sound.setWriter (h : s.Sound errors) {writer : Nat} {task : WriterTask}
    (htask : TaskSound s.protocol task) : (s.setWriter writer task).Sound errors := by
  refine ⟨h.shares, fun other otherTask hother => ?_⟩
  by_cases heq : other = writer
  · subst heq
    rw [writers_setWriter_self] at hother
    exact Option.some.inj hother ▸ htask
  · rw [writers_setWriter_of_ne s heq] at hother
    exact h.tasks other otherTask hother

/-- A turn of a writer from the loop of `_drain` on. -/
theorem Sound.finishWrite (h : s.Sound errors)
    (herrors : ∀ err, errors err → err ≠ .cancelledError)
    (written : List UInt8) {p : TpckProtocol} (hp : p.SharesWaiter errors)
    (hkeeps : KeepsWaiters s.protocol p) (writer : Nat) (task : WriterTask)
    (hmust : task.cancelled = false → task.mustCancel = false) :
    ({ s with protocol := p.finishWrite.1, written := written }.setWriter writer
      { task with state := p.finishWrite.2 }).Sound errors := by
  have hfinished := finishWrite_finished hp
  generalize p.finishWrite.1 = q at hfinished ⊢
  generalize p.finishWrite.2 = state at hfinished ⊢
  cases hfinished with
  | awaits hpaused hpending hafter hshares =>
      have hsound : { s with protocol := q, written := written }.Sound errors :=
        h.keeps rfl (hkeeps.trans hafter) hshares
      exact hsound.setWriter fun hnot => ⟨hmust hnot, _, hpending, nofun⟩
  | raises hpaused herror =>
      have hsound : { s with protocol := p, written := written }.Sound errors :=
        h.keeps rfl hkeeps hp
      refine hsound.setWriter fun _ hcancelled => ?_
      exact herrors _ (hp.error _ herror) (Except.error.inj hcancelled)
  | returns hpaused =>
      have hsound : { s with protocol := p, written := written }.Sound errors :=
        h.keeps rfl hkeeps hp
      exact hsound.setWriter fun _ => nofun

theorem Sound.writePacket (h : s.Sound errors)
    (herrors : ∀ err, errors err → err ≠ .cancelledError) (writer : Nat) (packet : Packet)
    (pauses : Bool) : (s.writePacket writer packet pauses).Sound errors := by
  rw [DrainingWriters.writePacket]
  split
  · rename_i err hrequire
    refine h.setWriter fun _ hcancelled => ?_
    rcases requireTransport_error hrequire with herror | hclosed
    · exact herrors _ (h.shares.error _ herror) (Except.error.inj hcancelled)
    · cases hclosed.symm.trans (Except.error.inj hcancelled)
  · split
    · rename_i err hserialize
      refine h.setWriter fun _ hcancelled => ?_
      rw [Except.error.inj hcancelled, Tpck.serialize] at hserialize
      split at hserialize <;> cases hserialize
    · rename_i frame hserialize
      cases pauses with
      | false =>
          exact h.finishWrite herrors _ h.shares (.refl _) writer { state := .awaiting 0 }
            fun _ => rfl
      | true =>
          exact h.finishWrite herrors _ h.shares.pauseWriting (keepsWaiters_of_same rfl) writer
            { state := .awaiting 0 } fun _ => rfl

theorem Sound.wakeUp (h : s.Sound errors)
    (herrors : ∀ err, errors err → err ≠ .cancelledError) {writer waiter : Nat}
    {task : WriterTask} {outcome : Except PyException Unit}
    (htask : s.writers writer = some task) (hstate : task.state = .awaiting waiter)
    (houtcome : s.protocol.drainWaiters[waiter]?.bind Waiter.outcome = some outcome) :
    (s.wakeUp writer task outcome).Sound errors := by
  have hsound := h.tasks writer task htask
  simp only [TaskSound, hstate] at hsound
  rw [DrainingWriters.wakeUp]
  split
  · rename_i err hraised
    refine h.setWriter fun hnot hcancelled => ?_
    obtain ⟨hmust, future, hfuture, hne⟩ := hsound hnot
    rw [WriterTask.received, hmust, if_neg Bool.false_ne_true] at hraised
    rw [hfuture, Option.bind_some, hraised, hcancelled] at houtcome
    exact outcome_ne_cancelled h.shares herrors hfuture hne houtcome
  · exact h.finishWrite herrors _ h.shares (.refl _) writer task fun hnot => (hsound hnot).1

theorem Sound.cancel (h : s.Sound errors) {writer waiter : Nat} {task : WriterTask}
    (hspares : s.protocol.drainWaiters[waiter]? = some .pending →
      ∀ other otherTask, other ≠ writer → s.writers other = some otherTask →
        otherTask.state = .awaiting waiter → otherTask.cancelled = true) :
    (s.cancel writer task waiter).Sound errors := by
  rw [DrainingWriters.cancel]
  split
  · rename_i hpending
    have hkept {other : Nat} {future : Waiter} (hne : future ≠ .cancelled)
        (hafter : (s.protocol.drainWaiters.set waiter .cancelled)[other]? = some future) :
        s.protocol.drainWaiters[other]? = some future := by
      by_cases heq : waiter = other
      · rw [List.getElem?_set, if_pos heq] at hafter
        split at hafter
        · exact absurd (Option.some.inj hafter).symm hne
        · cases hafter
      · rwa [List.getElem?_set_ne heq] at hafter
    constructor
    case shares =>
      exact ⟨fun other hother => h.shares.pending other (hkept (by simp) hother), h.shares.error,
        fun other err hother => h.shares.exceptions other err (hkept (by simp) hother)⟩
    case tasks =>
      intro other otherTask hother hnot
      by_cases heq : other = writer
      · subst heq
        rw [writers_setWriter_self] at hother
        cases hother
        cases hnot
      · rw [writers_setWriter_of_ne _ heq] at hother
        have hbefore := h.tasks other otherTask hother hnot
        cases hotherState : otherTask.state with
        | ended outcome =>
            simp only [hotherState] at hbefore ⊢
            exact hbefore
        | awaiting otherWaiter =>
            simp only [hotherState] at hbefore ⊢
            -- A waiter that the writers share would cancel the other one as well.
            have hapart : waiter ≠ otherWaiter := by
              rintro rfl
              rw [hspares hpending other otherTask heq hother hotherState] at hnot
              cases hnot
            obtain ⟨hmust, future, hfuture, hne⟩ := hbefore
            refine ⟨hmust, future, ?_, hne⟩
            exact (List.getElem?_set_ne hapart).trans hfuture
  · exact h.setWriter fun hnot => by cases hnot

/-- A step that spares the other writers keeps the invariant. -/
theorem Sound.step (h : s.Sound errors)
    (herrors : ∀ err, errors err → err ≠ .cancelledError) {action : WriterAction}
    (hspares : s.SparesOthers action)
    (hlost : ∀ exc, exc ≠ some .cancelledError → action = .connectionLost exc →
      errors (s.protocol.lostError exc))
    (hstep : s.step action = some t) : t.Sound errors := by
  cases action with
  | pauseWriting =>
      cases hstep
      exact h.keeps rfl (keepsWaiters_of_same rfl) h.shares.pauseWriting
  | resumeWriting =>
      cases hstep
      exact h.keeps rfl (keepsWaiters_wakeDrainWaiter { s.protocol with paused := false } none)
        h.shares.resumeWriting
  | connectionLost exc =>
      rw [DrainingWriters.step] at hstep
      split at hstep
      · cases hstep
      · rename_i hexc
        cases hstep
        refine h.keeps rfl ?_ (h.shares.connectionLost (hlost exc hexc rfl))
        exact keepsWaiters_wakeDrainWaiter { s.protocol with
          transport := none, error := some (s.protocol.lostError exc), packetEvent := true } _
  | writePacket writer packet pauses =>
      rw [DrainingWriters.step] at hstep
      split at hstep
      · cases hstep
      · cases hstep
        exact h.writePacket herrors writer packet pauses
  | wakeUp writer =>
      obtain ⟨task, waiter, outcome, htask, hstate, houtcome, rfl⟩ := step_wakeUp hstep
      exact h.wakeUp herrors htask hstate houtcome
  | cancel writer =>
      rw [DrainingWriters.step] at hstep
      split at hstep
      · rename_i task htask
        split at hstep
        · rename_i waiter hstate
          cases hstep
          exact h.cancel (hspares task waiter htask hstate)
        · cases hstep
          exact h
      · cases hstep

end DrainingWriters

end Tekmar482
