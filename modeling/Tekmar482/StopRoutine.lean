import Tekmar482.ReportTask

/-!
# What stop does

`stop` clears the running flag before anything else, and closes the client at its end. It gets
there if the report task ends as a cancelled task does, and if turning reporting off raises only
what is suppressed. A cancelled report task ends after at most one call more.
-/

namespace Tekmar482

open Routine

/-- Whether a call clears the running flag. -/
def LifecycleCall.clears : LifecycleCall → Bool
  | .setRunning false => true
  | _ => false

/-- What a call of `stop` has done so far: whether it has cleared the running flag, and whether
it has attempted to close the client. -/
structure StopView where
  begun : Bool := false
  closed : Bool := false

namespace StopView

def after (self : StopView) (call : LifecycleCall) : StopView where
  begun := self.begun || call.clears
  closed := self.closed || call.closes

end StopView

/-- The calls of `stop`, and the replies that it can deal with. -/
def stopContract : Contract LifecycleCall LifecycleReply PyException StopView where
  requires view call := call.steady = true ∧ (call.cancels = true → view.begun = true)
  answers view call reply view' :=
    (∃ object messages after, ControllerObject.Answers object call reply messages after) ∧
    (∀ err, reply = .error err → (call = .awaitReportTask → err = .cancelledError) ∧
      (call.TurnsOff → err.isOsOrTekmarError = true)) ∧
    view' = view.after call

namespace StopView

/-- How a call of `stop` ends. -/
def Ended (view : StopView) (_ : Except PyException Unit) : Prop :=
  view.begun = true ∧ view.closed = true

/-- The calls of the controller's routines in `stop`. -/
abbrev stopCalls : Contract ControllerCall ControllerReply PyException StopView :=
  stopContract.comap LifecycleCall.controller fun _ reply => reply

section Parts

variable {view : StopView}

theorem begun_after (h : view.begun = true) (call : LifecycleCall) :
    (view.after call).begun = true :=
  (Bool.or_eq_true _ _).mpr (.inl h)

theorem follows_close (h : view.begun = true) :
    (perform (ControllerCall.session .close) : ControllerRoutine Unit).Follows stopCalls Ended
      view := by
  refine follows_perform.mpr ⟨⟨rfl, nofun⟩, ?_⟩
  rintro reply _ ⟨_, ⟨-, -, rfl⟩, -⟩
  exact ⟨begun_after h _, Bool.or_true _⟩

/-- Turning reporting off, without the exceptions of the gateway. -/
theorem follows_turnOff (h : view.begun = true) :
    (Controller.suppress (Client.setReportingState false)).Follows stopCalls
      (fun view' result => andThen (fun _ => view'.begun = true) (fun _ => False) result) view := by
  apply Controller.follows_suppressed
  rw [Controller.client_setReportingState]
  refine follows_perform.mpr ⟨⟨rfl, nofun⟩, ?_⟩
  rintro _ _ ⟨reply, ⟨-, hraised, rfl⟩, rfl⟩
  cases reply with
  | ok value => exact begun_after h _
  | error err =>
      rw [Controller.suppressed, if_pos ((hraised err rfl).2 rfl)]
      exact begun_after h _

theorem follows_closeClient (h : view.begun = true) :
    Lifecycle.closeClient.Follows stopCalls Ended view := by
  apply follows_bind.mpr
  refine follows_perform.mpr ⟨⟨rfl, nofun⟩, ?_⟩
  rintro _ _ ⟨reply, ⟨⟨object, messages, after, -, hsure⟩, -, rfl⟩, rfl⟩
  obtain ⟨isOpen, rfl⟩ := hsure rfl
  cases isOpen with
  | false => exact follows_close (begun_after h _)
  | true =>
      apply follows_bind.mpr
      apply (follows_turnOff (begun_after h _)).mono
      intro view' result hresult
      cases result with
      | ok _ => exact follows_close hresult
      | error err => exact hresult.elim

theorem follows_endReportTask (h : view.begun = true) :
    Lifecycle.endReportTask.Follows stopContract
      (fun view' result => andThen (fun _ => view'.begun = true) (fun _ => False) result) view := by
  apply follows_bind.mpr
  refine follows_perform.mpr ⟨⟨rfl, fun _ => h⟩, ?_⟩
  rintro reply _ ⟨⟨object, messages, after, -, hsure⟩, -, rfl⟩
  obtain ⟨_, rfl⟩ := hsure rfl
  apply Follows.tryExcept
  refine follows_perform.mpr ⟨⟨rfl, nofun⟩, ?_⟩
  rintro reply _ ⟨-, hraised, rfl⟩
  have hended := begun_after (begun_after h .cancelReportTask) .awaitReportTask
  cases reply with
  | ok _ => exact hended
  | error err =>
      have hcancelled := (hraised err rfl).1 rfl
      simp only [andThen, hcancelled, if_true]
      exact hended

/-- A call of `stop` clears the running flag, and attempts to close the client. -/
theorem follows_stop (view : StopView) : Lifecycle.stop.Follows stopContract Ended view := by
  apply follows_bind.mpr
  refine follows_perform.mpr ⟨⟨rfl, nofun⟩, ?_⟩
  rintro reply _ ⟨⟨object, messages, after, rfl, -⟩, -, rfl⟩
  have hbegun : (view.after (.setRunning false)).begun = true := Bool.or_true _
  apply follows_bind.mpr
  refine follows_perform.mpr ⟨⟨rfl, nofun⟩, ?_⟩
  rintro reply _ ⟨⟨object, messages, after, rfl, -⟩, -, rfl⟩
  have htaken := begun_after hbegun .takeReportTask
  change Follows stopContract Ended (if object.reportTask then _ else _) _
  cases object.reportTask with
  | false => exact (follows_closeClient htaken).lift_comap
  | true =>
      apply follows_bind.mpr
      apply (follows_endReportTask htaken).mono
      intro view' result hresult
      cases result with
      | ok _ => exact (follows_closeClient hresult).lift_comap
      | error err => exact hresult.elim

end Parts

end StopView

namespace Lifecycle

/-! ## How long it takes -/

theorem within_turnOff : (Controller.suppress (Client.setReportingState false)).Within 1 := by
  have hbody : (do
      let _ ← Controller.client (Client.setReportingState false)
      Pure.pure () : ControllerRoutine Unit).Within (1 + 0) := by
    rw [Controller.client_setReportingState]
    exact (Within.perform _).bind fun _ => trivial
  apply hbody.tryExcept (m := 0)
  intro err
  split <;> trivial

theorem within_closeClient : closeClient.Within 3 := by
  have hclose : (Routine.perform (ControllerCall.session .close) :
      ControllerRoutine Unit).Within 1 := Within.perform _
  apply (Within.perform _).bind (m := 2)
  intro isOpen
  cases isOpen with
  | false => exact hclose.mono (by decide)
  | true => exact within_turnOff.bind fun _ => hclose

theorem within_endReportTask : endReportTask.Within 2 := by
  apply (Within.perform _).bind (m := 1)
  intro _
  apply (Within.perform _).tryExcept (m := 0)
  intro err
  split <;> trivial

/-- A call of `stop` makes at most seven calls. -/
theorem within_stop : stop.Within 7 := by
  apply (Within.perform _).bind (m := 6)
  intro _
  apply (Within.perform _).bind (m := 5)
  intro task
  cases task with
  | false => exact within_closeClient.lift.mono (by decide)
  | true => exact within_endReportTask.bind fun _ => within_closeClient.lift

/-! ## A cancelled report task -/

section Cancelled

variable {n : Nat}

theorem endsOn_controller {α : Type} {routine : ControllerRoutine α}
    (h : routine.EndsOn .cancelledError n) : (controller routine).EndsOn .cancelledError n := by
  apply EndsOn.lift _ _ h
  · exact fun _ reply => ⟨reply, rfl⟩
  · exact fun _ => rfl

theorem endsOn_callEach (callbacks : List Nat) {call : Nat → LifecycleRoutine Unit}
    (h : ∀ callback, (call callback).EndsOn .cancelledError n) :
    (callEach callbacks call).EndsOn .cancelledError n := by
  induction callbacks with
  | nil => exact .pure ()
  | cons callback rest ih => exact (h callback).bind fun _ => ih

theorem endsOn_callState (callback : Nat) : (callState callback).EndsOn .cancelledError n := by
  apply (endsOn_controller (.perform _)).bind
  intro data
  cases data with
  | none => trivial
  | some data => exact .perform _

theorem endsOn_notifyState : notifyState.EndsOn .cancelledError n := by
  apply (endsOn_controller (.perform _)).bind
  intro data
  cases data with
  | none => exact .pure ()
  | some data =>
      apply (EndsOn.perform _).bind
      exact fun callbacks => endsOn_callEach callbacks endsOn_callState

theorem endsOn_handleMessage (message : TrpcPacket) :
    (handleMessage message).EndsOn .cancelledError n := by
  rw [handleMessage]
  split
  · exact (EndsOn.perform _).bind fun callbacks => endsOn_callEach callbacks fun _ => .perform _
  · apply (EndsOn.perform _).bind
    intro changed
    cases changed with
    | true => exact endsOn_notifyState
    | false => exact .pure ()

theorem endsOn_readReports (fuel : Nat) : (readReports fuel).EndsOn .cancelledError n := by
  induction fuel with
  | zero => trivial
  | succ fuel ih =>
      apply (EndsOn.perform _).bind
      intro message
      cases message with
      | none => exact .pure ()
      | some message => exact (endsOn_handleMessage message).bind fun _ => ih

theorem endsOn_reopen : Controller.reopen.EndsOn .cancelledError n := by
  apply (EndsOn.perform _).bind
  intro _
  rw [Controller.client_setReportingState]
  exact (EndsOn.perform _).bind fun _ => .pure ()

/-- Only the end of the subscription comes after it. -/
theorem endsOn_followReports (fuel : Nat) : (followReports fuel).EndsOn .cancelledError 1 := by
  have hread : EndsOn .cancelledError 1 (do
      Routine.perform LifecycleCall.subscribe
      Routine.tryFinally (readReports fuel) (Routine.perform LifecycleCall.unsubscribe)) :=
    (EndsOn.perform _).bind fun _ => (endsOn_readReports fuel).tryFinally
  apply (endsOn_controller (.perform _)).bind
  intro isOpen
  cases isOpen with
  | true => exact hread
  | false => exact (endsOn_controller endsOn_reopen).bind fun _ => hread

theorem endsOn_notifyError (err : PyException) : (notifyError err).EndsOn .cancelledError n :=
  (EndsOn.perform _).bind fun callbacks => endsOn_callEach callbacks fun _ => .perform _

theorem endsOn_reportError (err : PyException) : (reportError err).EndsOn .cancelledError n := by
  rw [reportError]
  split
  · apply (EndsOn.perform _).bind
    intro _
    apply (endsOn_notifyError err).bind
    intro _
    exact (endsOn_controller (.perform _)).bind fun _ => .perform _
  · trivial

/-- A call that raises the cancellation ends the report task, but for one call more. -/
theorem endsOn_reportLoop (fuel turns : Nat) :
    (reportLoop fuel turns).EndsOn .cancelledError 1 := by
  induction turns with
  | zero => trivial
  | succ turns ih =>
      apply (endsOn_controller (.perform _)).bind
      intro running
      cases running with
      | false => exact .pure ()
      | true =>
          apply ((endsOn_followReports fuel).tryExcept endsOn_reportError rfl).bind
          exact fun _ => ih

end Cancelled

end Lifecycle

end Tekmar482
