import Tekmar482.StopSteps

/-!
# How the report task ends

The loop handles what its guarded calls raise, and goes on. As long as no other call raises,
it returns only when it has seen that the controller does not run, and it raises nothing but
the exception that cancels it.
-/

namespace Tekmar482

open Routine

/-- A call after which the controller runs, or has a state, only if it did before. -/
def LifecycleCall.steady : LifecycleCall → Bool
  | .setRunning true | .controller (.setState _) => false
  | _ => true

/-- Whether a call has found that the controller does not run. -/
def LifecycleCall.seesStop :
    (call : LifecycleCall) → Except PyException (LifecycleReply call) → Bool
  | .controller .isRunning, .ok running => !running
  | _, _ => false

/-- What the report task has met so far. -/
structure ReportView where
  stopped : Bool := false
  cancelled : Bool := false

namespace ReportView

def after (self : ReportView) (call : LifecycleCall)
    (reply : Except PyException (LifecycleReply call)) : ReportView where
  stopped := self.stopped || call.seesStop reply
  cancelled := self.cancelled || raisedBy reply = some .cancelledError

end ReportView

/-- The calls of the report loop, and the replies that it can deal with. -/
def reportContract : Contract LifecycleCall LifecycleReply PyException ReportView where
  requires _ call := call.steady = true
  answers view call reply view' :=
    (∃ object messages after, ControllerObject.Answers object call reply messages after ∧
      object.state.isSome = true) ∧
    (∀ err, reply = .error err →
      err = .cancelledError ∨ err.isOsOrTekmarError = true ∧ call.guarded = true) ∧
    view' = view.after call reply

namespace ReportView

/-- The exception that cancels the task. -/
def Cut (err : PyException) (view : ReportView) : Prop :=
  err = .cancelledError ∧ view.cancelled = true

/-- The exceptions that reach the handler of the loop. -/
def Held (err : PyException) (view : ReportView) : Prop :=
  err.isOsOrTekmarError = true ∨ view.Cut err

/-- Whatever the task has met, the routine raises only what the handler is for. -/
def Contained {α : Type} (routine : LifecycleRoutine α) : Prop :=
  ∀ view, routine.Throws reportContract Held view

/-! ## The rules of the calls -/

section Rules

variable {α β : Type} {view : ReportView} {call : LifecycleCall}

theorem Cut.raised (view : ReportView) (call : LifecycleCall) :
    (view.after call (.error .cancelledError)).Cut .cancelledError :=
  ⟨rfl, Bool.or_true _⟩

theorem Cut.after {err : PyException} (h : view.Cut err) (call : LifecycleCall)
    (reply : Except PyException (LifecycleReply call)) : (view.after call reply).Cut err :=
  ⟨h.1, by rw [ReportView.after, h.2, Bool.true_or]⟩

/-- A call outside the `try` only cancels the task. -/
theorem throws_unguarded (hsteady : call.steady = true) (hguarded : call.guarded = false) :
    (perform call : LifecycleRoutine (LifecycleReply call)).Throws reportContract Cut view := by
  apply Throws.perform hsteady
  rintro err _ ⟨-, hraised, rfl⟩
  obtain rfl | ⟨-, hwrong⟩ := hraised err rfl
  · exact .raised view call
  · cases hguarded.symm.trans hwrong

theorem Contained.pure (a : α) : Contained (Pure.pure a : LifecycleRoutine α) :=
  fun _ => Throws.pure

theorem Contained.bind {routine : LifecycleRoutine α} {f : α → LifecycleRoutine β}
    (h : Contained routine) (hf : ∀ a, Contained (f a)) : Contained (routine >>= f) :=
  fun view => (h view).bind fun a view' => hf a view'

theorem Contained.perform (hsteady : call.steady = true) :
    Contained (Routine.perform call : LifecycleRoutine (LifecycleReply call)) := by
  intro view
  apply Throws.perform hsteady
  rintro err _ ⟨-, hraised, rfl⟩
  obtain rfl | ⟨hfamily, -⟩ := hraised err rfl
  · exact .inr (.raised view call)
  · exact .inl hfamily

theorem Contained.tryFinally {body : LifecycleRoutine α} (h : Contained body)
    (hsteady : call.steady = true) :
    Contained (body.tryFinally
      (Routine.perform call : LifecycleRoutine (LifecycleReply call))) := by
  intro view
  apply follows_tryFinally
  apply (h view).mono
  intro view' result hresult
  refine follows_perform.mpr ⟨hsteady, ?_⟩
  intro reply view'' hanswer
  cases reply with
  | ok value =>
      obtain ⟨-, -, rfl⟩ := hanswer
      exact fun err herr => (hresult err herr).imp_right fun hcut => hcut.after call _
  | error raised =>
      rintro err ⟨⟩
      exact (follows_perform.mp (Contained.perform hsteady view')).2 _ _ hanswer raised rfl

/-- Reading the data of the state, which there is. -/
theorem Contained.data {f : Option AvailableInfo → LifecycleRoutine α}
    (h : ∀ data, Contained (f (some data))) :
    Contained (Lifecycle.controller (Routine.perform ControllerCall.data) >>= f) := by
  intro view
  rw [Lifecycle.controller_perform]
  apply follows_bind.mpr
  refine follows_perform.mpr ⟨rfl, ?_⟩
  rintro reply view' ⟨⟨object, messages, after, hanswers, hstate⟩, -⟩
  obtain ⟨rfl, -⟩ := hanswers
  obtain ⟨state, hsome⟩ := Option.isSome_iff_exists.mp hstate
  rw [ControllerObject.data, hsome]
  exact h state.data view'

end Rules

open Lifecycle

/-! ## The guarded part -/

theorem contained_callEach (callbacks : List Nat) {call : Nat → LifecycleRoutine Unit}
    (h : ∀ callback, Contained (call callback)) : Contained (callEach callbacks call) := by
  induction callbacks with
  | nil => exact .pure ()
  | cons callback rest ih => exact (h callback).bind fun _ => ih

theorem contained_notifyState : Contained notifyState := by
  apply Contained.data
  intro _
  apply (Contained.perform rfl).bind
  intro callbacks
  apply contained_callEach callbacks
  exact fun callback => Contained.data fun _ => Contained.perform rfl

theorem contained_handleMessage (message : TrpcPacket) : Contained (handleMessage message) := by
  rw [handleMessage]
  split
  · apply (Contained.perform rfl).bind
    exact fun callbacks => contained_callEach callbacks fun _ => Contained.perform rfl
  · apply (Contained.perform rfl).bind
    intro changed
    cases changed with
    | true => exact contained_notifyState
    | false => exact .pure ()

theorem contained_readReports (fuel : Nat) : Contained (readReports fuel) := by
  induction fuel with
  | zero => exact fun _ => trivial
  | succ fuel ih =>
      apply (Contained.perform rfl).bind
      intro message
      cases message with
      | none => exact .pure ()
      | some message => exact (contained_handleMessage message).bind fun _ => ih

theorem contained_reopen : Contained (controller Controller.reopen) := by
  rw [Controller.reopen, controller_bind, controller_perform]
  apply (Contained.perform rfl).bind
  intro _
  rw [controller_bind, Controller.client_setReportingState, controller_perform]
  exact (Contained.perform rfl).bind fun _ => .pure ()

theorem contained_followReports (fuel : Nat) : Contained (followReports fuel) := by
  have hread : Contained (do
      Routine.perform LifecycleCall.subscribe
      Routine.tryFinally (readReports fuel) (Routine.perform LifecycleCall.unsubscribe)) :=
    (Contained.perform rfl).bind fun _ => (contained_readReports fuel).tryFinally rfl
  rw [followReports, controller_perform]
  apply (Contained.perform rfl).bind
  intro isOpen
  cases isOpen with
  | true => exact hread
  | false => exact contained_reopen.bind fun _ => hread

/-! ## The handler, and the loop -/

theorem throws_notifyError (err : PyException) (view : ReportView) :
    (notifyError err).Throws reportContract Cut view := by
  apply (throws_unguarded rfl rfl).bind
  intro callbacks view'
  induction callbacks generalizing view' with
  | nil => exact Throws.pure
  | cons callback rest ih => exact (throws_unguarded rfl rfl).bind fun _ view'' => ih view''

/-- The handler goes on with the loop, unless the task is cancelled. -/
theorem throws_reportError {err : PyException} {view : ReportView} (h : view.Held err) :
    (reportError err).Throws reportContract Cut view := by
  rw [reportError]
  split
  · apply (throws_unguarded rfl rfl).bind
    intro _ noted
    apply (throws_notifyError err noted).bind
    intro _ notified
    rw [controller_perform]
    exact (throws_unguarded rfl rfl).bind fun _ closed => throws_unguarded rfl rfl
  · rename_i hfamily
    rintro _ ⟨⟩
    exact h.resolve_left hfamily

theorem throws_turn (fuel : Nat) (view : ReportView) :
    (tryExcept (followReports fuel) reportError).Throws reportContract Cut view := by
  apply Follows.tryExcept
  apply (contained_followReports fuel view).mono
  intro view' result hresult
  cases result with
  | ok _ => exact fun _ h => nomatch h
  | error err => exact throws_reportError (hresult err rfl)

/-- How the report task ends. -/
def Ended (view : ReportView) : Except PyException Unit → Prop
  | .ok _ => view.stopped = true
  | .error err => view.Cut err

/-- The report loop returns when it has seen that the controller does not run, and raises when
it is cancelled. -/
theorem follows_reportLoop (fuel turns : Nat) (view : ReportView) :
    (reportLoop fuel turns).Follows reportContract Ended view := by
  induction turns generalizing view with
  | zero => trivial
  | succ turns ih =>
      rw [reportLoop, controller_perform]
      apply follows_bind.mpr
      refine follows_perform.mpr ⟨rfl, ?_⟩
      rintro reply _ ⟨-, hraised, rfl⟩
      cases reply with
      | error err =>
          obtain rfl | ⟨-, hwrong⟩ := hraised err rfl
          · exact .raised view _
          · cases hwrong
      | ok running =>
          cases running with
          | false => exact Bool.or_true _
          | true =>
              apply follows_bind.mpr
              apply (throws_turn fuel _).mono
              intro view' result hresult
              cases result with
              | ok _ => exact ih view'
              | error err => exact hresult err rfl

end ReportView

end Tekmar482
