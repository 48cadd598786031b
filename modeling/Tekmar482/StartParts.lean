import Tekmar482.StartView

/-!
# The parts of a start

Discovery, the poll, the handler and the notification of the listeners, each by what it
leaves of the view. A start that fails is decided by its handler, or by the client that
could not be opened.
-/

namespace Tekmar482

open Routine

namespace StartView

/-! ## The parts of a start -/

/-- Whatever went wrong so far, its handler has not closed the client yet. -/
structure Undecided (view : StartView) : Prop where
  taskless : view.object.reportTask = false
  running : view.object.running = view.listenerRaised
  opened : view.opened = true
  closed : view.closed = false
  openRaised : view.openRaised = false
  handlerRaised : view.handlerRaised = false

/-- Where a start ends that fails. -/
structure Failed (view : StartView) : Prop where
  taskless : view.object.reportTask = false
  running : view.object.running = view.listenerRaised
  closed : view.closed = !(view.openRaised || view.handlerRaised)

/-- Where a start ends. -/
def Ended {α : Type} (view : StartView) : Except PyException α → Prop
  | .ok _ => view.opened = true ∧ view.discovered = true ∧ view.polled = true
  | .error _ => view.Failed

/-- A handler raises at its end. -/
def Abandoned {α : Type} (view : StartView) : Except PyException α → Prop
  | .ok _ => False
  | .error _ => view.Failed

section Parts

variable {view : StartView} {options : ControllerOptions}

theorem Undecided.same {view' : StartView} (h : view.Undecided) (hsame : view.Same view') :
    view'.Undecided := by
  rw [hsame.flags]
  exact ⟨hsame.reportTask.trans h.taskless, hsame.running.trans h.running, h.opened, h.closed,
    h.openRaised, h.handlerRaised⟩

/-- Closing the client in the handler. -/
theorem follows_suppressClose {α : Type} (err : PyException) (h : view.Undecided) :
    (do
      Controller.suppress (Routine.perform SessionCall.close)
      Routine.raise err : ControllerRoutine α).Follows startCalls Abandoned view := by
  apply follows_bind.mpr
  apply Controller.follows_suppressed
  rw [Controller.client_perform]
  apply follows_startCall
  apply follows_await rfl
  intro reply messages _
  have hfailed : (view.after (view.object.took messages) .closing (raisedBy reply)).Failed := by
    refine ⟨h.taskless, h.running, ?_⟩
    simp [StartView.after, h.openRaised, h.handlerRaised]
  cases Controller.suppressed reply with
  | ok _ => exact hfailed
  | error raised => exact hfailed

theorem follows_abandonStart_unreported {α : Type} (err : PyException) (h : view.Undecided) :
    (Controller.abandonStart false err : ControllerRoutine α).Follows startCalls
      Abandoned view :=
  follows_suppressClose err h

/-- Reporting is turned on again by the handler, before the poll is complete or after another
attempt. -/
theorem follows_turnOnAgain (h : view.Undecided)
    (hagain : (!view.polled || view.turnedOn) = true) :
    (Controller.suppress (Client.setReportingState true)).Follows startCalls
      (fun view' => andThen (fun _ => view'.Undecided) fun _ => view'.Failed) view := by
  apply Controller.follows_suppressed
  rw [Controller.client_setReportingState]
  apply follows_startCall
  apply follows_await rfl
  intro reply messages _
  rw [startEvent_reportingUpdate, if_pos rfl]
  have hundecided (hquiet : (raisedBy reply).any (fun err => !err.isOsOrTekmarError) = false) :
      (view.after (view.object.took messages) .turnOn (raisedBy reply)).Undecided := by
    refine ⟨h.taskless, h.running, h.opened, h.closed, h.openRaised, ?_⟩
    simp only [StartView.after, hquiet, h.handlerRaised, Bool.and_false, Bool.or_false]
  cases reply with
  | ok response => exact hundecided rfl
  | error raised =>
      cases hfamily : raised.isOsOrTekmarError with
      | true =>
          rw [Controller.suppressed, if_pos hfamily]
          refine hundecided ?_
          rw [raisedBy, Option.any_some, hfamily, Bool.not_true]
      | false =>
          rw [Controller.suppressed, hfamily, if_neg Bool.false_ne_true]
          refine ⟨h.taskless, h.running, ?_⟩
          simp only [StartView.after, raisedBy, Option.any_some, hfamily, hagain, h.closed,
            h.openRaised, h.handlerRaised, Bool.not_false, Bool.and_self, Bool.or_true, Bool.not_true]

/-- The handler while reporting is disabled. -/
theorem follows_abandonStart_disabled {α : Type} (err : PyException) (h : view.Undecided)
    (hagain : (!view.polled || view.turnedOn) = true) :
    (Controller.abandonStart true err : ControllerRoutine α).Follows startCalls
      Abandoned view := by
  apply follows_bind.mpr
  apply follows_bind.mpr
  apply follows_startCall
  apply follows_await rfl
  intro reply messages hsure
  obtain ⟨isOpen, rfl⟩ := hsure rfl
  have hasked : (view.after (view.object.took messages) .other none).Undecided :=
    ⟨h.taskless, h.running, h.opened, h.closed, h.openRaised, h.handlerRaised⟩
  cases isOpen with
  | false => exact follows_suppressClose err hasked
  | true =>
      apply (follows_turnOnAgain hasked hagain).mono
      intro view' result hresult
      cases result with
      | ok _ => exact follows_suppressClose err hresult
      | error raised => exact hresult

theorem follows_discover (options : ControllerOptions) (h : view.Undecided) :
    (Controller.discover options).Follows startCalls
      (fun view' result => view'.Undecided ∧ view'.polled = view.polled ∧
        view'.turnedOn = view.turnedOn ∧ (result.isOk = true → view'.discovered = true) ∧
        (view.discovered = true → view'.discovered = true)) view := by
  apply follows_bind.mpr
  apply follows_polls (Client.asks_discover _)
  intro view' result hsame
  have hundecided := h.same hsame
  have hpolled : view'.polled = view.polled := by rw [hsame.flags]
  have hturned : view'.turnedOn = view.turnedOn := by rw [hsame.flags]
  cases result with
  | error err =>
      refine ⟨hundecided, hpolled, hturned, nofun, fun hdiscovered => ?_⟩
      rw [hsame.flags]
      exact hdiscovered
  | ok discovery =>
      apply follows_bind.mpr
      apply follows_startCall
      apply follows_access rfl
      refine ⟨⟨hundecided.taskless, hundecided.running, hundecided.opened, hundecided.closed,
        hundecided.openRaised, hundecided.handlerRaised⟩, hpolled, hturned, fun _ => rfl, fun _ => rfl⟩

theorem follows_pollState (options : ControllerOptions) (discovery : DiscoveryResult)
    (h : view.Undecided) :
    (Controller.pollState options discovery).Follows startCalls
      (fun view' result => view'.Undecided ∧ view'.discovered = view.discovered ∧
        view'.turnedOn = view.turnedOn ∧
        view'.polled = (view.polled || result.isOk)) view := by
  apply follows_bind.mpr
  apply follows_polls (Client.asks_pollRuntime _ _ _ _)
  intro view' result hsame
  have hundecided := h.same hsame
  have hdiscovered : view'.discovered = view.discovered := by rw [hsame.flags]
  have hturned : view'.turnedOn = view.turnedOn := by rw [hsame.flags]
  have hpolled : view'.polled = view.polled := by rw [hsame.flags]
  cases result with
  | error err => exact ⟨hundecided, hdiscovered, hturned, by rw [hpolled]; exact (Bool.or_false _).symm⟩
  | ok data =>
      apply follows_bind.mpr
      apply follows_startCall
      apply follows_access rfl
      exact ⟨⟨hundecided.taskless, hundecided.running, hundecided.opened, hundecided.closed,
        hundecided.openRaised, hundecided.handlerRaised⟩, hdiscovered, hturned, (Bool.or_true _).symm⟩

theorem follows_refreshRuntime (options : ControllerOptions) (h : view.Undecided) :
    (Controller.refreshRuntime options).Follows startCalls
      (fun view' result => view'.Undecided ∧ view'.turnedOn = view.turnedOn ∧
        (view.discovered = true → view'.discovered = true) ∧
        view'.polled = (view.polled || result.isOk)) view := by
  apply follows_bind.mpr
  apply follows_startCall
  apply follows_access rfl
  have hread : (view.after view.object .other none).Undecided :=
    ⟨h.taskless, h.running, h.opened, h.closed, h.openRaised, h.handlerRaised⟩
  have hpoll (discovery : DiscoveryResult) {view' : StartView} (hundecided : view'.Undecided)
      (hpolled : view'.polled = view.polled) (hturned : view'.turnedOn = view.turnedOn)
      (hdiscovered : view.discovered = true → view'.discovered = true) :
      (Controller.pollState options discovery).Follows startCalls
        (fun view'' result => view''.Undecided ∧ view''.turnedOn = view.turnedOn ∧
          (view.discovered = true → view''.discovered = true) ∧
          view''.polled = (view.polled || result.isOk)) view' := by
    apply (follows_pollState options discovery hundecided).mono
    rintro view'' result ⟨hend, hsame, hturned', hpolled'⟩
    exact ⟨hend, hturned'.trans hturned, fun hwas => hsame.trans (hdiscovered hwas),
      hpolled ▸ hpolled'⟩
  rw [andThen]
  cases view.object.discovery with
  | some discovery => exact hpoll discovery hread rfl rfl id
  | none =>
      apply follows_bind.mpr
      apply (follows_discover options hread).mono
      rintro view' result ⟨hundecided, hpolled, hturned, -, hdiscovered⟩
      cases result with
      | ok discovery => exact hpoll discovery hundecided hpolled hturned hdiscovered
      | error err => exact ⟨hundecided, hturned, hdiscovered, hpolled.trans (Bool.or_false _).symm⟩

/-- While reporting is disabled `start` discovers and polls, or fails in time for its handler
to turn reporting on again. -/
theorem follows_seedState (options : ControllerOptions) (h : view.Undecided)
    (hpolled : view.polled = false) (hturned : view.turnedOn = false) :
    (Controller.seedState options).Follows startCalls
      (fun view' result => view'.Undecided ∧ match result with
        | .ok _ => view'.discovered = true ∧ view'.polled = true
        | .error _ => (!view'.polled || view'.turnedOn) = true) view := by
  apply follows_bind.mpr
  apply (follows_discover options h).mono
  rintro view' result ⟨hundecided, hpolled', hturned', hdiscovered, -⟩
  cases result with
  | error err =>
      refine ⟨hundecided, ?_⟩
      rw [hpolled', hpolled]
      rfl
  | ok discovery =>
      apply follows_bind.mpr
      apply (follows_refreshRuntime options hundecided).mono
      rintro view'' result ⟨hend, hturned'', hdiscovered', hpolled''⟩
      rw [hpolled', hpolled, Bool.false_or] at hpolled''
      cases result with
      | error err =>
          refine ⟨hend, ?_⟩
          rw [hpolled'']
          rfl
      | ok data =>
          apply follows_bind.mpr
          rw [Controller.client_setReportingState]
          apply follows_startCall
          apply follows_await rfl
          intro reply messages _
          rw [startEvent_reportingUpdate, if_pos rfl]
          have hturnedOn : view''.turnedOn = false := hturned''.trans (hturned'.trans hturned)
          have hafter : (view''.after (view''.object.took messages) .turnOn
              (raisedBy reply)).Undecided := by
            refine ⟨hend.taskless, hend.running, hend.opened, hend.closed, hend.openRaised, ?_⟩
            simp only [StartView.after, hpolled'', hturnedOn, hend.handlerRaised, Except.isOk,
              Except.toBool, Bool.not_true, Bool.or_self, Bool.false_and]
          cases reply with
          | error err => exact ⟨hafter, Bool.or_true _⟩
          | ok response => exact ⟨hafter, hdiscovered' (hdiscovered rfl), hpolled''⟩

/-- What notifying the listeners does to the view: it raises exactly if a listener does. -/
structure Notified (view view' : StartView) (result : Except PyException Unit) : Prop where
  flags : view' = { view with
    object := view'.object, listenerRaised := view.listenerRaised || !result.isOk }
  running : view'.object.running = view.object.running
  reportTask : view'.object.reportTask = view.object.reportTask

/-- The state stays while the callbacks are called, so each of them gets its data. -/
theorem follows_callEach (callbacks : List Nat) (hstate : view.object.state.isSome = true) :
    (Lifecycle.callEach callbacks Lifecycle.callState).Follows startContract view.Notified view := by
  induction callbacks generalizing view with
  | nil => exact ⟨by rw [Except.isOk, Except.toBool, Bool.not_true, Bool.or_false], rfl, rfl⟩
  | cons callback rest ih =>
      obtain ⟨state, hsome⟩ := Option.isSome_iff_exists.mp hstate
      apply follows_bind.mpr
      apply follows_bind.mpr
      apply Follows.lift_comap
      apply follows_startCall
      apply follows_access rfl
      have hdata : view.object.data = some state.data := by rw [ControllerObject.data, hsome]; rfl
      simp only [hdata, andThen_ok]
      apply follows_await rfl
      intro reply messages _
      cases reply with
      | error err => exact ⟨rfl, rfl, rfl⟩
      | ok _ =>
          refine (ih ((Option.isSome_map ..).trans hstate)).mono fun view' result hrest => ?_
          refine ⟨hrest.flags.trans ?_, hrest.running, hrest.reportTask⟩
          exact congrArg (fun raised => { view with
            object := view'.object, listenerRaised := raised || !result.isOk })
              (Bool.or_false view.listenerRaised)

theorem follows_notifyState :
    Lifecycle.notifyState.Follows startContract view.Notified view := by
  have hquiet (object : ControllerObject) (hrunning : object.running = view.object.running)
      (hreportTask : object.reportTask = view.object.reportTask) :
      view.Notified { view with object := object } (.ok ()) := by
    refine ⟨?_, hrunning, hreportTask⟩
    rw [Except.isOk, Except.toBool, Bool.not_true, Bool.or_false]
  apply follows_bind.mpr
  apply Follows.lift_comap
  apply follows_startCall
  apply follows_access rfl
  cases hstate : view.object.state with
  | none =>
      have hdata : view.object.data = none := by rw [ControllerObject.data, hstate]; rfl
      simp only [hdata, andThen_ok]
      exact hquiet view.object rfl rfl
  | some state =>
      have hdata : view.object.data = some state.data := by rw [ControllerObject.data, hstate]; rfl
      simp only [hdata, andThen_ok]
      apply follows_bind.mpr
      apply follows_await rfl
      intro reply messages hsure
      obtain ⟨callbacks, rfl⟩ := hsure rfl
      refine (follows_callEach callbacks ?_).mono fun view' result hnotified => ?_
      · exact (Option.isSome_map ..).trans (hstate ▸ rfl)
      · exact ⟨hnotified.flags, hnotified.running, hnotified.reportTask⟩

theorem follows_applyResponse (response : Option TrpcPacket) :
    (Lifecycle.controller (Controller.applyResponse response)).Follows startContract
      (fun view' result => view.Same view' ∧ result = .ok ()) view := by
  apply Follows.lift_comap
  cases response with
  | none => exact ⟨.refl view, rfl⟩
  | some message =>
      apply follows_startCall
      exact follows_access rfl ⟨⟨rfl, rfl, rfl⟩, rfl⟩

/-- The end of a start raises only when a listener does, and then the controller runs. -/
theorem follows_finishStart (data : AvailableInfo) (response : Option TrpcPacket)
    (h : view.Undecided) (hdiscovered : view.discovered = true) (hpolled : view.polled = true) :
    (Lifecycle.finishStart data response).Follows startContract
      (fun view' result => match result with
        | .ok _ => view'.opened = true ∧ view'.discovered = true ∧ view'.polled = true
        | .error _ => view'.Undecided) view := by
  apply follows_bind.mpr
  apply (follows_applyResponse response).mono
  rintro applied result ⟨hsame, rfl⟩
  apply follows_bind.mpr
  apply Follows.lift_comap
  apply follows_startCall
  apply follows_access rfl
  apply follows_bind.mpr
  apply follows_access rfl
  apply follows_bind.mpr
  apply follows_notifyState.mono
  intro notified result hnotified
  have hflags : notified = { view with
      object := notified.object, listenerRaised := view.listenerRaised || !result.isOk } := by
    refine hnotified.flags.trans ?_
    change ({ applied with
      object := notified.object, listenerRaised := applied.listenerRaised || !result.isOk } :
        StartView) = _
    rw [hsame.flags]
  cases result with
  | error err =>
      have hrunning : notified.object.running = true := hnotified.running
      have htaskless : notified.object.reportTask = false :=
        hnotified.reportTask.trans (hsame.reportTask.trans h.taskless)
      rw [hflags]
      exact ⟨htaskless, hrunning.trans (Bool.or_true _).symm, h.opened, h.closed, h.openRaised,
        h.handlerRaised⟩
  | ok _ =>
      apply follows_bind.mpr
      apply follows_access rfl
      rw [hflags]
      exact ⟨h.opened, hdiscovered, hpolled⟩

/-! ## The start -/

/-- A start of a controller that does not run. -/
theorem follows_openStart (options : ControllerOptions) {object : ControllerObject}
    (hrunning : object.running = false) (htaskless : object.reportTask = false) :
    (Lifecycle.openStart options).Follows startContract Ended { object } := by
  apply follows_bind.mpr
  apply Follows.lift_comap
  apply follows_startCall
  apply follows_await rfl
  intro reply messages _
  cases reply with
  | error err => exact ⟨htaskless, hrunning, rfl⟩
  | ok _ =>
      apply follows_bind.mpr
      apply Follows.lift_comap
      apply Follows.tryExcept
      rw [Controller.client_setReportingState]
      apply follows_startCall
      apply follows_await rfl
      intro reply messages' _
      rw [startEvent_reportingUpdate, if_neg Bool.false_ne_true]
      have hdisabling : Undecided
          { object := (object.took messages).took messages', opened := true } :=
        ⟨htaskless, hrunning, rfl, rfl, rfl, rfl⟩
      cases reply with
      | error err =>
          apply (follows_abandonStart_unreported err hdisabling).mono
          intro view' result habandoned
          cases result with
          | ok _ => exact habandoned.elim
          | error err => exact habandoned
      | ok _ =>
          apply follows_bind.mpr
          apply Follows.lift_comap
          apply Follows.tryExcept
          apply (follows_seedState options hdisabling rfl rfl).mono
          rintro view' result ⟨hundecided, hseeded⟩
          cases result with
          | error err =>
              apply (follows_abandonStart_disabled err hundecided hseeded).mono
              intro view'' result habandoned
              cases result with
              | ok _ => exact habandoned.elim
              | error err => exact habandoned
          | ok seeded =>
              apply Follows.tryExcept
              apply (follows_finishStart seeded.1 seeded.2 hundecided hseeded.1 hseeded.2).mono
              intro view'' result hfinished
              cases result with
              | ok data => exact hfinished
              | error err =>
                  apply Follows.lift_comap
                  apply (follows_abandonStart_unreported err hfinished).mono
                  intro view' result habandoned
                  cases result with
                  | ok _ => exact habandoned.elim
                  | error err => exact habandoned

theorem follows_start (options : ControllerOptions) {object : ControllerObject}
    (hrunning : object.running = false) (htaskless : object.reportTask = false) :
    (Lifecycle.start options).Follows startContract Ended { object } := by
  apply follows_bind.mpr
  apply Follows.lift_comap
  apply follows_startCall
  apply follows_access rfl
  simp only [hrunning, andThen_ok, Bool.false_eq_true, if_false]
  exact follows_openStart options hrunning htaskless

end Parts

end StartView

end Tekmar482
