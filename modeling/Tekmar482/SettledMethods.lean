import Tekmar482.DiscoveryView

/-!
# The two writes of a method

Every method that stores a discovery polls it, and installs the state before it returns. Only
a call that raises can end between the two, and the handlers of the methods raise again.
-/

namespace Tekmar482

/-- A method as its caller sees it. -/
def Operation.lifecycle (options : ControllerOptions) : Operation → LifecycleRoutine Unit
  | .start => do
      let _ ← Lifecycle.start options
      pure ()
  | .stop => Lifecycle.stop
  | .refreshRuntime => do
      let _ ← Lifecycle.refreshRuntime options
      pure ()
  | .rediscover pauseReporting => do
      let _ ← Lifecycle.rediscover options pauseReporting
      pure ()

open Routine

/-- A call that does not store a discovery. -/
def LifecycleCall.Keeps : LifecycleCall → Prop
  | .controller (.setDiscovery _) => False
  | _ => True

namespace Lifecycle

/-! ## What stores no discovery -/

/-- The calls of the controller's routines that do not store a discovery. -/
abbrev Kept (call : ControllerCall) : Prop := LifecycleCall.Keeps (.controller call)

theorem asks_client {α : Type} (routine : ClientRoutine α) :
    (Controller.client routine).Asks Kept := by
  have hall : routine.Asks fun _ => True := Asks.of_forall routine fun _ => trivial
  exact hall.lift fun _ _ => trivial

theorem asks_suppress {α : Type} (routine : ClientRoutine α) :
    (Controller.suppress routine).Asks Kept := by
  apply Asks.tryExcept
  · exact (asks_client routine).bind fun _ => .pure _
  · intro err
    split <;> trivial

theorem asks_setReportingPaused (reportingPaused enabled : Bool) :
    (Controller.setReportingPaused reportingPaused enabled).Asks Kept := by
  cases reportingPaused with
  | false => exact .pure _
  | true => exact asks_client _

theorem asks_applyResponse (response : Option TrpcPacket) :
    (Controller.applyResponse response).Asks Kept := by
  cases response with
  | none => exact .pure _
  | some message => exact Asks.perform trivial

theorem asks_closeClient : closeClient.Asks Kept := by
  have hclose : (Routine.perform (ControllerCall.session .close) : ControllerRoutine Unit).Asks
      Kept := Asks.perform trivial
  apply Asks.bind (Asks.perform (by trivial))
  intro isOpen
  cases isOpen with
  | false => exact hclose
  | true => exact (asks_suppress _).bind fun _ => hclose

theorem asks_controller {α : Type} {routine : ControllerRoutine α} (h : routine.Asks Kept) :
    (controller routine).Asks LifecycleCall.Keeps :=
  h.lift fun _ hcall => hcall

/-- The calls that notify the state listeners. -/
def Notifies : LifecycleCall → Prop
  | .controller .data | .stateCallbacks | .stateCallback _ _ => True
  | _ => False

theorem asks_data : (controller (Routine.perform ControllerCall.data)).Asks Notifies := by
  rw [controller_perform]
  exact Asks.perform trivial

theorem asks_callState (callback : Nat) : (callState callback).Asks Notifies := by
  apply asks_data.bind
  intro data
  cases data with
  | none => trivial
  | some data => exact Asks.perform trivial

theorem asks_callEach (callbacks : List Nat) : (callEach callbacks callState).Asks Notifies := by
  induction callbacks with
  | nil => exact .pure _
  | cons callback rest ih => exact (asks_callState callback).bind fun _ => ih

theorem asks_notifyState : notifyState.Asks Notifies := by
  apply asks_data.bind
  intro data
  cases data with
  | none => exact .pure _
  | some data => exact (Asks.perform (by trivial)).bind asks_callEach

theorem Notifies.keeps {call : LifecycleCall} (h : Notifies call) : call.Keeps := by
  cases call with
  | controller call =>
      cases call with
      | setDiscovery discovery => exact h
      | _ => trivial
  | _ => trivial

theorem asks_finishStart (data : AvailableInfo) (response : Option TrpcPacket) :
    (finishStart data response).Asks LifecycleCall.Keeps := by
  apply (asks_controller (asks_applyResponse response)).bind
  intro _
  apply (asks_controller (Asks.perform (by trivial))).bind
  intro current
  apply (Asks.perform (by trivial)).bind
  intro _
  apply (asks_notifyState.mono fun _ => Notifies.keeps).bind
  intro _
  exact (Asks.perform (by trivial)).bind fun _ => .pure _

theorem asks_endReportTask : endReportTask.Asks LifecycleCall.Keeps := by
  apply (Asks.perform (by trivial)).bind
  intro _
  apply (Asks.perform (by trivial)).tryExcept
  intro err
  split <;> trivial

theorem asks_stop : stop.Asks LifecycleCall.Keeps := by
  apply (Asks.perform (by trivial)).bind
  intro _
  apply (Asks.perform (by trivial)).bind
  intro task
  cases task with
  | false => exact asks_controller asks_closeClient
  | true => exact asks_endReportTask.bind fun _ => asks_controller asks_closeClient

end Lifecycle

namespace DiscoveryView

/-- The method is not between its two writes. -/
def Settled {α : Type} (_ : α) (view : DiscoveryView) : Prop := view.changed = false

/-- The calls of the controller's routines. -/
abbrev discoveryCalls : Contract ControllerCall ControllerReply PyException DiscoveryView :=
  discoveryContract.comap LifecycleCall.controller fun _ reply => reply

/-! ## The parts of the methods -/

section Parts

variable {view view' : DiscoveryView} {options : ControllerOptions}

/-- What stores no discovery opens no window. -/
theorem changed_answers {call : LifecycleCall} {reply : Except PyException (LifecycleReply call)}
    (hcall : call.Keeps) (hanswer : discoveryContract.answers view call reply view')
    (hview : view.changed = false) : view'.changed = false := by
  obtain ⟨messages, object, -, rfl⟩ := hanswer
  cases call with
  | controller call =>
      cases call with
      | setDiscovery discovery => exact hcall.elim
      | setState data => rfl
      | _ => exact hview
  | _ => exact hview

theorem delivers_keeps {α : Type} {routine : LifecycleRoutine α}
    (h : routine.Asks LifecycleCall.Keeps) (hview : view.changed = false) :
    routine.Delivers discoveryContract Settled view := by
  apply h.follows (fun _ view' => view'.changed = false) (fun _ _ _ => trivial) _
    (fun _ _ hchanged _ _ => hchanged) (g := view) hview
  exact fun _ _ _ _ hcall hchanged hanswer => changed_answers hcall hanswer hchanged

theorem delivers_kept {α : Type} {routine : ControllerRoutine α} (h : routine.Asks Lifecycle.Kept)
    (hview : view.changed = false) : routine.Delivers discoveryCalls Settled view := by
  apply h.follows (fun _ view' => view'.changed = false) (fun _ _ _ => trivial) _
    (fun _ _ hchanged _ _ => hchanged) (g := view) hview
  rintro view' call _ after hcall hchanged ⟨reply, hanswer, rfl⟩
  exact changed_answers hcall hanswer hchanged

/-- A routine of the controller that is run whatever the view says. -/
theorem delivers_any {α : Type} (routine : ControllerRoutine α) (view : DiscoveryView) :
    routine.Delivers discoveryCalls (fun _ _ => True) view :=
  Delivers.of_forall routine (fun _ _ => trivial) view

theorem delivers_controller {α : Type} {P : α → DiscoveryView → Prop}
    {routine : ControllerRoutine α} (h : routine.Delivers discoveryCalls P view) :
    (Lifecycle.controller routine).Delivers discoveryContract P view :=
  h.lift_comap

/-- A poll ends with the state that it installs. -/
theorem delivers_pollState (discovery : DiscoveryResult) :
    (Controller.pollState options discovery).Delivers discoveryCalls Settled view := by
  apply (delivers_any _ view).bind
  intro data polled _
  apply Delivers.bind (P := fun _ => Settled ())
  · apply Delivers.perform trivial
    rintro reply view' ⟨_, ⟨messages, object, -, rfl⟩, -⟩
    rfl
  · exact fun _ installed hinstalled => Delivers.pure hinstalled

theorem delivers_refreshRuntime :
    (Controller.refreshRuntime options).Delivers discoveryCalls Settled view := by
  apply (delivers_any _ view).bind
  intro known view' _
  cases known with
  | some discovery => exact delivers_pollState discovery
  | none => exact (delivers_any _ view').bind fun discovery _ _ => delivers_pollState discovery

theorem delivers_refreshTopology :
    (Controller.refreshTopology options).Delivers discoveryCalls Settled view :=
  (delivers_any _ view).bind fun _ _ _ => delivers_refreshRuntime

theorem delivers_seedState :
    (Controller.seedState options).Delivers discoveryCalls Settled view := by
  apply (delivers_any _ view).bind
  intro _ discovered _
  apply delivers_refreshRuntime.bind
  intro data polled hpolled
  apply (delivers_kept (Lifecycle.asks_client _) hpolled).bind
  exact fun response view' hview' => Delivers.pure hview'

/-- The handlers raise. -/
theorem delivers_handler {α : Type} {P : α → DiscoveryView → Prop}
    (routine : ControllerRoutine Unit) (err : PyException) :
    (do
      routine
      Routine.raise err : ControllerRoutine α).Delivers discoveryCalls P view :=
  (delivers_any routine view).bind fun _ _ _ => Delivers.raise

theorem delivers_abandonStart {α : Type} {P : α → DiscoveryView → Prop} (reportingDisabled : Bool)
    (err : PyException) :
    (Controller.abandonStart reportingDisabled err : ControllerRoutine α).Delivers discoveryCalls P
      view := by
  cases reportingDisabled with
  | false => exact delivers_handler _ err
  | true => exact (delivers_any _ view).bind fun _ _ _ => delivers_handler _ err

theorem delivers_abandonRediscover {α : Type} {P : α → DiscoveryView → Prop}
    (reportingPaused : Bool) (err : PyException) :
    (Controller.abandonRediscover reportingPaused err : ControllerRoutine α).Delivers
      discoveryCalls P view := by
  cases reportingPaused with
  | false => exact Delivers.raise
  | true => exact delivers_handler _ err

/-! ## The methods -/

theorem delivers_start (hview : view.changed = false) :
    (Lifecycle.start options).Delivers discoveryContract Settled view := by
  apply (delivers_keeps (Lifecycle.asks_controller (Asks.perform (by trivial))) hview).bind
  intro running view' hview'
  cases running with
  | some data => exact Delivers.pure hview'
  | none =>
      apply (delivers_controller (delivers_any _ view')).bind
      intro _ opened _
      apply (delivers_controller (delivers_any _ opened)).bind
      intro _ disabled _
      have hseed : (Routine.tryExcept (Controller.seedState options)
          (Controller.abandonStart true)).Delivers discoveryCalls Settled disabled :=
        delivers_seedState.tryExcept fun err _ => delivers_abandonStart true err
      apply (delivers_controller hseed).bind
      intro seed seeded hseeded
      apply Delivers.tryExcept
      · exact delivers_keeps (Lifecycle.asks_finishStart seed.1 seed.2) hseeded
      · exact fun err _ => delivers_controller (delivers_abandonStart false err)

theorem delivers_rediscover (pauseReporting : Bool) :
    (Lifecycle.rediscover options pauseReporting).Delivers discoveryContract Settled view := by
  apply (delivers_controller (delivers_any _ view)).bind
  intro running asked _
  apply (delivers_controller (delivers_any _ asked)).bind
  intro _ paused _
  have hrefresh : (Routine.tryExcept (Controller.refreshTopology options)
      (Controller.abandonRediscover (pauseReporting && running))).Delivers discoveryCalls Settled
        paused :=
    delivers_refreshTopology.tryExcept fun err _ => delivers_abandonRediscover _ err
  apply (delivers_controller hrefresh).bind
  intro data refreshed hrefreshed
  apply delivers_keeps _ hrefreshed
  apply (Lifecycle.asks_controller (Lifecycle.asks_setReportingPaused _ true)).bind
  intro response
  apply (Lifecycle.asks_controller (Lifecycle.asks_applyResponse response)).bind
  intro _
  apply (Lifecycle.asks_notifyState.mono fun _ => Lifecycle.Notifies.keeps).bind
  exact fun _ => Lifecycle.asks_controller (Asks.perform (by trivial))

/-- A call that returns is not between the two writes, if the call before it was not. -/
theorem delivers_operation (operation : Operation) (hview : view.changed = false) :
    (operation.lifecycle options).Delivers discoveryContract Settled view := by
  cases operation with
  | start => exact (delivers_start hview).bind fun _ _ hend => Delivers.pure hend
  | stop => exact delivers_keeps Lifecycle.asks_stop hview
  | refreshRuntime =>
      exact (delivers_controller delivers_refreshRuntime).bind fun _ _ hend => Delivers.pure hend
  | rediscover pauseReporting =>
      exact (delivers_rediscover pauseReporting).bind fun _ _ hend => Delivers.pure hend

end Parts

end DiscoveryView

end Tekmar482
