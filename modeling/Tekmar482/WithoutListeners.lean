import Tekmar482.SettledMethods
import Tekmar482.Library.Simulation

/-!
# The methods without listeners

Where no listener is registered, the methods with listeners and a report task do what the
methods of the controller alone do: each of their executions is one of these with the calls of
the report loop written out and the notifications of nobody added.
-/

namespace Tekmar482

open Routine

namespace Lifecycle

/-- What installing the report loop stands for. -/
def runReportLoop : LifecycleRoutine Unit := do
  Routine.perform (LifecycleCall.setRunning true)
  notifyState
  Routine.perform LifecycleCall.createReportTask

/-- What dropping the report loop stands for. -/
def stopReportLoop : LifecycleRoutine Unit := do
  Routine.perform (LifecycleCall.setRunning false)
  let task : Bool ← Routine.perform LifecycleCall.takeReportTask
  if task then endReportTask else Pure.pure ()

end Lifecycle

/-- The end of `start` on the controller alone. -/
def Controller.finishStart (data : AvailableInfo) (response : Option TrpcPacket) :
    ControllerRoutine AvailableInfo := do
  applyResponse response
  let current : Option AvailableInfo ← Routine.perform ControllerCall.data
  Routine.perform ControllerCall.runReportLoop
  Pure.pure (if response.isSome then current.getD data else data)

/-- What a call gets where no listener is registered. An attribute does not raise, and the
report task has returned or ends with its cancellation. -/
def LifecycleCall.Unheard :
    (call : LifecycleCall) → Except PyException (LifecycleReply call) → Prop
  | .controller (.session _), _ => True
  | .stateCallbacks, reply => reply = .ok []
  | .awaitReportTask, reply => reply = .ok () ∨ reply = .error .cancelledError
  | _, reply => ∃ value, reply = .ok value

/-- A call with its reply. -/
abbrev ControllerItem := (call : ControllerCall) × Except PyException (ControllerReply call)

/-- A call with its reply. -/
abbrev LifecycleItem := (call : LifecycleCall) × Except PyException (LifecycleReply call)

/-- What a call of the controller's routines stands for. -/
inductive Unlistened : List ControllerItem → List LifecycleItem → Prop
  | call (call : ControllerCall) (reply : Except PyException (ControllerReply call)) :
      Unlistened [⟨call, reply⟩] [⟨.controller call, reply⟩]
  | notifyState {items : List LifecycleItem} (runs : Runs Lifecycle.notifyState items (.ok ())) :
      Unlistened [] items
  | runReportLoop {items : List LifecycleItem}
      (runs : Runs Lifecycle.runReportLoop items (.ok ())) :
      Unlistened [⟨.runReportLoop, .ok ()⟩] items
  | stopReportLoop {items : List LifecycleItem}
      (runs : Runs Lifecycle.stopReportLoop items (.ok ())) :
      Unlistened [⟨.stopReportLoop, .ok ()⟩] items

/-- The controller alone, and the controller to which nobody listens. -/
def unlistened :
    Correspondence ControllerCall LifecycleCall ControllerReply LifecycleReply PyException where
  admits := LifecycleCall.Unheard
  segment := Unlistened

namespace Lifecycle

/-- An attribute is read or set. -/
theorem returns_attribute {call : LifecycleCall} {P : LifecycleReply call → Prop}
    (hcall : ∀ reply, call.Unheard reply → ∃ value, reply = .ok value) (hP : ∀ value, P value) :
    (Routine.perform call : LifecycleRoutine _).AlwaysReturns LifecycleCall.Unheard P := by
  apply AlwaysReturns.perform
  intro reply hreply
  obtain ⟨value, rfl⟩ := hcall reply hreply
  exact ⟨value, rfl, hP value⟩

theorem returns_notifyState :
    notifyState.AlwaysReturns LifecycleCall.Unheard fun value => value = () := by
  rw [notifyState, controller_perform]
  apply (returns_attribute (fun _ => id) fun _ => trivial).bind
  rintro data -
  cases data with
  | none => exact .pure rfl
  | some data =>
      have hcallbacks : (Routine.perform LifecycleCall.stateCallbacks :
          LifecycleRoutine (List Nat)).AlwaysReturns LifecycleCall.Unheard fun callbacks =>
            callbacks = [] :=
        .perform fun _ hreply => ⟨[], hreply, rfl⟩
      apply hcallbacks.bind
      rintro _ rfl
      exact .pure rfl

theorem returns_runReportLoop :
    runReportLoop.AlwaysReturns LifecycleCall.Unheard fun value => value = () := by
  apply (returns_attribute (fun _ => id) fun _ => trivial).bind
  rintro _ -
  apply returns_notifyState.bind
  rintro _ -
  exact returns_attribute (fun _ => id) fun _ => rfl

theorem returns_applyResponse (response : Option TrpcPacket) :
    (controller (Controller.applyResponse response)).AlwaysReturns LifecycleCall.Unheard
      fun _ => True := by
  cases response with
  | none => exact .pure trivial
  | some message =>
      rw [Controller.applyResponse, controller_perform]
      exact returns_attribute (fun _ => id) fun _ => trivial

theorem returns_finishStart (data : AvailableInfo) (response : Option TrpcPacket) :
    (finishStart data response).AlwaysReturns LifecycleCall.Unheard fun _ => True := by
  apply (returns_applyResponse response).bind
  rintro _ -
  rw [controller_perform]
  apply (returns_attribute (fun _ => id) fun _ => trivial).bind
  rintro current -
  apply (returns_attribute (fun _ => id) fun _ => trivial).bind
  rintro _ -
  apply returns_notifyState.bind
  rintro _ -
  apply (returns_attribute (fun _ => id) fun _ => trivial).bind
  rintro _ -
  exact .pure trivial

theorem returns_endReportTask :
    endReportTask.AlwaysReturns LifecycleCall.Unheard fun value => value = () := by
  apply (returns_attribute (fun _ => id) fun _ => trivial).bind
  rintro _ -
  apply AlwaysReturns.tryExcept
  apply all_perform.mpr
  rintro _ (rfl | rfl)
  · rfl
  · exact .pure rfl

theorem returns_stopReportLoop :
    stopReportLoop.AlwaysReturns LifecycleCall.Unheard fun value => value = () := by
  apply (returns_attribute (fun _ => id) fun _ => trivial).bind
  rintro _ -
  apply (returns_attribute (fun _ => id) fun _ => trivial).bind
  rintro task -
  cases task with
  | false => exact .pure rfl
  | true => exact returns_endReportTask

end Lifecycle

/-! ## The methods -/

section

variable {α : Type} (options : ControllerOptions)

theorem simulates_controller (routine : ControllerRoutine α) :
    Simulates unlistened (Lifecycle.controller routine) routine :=
  .lift Unlistened.call routine

theorem simulates_notifyState : Simulates unlistened Lifecycle.notifyState (Pure.pure ()) :=
  .skip Lifecycle.returns_notifyState fun _ => Unlistened.notifyState

theorem simulates_runReportLoop :
    Simulates unlistened Lifecycle.runReportLoop
      (Routine.perform ControllerCall.runReportLoop) := by
  apply Simulates.perform ControllerCall.runReportLoop ()
  · exact Lifecycle.returns_runReportLoop
  · exact fun _ => Unlistened.runReportLoop

theorem simulates_stopReportLoop :
    Simulates unlistened Lifecycle.stopReportLoop
      (Routine.perform ControllerCall.stopReportLoop) := by
  apply Simulates.perform ControllerCall.stopReportLoop ()
  · exact Lifecycle.returns_stopReportLoop
  · exact fun _ => Unlistened.stopReportLoop

theorem simulates_finishStart (data : AvailableInfo) (response : Option TrpcPacket) :
    Simulates unlistened (Lifecycle.finishStart data response)
      (Controller.finishStart data response) := by
  apply (simulates_controller _).bind
  intro _
  apply (simulates_controller _).bind
  intro current
  have hend := simulates_runReportLoop.bind fun _ =>
    Simulates.pure (if response.isSome then current.getD data else data)
  rwa [Lifecycle.runReportLoop, bind_assoc, bind_assoc] at hend

theorem simulates_openStart :
    Simulates unlistened (Lifecycle.openStart options) (Controller.openStart options) := by
  apply (simulates_controller _).bind
  intro _
  apply (simulates_controller _).bind
  intro _
  apply (simulates_controller _).bind
  intro seed
  apply (simulates_finishStart seed.1 seed.2).unhandled
  exact Lifecycle.returns_finishStart seed.1 seed.2

theorem simulates_start :
    Simulates unlistened (Lifecycle.start options) (Controller.start options) := by
  apply (simulates_controller _).bind
  intro running
  cases running with
  | none => exact simulates_openStart options
  | some data => exact .pure data

theorem simulates_rediscover (pauseReporting : Bool) :
    Simulates unlistened (Lifecycle.rediscover options pauseReporting)
      (Controller.rediscover options pauseReporting) := by
  apply (simulates_controller _).bind
  intro running
  apply (simulates_controller _).bind
  intro _
  apply (simulates_controller _).bind
  intro _
  apply (simulates_controller _).bind
  intro response
  apply (simulates_controller _).bind
  intro _
  exact simulates_notifyState.bind fun _ => simulates_controller _

theorem simulates_stop : Simulates unlistened Lifecycle.stop Controller.stop := by
  have hstop : Lifecycle.stop =
      Lifecycle.stopReportLoop >>= fun _ => Lifecycle.controller Lifecycle.closeClient := by
    rw [Lifecycle.stop, Lifecycle.stopReportLoop, bind_assoc]
    refine bind_congr fun _ => ?_
    rw [bind_assoc]
    refine bind_congr fun task => ?_
    cases task <;> rfl
  rw [hstop]
  exact simulates_stopReportLoop.bind fun _ => simulates_controller _

/-- The methods with listeners refine those of the controller alone, as long as nobody listens. -/
theorem Operation.simulates (operation : Operation) :
    Simulates unlistened (operation.lifecycle options) (operation.routine options) := by
  cases operation with
  | start => exact (simulates_start options).bind fun _ => .pure ()
  | stop => exact simulates_stop
  | refreshRuntime => exact (simulates_controller _).bind fun _ => .pure ()
  | rediscover pauseReporting =>
      exact (simulates_rediscover options pauseReporting).bind fun _ => .pure ()

end

end Tekmar482
