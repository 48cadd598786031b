import Tekmar482.Lifecycle
import Tekmar482.Library.Cancellation
import Mathlib.Logic.Relation

/-!
# The report task and stop

A started controller runs its report loop as a task, beside any number of calls of `stop`. Each
of them goes on whenever one of its calls gets its reply. The wait for the report task gets what
the task ended with.
-/

namespace Tekmar482

/-- Whether a call attempts to close the client. -/
def LifecycleCall.closes : LifecycleCall → Bool
  | .controller (.session .close) => true
  | _ => false

/-- Whether a call asks the report task to end. -/
def LifecycleCall.cancels : LifecycleCall → Bool
  | .cancelReportTask => true
  | _ => false

/-- A call of `stop`: what is left of it, and whether it has attempted to close the client. -/
structure StopCall where
  routine : LifecycleRoutine Unit := Lifecycle.stop
  closed : Bool := false

/-- A controller with its report task, and the calls of `stop` so far. -/
structure StartedController where
  object : ControllerObject
  task : LifecycleRoutine Unit
  cancelRequested : Bool := false
  stops : List StopCall := []

/-- The report task gets a reply, `stop` is called, or one of its calls gets a reply. -/
inductive StopAction where
  | report (call : LifecycleCall) (reply : Except PyException (LifecycleReply call))
  | callStop
  | stop (k : Nat) (call : LifecycleCall) (reply : Except PyException (LifecycleReply call))

namespace StartedController

/-- A call that waits for the report task gets its result. -/
def Awaits (self : StartedController) :
    (call : LifecycleCall) → Except PyException (LifecycleReply call) → Prop
  | .awaitReportTask, reply => self.task.result = some reply
  | _, _ => True

/-- What one step can do. -/
inductive Stepped (self : StartedController) : StopAction → StartedController → Prop
  | report {call : LifecycleCall} {next : Except PyException (LifecycleReply call) →
        LifecycleRoutine Unit} {reply : Except PyException (LifecycleReply call)}
      {messages : List TrpcPacket} {after : ControllerObject}
      (routine : self.task = .call call next)
      (answers : self.object.Answers call reply messages after) :
      Stepped self (.report call reply) { self with object := after, task := next reply }
  | callStop : Stepped self .callStop { self with stops := self.stops ++ [{}] }
  | stop {k : Nat} {stop : StopCall} {call : LifecycleCall}
      {next : Except PyException (LifecycleReply call) → LifecycleRoutine Unit}
      {reply : Except PyException (LifecycleReply call)} {messages : List TrpcPacket}
      {after : ControllerObject} (known : self.stops[k]? = some stop)
      (routine : stop.routine = .call call next)
      (answers : self.object.Answers call reply messages after) (awaits : self.Awaits call reply) :
      Stepped self (.stop k call reply)
        { self with
          object := after
          cancelRequested := self.cancelRequested || call.cancels
          stops := self.stops.set k
            { routine := next reply, closed := stop.closed || call.closes } }

/-- The states that a run reaches by steps that are allowed. -/
abbrev Reaches (allowed : StartedController → StopAction → Prop) :
    StartedController → StartedController → Prop :=
  Relation.ReflTransGen fun s t => ∃ action, allowed s action ∧ Stepped s action t

/-- A controller that `start` has started, whose report loop may take as many turns and
messages as there is fuel for. -/
structure Started (fuel turns : Nat) (s : StartedController) : Prop where
  running : s.object.running = true
  reportTask : s.object.reportTask = true
  state : s.object.state.isSome = true
  task : s.task = Lifecycle.reportLoop fuel turns
  cancelRequested : s.cancelRequested = false
  stops : s.stops = []

end StartedController

/-! ## Exceptions that end the report task -/

/-- The calls of the report loop inside its `try`. -/
def LifecycleCall.guarded : LifecycleCall → Bool
  | .controller .isRunning | .setLastError _ | .errorCallbacks | .errorCallback _ _
  | .controller (.session .close) | .sleep => false
  | _ => true

/-- Whether a call turns reporting off. -/
def LifecycleCall.TurnsOff (call : LifecycleCall) : Prop :=
  call = .controller (reportingUpdate false)

/-- No call of the report task raises what the loop does not handle, unless the task is
cancelled, and `stop` turns reporting off with no exceptions but those that it suppresses. -/
def StartedController.Handled (self : StartedController) : StopAction → Prop
  | .report call reply => ∀ err, reply = .error err →
      err = .cancelledError ∧ self.cancelRequested = true ∨
        err.isOsOrTekmarError = true ∧ call.guarded = true
  | .callStop => True
  | .stop _ call reply => ∀ err, reply = .error err →
      call.TurnsOff → err.isOsOrTekmarError = true

/-- `is_running` is true only while the report task is alive, and every call of `stop` attempts to
close the client: it has done so when it has ended, it makes at most seven calls, and the task
that it waits for ends when it is cancelled. -/
structure StartedController.Closes (s : StartedController) : Prop where
  alive : s.object.running = true → s.task.result = none
  closed : ∀ stop ∈ s.stops, ∀ result, stop.routine.result = some result →
    stop.closed = true ∧ s.object.running = false
  bounded : ∀ stop ∈ s.stops, stop.routine.Within 7
  cancels : s.task.EndsOn .cancelledError 1

end Tekmar482
