import Tekmar482.ClientCalls

/-!
# The life of a controller

The methods of the controller with its listeners, its running flag, its report task and
the messages of its subscription. What they share with the routines of the controller is
lifted from there. An attribute of the controller is read and set at once; any other call
may raise, and the state takes messages in the meantime.
-/

namespace Tekmar482

/-- What the methods of the controller call when its listeners and its report task count
as well. A callback is known by a number. -/
inductive LifecycleCall where
  | controller (call : ControllerCall)
  | setRunning (running : Bool)
  | setLastError (err : PyException)
  | applyReport (message : TrpcPacket)
  | createReportTask
  | takeReportTask
  | cancelReportTask
  | awaitReportTask
  | stateCallbacks
  | topologyCallbacks
  | errorCallbacks
  | stateCallback (callback : Nat) (data : AvailableInfo)
  | topologyCallback (callback : Nat) (message : TrpcPacket)
  | errorCallback (callback : Nat) (err : PyException)
  | subscribe
  | nextReport
  | unsubscribe
  | sleep

/-- What a call returns. -/
abbrev LifecycleReply : LifecycleCall → Type
  | .controller call => ControllerReply call
  | .applyReport _ | .takeReportTask => Bool
  | .stateCallbacks | .topologyCallbacks | .errorCallbacks => List Nat
  | .nextReport => Option TrpcPacket
  | .setRunning _ | .setLastError _ | .createReportTask | .cancelReportTask | .awaitReportTask
  | .stateCallback _ _ | .topologyCallback _ _ | .errorCallback _ _ | .subscribe | .unsubscribe
  | .sleep => Unit

/-- The exception of a call. -/
def raisedBy {α : Type} : Except PyException α → Option PyException
  | .ok _ => none
  | .error err => some err

/-- A method of the controller. -/
abbrev LifecycleRoutine (α : Type) := Routine LifecycleCall LifecycleReply PyException α

namespace Lifecycle

/-- A routine of the controller. -/
def controller {α : Type} (routine : ControllerRoutine α) : LifecycleRoutine α :=
  routine.lift LifecycleCall.controller fun _ reply => reply

/-- Call the callbacks one after the other. -/
def callEach (callbacks : List Nat) (call : Nat → LifecycleRoutine Unit) : LifecycleRoutine Unit :=
  match callbacks with
  | [] => pure ()
  | callback :: rest => do
      call callback
      callEach rest call

/-- A state callback gets the data that the state has by then. -/
def callState (callback : Nat) : LifecycleRoutine Unit := do
  let data : Option AvailableInfo ← controller (Routine.perform ControllerCall.data)
  match data with
  | none => Routine.raise (.otherError "'NoneType' object has no attribute 'data'")
  | some data => Routine.perform (LifecycleCall.stateCallback callback data)

def notifyState : LifecycleRoutine Unit := do
  let data : Option AvailableInfo ← controller (Routine.perform ControllerCall.data)
  match data with
  | none => pure ()
  | some _ => do
      let callbacks : List Nat ← Routine.perform LifecycleCall.stateCallbacks
      callEach callbacks callState

def notifyError (err : PyException) : LifecycleRoutine Unit := do
  let callbacks : List Nat ← Routine.perform LifecycleCall.errorCallbacks
  callEach callbacks fun callback => Routine.perform (LifecycleCall.errorCallback callback err)

/-- Apply one report or response message to the controller state. -/
def handleMessage (message : TrpcPacket) : LifecycleRoutine Unit :=
  if isTopologyMessage message then do
    let callbacks : List Nat ← Routine.perform LifecycleCall.topologyCallbacks
    callEach callbacks fun callback =>
      Routine.perform (LifecycleCall.topologyCallback callback message)
  else do
    let changed : Bool ← Routine.perform (LifecycleCall.applyReport message)
    if changed then notifyState else pure ()

/-! ## Start, stop and rediscovery -/

/-- The end of `start`, when reporting is on again. -/
def finishStart (data : AvailableInfo) (response : Option TrpcPacket) :
    LifecycleRoutine AvailableInfo := do
  controller (Controller.applyResponse response)
  let current : Option AvailableInfo ← controller (Routine.perform ControllerCall.data)
  Routine.perform (LifecycleCall.setRunning true)
  notifyState
  Routine.perform LifecycleCall.createReportTask
  pure (if response.isSome then current.getD data else data)

/-- `start` on a controller that is not running. The handler turns reporting on again only
where reporting is known to be disabled. -/
def openStart (options : ControllerOptions) : LifecycleRoutine AvailableInfo := do
  controller (Routine.perform (ControllerCall.session .open))
  let _ ← controller
    (Routine.tryExcept (Controller.client (Client.setReportingState false))
      (Controller.abandonStart false))
  let (data, response) ← controller
    (Routine.tryExcept (Controller.seedState options) (Controller.abandonStart true))
  Routine.tryExcept (finishStart data response) fun err =>
    controller (Controller.abandonStart false err)

/-- Open the gateway, seed runtime state, and start report handling. -/
def start (options : ControllerOptions) : LifecycleRoutine AvailableInfo := do
  let running : Option AvailableInfo ← controller (Routine.perform ControllerCall.runningData)
  match running with
  | some data => pure data
  | none => openStart options

/-- Cancel the report task, and wait for its end. -/
def endReportTask : LifecycleRoutine Unit := do
  Routine.perform LifecycleCall.cancelReportTask
  Routine.tryExcept (Routine.perform LifecycleCall.awaitReportTask) fun err =>
    if err = .cancelledError then pure () else Routine.raise err

/-- Disable reporting and close the client. -/
def closeClient : ControllerRoutine Unit := do
  let isOpen : Bool ← Routine.perform (ControllerCall.session .isOpen)
  if isOpen then Controller.suppress (Client.setReportingState false) else pure ()
  Routine.perform (ControllerCall.session .close)

/-- Stop reporting and close the gateway connection. -/
def stop : LifecycleRoutine Unit := do
  Routine.perform (LifecycleCall.setRunning false)
  let task : Bool ← Routine.perform LifecycleCall.takeReportTask
  if task then endReportTask else pure ()
  controller closeClient

/-- Poll a full runtime seed snapshot and replace controller state. -/
def refreshRuntime (options : ControllerOptions) : LifecycleRoutine AvailableInfo :=
  controller (Controller.refreshRuntime options)

/-- Rediscover gateway topology and refresh runtime state. -/
def rediscover (options : ControllerOptions) (pauseReporting : Bool) :
    LifecycleRoutine (Option DiscoveryResult) := do
  let running : Bool ← controller (Routine.perform ControllerCall.isRunning)
  let reportingPaused := pauseReporting && running
  let _ ← controller (Controller.setReportingPaused reportingPaused false)
  let _ ← controller (Routine.tryExcept (Controller.refreshTopology options)
    (Controller.abandonRediscover reportingPaused))
  let response ← controller (Controller.setReportingPaused reportingPaused true)
  controller (Controller.applyResponse response)
  notifyState
  controller (Routine.perform ControllerCall.discovery)

/-! ## The report loop -/

/-- The messages of a subscription, as many as there is fuel for. -/
def readReports : Nat → LifecycleRoutine Unit
  | 0 => Routine.hang
  | fuel + 1 => do
      let message : Option TrpcPacket ← Routine.perform LifecycleCall.nextReport
      match message with
      | none => pure ()
      | some message => do
          handleMessage message
          readReports fuel

/-- One turn of the report loop. -/
def followReports (fuel : Nat) : LifecycleRoutine Unit := do
  let isOpen : Bool ← controller (Routine.perform (ControllerCall.session .isOpen))
  if isOpen then pure () else controller Controller.reopen
  Routine.perform LifecycleCall.subscribe
  Routine.tryFinally (readReports fuel) (Routine.perform LifecycleCall.unsubscribe)

/-- The report loop after an exception: it closes the client, and waits before its next
turn. -/
def reportError (err : PyException) : LifecycleRoutine Unit :=
  if err.isOsOrTekmarError then do
    Routine.perform (LifecycleCall.setLastError err)
    notifyError err
    controller (Routine.perform (ControllerCall.session .close))
    Routine.perform LifecycleCall.sleep
  else Routine.raise err

/-- The report loop, with fuel for its turns and their messages. -/
def reportLoop (fuel : Nat) : Nat → LifecycleRoutine Unit
  | 0 => Routine.hang
  | turns + 1 => do
      let running : Bool ← controller (Routine.perform ControllerCall.isRunning)
      if running then do
        Routine.tryExcept (followReports fuel) reportError
        reportLoop fuel turns
      else pure ()

end Lifecycle

namespace Lifecycle

/-- Awaiting one call of the controller is that call. -/
theorem controller_perform (call : ControllerCall) :
    controller (Routine.perform call) = Routine.perform (LifecycleCall.controller call) := by
  refine congrArg (Routine.call _) (funext fun reply => ?_)
  cases reply <;> rfl

theorem controller_bind {α β : Type} (routine : ControllerRoutine α)
    (f : α → ControllerRoutine β) :
    controller (routine >>= f) = controller routine >>= fun a => controller (f a) :=
  Routine.lift_bind routine f

end Lifecycle

/-! ## The attributes -/

/-- The attributes of a controller. -/
structure ControllerObject where
  running : Bool := false
  discovery : Option DiscoveryResult := none
  state : Option Tekmar482State := none
  reportTask : Bool := false
  lastError : Option PyException := none

namespace ControllerObject

def data (self : ControllerObject) : Option AvailableInfo := self.state.map Tekmar482State.data

/-- What reading or setting an attribute returns, and the controller after it. The other
calls are awaited. -/
def access (self : ControllerObject) :
    (call : LifecycleCall) → Option (LifecycleReply call × ControllerObject)
  | .controller .runningData => some (if self.running then self.data else none, self)
  | .controller .isRunning => some (self.running, self)
  | .controller .data => some (self.data, self)
  | .controller .discovery => some (self.discovery, self)
  | .controller (.setDiscovery discovery) => some ((), { self with discovery := some discovery })
  | .controller (.setState data) =>
      some ((), { self with state := self.discovery.map fun discovery => { discovery, data } })
  | .controller (.applyMessage message) =>
      some ((), { self with state := self.state.map fun state => (state.applyMessage message).2 })
  | .setRunning running => some ((), { self with running := running })
  | .setLastError err => some ((), { self with lastError := some err })
  | .applyReport message =>
      match self.state with
      | none => some (false, self)
      | some state =>
          let (changed, updated) := state.applyMessage message
          some (changed, { self with state := some updated })
  | .createReportTask => some ((), { self with reportTask := true })
  | .takeReportTask => some (self.reportTask, { self with reportTask := false })
  | _ => none

/-- The state has taken messages. -/
def took (self : ControllerObject) (messages : List TrpcPacket) : ControllerObject :=
  { self with state := self.state.map fun state => state.applyMessages messages }

end ControllerObject

/-- The calls that cannot raise, though they are not attributes. -/
def LifecycleCall.sure : LifecycleCall → Bool
  | .controller (.session .isOpen) | .controller (.session .deadlineExpired) | .cancelReportTask
  | .stateCallbacks | .topologyCallbacks | .errorCallbacks | .subscribe | .unsubscribe => true
  | _ => false

namespace ControllerObject

/-- The calls of a poll are awaited. -/
theorem access_polls {call : ControllerCall} (h : call.Polls)
    (object : ControllerObject) : object.access (.controller call) = none := by
  cases call with
  | session => rfl
  | _ => exact h.elim

/-- What a call may get, the messages that the state takes meanwhile, and the controller when
the caller goes on. -/
def Answers (self : ControllerObject) (call : LifecycleCall)
    (reply : Except PyException (LifecycleReply call)) (messages : List TrpcPacket)
    (after : ControllerObject) : Prop :=
  match self.access call with
  | some (value, next) => reply = .ok value ∧ messages = [] ∧ after = next
  | none => after = self.took messages ∧ (call.sure = true → ∃ value, reply = .ok value)

section Answers

variable {object next : ControllerObject} {call : LifecycleCall} {value : LifecycleReply call}

theorem Answers.access (haccess : object.access call = some (value, next)) :
    object.Answers call (.ok value) [] next := by
  rw [Answers, haccess]
  exact ⟨rfl, rfl, rfl⟩

theorem Answers.returned (value : LifecycleReply call) (haccess : object.access call = none) :
    object.Answers call (.ok value) [] (object.took []) := by
  rw [Answers, haccess]
  exact ⟨rfl, fun _ => ⟨value, rfl⟩⟩

theorem Answers.raised (err : PyException) (haccess : object.access call = none)
    (hsure : call.sure = false) : object.Answers call (.error err) [] (object.took []) := by
  rw [Answers, haccess]
  refine ⟨rfl, fun h => ?_⟩
  cases hsure.symm.trans h

end Answers

end ControllerObject

end Tekmar482
