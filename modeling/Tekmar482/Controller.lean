import Tekmar482.Client
import Tekmar482.State
import Tekmar482.MessageConservation
import Tekmar482.Library.Contract

/-!
# The push-oriented controller

The controller's methods and its report loop are routines. They run as tasks
beside each other and beside the session, whose reader and other callers act on
the dispatcher between any two steps. A task is suspended at its session calls;
everything else that a method does is a step of its own.
-/

namespace Tekmar482

/-- What the methods of the controller call: the session, and the attributes of
the controller. -/
inductive ControllerCall where
  | session (call : SessionCall)
  | runningData
  | isRunning
  | data
  | discovery
  | setDiscovery (discovery : DiscoveryResult)
  | setState (data : AvailableInfo)
  | applyMessage (message : TrpcPacket)
  | runReportLoop
  | stopReportLoop
  | subscribe

/-- What a call returns. -/
abbrev ControllerReply : ControllerCall → Type
  | .session call => SessionReply call
  | .runningData | .data => Option AvailableInfo
  | .isRunning => Bool
  | .discovery => Option DiscoveryResult
  | .setDiscovery _ | .setState _ | .applyMessage _ | .runReportLoop | .stopReportLoop
  | .subscribe => Unit

/-- A method of the controller. -/
abbrev ControllerRoutine (α : Type) := Routine ControllerCall ControllerReply PyException α

/-- The exceptions that `except (OSError, TekmarError)` handles. A timeout is an
`OSError`. -/
def PyException.isOsOrTekmarError : PyException → Bool
  | .valueError _ | .otherError _ | .cancelledError => false
  | _ => true

/-- What a controller polls, and how many inventory responses it takes at most. -/
structure ControllerOptions where
  includeDatetime : Bool := true
  includeSetbacks : Bool := false
  includeSetpointGroups : Bool := false
  inventoryFuel : Nat

namespace Controller

/-- A program of the client. -/
def client {α : Type} (routine : ClientRoutine α) : ControllerRoutine α :=
  routine.lift ControllerCall.session fun _ reply => reply

/-- Run a program of the client without the exceptions of the gateway. -/
def suppress {α : Type} (routine : ClientRoutine α) : ControllerRoutine Unit :=
  Routine.tryExcept (do
      let _ ← client routine
      pure ())
    fun err => if err.isOsOrTekmarError then pure () else Routine.raise err

/-- Turn reporting on again after a failure, if the client is still open. -/
def resumeReporting : ControllerRoutine Unit := do
  let isOpen : Bool ← Routine.perform (ControllerCall.session .isOpen)
  if isOpen then suppress (Client.setReportingState true)
  else pure ()

/-- Apply a response to the state, if there are both. -/
def applyResponse (response : Option TrpcPacket) : ControllerRoutine Unit :=
  match response with
  | none => pure ()
  | some message => Routine.perform (ControllerCall.applyMessage message)

def discover (options : ControllerOptions) : ControllerRoutine DiscoveryResult := do
  let discovery ← client (Client.discover options.inventoryFuel false none)
  Routine.perform (ControllerCall.setDiscovery discovery)
  pure discovery

/-- Poll a discovery, and replace the state. -/
def pollState (options : ControllerOptions) (discovery : DiscoveryResult) :
    ControllerRoutine AvailableInfo := do
  let data ← client (Client.pollRuntime discovery options.includeSetbacks
    options.includeDatetime options.includeSetpointGroups)
  Routine.perform (ControllerCall.setState data)
  pure data

/-- Poll a full runtime seed snapshot and replace controller state. -/
def refreshRuntime (options : ControllerOptions) : ControllerRoutine AvailableInfo := do
  let known : Option DiscoveryResult ← Routine.perform ControllerCall.discovery
  match known with
  | some discovery => pollState options discovery
  | none => do
      let discovery ← discover options
      pollState options discovery

/-- The exception handler of `start`. -/
def abandonStart {α : Type} (reportingDisabled : Bool) (err : PyException) :
    ControllerRoutine α := do
  if reportingDisabled then resumeReporting else pure ()
  suppress (Routine.perform SessionCall.close)
  Routine.raise err

/-- The part of `start` while reporting is disabled. -/
def seedState (options : ControllerOptions) :
    ControllerRoutine (AvailableInfo × Option TrpcPacket) := do
  let _ ← discover options
  let data ← refreshRuntime options
  let response ← client (Client.setReportingState true)
  pure (data, response)

/-- `start` on a controller that is not running. -/
def openStart (options : ControllerOptions) : ControllerRoutine AvailableInfo := do
  Routine.perform (ControllerCall.session .open)
  let _ ← Routine.tryExcept (client (Client.setReportingState false)) (abandonStart false)
  let (data, response) ← Routine.tryExcept (seedState options) (abandonStart true)
  applyResponse response
  let current : Option AvailableInfo ← Routine.perform ControllerCall.data
  Routine.perform ControllerCall.runReportLoop
  pure (if response.isSome then current.getD data else data)

/-- Open the gateway, seed runtime state, and start report handling. -/
def start (options : ControllerOptions) : ControllerRoutine AvailableInfo := do
  let running : Option AvailableInfo ← Routine.perform ControllerCall.runningData
  match running with
  | some data => pure data
  | none => openStart options

/-- Stop reporting and close the gateway connection. -/
def stop : ControllerRoutine Unit := do
  Routine.perform ControllerCall.stopReportLoop
  let isOpen : Bool ← Routine.perform (ControllerCall.session .isOpen)
  if isOpen then suppress (Client.setReportingState false) else pure ()
  Routine.perform (ControllerCall.session .close)

/-- Change the reporting state, if the operation pauses reporting. -/
def setReportingPaused (reportingPaused enabled : Bool) : ControllerRoutine (Option TrpcPacket) :=
  if reportingPaused then client (Client.setReportingState enabled) else pure none

/-- The part of `rediscover` while reporting may be paused. -/
def refreshTopology (options : ControllerOptions) : ControllerRoutine AvailableInfo := do
  let _ ← discover options
  refreshRuntime options

/-- The exception handler of `rediscover`. -/
def abandonRediscover {α : Type} (reportingPaused : Bool) (err : PyException) :
    ControllerRoutine α := do
  if reportingPaused then resumeReporting else pure ()
  Routine.raise err

/-- Rediscover gateway topology and refresh runtime state. -/
def rediscover (options : ControllerOptions) (pauseReporting : Bool) :
    ControllerRoutine (Option DiscoveryResult) := do
  let running : Bool ← Routine.perform ControllerCall.isRunning
  let reportingPaused := pauseReporting && running
  let _ ← setReportingPaused reportingPaused false
  let _ ← Routine.tryExcept (refreshTopology options) (abandonRediscover reportingPaused)
  let response ← setReportingPaused reportingPaused true
  applyResponse response
  Routine.perform ControllerCall.discovery

/-- The report loop after an exception: it closes the client before its next try. -/
def reportError (err : PyException) : ControllerRoutine Unit :=
  if err.isOsOrTekmarError then Routine.perform (ControllerCall.session .close) else Routine.raise err

/-- Open the client again, and turn reporting on. -/
def reopen : ControllerRoutine Unit := do
  Routine.perform (ControllerCall.session .open)
  let _ ← client (Client.setReportingState true)
  pure ()

/-- One try of the report loop, up to the subscription. -/
def reportLoop : ControllerRoutine Unit :=
  Routine.tryExcept (do
      let isOpen : Bool ← Routine.perform (ControllerCall.session .isOpen)
      if isOpen then pure () else reopen
      Routine.perform ControllerCall.subscribe)
    reportError

end Controller

/-- The methods that the controller's owner calls. -/
inductive Operation where
  | start
  | stop
  | refreshRuntime
  | rediscover (pauseReporting : Bool)
  deriving DecidableEq

/-- Whether an operation replaces the state. -/
def Operation.refreshes : Operation → Bool
  | .stop => false
  | _ => true

def Operation.routine (options : ControllerOptions) : Operation → ControllerRoutine Unit
  | .start => do
      let _ ← Controller.start options
      pure ()
  | .stop => Controller.stop
  | .refreshRuntime => do
      let _ ← Controller.refreshRuntime options
      pure ()
  | .rediscover pauseReporting => do
      let _ ← Controller.rediscover options pauseReporting
      pure ()

/-- A task with the rest of its routine and the response future that it waits for.
The other fields are history: the discovery that it looked up last, and since then
the replies that it read and those that were matched to it; whether it has found
the controller not running; and whether it has replaced the state. -/
structure Task where
  operation : Option Operation := none
  routine : ControllerRoutine Unit
  future : Option Nat := none
  discovery : Option DiscoveryResult := none
  read : List Arrival := []
  matched : List Arrival := []
  idle : Bool := false
  installed : Bool := false

namespace Task

/-- Whether a task has ended. -/
def ended (self : Task) : Bool :=
  match self.routine with
  | .pure _ | .raise _ => true
  | _ => false

/-- Whether a task has ended without an exception. -/
def returned (self : Task) : Bool :=
  match self.routine with
  | .pure _ => true
  | _ => false

/-- Whether a task is a start that is under way. -/
def starting (self : Task) : Bool := self.operation == some .start && !self.ended

end Task

/-- A controller on its session. The last fields are history: all arrivals, those
that were published to report subscribers, the replies of the finished polls, and
the messages that the state was built from, in that order. -/
structure ControllerSystem where
  dispatcher : Dispatcher := {}
  running : Bool := false
  discovery : Option DiscoveryResult := none
  state : Option Tekmar482State := none
  tasks : List Task := []
  reportTask : Option Task := none
  reading : Option Nat := none
  arrivals : List Arrival := []
  published : List Arrival := []
  polled : List Arrival := []
  applied : List Arrival := []

/-- How an awaited session call ends. -/
inductive Outcome where
  | returned (flag : Bool)
  | message
  | missing
  | raised (err : PyException)

/-- The request that a session call registers, and whether its response is published. -/
def SessionCall.request : SessionCall → Option (ResponseMatch × Bool)
  | .requestResponse _ responseMatch => some (responseMatch, false)
  | .updateResponse _ responseMatch => some (responseMatch, true)
  | _ => none

namespace Dispatcher

/-- The message that a future has. -/
def response (self : Dispatcher) (future : Nat) : Option Arrival :=
  match self.futures future with
  | some (.result arrival) => some arrival
  | _ => none

/-- Whether a message is offered to the report subscribers. -/
def publishes (self : Dispatcher) (message : TrpcPacket) : Bool :=
  match (self.offerLoop message self.pending self.pending).2 with
  | some item => item.publishMatch
  | none => true

/-- What a session call gets, the message that it has read from its response
future, and the dispatcher after it. -/
def answer (self : Dispatcher) (future : Option Nat) : (call : SessionCall) → Outcome →
    Option (Except PyException (SessionReply call) × Option Arrival × Dispatcher)
  | _, .raised err => some (.error err, none, self)
  | .open, .returned _ => some (.ok (), none, self)
  | .close, .returned _ => some (.ok (), none, self)
  | .isOpen, .returned flag => some (.ok flag, none, self)
  | .deadlineExpired, .returned flag => some (.ok flag, none, self)
  | .send command, .returned _ => some (command.toMessage, none, self)
  | .requestResponse _ _, .message | .updateResponse _ _, .message =>
      (future.bind self.response).map fun arrival => (.ok (some arrival.message), some arrival, self)
  | .requestResponse _ _, .missing | .updateResponse _ _, .missing =>
      future.map fun _ => (.ok none, none, self)
  | .readUntil predicate, .message =>
      match self.readUntil predicate with
      | (some arrival, rest) => some (.ok (some arrival.message), none, rest)
      | (none, _) => none
  | .readUntil _, .missing => some (.ok none, none, self)
  | _, _ => none

/-- A call is over: its future is cancelled, if it is still waiting, and its
request removed. -/
def release (self : Dispatcher) : Option Nat → Dispatcher
  | none => self
  | some future => (self.settle future .cancelled).removePending future

end Dispatcher

/-- The steps of the system. A task is known by its place in the list of called
operations; the report loop's has no place. -/
inductive ControllerAction where
  | session (action : DispatcherAction)
  | call (operation : Operation)
  | request (task : Option Nat) (future : Nat)
  | resume (task : Option Nat) (outcome : Outcome)
  | proceed (task : Option Nat)
  | take
  | iterate

namespace ControllerSystem

def task? (self : ControllerSystem) : Option Nat → Option Task
  | none => self.reportTask
  | some k => self.tasks[k]?

def setTask (self : ControllerSystem) (task : Task) : Option Nat → ControllerSystem
  | none => { self with reportTask := some task }
  | some k => { self with tasks := self.tasks.set k task }

/-- Whether the session and its other users can take a step: the queue that the
report loop reads is its own, and a subscription ends with an error or the end
marker. -/
def external (self : ControllerSystem) : DispatcherAction → Bool
  | .take queue | .unsubscribe queue => self.reading ≠ some queue
  | .endReports (.message _) => false
  | _ => true

/-- A step of the session. A dispatched message is noted as an arrival. -/
def observe (self : ControllerSystem) (action : DispatcherAction) (after : Dispatcher) :
    ControllerSystem :=
  match action with
  | .dispatch message =>
      { self with
        dispatcher := after
        arrivals := self.arrivals ++ [self.dispatcher.arrival message]
        published :=
          if self.dispatcher.publishes message then
            self.published ++ [self.dispatcher.arrival message]
          else self.published }
  | _ => { self with dispatcher := after }

/-- The report loop has no subscription any more. -/
def unsubscribed (self : ControllerSystem) : ControllerSystem :=
  match self.reading with
  | none => self
  | some queue =>
      { self with dispatcher := self.dispatcher.unsubscribeReports queue, reading := none }

/-- Apply one report/response message to controller state. -/
def handleMessage (self : ControllerSystem) (arrival : Arrival) : ControllerSystem :=
  if isTopologyMessage arrival.message then self
  else
    { self with
      state := self.state.map fun state => (state.applyMessage arrival.message).2
      applied := self.applied ++ [arrival] }

/-- A call on the controller itself: its reply, the system, and the task. -/
def perform (self : ControllerSystem) (task : Task) : (call : ControllerCall) →
    Option (ControllerReply call × ControllerSystem × Task)
  | .session _ => none
  | .runningData =>
      let data := if self.running then self.state.map Tekmar482State.data else none
      some (data, self, { task with idle := data.isNone })
  | .isRunning => some (self.running, self, task)
  | .data => some (self.state.map Tekmar482State.data, self, task)
  | .discovery =>
      some (self.discovery, self,
        { task with discovery := self.discovery, read := [], matched := [] })
  | .setDiscovery discovery =>
      some ((), { self with discovery := some discovery },
        { task with discovery := some discovery, read := [], matched := [] })
  | .setState data =>
      some ((),
        { self with
          state := self.discovery.map fun discovery => { discovery, data }
          polled := self.polled ++ task.matched
          applied := task.read },
        { task with installed := true })
  | .applyMessage message =>
      some ((), { self with state := self.state.map fun state => (state.applyMessage message).2 },
        task)
  | .runReportLoop =>
      some ((),
        { self with running := true, reportTask := some { routine := Controller.reportLoop } },
        { task with idle := false })
  | .stopReportLoop =>
      some ((), { self.unsubscribed with running := false, reportTask := none }, task)
  | .subscribe =>
      some ((),
        { self with
          dispatcher := self.dispatcher.reports 0 true
          reading := some self.dispatcher.nextQueue },
        task)

/-- The report loop has taken an item of its queue. -/
def handleItem (self : ControllerSystem) : ReportItem → ControllerSystem
  | .message arrival => self.handleMessage arrival
  | .stop => self.unsubscribed
  | .error err => { self.unsubscribed with reportTask := some { routine := Controller.reportError err } }

variable (options : ControllerOptions)

/-- One step. Only one `start` is under way at a time. -/
def step (self : ControllerSystem) : ControllerAction → Option ControllerSystem
  | .session action =>
      if self.external action then (self.dispatcher.step action).map (self.observe action)
      else none
  | .call operation =>
      if operation = .start ∧ self.tasks.any fun task => task.operation == some .start && !task.ended
      then none
      else some { self with
        tasks := self.tasks ++ [{ operation, routine := operation.routine options }] }
  | .request id future =>
      match self.task? id with
      | none => none
      | some task =>
          match task.routine, task.future with
          | .call (.session call) _, none =>
              match call.request with
              | none => none
              | some (responseMatch, publishMatch) =>
                  (self.dispatcher.step (.register future responseMatch publishMatch)).map
                    fun dispatcher =>
                      { self with dispatcher }.setTask { task with future := some future } id
          | _, _ => none
  | .resume id outcome =>
      match self.task? id with
      | none => none
      | some task =>
          match task.routine with
          | .call (.session call) next =>
              (self.dispatcher.answer task.future call outcome).map fun (reply, read, dispatcher) =>
                { self with dispatcher := dispatcher.release task.future }.setTask
                  { task with
                    routine := next reply
                    future := none
                    read := task.read ++ read.toList
                    matched := task.matched ++ (task.future.bind self.dispatcher.response).toList }
                  id
          | _ => none
  | .proceed id =>
      match self.task? id with
      | none => none
      | some task =>
          match task.routine with
          | .call call next =>
              (self.perform task call).map fun (reply, system, after) =>
                system.setTask { after with routine := next (.ok reply) } id
          | _ => none
  | .take =>
      match self.reading with
      | none => none
      | some queue =>
          match self.dispatcher.takeReport queue with
          | (none, _) => none
          | (some item, dispatcher) => some ({ self with dispatcher }.handleItem item)
  | .iterate =>
      match self.reading, self.reportTask with
      | none, some task =>
          if self.running && task.returned then
            some { self with reportTask := some { routine := Controller.reportLoop } }
          else none
      | _, _ => none

/-- What one step can do. -/
inductive Stepped (self : ControllerSystem) : ControllerAction → ControllerSystem → Prop
  | session {action : DispatcherAction} {after : Dispatcher}
      (external : self.external action = true)
      (dispatcher : self.dispatcher.step action = some after) :
      Stepped self (.session action) (self.observe action after)
  | call {operation : Operation}
      (single : ¬ (operation = .start ∧ self.tasks.any Task.starting = true)) :
      Stepped self (.call operation) { self with
        tasks := self.tasks ++ [{ operation, routine := operation.routine options }] }
  | request {id : Option Nat} {task : Task} {call : SessionCall}
      {next : Except PyException (SessionReply call) → ControllerRoutine Unit} {future : Nat}
      {responseMatch : ResponseMatch} {publishMatch : Bool} {after : Dispatcher}
      (known : self.task? id = some task) (routine : task.routine = .call (.session call) next)
      (requested : call.request = some (responseMatch, publishMatch))
      (dispatcher : self.dispatcher.step (.register future responseMatch publishMatch) =
        some after) :
      Stepped self (.request id future)
        ({ self with dispatcher := after }.setTask { task with future := some future } id)
  | resume {id : Option Nat} {task : Task} {call : SessionCall}
      {next : Except PyException (SessionReply call) → ControllerRoutine Unit} {outcome : Outcome}
      {reply : Except PyException (SessionReply call)} {read : Option Arrival} {after : Dispatcher}
      (known : self.task? id = some task) (routine : task.routine = .call (.session call) next)
      (answer : self.dispatcher.answer task.future call outcome = some (reply, read, after)) :
      Stepped self (.resume id outcome)
        ({ self with dispatcher := after.release task.future }.setTask
          { task with
            routine := next reply
            future := none
            read := task.read ++ read.toList
            matched := task.matched ++ (task.future.bind self.dispatcher.response).toList } id)
  | proceed {id : Option Nat} {task after : Task} {call : ControllerCall}
      {next : Except PyException (ControllerReply call) → ControllerRoutine Unit}
      {reply : ControllerReply call} {system : ControllerSystem}
      (known : self.task? id = some task) (routine : task.routine = .call call next)
      (performed : self.perform task call = some (reply, system, after)) :
      Stepped self (.proceed id) (system.setTask { after with routine := next (.ok reply) } id)
  | take {queue : Nat} {item : ReportItem} {after : Dispatcher}
      (reading : self.reading = some queue)
      (taken : self.dispatcher.takeReport queue = (some item, after)) :
      Stepped self .take ({ self with dispatcher := after }.handleItem item)
  | iterate {task : Task} (reportTask : self.reportTask = some task) :
      Stepped self .iterate { self with reportTask := some { routine := Controller.reportLoop } }

theorem step_cases {s t : ControllerSystem} {action : ControllerAction}
    (hstep : s.step options action = some t) : Stepped options s action t := by
  cases action with
  | session action =>
      simp only [step] at hstep
      split at hstep
      · rename_i hexternal
        obtain ⟨after, hafter, rfl⟩ := Option.map_eq_some_iff.mp hstep
        exact .session hexternal hafter
      · cases hstep
  | call operation =>
      simp only [step] at hstep
      split at hstep
      · cases hstep
      · rename_i hsingle
        cases hstep
        exact .call hsingle
  | request id future =>
      simp only [step] at hstep
      split at hstep
      · cases hstep
      · rename_i task htask
        split at hstep
        · rename_i call next hroutine _
          split at hstep
          · cases hstep
          · rename_i responseMatch publishMatch hrequest
            obtain ⟨after, hafter, rfl⟩ := Option.map_eq_some_iff.mp hstep
            exact .request htask hroutine hrequest hafter
        · cases hstep
  | resume id outcome =>
      simp only [step] at hstep
      split at hstep
      · cases hstep
      · rename_i task htask
        split at hstep
        · rename_i call next hroutine
          obtain ⟨⟨reply, read, after⟩, hanswer, rfl⟩ := Option.map_eq_some_iff.mp hstep
          exact .resume htask hroutine hanswer
        · cases hstep
  | proceed id =>
      simp only [step] at hstep
      split at hstep
      · cases hstep
      · rename_i task htask
        split at hstep
        · rename_i call next hroutine
          obtain ⟨⟨reply, system, after⟩, hperform, rfl⟩ := Option.map_eq_some_iff.mp hstep
          exact .proceed htask hroutine hperform
        · cases hstep
  | take =>
      simp only [step] at hstep
      split at hstep
      · cases hstep
      · rename_i queue hreading
        split at hstep
        · cases hstep
        · rename_i item after htake
          cases hstep
          exact .take hreading htake
  | iterate =>
      simp only [step] at hstep
      split at hstep
      · rename_i task _ htask
        split at hstep
        · cases hstep
          exact .iterate htask
        · cases hstep
      · cases hstep

/-- A controller that has done nothing yet, on a session that has seen nothing yet. -/
def Fresh (self : ControllerSystem) : Prop :=
  self.dispatcher.Fresh ∧ self.running = false ∧ self.discovery = none ∧ self.state = none ∧
    self.tasks = [] ∧ self.reportTask = none ∧ self.reading = none ∧ self.arrivals = [] ∧
    self.published = [] ∧ self.polled = [] ∧ self.applied = []

end ControllerSystem

end Tekmar482
