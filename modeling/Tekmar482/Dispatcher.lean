import Tekmar482.Trpc
import Tekmar482.Library.BoundedQueue
import Tekmar482.Library.Machine
import Mathlib.Logic.Function.Basic

/-!
# The session dispatcher

The session is the single reader of its transport. A message is handed to the
first waiting request that matches it; an unmatched message goes to the message
backlog. Report subscribers are offered what no plain request has consumed.
Sections guarded by the session's condition are single steps.
-/

namespace Tekmar482

/-- A dispatched message with its place in the order of arrival. -/
structure Arrival where
  index : Nat
  message : TrpcPacket
  deriving DecidableEq

/-- The state of a future. -/
inductive FutureState (α : Type) where
  | waiting
  | result (value : α)
  | exception (err : PyException)
  | cancelled
  deriving DecidableEq

/-- A request that waits for its response. -/
structure PendingRequest where
  future : Nat
  responseMatch : ResponseMatch
  publishMatch : Bool := false
  deriving DecidableEq

/-- An entry of a report queue: a message, a fatal error, or the end marker. -/
inductive ReportItem where
  | message (arrival : Arrival)
  | error (err : PyException)
  | stop
  deriving DecidableEq

/-- The queue of a report subscription. A size of zero or less is no bound. -/
structure ReportQueue where
  maxsize : Int := 0
  items : List ReportItem := []
  deriving DecidableEq

namespace ReportQueue

def full (self : ReportQueue) : Bool := 0 < self.maxsize && self.maxsize ≤ self.items.length

/-- Put an item; a full queue first loses its oldest item. -/
def putReportItem (self : ReportQueue) (item : ReportItem) : ReportQueue :=
  if self.full then { self with items := self.items.drop 1 ++ [item] }
  else { self with items := self.items ++ [item] }

end ReportQueue

/-- The dispatching part of a session. A future is known by its number, and a
number without a future has none yet. -/
structure Dispatcher where
  maxMessageBacklog : Int := 512
  maxPacketBacklog : Int := 512
  pending : List PendingRequest := []
  futures : Nat → Option (FutureState Arrival) := fun _ => none
  arrived : Nat := 0
  messageBacklog : List Arrival := []
  packetBacklog : List Packet := []
  reportQueues : List Nat := []
  queues : Nat → ReportQueue := fun _ => {}
  nextQueue : Nat := 0
  readerError : Option PyException := none
  closed : Bool := true

namespace Dispatcher

/-- Whether a future is still unresolved. -/
def unresolved (self : Dispatcher) (future : Nat) : Bool :=
  self.futures future == some .waiting

/-- Resolve a future that is still waiting. -/
def settle (self : Dispatcher) (future : Nat) (state : FutureState Arrival) : Dispatcher :=
  if self.unresolved future then
    { self with futures := Function.update self.futures future (some state) }
  else self

/-- Register a request with a new future. -/
def register (self : Dispatcher) (future : Nat) (responseMatch : ResponseMatch)
    (publishMatch : Bool) : Dispatcher :=
  { self with
    futures := Function.update self.futures future (some .waiting)
    pending := self.pending ++ [{ future, responseMatch, publishMatch }] }

/-- Remove the request of a future, if it is still registered. -/
def removePending (self : Dispatcher) (future : Nat) : Dispatcher :=
  { self with pending := self.pending.eraseP fun pending => pending.future == future }

/-- Fail every waiting request. -/
def failPending (self : Dispatcher) (err : PyException) : Dispatcher :=
  { self with
    futures := fun future =>
      if future ∈ self.pending.map PendingRequest.future ∧ self.unresolved future then
        some (.exception err)
      else self.futures future
    pending := [] }

/-- Keep the newest entries of a backlog. -/
def trim {α : Type} (limit : Int) (backlog : List α) : List α :=
  if limit ≤ 0 then [] else backlog.drop (backlog.length - limit.toNat)

/-- Offer an item to every report subscription. -/
def publishReport (self : Dispatcher) (item : ReportItem) : Dispatcher :=
  { self with
    queues := fun queue =>
      if queue ∈ self.reportQueues then (self.queues queue).putReportItem item
      else self.queues queue }

/-- The loop over the registered requests: finished ones are dropped, and the
first waiting one whose match accepts the message is taken out. -/
def offerLoop (self : Dispatcher) (message : TrpcPacket) :
    List PendingRequest → List PendingRequest → List PendingRequest × Option PendingRequest
  | [], pending => (pending, none)
  | item :: rest, pending =>
      if self.unresolved item.future then
        if item.responseMatch.accepts message then (pending.erase item, some item)
        else self.offerLoop message rest pending
      else self.offerLoop message rest (pending.erase item)

/-- Hand a message to the first request it matches, or to the backlog. -/
def dispatchMessage (self : Dispatcher) (message : TrpcPacket) : Dispatcher :=
  let arrival : Arrival := { index := self.arrived, message }
  let seen := { self with arrived := self.arrived + 1 }
  match self.offerLoop message self.pending self.pending with
  | (pending, some item) =>
      let handed := { seen with
        pending := pending
        futures := Function.update self.futures item.future (some (.result arrival)) }
      if item.publishMatch then handed.publishReport (.message arrival) else handed
  | (pending, none) =>
      { seen with
        pending := pending
        messageBacklog := trim self.maxMessageBacklog (self.messageBacklog ++ [arrival]) }
        |>.publishReport (.message arrival)

/-- Keep an observed packet for packet readers. -/
def observePacket (self : Dispatcher) (packet : Packet) : Dispatcher :=
  { self with packetBacklog := trim self.maxPacketBacklog (self.packetBacklog ++ [packet]) }

/-- Take the first backlog message that a predicate accepts. -/
def popMessageBacklog (self : Dispatcher) (predicate : TrpcPacket → Bool) :
    Option Arrival × Dispatcher :=
  match self.messageBacklog.findIdx? fun arrival => predicate arrival.message with
  | none => (none, self)
  | some index =>
      (self.messageBacklog[index]?,
        { self with messageBacklog := self.messageBacklog.eraseIdx index })

/-- One look of a waiting `read_message` at the backlog. -/
def readMessage (self : Dispatcher) : Option Arrival × Dispatcher :=
  match self.messageBacklog with
  | [] => (none, self)
  | arrival :: rest => (some arrival, { self with messageBacklog := rest })

/-- One look of a waiting `read_until` at the backlog. -/
def readUntil (self : Dispatcher) (predicate : TrpcPacket → Bool) :
    Option Arrival × Dispatcher :=
  self.popMessageBacklog predicate

/-- Subscribe to reports, optionally after a replay of the backlog. -/
def reports (self : Dispatcher) (maxQueueSize : Int) (replayBacklog : Bool) : Dispatcher :=
  let queue : ReportQueue := { maxsize := maxQueueSize }
  let created := { self with nextQueue := self.nextQueue + 1 }
  match self.readerError with
  | some err =>
      { created with
        queues := Function.update self.queues self.nextQueue (queue.putReportItem (.error err)) }
  | none =>
      let replayed :=
        if replayBacklog then
          self.messageBacklog.foldl (fun queue arrival => queue.putReportItem (.message arrival))
            queue
        else queue
      { created with
        queues := Function.update self.queues self.nextQueue replayed
        reportQueues := self.nextQueue :: self.reportQueues }

/-- End a subscription: the queue gets the end marker. -/
def unsubscribeReports (self : Dispatcher) (queue : Nat) : Dispatcher :=
  { self with
    reportQueues := self.reportQueues.filter fun other => other ≠ queue
    queues := Function.update self.queues queue ((self.queues queue).putReportItem .stop) }

/-- End every subscription with one last item. -/
def endReports (self : Dispatcher) (item : ReportItem) : Dispatcher :=
  { self.publishReport item with reportQueues := [] }

/-- The reader has failed: the waiting requests and the report subscriptions get
its error. -/
def setReaderError (self : Dispatcher) (err : PyException) : Dispatcher :=
  ({ self with closed := true, readerError := some err }.failPending err).endReports (.error err)

/-- The part of `open` that makes the session available again. -/
def opened (self : Dispatcher) : Dispatcher := { self with closed := false, readerError := none }

/-- The part of `close` that makes the session unavailable. -/
def closing (self : Dispatcher) : Dispatcher := { self with closed := true }

/-- A subscriber takes the next item of its queue. -/
def takeReport (self : Dispatcher) (queue : Nat) : Option ReportItem × Dispatcher :=
  match (self.queues queue).items with
  | [] => (none, self)
  | item :: rest =>
      (some item,
        { self with
          queues := Function.update self.queues queue { self.queues queue with items := rest } })

end Dispatcher

/-- The steps of the dispatcher and of its callers. -/
inductive DispatcherAction where
  | register (future : Nat) (responseMatch : ResponseMatch) (publishMatch : Bool)
  | dispatch (message : TrpcPacket)
  | cancel (future : Nat)
  | remove (future : Nat)
  | failPending (err : PyException)
  | observe (packet : Packet)
  | readMessage
  | readUntil (predicate : TrpcPacket → Bool)
  | subscribe (maxQueueSize : Int) (replayBacklog : Bool)
  | unsubscribe (queue : Nat)
  | take (queue : Nat)
  | endReports (item : ReportItem)
  | setReaderError (err : PyException)
  | opened
  | closing

namespace Dispatcher

/-- One step. A request is registered with a future of its own, and a timeout or
a cancelled caller cancels the future of its request. -/
def step (self : Dispatcher) : DispatcherAction → Option Dispatcher
  | .register future responseMatch publishMatch =>
      if self.futures future = none then some (self.register future responseMatch publishMatch)
      else none
  | .dispatch message => some (self.dispatchMessage message)
  | .cancel future => some (self.settle future .cancelled)
  | .remove future => some (self.removePending future)
  | .failPending err => some (self.failPending err)
  | .observe packet => some (self.observePacket packet)
  | .readMessage => some self.readMessage.2
  | .readUntil predicate => some (self.readUntil predicate).2
  | .subscribe maxQueueSize replayBacklog => some (self.reports maxQueueSize replayBacklog)
  | .unsubscribe queue => some (self.unsubscribeReports queue)
  | .take queue => some (self.takeReport queue).2
  | .endReports item => some (self.endReports item)
  | .setReaderError err => some (self.setReaderError err)
  | .opened => some self.opened
  | .closing => some self.closing

/-- A dispatcher that has seen nothing yet. -/
def Fresh (self : Dispatcher) : Prop :=
  self.pending = [] ∧ (∀ future, self.futures future = none) ∧ self.arrived = 0 ∧
    self.messageBacklog = [] ∧ self.reportQueues = []

end Dispatcher

end Tekmar482
