import Tekmar482.Dispatcher
import Tekmar482.Library.OrderedDict

/-!
# The session and its transactions

Calls of the session run transactions one at a time, under the transaction lock.
The caller's task runs the transaction of a plain call; the writer loop runs
those of coalesced calls, which it pops from the queue of unsent updates. One
step is what a task does between two suspension points.
-/

namespace Tekmar482

/-- What a call returns: nothing, the message that it wrote, or its response. -/
inductive CallResult where
  | nothing
  | written (message : TrpcPacket)
  | response (arrival : Arrival)
  deriving DecidableEq

/-- The response that a transaction waits for after its write. -/
structure ResponseWait where
  responseMatch : ResponseMatch
  publishMatch : Bool
  hasTimeout : Bool
  deriving DecidableEq

/-- The calls of a session. A call without a match uses the one of its command. -/
inductive SessionRequest (κ : Type) where
  | send (command : TrpcCommand)
  | requestResponse (command : TrpcCommand) (responseMatch : Option ResponseMatch)
      (hasTimeout : Bool)
  | updateResponse (command : TrpcCommand) (responseMatch : Option ResponseMatch)
      (hasTimeout : Bool)
  | coalescedUpdate (command : TrpcCommand) (key : κ)
  | coalescedUpdateResponse (command : TrpcCommand) (key : κ)
      (responseMatch : Option ResponseMatch) (hasTimeout : Bool)

/-- Where the transaction of a call is. -/
inductive Phase where
  | queued
  | acquiring
  | writing (message : TrpcPacket)
  | awaiting
  | ended
  deriving DecidableEq

/-- A transaction that has the lock. -/
def Phase.locked : Phase → Bool
  | .writing _ | .awaiting => true
  | _ => false

/-- A transaction that some task runs. -/
def Phase.running : Phase → Bool
  | .acquiring | .writing _ | .awaiting => true
  | _ => false

/-- A call. The future is the one of a coalesced call, which the caller awaits,
and the task is the caller's own. -/
structure Call (κ : Type) where
  command : TrpcCommand
  key : Option κ
  response : Option ResponseWait
  phase : Phase
  future : FutureState CallResult := .waiting
  task : FutureState CallResult := .waiting
  cancelRequested : Bool := false
  interrupted : Bool := false
  timedOut : Bool := false

namespace Call

variable {κ : Type}

/-- The call as it starts. -/
def create : SessionRequest κ → Call κ
  | .send command => { command, key := none, response := none, phase := .acquiring }
  | .requestResponse command responseMatch hasTimeout =>
      { command, key := none, phase := .acquiring
        response := some ⟨responseMatch.getD (.forCommand command), false, hasTimeout⟩ }
  | .updateResponse command responseMatch hasTimeout =>
      { command, key := none, phase := .acquiring
        response := some ⟨responseMatch.getD (.forCommand command), true, hasTimeout⟩ }
  | .coalescedUpdate command key =>
      { command, key := some key, response := none, phase := .queued }
  | .coalescedUpdateResponse command key responseMatch hasTimeout =>
      { command, key := some key, phase := .queued
        response := some ⟨responseMatch.getD (.forCommand command), true, hasTimeout⟩ }

/-- Resolve the future of a coalesced call, if it is still waiting. -/
def settle (self : Call κ) (state : FutureState CallResult) : Call κ :=
  if self.future = .waiting then { self with future := state } else self

theorem settle_response (self : Call κ) (state : FutureState CallResult) :
    (self.settle state).response = self.response := by
  unfold settle
  split <;> rfl

/-- The result of a transaction that an exception ends: a call with a response
returns nothing on a timeout. -/
def raised (self : Call κ) (err : PyException) : FutureState CallResult :=
  match self.response, err with
  | some _, .timeoutError => .result .nothing
  | _, _ => .exception err

/-- The call after its transaction: the caller has the result, or the future. -/
def finish (self : Call κ) (result : FutureState CallResult) : Call κ :=
  match self.key with
  | none => { self with phase := .ended, task := result }
  | some _ => { self.settle result with phase := .ended }

@[simp] theorem finish_phase (self : Call κ) (result : FutureState CallResult) :
    (self.finish result).phase = .ended := by
  unfold finish
  split <;> rfl

@[simp] theorem finish_key (self : Call κ) (result : FutureState CallResult) :
    (self.finish result).key = self.key := by
  unfold finish settle
  split
  · rfl
  · split <;> rfl

@[simp] theorem finish_response (self : Call κ) (result : FutureState CallResult) :
    (self.finish result).response = self.response := by
  unfold finish
  split
  · rfl
  · exact self.settle_response result

/-- How a suspended transaction ends when its task resumes, if it is to resume.
A cancelled task comes first, then an expired timeout, then the response future. -/
def resumption (self : Call κ) (reply : Option (FutureState Arrival)) :
    Option (FutureState CallResult) :=
  if self.interrupted then if self.phase.running then some .cancelled else none
  else if self.phase ≠ .awaiting then none
  else if self.timedOut then some (.result .nothing)
  else
    match reply with
    | some (.result arrival) => some (.result (.response arrival))
    | some (.exception err) => some (self.raised err)
    | some .cancelled => some .cancelled
    | _ => none

/-- What the caller of a coalesced call wakes up to. -/
def wakeup (self : Call κ) : FutureState CallResult :=
  if self.cancelRequested then .cancelled else self.future

end Call

/-- The task of the coalesced update loop. -/
inductive Writer where
  | stopped
  | idle
  | holding (call : Nat)
  deriving DecidableEq

/-- How far a running `close` has come. -/
inductive Closer where
  | awaitingReader
  | awaitingWriter (held : Option Nat)
  | closingTransport
  deriving DecidableEq

/-- The events of a session, in order. A registration notes how many messages
have been dispatched before it. -/
inductive SessionEvent (κ : Type) where
  | submitted (key : κ) (call : Nat)
  | popped (key : κ) (call : Nat)
  | registered (call : Nat) (arrived : Nat)
  | wrote (call : Nat) (key : Option κ) (message : TrpcPacket)
  | completed (call : Nat)

/-- A session. A call is known by its place in the list of calls, which is also
the number of its response future. -/
structure Session (κ : Type) where
  dispatcher : Dispatcher := {}
  calls : List (Call κ) := []
  transactionLock : Option Nat := none
  coalescedUpdates : OrderedDict κ Nat := .empty
  writer : Writer := .stopped
  reading : Bool := false
  closers : List Closer := []
  transportOpen : Bool := false
  log : List (SessionEvent κ) := []

namespace Dispatcher

def raiseIfUnavailable (self : Dispatcher) : Except PyException Unit :=
  match self.readerError with
  | some err => .error err
  | none =>
      if self.closed then .error (.connectionClosedError "tekmar 482 session is not open")
      else .ok ()

/-- The checks of `write_message` before the transport writes. -/
def writeMessage (self : Dispatcher) (message : TrpcPacket) : Except PyException Packet := do
  let packet ← message.toPacket
  self.raiseIfUnavailable
  return packet

/-- `_send_unlocked` up to the transport write. -/
def sendUnlocked (self : Dispatcher) (command : TrpcCommand) : Except PyException TrpcPacket := do
  self.raiseIfUnavailable
  let message ← command.toMessage
  let _ ← self.writeMessage message
  return message

/-- The start of a coalesced write without a response. -/
def sendUpdate (self : Dispatcher) (command : TrpcCommand) : Except PyException TrpcPacket := do
  let message ← command.toMessage
  let _ ← self.writeMessage message
  return message

end Dispatcher

namespace Session

variable {κ : Type}

def modifyCall (self : Session κ) (c : Nat) (f : Call κ → Call κ) : Session κ :=
  { self with calls := self.calls.modify c f }

theorem calls_modifyCall_iff (self : Session κ) (c d : Nat) (f : Call κ → Call κ)
    (call' : Call κ) : (self.modifyCall c f).calls[d]? = some call' ↔
      ∃ call, self.calls[d]? = some call ∧ (if c = d then f call else call) = call' := by
  rw [modifyCall, List.getElem?_modify]
  exact Option.map_eq_some_iff

/-- A call of the changed session is the changed call, or was there before. -/
theorem calls_modifyCall_cases {s : Session κ} {c d : Nat} {f : Call κ → Call κ} {call' : Call κ}
    (h : (s.modifyCall c f).calls[d]? = some call') :
    (d = c ∧ ∃ call, s.calls[c]? = some call ∧ call' = f call) ∨
      d ≠ c ∧ s.calls[d]? = some call' := by
  obtain ⟨call, hcall, heq⟩ := (calls_modifyCall_iff s c d f call').mp h
  split at heq
  · rename_i hsame
    subst hsame
    exact .inl ⟨rfl, call, hcall, heq.symm⟩
  · rename_i hne
    exact .inr ⟨Ne.symm hne, heq ▸ hcall⟩

/-- A call of the changed session, when the call that changes is known. -/
theorem calls_modifyCall_known {s : Session κ} {c d : Nat} {f : Call κ → Call κ}
    {call call' : Call κ} (hcall : s.calls[c]? = some call)
    (h : (s.modifyCall c f).calls[d]? = some call') :
    d = c ∧ call' = f call ∨ d ≠ c ∧ s.calls[d]? = some call' := by
  rcases calls_modifyCall_cases h with ⟨hsame, other, hother, heq⟩ | hold
  · cases hcall.symm.trans hother
    exact .inl ⟨hsame, heq⟩
  · exact .inr hold

theorem calls_modifyCall_of_ne {s : Session κ} {c d : Nat} (f : Call κ → Call κ) (hne : d ≠ c) :
    (s.modifyCall c f).calls[d]? = s.calls[d]? :=
  List.getElem?_modify_ne f _ (Ne.symm hne)

theorem calls_modifyCall_self {s : Session κ} {c : Nat} {call : Call κ} (f : Call κ → Call κ)
    (h : s.calls[c]? = some call) : (s.modifyCall c f).calls[c]? = some (f call) := by
  rw [modifyCall, List.getElem?_modify_eq, h]
  rfl

theorem calls_modifyCall {s : Session κ} {d : Nat} {call : Call κ}
    (h : s.calls[d]? = some call) (c : Nat) (f : Call κ → Call κ) :
    (s.modifyCall c f).calls[d]? = some (if c = d then f call else call) :=
  (calls_modifyCall_iff s c d f _).mpr ⟨call, h, rfl⟩

/-- Whether a task that asks for the transaction lock has to wait. -/
def contended (self : Session κ) : Bool :=
  self.transactionLock.isSome || self.calls.any fun call => call.phase = .acquiring

/-- The end of a transaction: its pending request is removed and its lock free,
and a writer that ran it looks for the next update. -/
def endTransaction (self : Session κ) (c : Nat) (result : FutureState CallResult) : Session κ :=
  { self.modifyCall c fun call => call.finish result with
    dispatcher := self.dispatcher.removePending c
    transactionLock := if self.transactionLock = some c then none else self.transactionLock
    writer := if self.writer = .holding c then .idle else self.writer
    log := self.log ++ [.completed c] }

/-- Register the pending request of a transaction. -/
def registerPending (self : Session κ) (c : Nat) (wait : ResponseWait) : Session κ :=
  { self with
    dispatcher := self.dispatcher.register c wait.responseMatch wait.publishMatch
    log := self.log ++ [.registered c self.dispatcher.arrived] }

/-- The start of the write of a call. -/
def startWrite (self : Session κ) (call : Call κ) : Except PyException TrpcPacket :=
  match call.key, call.response with
  | some _, none => self.dispatcher.sendUpdate call.command
  | _, _ => self.dispatcher.sendUnlocked call.command

/-- The command of a call goes to the transport. -/
def wrote (self : Session κ) (c : Nat) (call : Call κ) (message : TrpcPacket) : Session κ :=
  { self.modifyCall c fun call => { call with phase := .writing message } with
    log := self.log ++ [.wrote c call.key message] }

/-- The lock is taken, and the pending request of the call is registered. -/
def acquired (self : Session κ) (c : Nat) (call : Call κ) : Session κ :=
  let locked := { self with transactionLock := some c }
  match call.response with
  | none => locked
  | some wait => locked.registerPending c wait

/-- The lock is free: the transaction runs up to its transport write. -/
def beginTransaction (self : Session κ) (c : Nat) (call : Call κ) : Session κ :=
  match self.startWrite call with
  | .error err => (self.acquired c call).endTransaction c (call.raised err)
  | .ok message => (self.acquired c call).wrote c call message

@[simp] theorem acquired_calls (self : Session κ) (c : Nat) (call : Call κ) :
    (self.acquired c call).calls = self.calls := by
  unfold acquired
  split <;> rfl

@[simp] theorem acquired_coalescedUpdates (self : Session κ) (c : Nat) (call : Call κ) :
    (self.acquired c call).coalescedUpdates = self.coalescedUpdates := by
  unfold acquired
  split <;> rfl

@[simp] theorem acquired_writer (self : Session κ) (c : Nat) (call : Call κ) :
    (self.acquired c call).writer = self.writer := by
  unfold acquired
  split <;> rfl

@[simp] theorem acquired_transactionLock (self : Session κ) (c : Nat) (call : Call κ) :
    (self.acquired c call).transactionLock = some c := by
  unfold acquired
  split <;> rfl

/-- The transport write has returned. -/
def writeReturned (self : Session κ) (c : Nat) (call : Call κ) (message : TrpcPacket) :
    Session κ :=
  match call.response with
  | none => self.endTransaction c (.result (.written message))
  | some _ => self.modifyCall c fun call => { call with phase := .awaiting }

/-- The task that runs a transaction is cancelled: a response future that it
awaits is cancelled with it. -/
def interrupt (self : Session κ) (c : Nat) (call : Call κ) : Session κ :=
  { self.modifyCall c fun call => { call with interrupted := true } with
    dispatcher :=
      if call.phase = .awaiting then self.dispatcher.settle c .cancelled else self.dispatcher }

section Updates

variable [DecidableEq κ]

/-- Queue an update under its key, in the place of an unsent one. -/
def submit (self : Session κ) (key : κ) (c : Nat) : Session κ :=
  let superseded :=
    match self.coalescedUpdates.get? key with
    | none => self
    | some previous => self.modifyCall previous fun call => call.settle (.result .nothing)
  { superseded with
    coalescedUpdates := self.coalescedUpdates.set key c
    log := self.log ++ [.submitted key c] }

@[simp] theorem submit_coalescedUpdates (self : Session κ) (key : κ) (c : Nat) :
    (self.submit key c).coalescedUpdates = self.coalescedUpdates.set key c := rfl

@[simp] theorem submit_dispatcher (self : Session κ) (key : κ) (c : Nat) :
    (self.submit key c).dispatcher = self.dispatcher := by
  unfold submit
  cases self.coalescedUpdates.get? key <;> rfl

@[simp] theorem submit_writer (self : Session κ) (key : κ) (c : Nat) :
    (self.submit key c).writer = self.writer := by
  unfold submit
  cases self.coalescedUpdates.get? key <;> rfl

@[simp] theorem submit_closers (self : Session κ) (key : κ) (c : Nat) :
    (self.submit key c).closers = self.closers := by
  unfold submit
  cases self.coalescedUpdates.get? key <;> rfl

@[simp] theorem submit_log (self : Session κ) (key : κ) (c : Nat) :
    (self.submit key c).log = self.log ++ [.submitted key c] := rfl

/-- Remove the update of a call, if it is still the queued one of its key. -/
def removeCoalescedUpdate (self : Session κ) (key : κ) (c : Nat) : Session κ :=
  if self.coalescedUpdates.get? key = some c then
    { self with coalescedUpdates := self.coalescedUpdates.erase key }
  else self

@[simp] theorem removeCoalescedUpdate_calls (self : Session κ) (key : κ) (c : Nat) :
    (self.removeCoalescedUpdate key c).calls = self.calls := by
  unfold removeCoalescedUpdate
  split <;> rfl

/-- Fail the queued updates. -/
def failCoalescedUpdates (self : Session κ) (err : PyException) : Session κ :=
  { self with
    calls := self.calls.mapIdx fun c call =>
      if c ∈ self.coalescedUpdates.values then call.settle (.exception err) else call
    coalescedUpdates := .empty }

/-- A caller starts a call. -/
def startCall (self : Session κ) (request : SessionRequest κ) : Session κ :=
  let c := self.calls.length
  let call := Call.create request
  let created := { self with calls := self.calls ++ [call] }
  match call.key with
  | none => if self.contended then created else created.beginTransaction c call
  | some key =>
      match self.dispatcher.raiseIfUnavailable with
      | .error err =>
          { self with
            calls := self.calls ++ [{ call with phase := .ended, task := .exception err }] }
      | .ok () => created.submit key c

/-- The first update leaves the queue. -/
def popped (self : Session κ) (key : κ) (c : Nat) (rest : OrderedDict κ Nat) : Session κ :=
  { self with coalescedUpdates := rest, log := self.log ++ [.popped key c] }

/-- The writer loop holds an update, and its transaction asks for the lock. -/
def hold (self : Session κ) (c : Nat) : Session κ :=
  { self.modifyCall c fun call => { call with phase := .acquiring } with writer := .holding c }

/-- The writer loop takes the first update and starts its transaction. An update
whose caller is gone is skipped. -/
def popUpdate (self : Session κ) : Option (Session κ) :=
  match self.writer, self.coalescedUpdates.popFirst with
  | .idle, some ((key, c), rest) =>
      match self.calls[c]? with
      | none => none
      | some call =>
          let popped := self.popped key c rest
          if call.future = .cancelled then some popped
          else if self.contended then some (popped.hold c)
          else some ((popped.hold c).beginTransaction c { call with phase := .acquiring })
  | _, _ => none

/-- The caller of a coalesced call wakes up. A cancelled one first removes its
update. -/
def resumeCaller (self : Session κ) (c : Nat) (call : Call κ) : Option (Session κ) :=
  match call.key with
  | none => none
  | some key =>
      if call.task = .waiting ∧ call.wakeup ≠ .waiting then
        let removed :=
          if call.wakeup = .cancelled then self.removeCoalescedUpdate key c else self
        some (removed.modifyCall c fun other => { other with task := call.wakeup })
      else none

/-- What a caller's wake-up does. -/
theorem resumeCaller_eq_some {s t : Session κ} {c : Nat} {call : Call κ}
    (h : s.resumeCaller c call = some t) :
    ∃ key, call.key = some key ∧ call.task = .waiting ∧ call.wakeup ≠ .waiting ∧
      t = (if call.wakeup = .cancelled then s.removeCoalescedUpdate key c else s).modifyCall c
        fun other => { other with task := call.wakeup } := by
  unfold resumeCaller at h
  split at h
  · exact nomatch h
  · rename_i key hkey
    split at h
    · rename_i hwakes
      exact ⟨key, hkey, hwakes.1, hwakes.2, (Option.some.inj h).symm⟩
    · exact nomatch h

/-- The caller of a call is cancelled. -/
def cancelCall (self : Session κ) (c : Nat) (call : Call κ) : Session κ :=
  match call.key with
  | none =>
      (self.interrupt c call).modifyCall c fun call => { call with cancelRequested := true }
  | some _ =>
      self.modifyCall c fun call => { call.settle .cancelled with cancelRequested := true }

/-- The reader failed. -/
def setReaderError (self : Session κ) (err : PyException) : Session κ :=
  { self.failCoalescedUpdates err with
    dispatcher := self.dispatcher.setReaderError err
    reading := false }

/-- The reader dispatches a packet. -/
def dispatchPacket (self : Session κ) (packet : Packet) : Session κ :=
  let observed := { self with dispatcher := self.dispatcher.observePacket packet }
  if packet.type = Packet.TYPE_TRPC then
    match TrpcPacket.fromPacket packet with
    | .error err => observed.setReaderError err
    | .ok message =>
        { observed with dispatcher := observed.dispatcher.dispatchMessage message }
  else observed

/-- `close` cancels the writer loop, and the transaction that it runs. -/
def cancelWriter (self : Session κ) : Session κ :=
  match self.writer with
  | .holding c =>
      match self.calls[c]? with
      | none => { self with writer := .stopped }
      | some call => { self.interrupt c call with writer := .stopped }
  | _ => { self with writer := .stopped }

/-- The call that the writer loop holds. -/
def held (self : Session κ) : Option Nat :=
  match self.writer with
  | .holding c => some c
  | _ => none

/-- Whether a transaction that `close` waits for has ended. -/
def released (self : Session κ) (held : Option Nat) : Bool :=
  match held with
  | none => true
  | some c => self.calls[c]?.all fun call => !call.phase.running

/-- The last section of `close`: whatever still waits fails, the subscriptions
end, and the transport is closed. -/
def failOutstanding (self : Session κ) : Session κ :=
  let err := PyException.connectionClosedError "tekmar 482 session closed"
  { self.failCoalescedUpdates err with
    dispatcher := (self.dispatcher.failPending err).endReports .stop
    transportOpen := false }

/-- One section of a running `close`. -/
def closeStep (self : Session κ) (k : Nat) : Option (Session κ) :=
  match self.closers[k]? with
  | some .awaitingReader =>
      some { self.cancelWriter with
        closers := self.closers.set k (.awaitingWriter self.held) }
  | some (.awaitingWriter held) =>
      if self.released held then
        some { self.failOutstanding with closers := self.closers.set k .closingTransport }
      else none
  | _ => none

end Updates

/-- The last section of `open`: the reader and the writer loop run. -/
def opened (self : Session κ) : Session κ :=
  { self with
    dispatcher := self.dispatcher.opened
    reading := true
    writer := if self.writer = .stopped then .idle else self.writer
    transportOpen := true }

/-- The first section of `close`: the reader is cancelled. -/
def closing (self : Session κ) : Session κ :=
  { self with
    dispatcher := self.dispatcher.closing
    reading := false
    closers := self.closers ++ [.awaitingReader] }

end Session

/-- The steps of a call: its transaction, its timer, and its caller. -/
inductive CallAction where
  | acquire
  | written
  | writeFails (err : PyException)
  | timeout
  | cancel
  | resume
  | resumeCaller
  deriving DecidableEq

/-- The steps of a session. -/
inductive SessionAction (κ : Type) where
  | start (request : SessionRequest κ)
  | onCall (c : Nat) (action : CallAction)
  | pop
  | writerReturns
  | packet (packet : Packet)
  | readerFails (err : PyException)
  | backlog (action : DispatcherAction)
  | opened
  | close
  | closeStep (k : Nat)

/-- The readers and report subscribers of a dispatcher. -/
def DispatcherAction.ofReader : DispatcherAction → Bool
  | .readMessage | .readUntil _ | .subscribe _ _ | .unsubscribe _ | .take _ => true
  | _ => false

namespace Session

variable {κ : Type} [DecidableEq κ]

/-- One step of a call. -/
def callStep (self : Session κ) (c : Nat) (call : Call κ) : CallAction → Option (Session κ)
  | .acquire =>
      if call.phase = .acquiring ∧ call.interrupted = false ∧ self.transactionLock = none then
        some (self.beginTransaction c call)
      else none
  | .written =>
      match call.phase, call.interrupted with
      | .writing message, false => some (self.writeReturned c call message)
      | _, _ => none
  | .writeFails err =>
      match call.phase, call.interrupted with
      | .writing _, false => some (self.endTransaction c (call.raised err))
      | _, _ => none
  | .timeout =>
      if call.phase = .awaiting ∧ (call.response.any fun wait => wait.hasTimeout) then
        some { self.modifyCall c fun call => { call with timedOut := true } with
          dispatcher := self.dispatcher.settle c .cancelled }
      else none
  | .cancel => if call.task = .waiting then some (self.cancelCall c call) else none
  | .resume => (call.resumption (self.dispatcher.futures c)).map (self.endTransaction c)
  | .resumeCaller => self.resumeCaller c call

/-- One step of the session. -/
def step (self : Session κ) : SessionAction κ → Option (Session κ)
  | .start request => some (self.startCall request)
  | .onCall c action => self.calls[c]?.bind fun call => self.callStep c call action
  | .pop => self.popUpdate
  | .writerReturns =>
      if self.writer = .idle ∧ self.coalescedUpdates.entries = [] ∧ self.dispatcher.closed then
        some { self with writer := .stopped }
      else none
  | .packet packet => if self.reading then some (self.dispatchPacket packet) else none
  | .readerFails err => if self.reading then some (self.setReaderError err) else none
  | .backlog action =>
      if action.ofReader then
        (self.dispatcher.step action).map fun dispatcher => { self with dispatcher }
      else none
  | .opened => some self.opened
  | .close => some self.closing
  | .closeStep k => self.closeStep k

/-- A session that was just created. -/
def Fresh (self : Session κ) : Prop :=
  self.dispatcher.Fresh ∧ self.dispatcher.closed = true ∧ self.dispatcher.readerError = none ∧
    self.calls = [] ∧ self.transactionLock = none ∧ self.coalescedUpdates = .empty ∧
    self.writer = .stopped ∧ self.reading = false ∧ self.closers = [] ∧ self.log = []

end Session

end Tekmar482
