import Mathlib.Logic.Function.Basic
import Tekmar482.Library.Machine
import Tekmar482.TpckProtocol

/-!
# Writers that wait for the buffer to drain

A writer hands its frame to the transport, and waits as long as writing is paused. All
blocked writers await one future. Each of them runs in a task, and cancelling a task
cancels the future that it awaits.
-/

namespace Tekmar482

/-- What awaiting a future gives when it has an outcome. -/
def Waiter.outcome : Waiter → Option (Except PyException Unit)
  | .pending => none
  | .result => some (.ok ())
  | .exception err => some (.error err)
  | .cancelled => some (.error .cancelledError)

/-- Where the task of a `write_packet` call is. -/
inductive WriterState where
  | awaiting (waiter : Nat)
  | ended (outcome : Except PyException Unit)

namespace TpckProtocol

def requireTransport (self : TpckProtocol) : Except PyException Unit :=
  match self.error with
  | some err => .error err
  | none =>
      if self.transport = some false then .ok ()
      else .error (.connectionClosedError self.closedMessage)

/-- The shared waiter is replaced by a new future. -/
def createWaiter (self : TpckProtocol) : TpckProtocol :=
  { self with
    drainWaiters := self.drainWaiters ++ [.pending], drainWaiter := some self.drainWaiters.length }

/-- One turn of the loop of `_drain`: the waiter it awaits, or none when writing is not
paused. -/
def drain (self : TpckProtocol) : TpckProtocol × Option Nat :=
  if self.paused then
    match self.drainWaiter with
    | none => (self.createWaiter, some self.drainWaiters.length)
    | some waiter =>
        if self.drainWaiters[waiter]? = some .pending then (self, some waiter)
        else (self.createWaiter, some self.drainWaiters.length)
  else (self, none)

/-- The part of `write_packet` from a turn of the loop of `_drain` on. -/
def finishWrite (self : TpckProtocol) : TpckProtocol × WriterState :=
  match self.drain with
  | (drained, some waiter) => (drained, .awaiting waiter)
  | (drained, none) =>
      match drained.error with
      | some err => (drained, .ended (.error err))
      | none => (drained, .ended (.ok ()))

/-- The error that a lost connection leaves. -/
def lostError (self : TpckProtocol) (exc : Option PyException) : PyException :=
  exc.getD (.connectionClosedError self.closedMessage)

end TpckProtocol

/-- The task of a `write_packet` call. -/
structure WriterTask where
  state : WriterState
  /-- Whether the task gets a cancellation at its next turn. -/
  mustCancel : Bool := false
  /-- Whether the task has been cancelled. -/
  cancelled : Bool := false

/-- What a task gets at its next turn when its waiter has an outcome. -/
def WriterTask.received (task : WriterTask) (outcome : Except PyException Unit) :
    Except PyException Unit :=
  if task.mustCancel then .error .cancelledError else outcome

/-- A protocol, the bytes it has handed to its transport, and the tasks that write. -/
structure DrainingWriters where
  protocol : TpckProtocol
  written : List UInt8 := []
  writers : Nat → Option WriterTask := fun _ => none

/-- The steps of the writers, of those who cancel them and of the event loop. -/
inductive WriterAction where
  /-- A call of `write_packet` up to its first await. The transport may pause writing
  while it takes the frame. -/
  | writePacket (writer : Nat) (packet : Packet) (pauses : Bool)
  /-- The next turn of a task whose waiter has an outcome. -/
  | wakeUp (writer : Nat)
  | cancel (writer : Nat)
  | pauseWriting
  | resumeWriting
  | connectionLost (exc : Option PyException)

namespace DrainingWriters

open Tpck

def setWriter (self : DrainingWriters) (writer : Nat) (task : WriterTask) : DrainingWriters :=
  { self with writers := Function.update self.writers writer (some task) }

@[simp] theorem writers_setWriter_self (self : DrainingWriters) (writer : Nat) (task : WriterTask) :
    (self.setWriter writer task).writers writer = some task :=
  Function.update_self ..

theorem writers_setWriter_of_ne (self : DrainingWriters) {writer other : Nat} (h : other ≠ writer)
    (task : WriterTask) : (self.setWriter writer task).writers other = self.writers other :=
  Function.update_of_ne h ..

@[simp] theorem protocol_setWriter (self : DrainingWriters) (writer : Nat) (task : WriterTask) :
    (self.setWriter writer task).protocol = self.protocol :=
  rfl

def writePacket (self : DrainingWriters) (writer : Nat) (packet : Packet) (pauses : Bool) :
    DrainingWriters :=
  match self.protocol.requireTransport with
  | .error err => self.setWriter writer { state := .ended (.error err) }
  | .ok () =>
      match serialize packet with
      | .error err => self.setWriter writer { state := .ended (.error err) }
      | .ok frame =>
          let taken := if pauses then self.protocol.pauseWriting else self.protocol
          { self with protocol := taken.finishWrite.1, written := self.written ++ frame }.setWriter
            writer { state := taken.finishWrite.2 }

/-- What the task of a writer does with the outcome of its waiter. -/
def wakeUp (self : DrainingWriters) (writer : Nat) (task : WriterTask)
    (outcome : Except PyException Unit) : DrainingWriters :=
  match task.received outcome with
  | .error err =>
      self.setWriter writer { task with state := .ended (.error err), mustCancel := false }
  | .ok () =>
      { self with protocol := self.protocol.finishWrite.1 }.setWriter
        writer { task with state := self.protocol.finishWrite.2 }

/-- A pending waiter is cancelled for the task. Otherwise the task gets the cancellation. -/
def cancel (self : DrainingWriters) (writer : Nat) (task : WriterTask) (waiter : Nat) :
    DrainingWriters :=
  if self.protocol.drainWaiters[waiter]? = some .pending then
    { self with
      protocol := { self.protocol with
        drainWaiters := self.protocol.drainWaiters.set waiter .cancelled } }.setWriter
      writer { task with cancelled := true }
  else self.setWriter writer { task with mustCancel := true, cancelled := true }

def step (self : DrainingWriters) : WriterAction → Option DrainingWriters
  | .writePacket writer packet pauses =>
      match self.writers writer with
      | some _ => none
      | none => some (self.writePacket writer packet pauses)
  | .wakeUp writer =>
      match self.writers writer with
      | some task =>
          match task.state with
          | .awaiting waiter =>
              (self.protocol.drainWaiters[waiter]?.bind Waiter.outcome).map
                (self.wakeUp writer task)
          | .ended _ => none
      | none => none
  | .cancel writer =>
      match self.writers writer with
      | some task =>
          match task.state with
          | .awaiting waiter => some (self.cancel writer task waiter)
          | .ended _ => some self
      | none => none
  | .pauseWriting => some { self with protocol := self.protocol.pauseWriting }
  | .resumeWriting => some { self with protocol := self.protocol.resumeWriting }
  | .connectionLost exc =>
      -- The event loop passes an `Exception`, and a cancellation is none.
      if exc = some .cancelledError then none
      else some { self with protocol := self.protocol.connectionLost exc }

/-- No writer has been started, and no connection has been lost. -/
def Idle (self : DrainingWriters) : Prop :=
  self.protocol.drainWaiters = [] ∧ self.protocol.drainWaiter = none ∧ self.protocol.error = none ∧
    self.writers = fun _ => none

/-- A writer that waits for the shared waiter. -/
def Blocked (self : DrainingWriters) (writer : Nat) : Prop :=
  ∃ task waiter, self.writers writer = some task ∧ task.state = .awaiting waiter ∧
    self.protocol.drainWaiters[waiter]? = some .pending

end DrainingWriters

end Tekmar482
