import Tekmar482.TpckStream
import Mathlib.Data.Rat.Defs
import Mathlib.Algebra.Order.Ring.Unbundled.Rat

/-!
# Framing raw bytes into packets

The asyncio protocol feeds every chunk of bytes to its parser, keeps the
completed packets until a reader takes them, and signals the reader through an
event.
-/

namespace Tekmar482

/-- An asyncio future that carries no value. -/
inductive Waiter where
  | pending
  | result
  | exception (err : PyException)
  | cancelled
  deriving DecidableEq, Repr

/-- Whether the future has an outcome. -/
def Waiter.done (waiter : Waiter) : Bool := waiter ≠ .pending

/-- Asyncio protocol that frames raw bytes into tekmar packets. -/
structure TpckProtocol where
  closedMessage : String
  parser : TpckParser := {}
  packets : List Packet := []
  packetEvent : Bool := false
  /-- The transport, by what its `is_closing` answers. -/
  transport : Option Bool := none
  closedWaiter : Option Waiter := none
  /-- The drain waiters created so far, and the one blocked writers share. -/
  drainWaiters : List Waiter := []
  drainWaiter : Option Nat := none
  paused : Bool := false
  error : Option PyException := none
  deriving DecidableEq, Repr

namespace TpckProtocol

open TpckParser

def isOpen (self : TpckProtocol) : Bool :=
  self.transport = some false ∧ self.error = none

def connectionMade (self : TpckProtocol) (writable : Bool) : TpckProtocol :=
  if writable then
    { self with transport := some false, closedWaiter := some .pending, error := none }
  else
    { self with error := some (.transportError "asyncio transport is not writable") }

def dataReceived (self : TpckProtocol) (data : List UInt8) : TpckProtocol :=
  match self.parser.feedMany data with
  | (parser, .error err) =>
      { self with
        parser := parser, error := some err, transport := self.transport.map fun _ => true,
        packetEvent := true }
  | (parser, .ok packets) =>
      if packets = [] then
        { self with parser := parser }
      else
        { self with
          parser := parser, packets := self.packets ++ packets, packetEvent := true }

/-- Complete the shared drain waiter, unless it already has an outcome. -/
def wakeDrainWaiter (self : TpckProtocol) (err : Option PyException) : TpckProtocol :=
  match self.drainWaiter with
  | none => self
  | some waiter =>
      let woken := match err with
        | none => Waiter.result
        | some err => Waiter.exception err
      { self with
        drainWaiter := none,
        drainWaiters := self.drainWaiters.modify waiter fun future =>
          if future.done then future else woken }

def connectionLost (self : TpckProtocol) (exc : Option PyException) : TpckProtocol :=
  let error := exc.getD (.connectionClosedError self.closedMessage)
  let lost := { self with transport := none, error := some error, packetEvent := true }
  let woken := lost.wakeDrainWaiter (some error)
  { woken with
    closedWaiter := woken.closedWaiter.map fun waiter =>
      if waiter.done then waiter else .result }

def pauseWriting (self : TpckProtocol) : TpckProtocol := { self with paused := true }

def resumeWriting (self : TpckProtocol) : TpckProtocol :=
  { self with paused := false }.wakeDrainWaiter none

/-- What the loop of `read_next` does before it awaits: it ends with a packet or
an error, or it waits for the event. -/
def readNext (self : TpckProtocol) : TpckProtocol × Option (Except PyException Packet) :=
  match self.packets, self.error with
  | packet :: rest, _ => ({ self with packets := rest }, some (.ok packet))
  | [], some err => (self, some (.error err))
  | [], none =>
      if self.isOpen then
        let cleared := { self with packetEvent := false }
        -- The second look at the buffer and the error, between clearing the event and waiting.
        match cleared.packets, cleared.error with
        | packet :: rest, _ => ({ cleared with packets := rest }, some (.ok packet))
        | [], some err => (cleared, some (.error err))
        | [], none => (cleared, none)
      else
        (self, some (.error (.connectionClosedError self.closedMessage)))

/-! ## What each callback leaves unchanged -/

section Callbacks

variable (self : TpckProtocol)

@[simp] theorem wakeDrainWaiter_packets (err : Option PyException) :
    (self.wakeDrainWaiter err).packets = self.packets := by
  simp only [wakeDrainWaiter]
  split <;> rfl

@[simp] theorem parser_wakeDrainWaiter (err : Option PyException) :
    (self.wakeDrainWaiter err).parser = self.parser := by
  simp only [wakeDrainWaiter]
  split <;> rfl

@[simp] theorem wakeDrainWaiter_packetEvent (err : Option PyException) :
    (self.wakeDrainWaiter err).packetEvent = self.packetEvent := by
  simp only [wakeDrainWaiter]
  split <;> rfl

@[simp] theorem wakeDrainWaiter_error (err : Option PyException) :
    (self.wakeDrainWaiter err).error = self.error := by
  simp only [wakeDrainWaiter]
  split <;> rfl

@[simp] theorem wakeDrainWaiter_transport (err : Option PyException) :
    (self.wakeDrainWaiter err).transport = self.transport := by
  simp only [wakeDrainWaiter]
  split <;> rfl

@[simp] theorem connectionLost_packets (exc : Option PyException) :
    (self.connectionLost exc).packets = self.packets := by
  simp [connectionLost]

@[simp] theorem parser_connectionLost (exc : Option PyException) :
    (self.connectionLost exc).parser = self.parser := by
  simp [connectionLost]

@[simp] theorem connectionLost_packetEvent (exc : Option PyException) :
    (self.connectionLost exc).packetEvent = true := by
  simp [connectionLost]

@[simp] theorem connectionLost_transport (exc : Option PyException) :
    (self.connectionLost exc).transport = none := by
  simp [connectionLost]

end Callbacks

/-- A chunk of the lenient parser only adds its packets, and signals them. -/
theorem dataReceived_feeds {self : TpckProtocol} {data : List UInt8} {parser : TpckParser}
    {packets : List Packet} (h : Feeds self.parser data parser packets) :
    self.dataReceived data =
      { self with
        parser := parser, packets := self.packets ++ packets,
        packetEvent := self.packetEvent || !packets.isEmpty } := by
  simp only [Feeds] at h
  simp only [dataReceived, h]
  cases packets with
  | nil => simp
  | cons packet rest => simp

/-! ## One turn of the reading loop -/

/-- How a turn of the loop can end. It raises only when the buffer is empty, and
it waits only when there is nothing to return and nothing to raise. -/
inductive Turn (self : TpckProtocol) :
    TpckProtocol → Option (Except PyException Packet) → Prop
  | returned (packet : Packet) (rest : List Packet) (hbuffer : self.packets = packet :: rest) :
      Turn self { self with packets := rest } (some (.ok packet))
  | raised (err : PyException) (hbuffer : self.packets = []) :
      Turn self self (some (.error err))
  | waits (hbuffer : self.packets = []) (herror : self.error = none) :
      Turn self { self with packetEvent := false } none

theorem readNext_turn (self : TpckProtocol) : Turn self self.readNext.1 self.readNext.2 := by
  cases hbuffer : self.packets with
  | cons packet rest =>
      simp only [readNext, hbuffer]
      exact .returned packet rest hbuffer
  | nil =>
      cases herror : self.error with
      | some err =>
          simp only [readNext, hbuffer, herror]
          exact .raised err hbuffer
      | none =>
          by_cases hopen : self.isOpen
          · have hwait : self.readNext = ({ self with packetEvent := false }, none) := by
              simp [readNext, hbuffer, herror, hopen]
            rw [hwait]
            exact .waits hbuffer herror
          · have hclosed : self.readNext =
                (self, some (.error (.connectionClosedError self.closedMessage))) := by
              simp [readNext, hbuffer, herror, hopen]
            rw [hclosed]
            exact .raised _ hbuffer

end TpckProtocol

end Tekmar482
