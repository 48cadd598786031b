import Tekmar482.PacketReader
import Tekmar482.DrainingWriters

/-!
# Transports over a stream

A serial and a TCP transport differ in their messages and in how they connect. Each opening
makes a connection with a protocol of its own. A call goes to the current connection, and stays
with it when the transport is closed or opened again in the meantime.
-/

namespace Tekmar482

namespace TpckProtocol

/-- `close` up to its wait for the loss of the connection. -/
def closeStart (self : TpckProtocol) : TpckProtocol :=
  { self with transport := self.transport.map fun _ => true }

/-- Whether `close` has to wait. -/
def awaitsLoss (self : TpckProtocol) : Bool := self.closedWaiter.any fun waiter => !waiter.done

/-- The end of `close`. -/
def closeEnd (self : TpckProtocol) : TpckProtocol :=
  { self with packets := [], parser := self.parser.reset }

end TpckProtocol

/-- A connection: its reader, the packets whose frames were handed to it with their bytes, and
how far its `close` has come. -/
structure Connection where
  reader : PacketReader
  accepted : List Packet := []
  written : List UInt8 := []
  opened : Bool := false
  closing : Bool := false
  cleared : Bool := false
  deriving DecidableEq

/-- A transport over a stream. The connections stay in the list after their end, since a call
may still be with them. The errors are those of the calls that had no connection to go to, or
whose packet could not be handed over. -/
structure StreamTransport where
  closedMessage : String
  notOpenMessage : String
  connections : List Connection := []
  protocol : Option Nat := none
  errors : List PyException := []
  deriving DecidableEq

/-- A transport over a serialx URL. -/
def serialxTpckTransport : StreamTransport where
  closedMessage := "serial transport closed"
  notOpenMessage := "serial transport is not open"

/-- A transport over a raw TCP stream. -/
def rawTcpTpckTransport : StreamTransport where
  closedMessage := "TCP transport closed"
  notOpenMessage := "TCP transport is not open"

/-- What can happen to a transport with one reader. -/
inductive StreamAction where
  /-- A connection is made. -/
  | made
  /-- `open` returns with a connection. -/
  | opened (c : Nat)
  /-- A callback of a connection, or its waiting reader goes on. -/
  | onReader (c : Nat) (action : PacketReader.Action)
  | read (timeout : Option ℚ)
  /-- The task that waits in a call of `read_packet` is cancelled. -/
  | cancelRead (c : Nat)
  | write (packet : Packet)
  | close
  /-- A `close` that waited for the loss of its connection goes on. -/
  | closeEnd (c : Nat)
  /-- A `close` that waits is cancelled. -/
  | cancelClose (c : Nat)
  deriving DecidableEq, Repr

namespace Connection

/-- Close the connection; without a wait the protocol is cleared at once. -/
def close (self : Connection) : Connection :=
  let started := self.reader.protocol.closeStart
  if started.awaitsLoss then
    { self with reader := { self.reader with protocol := started }, closing := true }
  else
    { self with reader := { self.reader with protocol := started.closeEnd }, cleared := true }

/-- The end of a `close` that waited. -/
def closeEnd (self : Connection) : Connection :=
  { self with
    reader := { self.reader with protocol := self.reader.protocol.closeEnd }
    closing := false
    cleared := true }

/-- Hand a frame to the connection. Waiting for the buffer to drain comes after it. -/
def write (self : Connection) (packet : Packet) : Except PyException Connection := do
  self.reader.protocol.requireTransport
  let frame ← Tpck.serialize packet
  return { self with accepted := self.accepted ++ [packet], written := self.written ++ frame }

/-- A call of the reader. -/
def step (self : Connection) (action : PacketReader.Action) : Option Connection :=
  (PacketReader.step self.reader action).map fun reader => { self with reader := reader }

end Connection

namespace StreamTransport

open Machine TpckParser

/-- The connection that calls go to. -/
def requireProtocol (self : StreamTransport) : Except PyException Nat :=
  match self.protocol with
  | none => .error (.transportError self.notOpenMessage)
  | some c => .ok c

def isOpen (self : StreamTransport) : Bool :=
  match self.protocol.bind fun c => self.connections[c]? with
  | none => false
  | some connection => connection.reader.protocol.isOpen

/-- A call that raises without a connection, or before its frame is handed over. -/
def raised (self : StreamTransport) (err : PyException) : StreamTransport :=
  { self with errors := self.errors ++ [err] }

def setConnection (self : StreamTransport) (c : Nat) (connection : Connection) : StreamTransport :=
  { self with connections := self.connections.set c connection }

/-- The reader has no call in progress. -/
def idle (self : StreamTransport) : Bool :=
  self.connections.all fun connection => connection.reader.task = .idle

/-- One step. A call of the reader, a write and `close` go to the current connection. -/
def step (self : StreamTransport) : StreamAction → Option StreamTransport
  | .made =>
      some { self with
        connections := self.connections ++ [{ reader := .opened self.closedMessage }] }
  | .opened c => do
      let connection ← self.connections[c]?
      if connection.opened then none
      else some { self.setConnection c { connection with opened := true } with protocol := some c }
  | .onReader _ (.readPacket _) => none
  | .onReader c action => do
      let connection ← self.connections[c]?
      let next ← connection.step action
      some (self.setConnection c next)
  | .read timeout =>
      if self.idle then
        match self.requireProtocol with
        | .error err => some (self.raised err)
        | .ok c => do
            let connection ← self.connections[c]?
            let next ← connection.step (.readPacket timeout)
            some (self.setConnection c next)
      else none
  | .cancelRead c => do
      let connection ← self.connections[c]?
      some (self.setConnection c
        { connection with reader := { connection.reader with task := .idle } })
  | .write packet =>
      match self.requireProtocol with
      | .error err => some (self.raised err)
      | .ok c => do
          let connection ← self.connections[c]?
          match connection.write packet with
          | .error err => some (self.raised err)
          | .ok next => some (self.setConnection c next)
  | .close =>
      match self.protocol with
      | none => some self
      | some c => do
          let connection ← self.connections[c]?
          some { self.setConnection c connection.close with protocol := none }
  | .closeEnd c => do
      let connection ← self.connections[c]?
      if connection.closing && !connection.reader.protocol.awaitsLoss then
        some (self.setConnection c connection.closeEnd)
      else none
  | .cancelClose c => do
      let connection ← self.connections[c]?
      if connection.closing then
        some (self.setConnection c { connection with closing := false })
      else none

end StreamTransport

end Tekmar482
