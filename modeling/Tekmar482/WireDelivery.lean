import Tekmar482.Reconnects
import Tekmar482.TrpcCodec
import Mathlib.Data.List.Forall2

/-!
# Commands over a connection

A command becomes a message, a packet and a frame at one end of a connection. The other end
frames the bytes it gets, in whatever chunks they come, and decodes the packets.
-/

namespace Tekmar482

/-- The packet that is written for a command. -/
def TrpcCommand.toPacket (self : TrpcCommand) : Except PyException Packet := do
  let message ← self.toMessage
  message.toPacket

/-- A message has the ids of a command and its normalized fields modulo their width. -/
structure Decodes (command : TrpcCommand) (message : TrpcPacket) : Prop where
  service : message.serviceId = command.service
  method : message.methodId = command.method
  extra : message.extra = []
  fields : ∀ spec, methodSpec command.method = some spec →
    ∃ normalized, spec.normalizeFields command.fields = .ok normalized ∧
      ∀ item ∈ spec.fields, message.body.get? item.name =
        some ((normalized.get? item.name).getD 0 % 256 ^ item.size)

/-- A command of a known method whose service is one byte. -/
structure TrpcCommand.Encodable (command : TrpcCommand) : Prop where
  service : 0 ≤ command.service ∧ command.service ≤ 255
  method : (methodSpec command.method).isSome

namespace TrpcCommand

variable {command : TrpcCommand} {packet : Packet}

theorem Encodable.exists_method (h : command.Encodable) :
    ∃ method : TrpcMethod, command.method = method.value := by
  obtain ⟨spec, hspec⟩ := Option.isSome_iff_exists.mp h.method
  obtain ⟨method, hmethod, -⟩ := Option.map_eq_some_iff.mp hspec
  exact ⟨method, (TrpcMethod.ofValue?_eq_some_iff command.method method).mp hmethod⟩

/-- The packet of a command is decoded to the command. -/
theorem Encodable.fromPacket (h : command.Encodable) (hpacket : command.toPacket = .ok packet) :
    ∃ message, TrpcPacket.fromPacket packet = .ok message ∧ Decodes command message := by
  obtain ⟨method, hmethod⟩ := h.exists_method
  cases hcreate : command.toMessage with
  | error err =>
      rw [toPacket, hcreate] at hpacket
      cases hpacket
  | ok created =>
      rw [toMessage, hmethod] at hcreate
      obtain ⟨normalized, data, decoded, hnormalized, hdata, hdecoded, hservice, hid, hextra,
        hbody⟩ := TrpcPacket.fromBytes_toBytes_create h.service hcreate
      have hwritten : command.toPacket = .ok { type := Packet.TYPE_TRPC, data := data } := by
        rw [toPacket, toMessage, hmethod, hcreate]
        exact congrArg (Except.map _) hdata
      cases hpacket.symm.trans hwritten
      refine ⟨decoded, ?_, hservice, hid.trans hmethod.symm, hextra, ?_⟩
      · rw [TrpcPacket.fromPacket, if_neg (by simp), hdecoded]
      · intro spec hspec
        rw [hmethod, TrpcPacket.methodSpec_value] at hspec
        obtain rfl := Option.some.inj hspec
        exact ⟨normalized, hnormalized, hbody⟩

/-- Packets written for commands are decoded to them, one after the other. -/
theorem decode_packets {commands : List TrpcCommand} {packets : List Packet}
    (hcommands : ∀ command ∈ commands, command.Encodable)
    (h : commands.map toPacket = packets.map .ok) :
    ∃ messages, packets.map TrpcPacket.fromPacket = messages.map .ok ∧
      List.Forall₂ Decodes commands messages := by
  induction commands generalizing packets with
  | nil =>
      obtain rfl := List.map_eq_nil_iff.mp h.symm
      exact ⟨[], rfl, .nil⟩
  | cons command rest ih =>
      obtain ⟨packet, others, rfl, hpacket, hothers⟩ := List.map_eq_cons_iff.mp h.symm
      obtain ⟨hfirst, hrest⟩ := List.forall_mem_cons.mp hcommands
      obtain ⟨message, hmessage, hdecodes⟩ := hfirst.fromPacket hpacket.symm
      obtain ⟨messages, hmessages, hall⟩ := ih hrest hothers.symm
      refine ⟨message :: messages, ?_, .cons hdecodes hall⟩
      rw [List.map_cons, hmessage, hmessages, List.map_cons]

end TrpcCommand

namespace StreamTransport

open Machine TpckParser

section Link

variable {closedMessage notOpenMessage : String} {actions : List StreamAction}
  {self : StreamTransport}
  (hrun : Run step { closedMessage, notOpenMessage } actions self)
  {c : Nat} {connection : Connection} (hconnection : self.connections[c]? = some connection)
  {otherClosed otherNotOpen : String} {otherActions : List StreamAction} {other : StreamTransport}
  (hother : Run step { closedMessage := otherClosed, notOpenMessage := otherNotOpen }
    otherActions other)
  {d : Nat} {peer : Connection} (hpeer : other.connections[d]? = some peer)

include hrun hconnection hother hpeer

/-- The commands written at one end of a connection are the messages read at the other end, in
their order. As long as some bytes are under way or some packets are buffered, it is the first
of the commands; when everything has come and was read, it is all of them. -/
theorem messages_delivered {commands : List TrpcCommand}
    (hcommands : ∀ command ∈ commands, command.Encodable)
    (haccepted : commands.map TrpcCommand.toPacket = connection.accepted.map .ok)
    (hwire : peer.reader.received <+: connection.written) :
    ∃ messages : List TrpcPacket,
      peer.reader.returned.map TrpcPacket.fromPacket = messages.map .ok ∧
      List.Forall₂ Decodes (commands.take messages.length) messages ∧
      (peer.reader.received = connection.written → peer.cleared = false →
        peer.reader.protocol.packets = [] → messages.length = commands.length) := by
  have hsent := ((separated_run hrun).sound c connection hconnection).feeds_written
  have hsound := (separated_run hother).sound d peer hpeer
  obtain ⟨decoded, hdecoded, hall⟩ := TrpcCommand.decode_packets hcommands haccepted
  have hprefix := hsound.returned_prefix hsent hwire
  let taken := peer.reader.returned.length
  have hreturned : peer.reader.returned = connection.accepted.take taken :=
    List.prefix_iff_eq_take.mp hprefix
  have hmessages : peer.reader.returned.map TrpcPacket.fromPacket =
      (decoded.take taken).map .ok := by
    calc peer.reader.returned.map TrpcPacket.fromPacket
        = (connection.accepted.map TrpcPacket.fromPacket).take taken := by
          rw [hreturned, List.map_take]
      _ = (decoded.take taken).map .ok := by rw [hdecoded, List.map_take]
  have hlength : (decoded.take taken).length = taken := by
    have hcount := congrArg List.length hmessages
    rw [List.length_map, List.length_map] at hcount
    exact hcount.symm
  refine ⟨decoded.take taken, hmessages, ?_, fun hcome hcleared hempty => ?_⟩
  · rw [hlength]
    exact List.forall₂_take taken hall
  · have hread := hsound.delivered hsent hcome hcleared
    rw [hempty, List.append_nil] at hread
    have hcount := congrArg List.length haccepted
    rw [List.length_map, List.length_map] at hcount
    rw [hlength, hcount, ← hread]

end Link

/-- A request for the protocol version, and an update that turns reporting on. -/
def twoCommands : List TrpcCommand :=
  [.request .protocolVersion, .update .reportingState (reportingStateFields true)]

def twoPackets : List Packet := [⟨6, [1, 143, 1, 0, 0, 0, 0]⟩, ⟨6, [0, 15, 1, 0, 0, 1]⟩]

/-- The connection that the two commands are written to. -/
def writingConnection : Connection where
  reader := .opened "TCP transport closed"
  accepted := twoPackets
  written := [SOF, 7, 6, 1, 143, 1, 0, 0, 0, 0, 158, EOF] ++
    [SOF, 6, 6, 0, 15, 1, 0, 0, 1, 29, EOF]
  opened := true

/-- The other end, which has the first frame and a part of the second one. -/
def readingActions : List StreamAction :=
  [.made, .opened 0, .read none, .onReader 0 (.dataReceived [SOF, 7, 6, 1, 143]),
    .onReader 0 (.dataReceived [1, 0, 0, 0, 0, 158, EOF, SOF, 6]), .onReader 0 .wake]

def readingConnection : Connection where
  reader := {
    protocol := {
      closedMessage := "serial transport closed", packetEvent := true, transport := some false
      closedWaiter := some .pending
      parser := { state := .type, length := 6 } }
    received := [SOF, 7, 6, 1, 143, 1, 0, 0, 0, 0, 158, EOF, SOF, 6]
    results := [.packet ⟨6, [1, 143, 1, 0, 0, 0, 0]⟩] }
  opened := true

theorem messages_delivered_partly :
    ∃ messages : List TrpcPacket,
      readingConnection.reader.returned.map TrpcPacket.fromPacket = messages.map .ok ∧
      List.Forall₂ Decodes (twoCommands.take messages.length) messages := by
  have hwriting : Run step rawTcpTpckTransport
      [.made, .opened 0, .write ⟨6, [1, 143, 1, 0, 0, 0, 0]⟩, .write ⟨6, [0, 15, 1, 0, 0, 1]⟩]
      { rawTcpTpckTransport with connections := [writingConnection], protocol := some 0 } :=
    run_iff_exec.mpr (by decide)
  have hreading : Run step serialxTpckTransport readingActions
      { serialxTpckTransport with connections := [readingConnection], protocol := some 0 } :=
    run_iff_exec.mpr (by decide)
  have hcommands : ∀ command ∈ twoCommands, command.Encodable := by
    intro command hcommand
    simp only [twoCommands, List.mem_cons, List.not_mem_nil, or_false] at hcommand
    rcases hcommand with rfl | rfl <;> exact ⟨by decide, by decide⟩
  obtain ⟨messages, hmessages, hdecodes, -⟩ := messages_delivered hwriting
    (show [writingConnection][0]? = some writingConnection from rfl) hreading
    (show [readingConnection][0]? = some readingConnection from rfl) hcommands
    (show twoCommands.map TrpcCommand.toPacket = twoPackets.map .ok by decide) (by decide)
  exact ⟨messages, hmessages, hdecodes⟩

end StreamTransport

end Tekmar482
