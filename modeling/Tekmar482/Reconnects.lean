import Tekmar482.StreamTransport

/-!
# Reconnects

Every connection of a transport is framed on its own, and the frames that one end hands to a
connection are the packets that the other end reads from it.
-/

namespace Tekmar482

/-! ## Frames one after the other -/

theorem Tpck.serializeAll_concat {packets : List Packet} {frames frame : List UInt8}
    {packet : Packet} (h : Tpck.serializeAll packets = .ok frames)
    (hframe : Tpck.serialize packet = .ok frame) :
    Tpck.serializeAll (packets ++ [packet]) = .ok (frames ++ frame) := by
  induction packets generalizing frames with
  | nil =>
      obtain rfl := Except.ok.inj h
      rw [List.nil_append, Tpck.serializeAll, hframe]
      exact congrArg Except.ok (List.append_nil frame)
  | cons first rest ih =>
      rw [Tpck.serializeAll] at h
      cases hfirst : Tpck.serialize first with
      | error err =>
          rw [hfirst] at h
          cases h
      | ok head =>
          cases hrest : Tpck.serializeAll rest with
          | error err =>
              rw [hfirst, hrest] at h
              cases h
          | ok tail =>
              rw [hfirst, hrest] at h
              obtain rfl := Except.ok.inj h
              rw [List.cons_append, Tpck.serializeAll, hfirst, ih hrest, List.append_assoc]
              rfl

/-- Packets that were serialized have at most 255 payload bytes each. -/
theorem Tpck.length_of_serializeAll {packets : List Packet} {frames : List UInt8}
    (h : Tpck.serializeAll packets = .ok frames) : ∀ p ∈ packets, p.data.length ≤ 255 := by
  induction packets generalizing frames with
  | nil =>
      intro p hp
      cases hp
  | cons first rest ih =>
      rw [Tpck.serializeAll] at h
      cases hfirst : Tpck.serialize first with
      | error err =>
          rw [hfirst] at h
          cases h
      | ok head =>
          cases hrest : Tpck.serializeAll rest with
          | error err =>
              rw [hfirst, hrest] at h
              cases h
          | ok tail =>
              intro p hp
              rcases List.mem_cons.mp hp with rfl | hmem
              · rw [Tpck.serialize] at hfirst
                split at hfirst
                · cases hfirst
                · rename_i hlen
                  exact Nat.le_of_not_gt hlen
              · exact ih hrest p hmem

namespace TpckParser

/-- A parser makes the packets again of their frames. -/
theorem feeds_serializeAll {packets : List Packet} {frames : List UInt8}
    (h : Tpck.serializeAll packets = .ok frames) :
    Feeds (fresh false) frames (fresh false) packets := by
  by_cases hnone : packets = []
  · subst hnone
    obtain rfl := Except.ok.inj h
    exact Feeds.nil _
  · exact feeds_frames rfl (Tpck.length_of_serializeAll h) h hnone

/-- What a lenient parser has made of the first bytes is the beginning of what it makes of all
of them. -/
theorem Feeds.prefix_of_append {self mid last : TpckParser} {first rest : List UInt8}
    {before packets : List Packet} (hfirst : Feeds self first mid before)
    (hstrict : self.strictChecksum = false) (hall : Feeds self (first ++ rest) last packets) :
    before <+: packets := by
  obtain ⟨parser, found, hfound, hlenient⟩ := exists_feeds self hstrict first
  cases hfirst.symm.trans hfound
  obtain ⟨parser, after, hafter, -⟩ := exists_feeds mid hlenient rest
  cases hall.symm.trans (hfirst.append hafter)
  exact List.prefix_append _ _

end TpckParser

/-! ## The loss of a connection -/

namespace TpckProtocol

@[simp] theorem closedWaiter_wakeDrainWaiter (self : TpckProtocol) (err : Option PyException) :
    (self.wakeDrainWaiter err).closedWaiter = self.closedWaiter := by
  simp only [wakeDrainWaiter]
  split <;> rfl

theorem closedWaiter_dataReceived (self : TpckProtocol) (data : List UInt8) :
    (self.dataReceived data).closedWaiter = self.closedWaiter := by
  simp only [dataReceived]
  split
  · rfl
  · split <;> rfl

end TpckProtocol

namespace PacketReader

theorem resume_closedWaiter (self : PacketReader) (timed : Bool) :
    (self.resume timed).protocol.closedWaiter = self.protocol.closedWaiter ∧
      (self.resume timed).protocol.transport = self.protocol.transport := by
  obtain ⟨packet, rest, -, heq⟩ | ⟨err, -, heq⟩ | ⟨-, -, heq⟩ := self.resume_cases timed
  all_goals
    rw [heq]
    exact ⟨rfl, rfl⟩

/-- Only the loss of the connection completes the waiter of `close`, and a lost connection
stays lost. -/
theorem step_closedWaiter {self next : PacketReader} {action : Action}
    (h : step self action = some next) :
    next.protocol.transport = none ∨
      next.protocol.closedWaiter = self.protocol.closedWaiter ∧
        (self.protocol.transport = none → next.protocol.transport = none) := by
  cases action with
  | dataReceived data =>
      obtain ⟨hmade, h⟩ := Option.ite_none_right_eq_some.mp h
      obtain rfl := Option.some.inj h
      refine .inr ⟨TpckProtocol.closedWaiter_dataReceived _ data, fun hlost => ?_⟩
      rw [hlost] at hmade
      cases hmade
  | pauseWriting =>
      obtain rfl := Option.some.inj h
      exact .inr ⟨rfl, id⟩
  | resumeWriting =>
      obtain rfl := Option.some.inj h
      refine .inr ⟨?_, ?_⟩
      all_goals simp [TpckProtocol.resumeWriting]
  | closing =>
      obtain rfl := Option.some.inj h
      exact .inr ⟨rfl, fun hlost => by simp [hlost]⟩
  | connectionLost exc =>
      obtain ⟨-, h⟩ := Option.ite_none_right_eq_some.mp h
      obtain rfl := Option.some.inj h
      exact .inl (TpckProtocol.connectionLost_transport _ exc)
  | readPacket timeout =>
      obtain ⟨-, h⟩ := Option.ite_none_right_eq_some.mp h
      cases timeout with
      | none =>
          obtain rfl := Option.some.inj h
          obtain ⟨hwaiter, htransport⟩ := self.resume_closedWaiter false
          exact .inr ⟨hwaiter, htransport.trans⟩
      | some seconds =>
          simp only at h
          split at h
          · obtain rfl := Option.some.inj h
            exact .inr ⟨rfl, id⟩
          · obtain rfl := Option.some.inj h
            obtain ⟨hwaiter, htransport⟩ := self.resume_closedWaiter true
            exact .inr ⟨hwaiter, htransport.trans⟩
  | wake =>
      simp only [step] at h
      split at h
      · rename_i timed _
        obtain ⟨-, h⟩ := Option.ite_none_right_eq_some.mp h
        obtain rfl := Option.some.inj h
        obtain ⟨hwaiter, htransport⟩ := self.resume_closedWaiter timed
        exact .inr ⟨hwaiter, htransport.trans⟩
      · cases h
  | timeout =>
      simp only [step] at h
      split at h
      · cases h
      · cases h
      · obtain rfl := Option.some.inj h
        exact .inr ⟨rfl, id⟩

/-- Without a connection and without buffered packets, no call returns a packet. -/
theorem step_empty {self next : PacketReader} {action : Action}
    (hempty : self.protocol.packets = []) (hlost : self.protocol.transport = none)
    (h : step self action = some next) :
    next.protocol.packets = [] ∧ next.returned = self.returned ∧
      next.received = self.received := by
  rcases step_cases h with hreads | hcall
  · cases hreads with
    | expires _ => exact ⟨hempty, rfl, rfl⟩
    | timesOut => exact ⟨hempty, by simp [returned, packetsOf], rfl⟩
    | resumes timed =>
        obtain ⟨packet, rest, hbuffer, -⟩ | ⟨err, -, heq⟩ | ⟨-, -, heq⟩ := self.resume_cases timed
        · cases hempty.symm.trans hbuffer
        · rw [heq]
          exact ⟨hempty, by simp [returned, packetsOf_error], rfl⟩
        · rw [heq]
          exact ⟨hempty, rfl, rfl⟩
  · cases hcall with
    | received data hmade =>
        rw [hlost] at hmade
        cases hmade
    | signalled protocol _ hpackets _ _ => exact ⟨hpackets.trans hempty, rfl, rfl⟩

end PacketReader

/-! ## What happens to one connection -/

namespace Connection

open TpckParser PacketReader

/-- What a step of the transport can do to a connection. -/
inductive Moves (self : Connection) : Connection → Prop
  | reads {action : PacketReader.Action} {reader : PacketReader}
      (h : PacketReader.step self.reader action = some reader) :
      Moves self { self with reader := reader }
  | opens (h : self.opened = false) : Moves self { self with opened := true }
  | cancels : Moves self { self with reader := { self.reader with task := .idle } }
  | writes {packet : Packet} {next : Connection} (h : self.write packet = .ok next) :
      Moves self next
  | closes (h : self.opened = true) : Moves self self.close
  | closeEnds (h : self.closing = true) (hlost : self.reader.protocol.awaitsLoss = false) :
      Moves self self.closeEnd
  | cancelsClose : Moves self { self with closing := false }

/-- What every step keeps of a connection. -/
structure Sound (connection : Connection) : Prop where
  framed : ∃ parser packets,
    Feeds (fresh false) connection.reader.received parser packets ∧
      connection.reader.returned <+: packets
  lossless : connection.cleared = false → Lossless connection.reader
  empty : connection.cleared = true → connection.reader.protocol.packets = [] ∧
    connection.reader.protocol.transport = none
  lost : connection.reader.protocol.awaitsLoss = false → connection.reader.protocol.transport = none
  unopened : connection.opened = false → connection.closing = false ∧ connection.cleared = false
  sent : Tpck.serializeAll connection.accepted = .ok connection.written

variable {connection next : Connection}

theorem write_eq_ok {packet : Packet} (h : connection.write packet = .ok next) :
    ∃ frame, Tpck.serialize packet = .ok frame ∧
      next = { connection with
        accepted := connection.accepted ++ [packet], written := connection.written ++ frame } := by
  rw [write] at h
  cases htransport : connection.reader.protocol.requireTransport with
  | error err =>
      rw [htransport] at h
      cases h
  | ok _ =>
      rw [htransport] at h
      cases hframe : Tpck.serialize packet with
      | error err =>
          rw [hframe] at h
          cases h
      | ok frame =>
          rw [hframe] at h
          exact ⟨frame, rfl, (Except.ok.inj h).symm⟩

theorem sound_made (closedMessage : String) : Sound { reader := .opened closedMessage } where
  framed := ⟨_, _, Feeds.nil _, List.nil_prefix⟩
  lossless _ := lossless_opened closedMessage
  empty h := Bool.noConfusion h
  lost h := Bool.noConfusion h
  unopened _ := ⟨rfl, rfl⟩
  sent := rfl

theorem Sound.reads (h : Sound connection) {action : PacketReader.Action} {reader : PacketReader}
    (hstep : PacketReader.step connection.reader action = some reader) :
    Sound { connection with reader := reader } where
  framed := by
    cases hcleared : connection.cleared with
    | false =>
        obtain ⟨parser, packets, hfeeds, -, hall⟩ := ((h.lossless hcleared).step hstep).framed
        exact ⟨parser, packets, hfeeds, _, hall⟩
    | true =>
        obtain ⟨hempty, hlost⟩ := h.empty hcleared
        obtain ⟨-, hreturned, hreceived⟩ := step_empty hempty hlost hstep
        rw [hreturned, hreceived]
        exact h.framed
  lossless hcleared := (h.lossless hcleared).step hstep
  empty hcleared := by
    obtain ⟨hempty, hlost⟩ := h.empty hcleared
    refine ⟨(step_empty hempty hlost hstep).1, ?_⟩
    rcases step_closedWaiter hstep with hnone | ⟨-, hkept⟩
    · exact hnone
    · exact hkept hlost
  lost hwaits := by
    rcases step_closedWaiter hstep with hnone | ⟨hwaiter, hkept⟩
    · exact hnone
    · rw [TpckProtocol.awaitsLoss, hwaiter] at hwaits
      exact hkept (h.lost hwaits)
  unopened := h.unopened
  sent := h.sent

theorem Sound.writes (h : Sound connection) {packet : Packet}
    (hwrite : connection.write packet = .ok next) : Sound next := by
  obtain ⟨frame, hframe, rfl⟩ := write_eq_ok hwrite
  have hsent := Tpck.serializeAll_concat h.sent hframe
  exact ⟨h.framed, h.lossless, h.empty, h.lost, h.unopened, hsent⟩

/-- A protocol that starts to close keeps its buffer. -/
theorem lossless_closeStart {reader : PacketReader} (h : Lossless reader) :
    Lossless { reader with protocol := reader.protocol.closeStart } :=
  ⟨h.framed, h.lenient, h.quiet⟩

theorem Sound.closeEnd (h : Sound connection) (hopened : connection.opened = true)
    (hlost : connection.reader.protocol.awaitsLoss = false) : Sound connection.closeEnd where
  framed := h.framed
  lossless hcleared := Bool.noConfusion hcleared
  empty _ := ⟨rfl, h.lost hlost⟩
  lost := h.lost
  unopened hnot := Bool.noConfusion (hopened.symm.trans hnot)
  sent := h.sent

theorem Sound.close (h : Sound connection) (hopened : connection.opened = true) :
    Sound connection.close := by
  have hunopened {P : Prop} (hnot : connection.opened = false) : P :=
    Bool.noConfusion (hopened.symm.trans hnot)
  have hempty (hcleared : connection.cleared = true) := h.empty hcleared
  rw [Connection.close]
  split
  · rename_i hwaits
    refine ⟨h.framed, fun hcleared => lossless_closeStart (h.lossless hcleared), ?_, ?_,
      hunopened, h.sent⟩
    · intro hcleared
      refine ⟨(hempty hcleared).1, ?_⟩
      simp only [TpckProtocol.closeStart, (hempty hcleared).2, Option.map_none]
    · intro hnot
      cases hwaits.symm.trans hnot
  · rename_i hnot
    have hlost := h.lost (Bool.eq_false_iff.mpr hnot)
    have hclosed : connection.reader.protocol.closeStart.transport = none := by
      simp only [TpckProtocol.closeStart, hlost, Option.map_none]
    exact ⟨h.framed, fun hcleared => Bool.noConfusion hcleared, fun _ => ⟨rfl, hclosed⟩,
      fun _ => hclosed, hunopened, h.sent⟩

theorem Sound.moves (h : Sound connection) (hmoves : Moves connection next) : Sound next := by
  cases hmoves with
  | reads hstep => exact h.reads hstep
  | opens _ =>
      exact ⟨h.framed, h.lossless, h.empty, h.lost, fun hnot => Bool.noConfusion hnot, h.sent⟩
  | cancels =>
      exact ⟨h.framed, fun hcleared => ⟨(h.lossless hcleared).framed, (h.lossless hcleared).lenient,
        (h.lossless hcleared).quiet⟩, h.empty, h.lost, h.unopened, h.sent⟩
  | writes hwrite => exact h.writes hwrite
  | closes hopened => exact h.close hopened
  | closeEnds hclosing hlost =>
      refine h.closeEnd ?_ hlost
      by_contra hnot
      cases hclosing.symm.trans (h.unopened (Bool.eq_false_iff.mpr hnot)).1
  | cancelsClose =>
      exact ⟨h.framed, h.lossless, h.empty, h.lost, fun hnot => ⟨rfl, (h.unopened hnot).2⟩, h.sent⟩

/-- A parser makes the packets that were handed over of the bytes written. -/
theorem Sound.feeds_written (h : Sound connection) :
    Feeds (fresh false) connection.written (fresh false) connection.accepted :=
  feeds_serializeAll h.sent

/-- The calls return the first of the packets that the bytes of the other end stand for. -/
theorem Sound.returned_prefix (h : Sound connection) {bytes : List UInt8} {parser : TpckParser}
    {packets : List Packet} (hbytes : Feeds (fresh false) bytes parser packets)
    (hwire : connection.reader.received <+: bytes) : connection.reader.returned <+: packets := by
  obtain ⟨rest, rfl⟩ := hwire
  obtain ⟨mid, first, hfeeds, hfirst⟩ := h.framed
  exact hfirst.trans (hfeeds.prefix_of_append rfl hbytes)

theorem Sound.delivered (h : Sound connection) {bytes : List UInt8} {parser : TpckParser}
    {packets : List Packet} (hbytes : Feeds (fresh false) bytes parser packets)
    (hwire : connection.reader.received = bytes) (hcleared : connection.cleared = false) :
    connection.reader.returned ++ connection.reader.protocol.packets = packets := by
  obtain ⟨_, _, hfeeds, -, hall⟩ := (h.lossless hcleared).framed
  rw [hwire] at hfeeds
  cases hfeeds.symm.trans hbytes
  exact hall

/-- A connection that has been cleared returns nothing any more. -/
theorem Moves.of_cleared (hmoves : Moves connection next) (h : Sound connection)
    (hcleared : connection.cleared = true) :
    next.cleared = true ∧ next.reader.returned = connection.reader.returned := by
  obtain ⟨hempty, hlost⟩ := h.empty hcleared
  cases hmoves with
  | reads hstep => exact ⟨hcleared, (step_empty hempty hlost hstep).2.1⟩
  | opens _ | cancels | cancelsClose => exact ⟨hcleared, rfl⟩
  | writes hwrite =>
      obtain ⟨frame, -, rfl⟩ := write_eq_ok hwrite
      exact ⟨hcleared, rfl⟩
  | closes _ =>
      rw [Connection.close]
      split
      · exact ⟨hcleared, rfl⟩
      · exact ⟨rfl, rfl⟩
  | closeEnds _ _ => exact ⟨rfl, rfl⟩

end Connection

namespace Connection

/-- A connection that calls may go to. -/
structure Live (connection : Connection) : Prop where
  opened : connection.opened = true
  notClosing : connection.closing = false
  notCleared : connection.cleared = false

end Connection

/-! ## Runs of a transport -/

namespace StreamTransport

open Connection Machine TpckParser

/-- What a step can be. -/
inductive Turns (self : StreamTransport) : StreamTransport → Prop
  | stays : Turns self self
  | raises (err : PyException) : Turns self (self.raised err)
  | makes : Turns self { self with
      connections := self.connections ++ [{ reader := .opened self.closedMessage }] }
  | opens {c : Nat} {connection : Connection} (hconnection : self.connections[c]? = some connection)
      (hnew : connection.opened = false) :
      Turns self
        { self.setConnection c { connection with opened := true } with protocol := some c }
  | moves {c : Nat} {connection after : Connection}
      (hconnection : self.connections[c]? = some connection) (hmoves : Moves connection after)
      (hlive : Live connection → Live after) : Turns self (self.setConnection c after)
  | closes {c : Nat} {connection : Connection} (hprotocol : self.protocol = some c)
      (hconnection : self.connections[c]? = some connection) :
      Turns self { self.setConnection c connection.close with protocol := none }

/-- What every step keeps: each connection is sound, and calls go to a live one. -/
structure Separated (transport : StreamTransport) : Prop where
  sound : ∀ (c : Nat) (connection : Connection),
    transport.connections[c]? = some connection → connection.Sound
  current : ∀ c : Nat, transport.protocol = some c →
    ∃ connection : Connection, transport.connections[c]? = some connection ∧ connection.Live

variable {self next : StreamTransport} {action : StreamAction}

/-- A call of the reader is a move of its connection. -/
theorem turns_reader {c : Nat} {readerAction : PacketReader.Action}
    (h : (do
      let connection ← self.connections[c]?
      let after ← connection.step readerAction
      some (self.setConnection c after)) = some next) : Turns self next := by
  obtain ⟨connection, hconnection, h⟩ := Option.bind_eq_some_iff.mp h
  obtain ⟨after, hafter, h⟩ := Option.bind_eq_some_iff.mp h
  obtain ⟨reader, hreader, rfl⟩ := Option.map_eq_some_iff.mp hafter
  obtain rfl := Option.some.inj h
  exact .moves hconnection (.reads hreader)
    fun hlive => ⟨hlive.opened, hlive.notClosing, hlive.notCleared⟩

theorem step_turns (h : step self action = some next) : Turns self next := by
  cases action with
  | made =>
      obtain rfl := Option.some.inj h
      exact .makes
  | opened c =>
      obtain ⟨connection, hconnection, h⟩ := Option.bind_eq_some_iff.mp h
      obtain ⟨hnew, h⟩ := Option.ite_none_left_eq_some.mp h
      obtain rfl := Option.some.inj h
      exact .opens hconnection (Bool.eq_false_iff.mpr hnew)
  | onReader c readerAction =>
      cases readerAction with
      | readPacket timeout => cases h
      | _ => exact turns_reader h
  | read timeout =>
      obtain ⟨-, h⟩ := Option.ite_none_right_eq_some.mp h
      cases hprotocol : self.protocol with
      | none =>
          rw [requireProtocol, hprotocol] at h
          obtain rfl := Option.some.inj h
          exact .raises _
      | some c =>
          rw [requireProtocol, hprotocol] at h
          exact turns_reader h
  | cancelRead c =>
      obtain ⟨connection, hconnection, h⟩ := Option.bind_eq_some_iff.mp h
      obtain rfl := Option.some.inj h
      exact .moves hconnection .cancels
        fun hlive => ⟨hlive.opened, hlive.notClosing, hlive.notCleared⟩
  | write packet =>
      rw [step, requireProtocol] at h
      cases hprotocol : self.protocol with
      | none =>
          rw [hprotocol] at h
          obtain rfl := Option.some.inj h
          exact .raises _
      | some c =>
          rw [hprotocol] at h
          obtain ⟨connection, hconnection, h⟩ := Option.bind_eq_some_iff.mp h
          cases hwrite : connection.write packet with
          | error err =>
              rw [hwrite] at h
              obtain rfl := Option.some.inj h
              exact .raises err
          | ok after =>
              rw [hwrite] at h
              obtain rfl := Option.some.inj h
              refine .moves hconnection (.writes hwrite) ?_
              obtain ⟨frame, -, rfl⟩ := write_eq_ok hwrite
              exact fun hlive => ⟨hlive.opened, hlive.notClosing, hlive.notCleared⟩
  | close =>
      rw [step] at h
      cases hprotocol : self.protocol with
      | none =>
          rw [hprotocol] at h
          obtain rfl := Option.some.inj h
          exact .stays
      | some c =>
          rw [hprotocol] at h
          obtain ⟨connection, hconnection, h⟩ := Option.bind_eq_some_iff.mp h
          obtain rfl := Option.some.inj h
          exact .closes hprotocol hconnection
  | closeEnd c =>
      obtain ⟨connection, hconnection, h⟩ := Option.bind_eq_some_iff.mp h
      obtain ⟨hwaited, h⟩ := Option.ite_none_right_eq_some.mp h
      obtain rfl := Option.some.inj h
      rw [Bool.and_eq_true, Bool.not_eq_true'] at hwaited
      refine .moves hconnection (.closeEnds hwaited.1 hwaited.2) fun hlive => ?_
      cases hwaited.1.symm.trans hlive.notClosing
  | cancelClose c =>
      obtain ⟨connection, hconnection, h⟩ := Option.bind_eq_some_iff.mp h
      obtain ⟨-, h⟩ := Option.ite_none_right_eq_some.mp h
      obtain rfl := Option.some.inj h
      exact .moves hconnection .cancelsClose
        fun hlive => ⟨hlive.opened, rfl, hlive.notCleared⟩

theorem getElem?_concat_cases {connections : List Connection} {c : Nat}
    {made found : Connection} (h : (connections ++ [made])[c]? = some found) :
    connections[c]? = some found ∨ found = made := by
  rcases Nat.lt_or_ge c connections.length with hlt | hge
  · exact .inl (List.getElem?_append_left hlt ▸ h)
  · rw [List.getElem?_append_right hge, List.getElem?_singleton] at h
    obtain ⟨-, h⟩ := Option.ite_none_right_eq_some.mp h
    exact .inr (Option.some.inj h).symm

theorem getElem?_concat_of_mem {connections : List Connection} {c : Nat}
    {connection : Connection} (h : connections[c]? = some connection) (made : Connection) :
    (connections ++ [made])[c]? = some connection :=
  (List.getElem?_append_left (List.getElem?_eq_some_iff.mp h).1).trans h

/-- A connection of the changed list is the changed one, or was there before. -/
theorem getElem?_set_cases {connections : List Connection} {c d : Nat} {after found : Connection}
    (h : (connections.set c after)[d]? = some found) :
    d = c ∧ found = after ∨ d ≠ c ∧ connections[d]? = some found := by
  by_cases hsame : c = d
  · subst hsame
    rw [List.getElem?_set_self'] at h
    obtain ⟨_, -, rfl⟩ := Option.map_eq_some_iff.mp h
    exact .inl ⟨rfl, rfl⟩
  · rw [List.getElem?_set_ne hsame] at h
    exact .inr ⟨Ne.symm hsame, h⟩

theorem getElem?_set_of_mem {connections : List Connection} {c : Nat} {connection : Connection}
    (h : connections[c]? = some connection) (after : Connection) :
    (connections.set c after)[c]? = some after := by
  rw [List.getElem?_set_self', h]
  rfl

theorem Separated.set (h : Separated self) {c : Nat} {after : Connection} (hafter : after.Sound) :
    ∀ (d : Nat) (found : Connection),
      (self.connections.set c after)[d]? = some found → found.Sound := by
  intro d found hfound
  rcases getElem?_set_cases hfound with ⟨-, rfl⟩ | ⟨-, hold⟩
  · exact hafter
  · exact h.sound d found hold

theorem Separated.turns (h : Separated self) (hturns : Turns self next) : Separated next := by
  cases hturns with
  | stays => exact h
  | raises err => exact ⟨h.sound, h.current⟩
  | makes =>
      constructor
      · intro c connection hconnection
        rcases getElem?_concat_cases hconnection with hold | hmade
        · exact h.sound c connection hold
        · exact hmade ▸ sound_made self.closedMessage
      · intro c hprotocol
        obtain ⟨connection, hconnection, hlive⟩ := h.current c hprotocol
        exact ⟨connection, getElem?_concat_of_mem hconnection _, hlive⟩
  | @opens c connection hconnection hnew =>
      have hsound := h.sound c connection hconnection
      refine ⟨h.set (hsound.moves (.opens hnew)), fun d hd => ?_⟩
      obtain rfl := Option.some.inj hd
      obtain ⟨hclosing, hcleared⟩ := hsound.unopened hnew
      exact ⟨_, getElem?_set_of_mem hconnection _, rfl, hclosing, hcleared⟩
  | @moves c connection after hconnection hmoves hlive =>
      have hsound := h.sound c connection hconnection
      refine ⟨h.set (hsound.moves hmoves), fun d hd => ?_⟩
      obtain ⟨current, hcurrent, hcurrentLive⟩ := h.current d hd
      by_cases hsame : c = d
      · subst hsame
        cases hconnection.symm.trans hcurrent
        exact ⟨after, getElem?_set_of_mem hconnection _, hlive hcurrentLive⟩
      · exact ⟨current, (List.getElem?_set_ne hsame).trans hcurrent, hcurrentLive⟩
  | @closes c connection hprotocol hconnection =>
      obtain ⟨current, hcurrent, hlive⟩ := h.current c hprotocol
      cases hconnection.symm.trans hcurrent
      have hsound := h.sound c connection hconnection
      refine ⟨h.set (hsound.close hlive.opened), fun d hd => ?_⟩
      cases hd

/-- A cleared connection stays cleared and has returned its last packet. -/
theorem Separated.turns_cleared (h : Separated self) (hturns : Turns self next) {c : Nat}
    {connection : Connection} (hconnection : self.connections[c]? = some connection)
    (hcleared : connection.cleared = true) :
    ∃ after, next.connections[c]? = some after ∧ after.cleared = true ∧
      after.reader.returned = connection.reader.returned := by
  have hmoved {d : Nat} {other after : Connection} (hother : self.connections[d]? = some other)
      (hmoves : Moves other after) :
      ∃ found, (self.connections.set d after)[c]? = some found ∧ found.cleared = true ∧
        found.reader.returned = connection.reader.returned := by
    by_cases hsame : d = c
    · subst hsame
      cases hconnection.symm.trans hother
      exact ⟨after, getElem?_set_of_mem hother _,
        hmoves.of_cleared (h.sound d connection hother) hcleared⟩
    · exact ⟨connection, (List.getElem?_set_ne hsame).trans hconnection, hcleared, rfl⟩
  cases hturns with
  | stays | raises _ => exact ⟨connection, hconnection, hcleared, rfl⟩
  | makes =>
      exact ⟨connection, getElem?_concat_of_mem hconnection _, hcleared, rfl⟩
  | opens hother hnew => exact hmoved hother (.opens hnew)
  | moves hother hmoves _ => exact hmoved hother hmoves
  | closes hprotocol hother =>
      obtain ⟨current, hcurrent, hlive⟩ := h.current _ hprotocol
      cases hother.symm.trans hcurrent
      exact hmoved hother (.closes hlive.opened)

/-- A connection that has been cleared, with the packets that its calls have returned. -/
structure Retired (c : Nat) (returned : List Packet) (transport : StreamTransport) : Prop where
  separated : Separated transport
  retired : ∃ connection : Connection, transport.connections[c]? = some connection ∧
    connection.cleared = true ∧ connection.reader.returned = returned

section Runs

variable {closedMessage notOpenMessage : String} {actions : List StreamAction}

theorem separated_run (hrun : Run step { closedMessage, notOpenMessage } actions self) :
    Separated self := by
  refine hrun.invariant (fun s a t hs _ hstep => hs.turns (step_turns hstep)) ?_
  constructor
  · intro c connection hconnection
    cases hconnection
  · intro c hprotocol
    cases hprotocol

/-- A cleared connection stays so in every run, and returns nothing more. -/
theorem Retired.run {c : Nat} {returned : List Packet} (h : Retired c returned self)
    (hrun : Run step self actions next) : Retired c returned next := by
  refine hrun.invariant (fun s a t hs _ hstep => ?_) h
  obtain ⟨after, hafter, hclear, hreturned⟩ := hs.retired
  obtain ⟨last, hlast, hlastClear, hlastReturned⟩ :=
    hs.separated.turns_cleared (step_turns hstep) hafter hclear
  exact ⟨hs.separated.turns (step_turns hstep), last, hlast, hlastClear,
    hlastReturned.trans hreturned⟩

theorem Separated.not_current (h : Separated self) {c : Nat} {connection : Connection}
    (hconnection : self.connections[c]? = some connection) (hcleared : connection.cleared = true) :
    self.protocol ≠ some c := by
  intro hprotocol
  obtain ⟨current, hcurrent, hlive⟩ := h.current c hprotocol
  cases hconnection.symm.trans hcurrent
  cases hcleared.symm.trans hlive.notCleared

/-- Connections do not mix. In every run, the packets that the calls of a connection have
returned are the first of those that a new parser makes of the bytes of this connection alone,
and the others are buffered until a `close` clears the connection. From then on no call goes to
the connection, and those that are still with it return no packet. -/
theorem connections_separate (hrun : Run step { closedMessage, notOpenMessage } actions self)
    {c : Nat} {connection : Connection} (hconnection : self.connections[c]? = some connection) :
    (∃ parser packets,
      (fresh false).feedMany connection.reader.received = (parser, .ok packets) ∧
      connection.reader.returned <+: packets ∧
      (connection.cleared = false →
        connection.reader.returned ++ connection.reader.protocol.packets = packets)) ∧
    (connection.cleared = true →
      ∀ later last, Run step self later last →
        last.protocol ≠ some c ∧
        ∃ after, last.connections[c]? = some after ∧
          after.reader.returned = connection.reader.returned) := by
  have hseparated := separated_run hrun
  have hsound := hseparated.sound c connection hconnection
  constructor
  · obtain ⟨parser, packets, hfeeds, hreturned⟩ := hsound.framed
    refine ⟨parser, packets, hfeeds, hreturned, fun hcleared => ?_⟩
    obtain ⟨_, _, hsame, -, hall⟩ := (hsound.lossless hcleared).framed
    cases hfeeds.symm.trans hsame
    exact hall
  · intro hcleared later last hlater
    have hretired : Retired c connection.reader.returned self :=
      ⟨hseparated, connection, hconnection, hcleared, rfl⟩
    obtain ⟨hlast, after, hafter, hclear, hreturned⟩ := hretired.run hlater
    exact ⟨hlast.not_current hafter hclear, after, hafter, hreturned⟩

/-- The connection is lost in the middle of a frame, and the transport is opened again. The rest
of the frame and another frame come over the new connection, and a packet is written to it. -/
def reconnectActions : List StreamAction :=
  [.made, .opened 0, .read none, .onReader 0 (.dataReceived [SOF, 1, 6]),
    .onReader 0 (.connectionLost none), .onReader 0 .wake, .close, .made, .opened 1, .read none,
    .onReader 1 (.dataReceived [7, 14, EOF, SOF, 1, 6, 8, 15, EOF]), .onReader 1 .wake,
    .write ⟨6, [SOF]⟩]

def lostConnection : Connection where
  reader := {
    protocol := {
      closedMessage := "TCP transport closed", packetEvent := true, closedWaiter := some .result
      error := some (.connectionClosedError "TCP transport closed") }
    received := [SOF, 1, 6]
    results := [.raised (.connectionClosedError "TCP transport closed")] }
  opened := true
  cleared := true

def newConnection : Connection where
  reader := {
    protocol := {
      closedMessage := "TCP transport closed", packetEvent := true, transport := some false
      closedWaiter := some .pending }
    received := [7, 14, EOF, SOF, 1, 6, 8, 15, EOF]
    results := [.packet ⟨6, [8]⟩] }
  accepted := [⟨6, [SOF]⟩]
  written := [SOF, 1, 6, ESC, SOF, 209, EOF]
  opened := true

/-- The transport at the end of these actions. -/
def reconnected : StreamTransport :=
  { rawTcpTpckTransport with connections := [lostConnection, newConnection], protocol := some 1 }

theorem run_reconnected : Run step rawTcpTpckTransport reconnectActions reconnected :=
  run_iff_exec.mpr (by decide)

theorem connections_separate_reconnected :
    (∃ parser packets,
      (fresh false).feedMany lostConnection.reader.received = (parser, .ok packets) ∧
      lostConnection.reader.returned <+: packets) ∧
    (∀ later last, Run step reconnected later last →
      last.protocol ≠ some 0 ∧
      ∃ after, last.connections[0]? = some after ∧ after.reader.returned = []) := by
  obtain ⟨⟨parser, packets, hfeeds, hreturned, -⟩, hretired⟩ :=
    connections_separate run_reconnected
      (show reconnected.connections[0]? = some lostConnection from rfl)
  exact ⟨⟨parser, packets, hfeeds, hreturned⟩, hretired rfl⟩

/-- The two ends of a connection. If the bytes that one end has received are the first of
those that the other end has written, the packets that its calls have returned are the first of
those accepted there. When all bytes have come and the connection is not cleared, the packets
returned and buffered are all of them. -/
theorem link_delivers (hrun : Run step { closedMessage, notOpenMessage } actions self)
    {c : Nat} {connection : Connection} (hconnection : self.connections[c]? = some connection)
    {otherClosed otherNotOpen : String} {otherActions : List StreamAction}
    {other : StreamTransport}
    (hother : Run step { closedMessage := otherClosed, notOpenMessage := otherNotOpen }
      otherActions other)
    {d : Nat} {peer : Connection} (hpeer : other.connections[d]? = some peer)
    (hwire : peer.reader.received <+: connection.written) :
    peer.reader.returned <+: connection.accepted ∧
      (peer.reader.received = connection.written → peer.cleared = false →
        peer.reader.returned ++ peer.reader.protocol.packets = connection.accepted) := by
  have hsent := ((separated_run hrun).sound c connection hconnection).feeds_written
  have hsound := (separated_run hother).sound d peer hpeer
  exact ⟨hsound.returned_prefix hsent hwire, hsound.delivered hsent⟩

/-- The other end of the new connection gets the frame in two chunks. -/
def peerActions : List StreamAction :=
  [.made, .opened 0, .onReader 0 (.dataReceived [SOF, 1, 6, ESC]), .read none,
    .onReader 0 (.dataReceived [SOF, 209, EOF]), .onReader 0 .wake]

def peerConnection : Connection where
  reader := {
    protocol := {
      closedMessage := "serial transport closed", packetEvent := true, transport := some false
      closedWaiter := some .pending }
    received := [SOF, 1, 6, ESC, SOF, 209, EOF]
    results := [.packet ⟨6, [SOF]⟩] }
  opened := true

theorem link_delivers_reconnected :
    peerConnection.reader.returned <+: newConnection.accepted ∧
      peerConnection.reader.returned ++ peerConnection.reader.protocol.packets =
        newConnection.accepted :=
  have hpeer : Run step serialxTpckTransport peerActions
      { serialxTpckTransport with connections := [peerConnection], protocol := some 0 } :=
    run_iff_exec.mpr (by decide)
  have hdelivers := link_delivers run_reconnected
    (show reconnected.connections[1]? = some newConnection from rfl) hpeer
    (show [peerConnection][0]? = some peerConnection from rfl) (by decide)
  ⟨hdelivers.1, hdelivers.2 rfl rfl⟩

end Runs

end StreamTransport

end Tekmar482
