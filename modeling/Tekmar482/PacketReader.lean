import Tekmar482.TpckProtocol
import Tekmar482.Library.Machine

/-!
# One reader of the framed packets

The transport's callbacks, the calls of `read_packet` and the timeouts of a
suspended reader happen in any order. The bytes received and the results of the
calls are recorded beside the protocol.
-/

namespace Tekmar482

/-- Where the one reading task stands. -/
inductive ReaderTask where
  | idle
  /-- Suspended on the packet event, under a timeout or not. -/
  | waiting (timed : Bool)
  /-- Called with a timeout that is already over: `read_next` never starts. -/
  | expired
  deriving DecidableEq, Repr

/-- How one call of `read_packet` ended. -/
inductive ReadResult where
  | packet (packet : Packet)
  | noPacket
  | raised (err : PyException)
  deriving DecidableEq, Repr

/-- A protocol, its reader, the bytes received and the results of the calls. -/
structure PacketReader where
  protocol : TpckProtocol
  task : ReaderTask := .idle
  received : List UInt8 := []
  results : List ReadResult := []
  deriving DecidableEq, Repr

namespace PacketReader

open TpckParser Machine

/-- The packets among the results. -/
def packetsOf (results : List ReadResult) : List Packet :=
  results.filterMap fun result => match result with
    | .packet packet => some packet
    | .noPacket => none
    | .raised _ => none

@[simp] theorem packetsOf_nil : packetsOf [] = [] := rfl

@[simp] theorem packetsOf_append (first second : List ReadResult) :
    packetsOf (first ++ second) = packetsOf first ++ packetsOf second :=
  List.filterMap_append

/-- The packets `read_packet` has returned, in order. -/
def returned (self : PacketReader) : List Packet := packetsOf self.results

/-- A protocol whose connection has just been made. -/
def opened (closedMessage : String) : PacketReader :=
  { protocol := { closedMessage := closedMessage : TpckProtocol }.connectionMade true }

/-- The result of a call whose `read_next` ended so. -/
def resultOf : Except PyException Packet → ReadResult
  | .ok packet => .packet packet
  | .error .timeoutError => .noPacket
  | .error err => .raised err

/-- Run `read_next` until it ends or waits for the event. -/
def resume (self : PacketReader) (timed : Bool) : PacketReader :=
  let (protocol, outcome) := self.protocol.readNext
  match outcome with
  | none => { self with protocol := protocol, task := .waiting timed }
  | some outcome =>
      { self with
        protocol := protocol, task := .idle, results := self.results ++ [resultOf outcome] }

/-- What can happen to an open connection with one reader. -/
inductive Action where
  | dataReceived (data : List UInt8)
  | pauseWriting
  | resumeWriting
  /-- The transport starts closing: `is_closing` answers true from now on. -/
  | closing
  | connectionLost (exc : Option PyException)
  | readPacket (timeout : Option ℚ)
  /-- The event was set and the waiting reader goes on. -/
  | wake
  /-- The timeout of the suspended reader fires. -/
  | timeout
  deriving DecidableEq, Repr

def step (self : PacketReader) : Action → Option PacketReader
  | .dataReceived data =>
      -- No data follows the loss of the connection.
      if self.protocol.transport.isSome then
        some { self with
          protocol := self.protocol.dataReceived data, received := self.received ++ data }
      else
        none
  | .pauseWriting => some { self with protocol := self.protocol.pauseWriting }
  | .resumeWriting => some { self with protocol := self.protocol.resumeWriting }
  | .closing =>
      some { self with
        protocol := { self.protocol with
          transport := self.protocol.transport.map fun _ => true } }
  | .connectionLost exc =>
      if self.protocol.transport.isSome then
        some { self with protocol := self.protocol.connectionLost exc }
      else
        none
  | .readPacket timeout =>
      if self.task = .idle then
        match timeout with
        | none => some (self.resume false)
        | some seconds =>
            if seconds ≤ 0 then some { self with task := .expired } else some (self.resume true)
      else
        none
  | .wake =>
      match self.task with
      | .waiting timed => if self.protocol.packetEvent then some (self.resume timed) else none
      | _ => none
  | .timeout =>
      match self.task with
      | .waiting false | .idle => none
      | _ => some { self with task := .idle, results := self.results ++ [.noPacket] }

/-! ## One step -/

/-- A resumed reader ends with a packet, ends with an error while the buffer is
empty, or waits while there is nothing to return and nothing to raise. -/
theorem resume_cases (self : PacketReader) (timed : Bool) :
    (∃ packet rest, self.protocol.packets = packet :: rest ∧
      self.resume timed =
        { self with
          protocol := { self.protocol with packets := rest }, task := .idle,
          results := self.results ++ [.packet packet] }) ∨
    (∃ err, self.protocol.packets = [] ∧
      self.resume timed =
        { self with task := .idle, results := self.results ++ [resultOf (.error err)] }) ∨
    (self.protocol.packets = [] ∧ self.protocol.error = none ∧
      self.resume timed =
        { self with
          protocol := { self.protocol with packetEvent := false }, task := .waiting timed }) := by
  have hturn := self.protocol.readNext_turn
  cases hread : self.protocol.readNext with
  | mk protocol outcome =>
      rw [hread] at hturn
      cases hturn with
      | returned packet rest hbuffer =>
          refine .inl ⟨packet, rest, hbuffer, ?_⟩
          simp only [resume, hread, resultOf]
      | raised err hbuffer =>
          refine .inr (.inl ⟨err, hbuffer, ?_⟩)
          simp only [resume, hread]
      | waits hbuffer herror =>
          refine .inr (.inr ⟨hbuffer, herror, ?_⟩)
          simp only [resume, hread]

theorem packetsOf_error (err : PyException) : packetsOf [resultOf (.error err)] = [] := by
  cases err <;> rfl

/-- What a step of the reader can be. -/
inductive Reads (self : PacketReader) : PacketReader → Prop
  | expires (hidle : self.task = .idle) : Reads self { self with task := .expired }
  | resumes (timed : Bool) : Reads self (self.resume timed)
  | timesOut : Reads self { self with task := .idle, results := self.results ++ [.noPacket] }

/-- What a callback of the transport can be: it leaves the reader's side alone. -/
inductive CalledBack (self : PacketReader) : PacketReader → Prop
  | received (data : List UInt8) (hmade : self.protocol.transport.isSome) :
      CalledBack self { self with
        protocol := self.protocol.dataReceived data, received := self.received ++ data }
  | signalled (protocol : TpckProtocol) (hparser : protocol.parser = self.protocol.parser)
      (hpackets : protocol.packets = self.protocol.packets)
      (herror : protocol.packetEvent = true ∨
        protocol.packetEvent = self.protocol.packetEvent ∧ protocol.error = self.protocol.error)
      (hlost : self.protocol.transport = none → protocol.transport = none) :
      CalledBack self { self with protocol := protocol }

theorem step_cases {self next : PacketReader} {action : Action}
    (h : step self action = some next) : Reads self next ∨ CalledBack self next := by
  cases action with
  | dataReceived data =>
      obtain ⟨hmade, h⟩ := Option.ite_none_right_eq_some.mp h
      obtain rfl := Option.some.inj h
      exact .inr (.received data hmade)
  | pauseWriting =>
      obtain rfl := Option.some.inj h
      exact .inr (.signalled self.protocol.pauseWriting rfl rfl (.inr ⟨rfl, rfl⟩) id)
  | resumeWriting =>
      obtain rfl := Option.some.inj h
      apply Or.inr
      apply CalledBack.signalled
      all_goals simp [TpckProtocol.resumeWriting]
  | closing =>
      obtain rfl := Option.some.inj h
      apply Or.inr
      apply CalledBack.signalled
      all_goals simp
  | connectionLost exc =>
      obtain ⟨hmade, h⟩ := Option.ite_none_right_eq_some.mp h
      obtain rfl := Option.some.inj h
      apply Or.inr
      apply CalledBack.signalled
      all_goals simp
  | readPacket timeout =>
      obtain ⟨hidle, h⟩ := Option.ite_none_right_eq_some.mp h
      cases timeout with
      | none =>
          obtain rfl := Option.some.inj h
          exact .inl (.resumes false)
      | some seconds =>
          simp only at h
          split at h
          · obtain rfl := Option.some.inj h
            exact .inl (.expires hidle)
          · obtain rfl := Option.some.inj h
            exact .inl (.resumes true)
  | wake =>
      simp only [step] at h
      split at h
      · obtain ⟨hevent, h⟩ := Option.ite_none_right_eq_some.mp h
        obtain rfl := Option.some.inj h
        exact .inl (.resumes _)
      · cases h
  | timeout =>
      simp only [step] at h
      split at h
      · cases h
      · cases h
      · obtain rfl := Option.some.inj h
        exact .inl .timesOut

/-! ## Nothing is lost -/

/-- What every step preserves: the packets returned and the packets still
buffered are what the parser made of the bytes, and the event is set as long as
there is something to return or to raise. -/
structure Lossless (reader : PacketReader) : Prop where
  framed : ∃ parser packets, Feeds (fresh false) reader.received parser packets ∧
    parser = reader.protocol.parser ∧ reader.returned ++ reader.protocol.packets = packets
  lenient : reader.protocol.parser.strictChecksum = false
  quiet : reader.protocol.packetEvent = false →
    reader.protocol.packets = [] ∧ reader.protocol.error = none

theorem lossless_opened (closedMessage : String) : Lossless (opened closedMessage) where
  framed := ⟨_, _, Feeds.nil _, rfl, rfl⟩
  lenient := rfl
  quiet := fun _ => ⟨rfl, rfl⟩

theorem Lossless.reads {self next : PacketReader} (h : Lossless self) (hreads : Reads self next) :
    Lossless next := by
  obtain ⟨parser, packets, hfeeds, hparser, hall⟩ := h.framed
  cases hreads with
  | expires _ => exact ⟨h.framed, h.lenient, h.quiet⟩
  | timesOut =>
      refine ⟨⟨parser, packets, hfeeds, hparser, ?_⟩, h.lenient, h.quiet⟩
      simpa [returned, packetsOf] using hall
  | resumes timed =>
      obtain ⟨packet, rest, hbuffer, heq⟩ | ⟨err, hbuffer, heq⟩ | ⟨hbuffer, herror, heq⟩ :=
        self.resume_cases timed
      · rw [heq]
        refine ⟨⟨parser, packets, hfeeds, hparser, ?_⟩, h.lenient, ?_⟩
        · calc packetsOf (self.results ++ [.packet packet]) ++ rest
              = self.returned ++ (packet :: rest) := by simp [returned, packetsOf]
            _ = packets := by rw [← hbuffer, hall]
        · intro hevent
          have hempty := (h.quiet hevent).1
          rw [hbuffer] at hempty
          cases hempty
      · rw [heq]
        refine ⟨⟨parser, packets, hfeeds, hparser, ?_⟩, h.lenient, h.quiet⟩
        simpa [returned, packetsOf_error] using hall
      · rw [heq]
        exact ⟨⟨parser, packets, hfeeds, hparser, hall⟩, h.lenient, fun _ => ⟨hbuffer, herror⟩⟩

theorem Lossless.calledBack {self next : PacketReader} (h : Lossless self)
    (hcall : CalledBack self next) : Lossless next := by
  obtain ⟨parser, packets, hfeeds, hparser, hall⟩ := h.framed
  cases hcall with
  | received data _ =>
      obtain ⟨after, added, hdata, hlenient⟩ :=
        exists_feeds self.protocol.parser h.lenient data
      have hprotocol := TpckProtocol.dataReceived_feeds hdata
      refine ⟨⟨after, packets ++ added, ?_, ?_, ?_⟩, ?_, ?_⟩
      · rw [← hparser] at hdata
        exact hfeeds.append hdata
      · rw [hprotocol]
      · rw [hprotocol, ← hall, List.append_assoc]
        rfl
      · rw [hprotocol]
        exact hlenient
      · intro hevent
        simp only [hprotocol, Bool.or_eq_false_iff] at hevent ⊢
        have hadded : added = [] := by simpa using hevent.2
        rw [hadded, List.append_nil]
        exact h.quiet hevent.1
  | signalled protocol hsame hpackets herror _ =>
      refine ⟨⟨parser, packets, hfeeds, by rw [hparser, hsame], ?_⟩, ?_, ?_⟩
      · rw [hpackets]
        exact hall
      · rw [hsame]
        exact h.lenient
      · intro hevent
        rcases herror with hset | ⟨hsame, herror⟩
        · rw [hset] at hevent
          cases hevent
        · rw [hpackets, herror]
          exact h.quiet (hsame ▸ hevent)

theorem Lossless.step {self next : PacketReader} {action : Action} (h : Lossless self)
    (hstep : step self action = some next) : Lossless next := by
  rcases step_cases hstep with hreads | hcall
  · exact h.reads hreads
  · exact h.calledBack hcall

/-- After the loss of the connection: the packets returned since, followed by
the buffer, are those that were buffered, and no call raised before all of them
were returned. -/
structure Drains (buffered : List Packet) (earlier : List ReadResult) (reader : PacketReader) :
    Prop where
  lost : reader.protocol.transport = none
  results : ∃ later, reader.results = earlier ++ later ∧
    packetsOf later ++ reader.protocol.packets = buffered ∧
    ∀ before err after, later = before ++ .raised err :: after → packetsOf before = buffered

/-- A call ended with a result: where an error can stand among the results. -/
theorem append_eq_raised {later before after : List ReadResult} {result : ReadResult}
    {err : PyException} (h : later ++ [result] = before ++ .raised err :: after) :
    (∃ rest, later = before ++ .raised err :: rest) ∨ later = before ∧ result = .raised err := by
  rcases List.eq_nil_or_concat after with hnil | ⟨rest, last, hconcat⟩
  · subst hnil
    obtain ⟨hlater, hlast⟩ := List.append_inj' h rfl
    exact .inr ⟨hlater, (List.cons.inj hlast).1⟩
  · subst hconcat
    rw [List.concat_eq_append, ← List.cons_append, ← List.append_assoc] at h
    exact .inl ⟨rest, (List.append_inj' h rfl).1⟩

theorem Drains.reads {buffered : List Packet} {earlier : List ReadResult}
    {self next : PacketReader} (h : Drains buffered earlier self) (hreads : Reads self next) :
    Drains buffered earlier next := by
  obtain ⟨later, hlater, hall, hraised⟩ := h.results
  cases hreads with
  | expires _ => exact ⟨h.lost, h.results⟩
  | timesOut =>
      refine ⟨h.lost, later ++ [.noPacket], by simp [hlater], ?_, ?_⟩
      · simpa [packetsOf] using hall
      · intro before err after heq
        rcases append_eq_raised heq with ⟨rest, hrest⟩ | ⟨_, hresult⟩
        · exact hraised before err rest hrest
        · cases hresult
  | resumes timed =>
      obtain ⟨packet, rest, hbuffer, heq⟩ | ⟨err, hbuffer, heq⟩ | ⟨hbuffer, herror, heq⟩ :=
        self.resume_cases timed
      · rw [heq]
        refine ⟨h.lost, later ++ [.packet packet], by simp [hlater], ?_, ?_⟩
        · simpa [packetsOf, hbuffer] using hall
        · intro before err after heq
          rcases append_eq_raised heq with ⟨rest, hrest⟩ | ⟨_, hresult⟩
          · exact hraised before err rest hrest
          · cases hresult
      · rw [heq]
        have hreturned : packetsOf later = buffered := by simpa [hbuffer] using hall
        refine ⟨h.lost, later ++ [resultOf (.error err)], by simp [hlater], ?_, ?_⟩
        · simpa [packetsOf_error] using hall
        · intro before err' after heq
          rcases append_eq_raised heq with ⟨rest, hrest⟩ | ⟨hsame, _⟩
          · exact hraised before err' rest hrest
          · rw [← hsame, hreturned]
      · rw [heq]
        exact ⟨h.lost, h.results⟩

theorem Drains.calledBack {buffered : List Packet} {earlier : List ReadResult}
    {self next : PacketReader} (h : Drains buffered earlier self)
    (hcall : CalledBack self next) : Drains buffered earlier next := by
  cases hcall with
  | received data hmade =>
      rw [h.lost] at hmade
      cases hmade
  | signalled protocol _ hpackets _ hlost =>
      obtain ⟨later, hlater, hall, hraised⟩ := h.results
      refine ⟨hlost h.lost, later, hlater, ?_, hraised⟩
      rw [hpackets]
      exact hall

theorem Drains.run {buffered : List Packet} {earlier : List ReadResult}
    {self last : PacketReader} {actions : List Action} (h : Drains buffered earlier self)
    (hrun : Run step self actions last) : Drains buffered earlier last := by
  refine hrun.invariant ?_ h
  intro s action t hs _ hstep
  rcases step_cases hstep with hreads | hcall
  · exact hs.reads hreads
  · exact hs.calledBack hcall

/-- What the loss of the connection leaves to be drained. -/
theorem drains_connectionLost {self next : PacketReader} {exc : Option PyException}
    (hstep : step self (.connectionLost exc) = some next) :
    Drains self.protocol.packets self.results next := by
  obtain ⟨_, hnext⟩ := Option.ite_none_right_eq_some.mp hstep
  obtain rfl := Option.some.inj hnext
  refine ⟨TpckProtocol.connectionLost_transport _ exc, [], ?_, ?_, ?_⟩
  · simp
  · simp
  · intro before err after heq
    simp at heq

/-- The framing layer is a lossless queue. In every run of one connection and
one reader, the packets returned are the first of those a fresh parser makes of
the bytes received, and the rest of them is buffered. A timeout touches neither.
Of the calls after the loss of the connection, none raises before every packet
buffered at the loss was returned. A suspended reader whose event is unset has
nothing to return and nothing to raise. -/
theorem readPacket_lossless {closedMessage : String} {actions : List Action}
    {self : PacketReader} (hrun : Run step (opened closedMessage) actions self) :
    (∃ parser packets,
      (fresh false).feedMany self.received = (parser, .ok packets) ∧
      self.returned <+: packets ∧
      self.returned ++ self.protocol.packets = packets) ∧
    (∀ next, step self .timeout = some next →
      next.protocol = self.protocol ∧ next.returned = self.returned) ∧
    (∀ exc lost later last, step self (.connectionLost exc) = some lost →
      Run step lost later last →
      ∃ results, last.results = self.results ++ results ∧
        ∀ before err after, results = before ++ .raised err :: after →
          packetsOf before = self.protocol.packets) ∧
    (self.task ≠ .idle → self.protocol.packetEvent = false →
      self.protocol.packets = [] ∧ self.protocol.error = none) := by
  have hlossless : Lossless self :=
    hrun.invariant (fun s action t hs _ hstep => hs.step hstep) (lossless_opened closedMessage)
  refine ⟨?_, ?_, ?_, fun _ => hlossless.quiet⟩
  · obtain ⟨parser, packets, hfeeds, _, hall⟩ := hlossless.framed
    exact ⟨parser, packets, hfeeds, ⟨_, hall⟩, hall⟩
  · intro next hstep
    simp only [step] at hstep
    split at hstep
    · cases hstep
    · cases hstep
    · obtain rfl := Option.some.inj hstep
      exact ⟨rfl, by simp [returned, packetsOf]⟩
  · intro exc lost later last hlost hlater
    obtain ⟨_, results, hresults, _, hraised⟩ := (drains_connectionLost hlost).run hlater
    exact ⟨results, hresults, hraised⟩

/-- Two packets in three chunks: the first call times out inside a frame, and
the connection is lost with the second packet in the buffer. -/
def splitFrames : List Action :=
  [.readPacket (some 2), .dataReceived [SOF, 1, 6, 7], .timeout, .readPacket none,
    .dataReceived [14, EOF, SOF, 1, 6], .wake, .pauseWriting, .dataReceived [8, 15, EOF]]

/-- The reader at the end of these actions. -/
def splitFramesReader : PacketReader :=
  { protocol := {
      closedMessage := "TCP transport closed", packets := [⟨6, [8]⟩], packetEvent := true,
      transport := some false, closedWaiter := some .pending, paused := true }
    received := [SOF, 1, 6, 7, 14, EOF, SOF, 1, 6, 8, 15, EOF]
    results := [.noPacket, .packet ⟨6, [7]⟩] }

theorem readPacket_lossless_splitFrames :
    ∃ parser packets,
      (fresh false).feedMany splitFramesReader.received = (parser, .ok packets) ∧
      splitFramesReader.returned <+: packets ∧
      splitFramesReader.returned ++ splitFramesReader.protocol.packets = packets :=
  have hrun : Run step (opened "TCP transport closed") splitFrames splitFramesReader :=
    run_iff_exec.mpr (by decide)
  (readPacket_lossless hrun).1

end PacketReader

end Tekmar482
