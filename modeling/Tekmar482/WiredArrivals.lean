import Tekmar482.WiredSession
import Tekmar482.Library.Tagged

/-!
# Answers over a connection

What the session hands to its calls and readers was written by the gateway: every arrival is the
message of a packet that the read loop took from a connection, and those of a connection are,
in order, decoded from commands that the other end wrote.
-/

namespace Tekmar482

/-! ## What was taken from the connections -/

/-- The packet that the loop holds. -/
def ReadLoop.held : ReadLoop → List (Nat × Packet)
  | .holding c packet => [(c, packet)]
  | _ => []

namespace WiredSession

open Tagged

variable {κ : Type}

/-- The packets of a connection that were dispatched or are held are among those returned. -/
structure Taken (s : WiredSession κ) : Prop where
  separated : s.transport.Separated
  sublist : ∀ c, (values c (s.dispatched ++ s.loop.held)).Sublist
    (PacketReader.packetsOf (s.transport.results c))

/-- What the loop does not hold any more was not dispatched. -/
theorem Taken.moved {s next : WiredSession κ} (h : s.Taken) (hseparated : next.transport.Separated)
    (hdispatched : next.dispatched = s.dispatched)
    (hresults : ∀ c, s.transport.results c <+: next.transport.results c)
    (hheld : next.loop.held = s.loop.held ∨ next.loop.held = []) : next.Taken := by
  refine ⟨hseparated, fun c => ?_⟩
  have hkept : (values c (next.dispatched ++ next.loop.held)).Sublist
      (values c (s.dispatched ++ s.loop.held)) := by
    rw [hdispatched, values_append, values_append]
    rcases hheld with hsame | hnone
    · rw [hsame]
    · rw [hnone]
      exact (List.Sublist.refl _).append (List.nil_sublist _)
  obtain ⟨gained, hgained⟩ := hresults c
  rw [← hgained, PacketReader.packetsOf_append]
  exact (hkept.trans (h.sublist c)).trans (List.sublist_append_left _ _)

/-- The next result of a connection is a packet. -/
theorem Taken.holds {s : WiredSession κ} (h : s.Taken) {transport : StreamTransport} {c : Nat}
    {packet : Packet} (hseparated : transport.Separated)
    (hresults : ∀ d, s.transport.results d <+: transport.results d)
    (hresult : (transport.results c)[(s.transport.results c).length]? = some (.packet packet)) :
    ({ s with transport, loop := .holding c packet } : WiredSession κ).Taken := by
  refine ⟨hseparated, fun d => ?_⟩
  have hdispatched : (values d s.dispatched).Sublist
      (PacketReader.packetsOf (s.transport.results d)) := by
    refine List.Sublist.trans ?_ (h.sublist d)
    rw [values_append]
    exact List.sublist_append_left _ _
  obtain ⟨gained, hgained⟩ := hresults d
  change (values d (s.dispatched ++ [(c, packet)])).Sublist
    (PacketReader.packetsOf (transport.results d))
  rw [values_append, values_singleton, ← hgained, PacketReader.packetsOf_append]
  apply hdispatched.append
  split
  · rename_i hsame
    subst hsame
    rw [← hgained, List.getElem?_append_right le_rfl, Nat.sub_self] at hresult
    cases gained with
    | nil => cases hresult
    | cons first rest =>
        cases hresult
        exact List.singleton_sublist.mpr List.mem_cons_self
  · exact List.nil_sublist _

variable [DecidableEq κ]

theorem Taken.moves {s next : WiredSession κ} (h : s.Taken) (hmoves : Moves s next) :
    next.Taken := by
  -- a step of the transport only adds results
  have hturned {action : StreamAction} {transport : StreamTransport}
      (hstepped : s.transport.step action = some transport) :
      transport.Separated ∧ ∀ c, s.transport.results c <+: transport.results c :=
    have hturns := StreamTransport.step_turns hstepped
    ⟨h.separated.turns hturns, hturns.results h.separated⟩
  have hsame (c : Nat) : s.transport.results c <+: s.transport.results c := List.prefix_rfl
  cases hmoves with
  | session => exact h.moved h.separated rfl hsame (.inl rfl)
  | transport hstepped | hands _ hstepped =>
      obtain ⟨hseparated, hresults⟩ := hturned hstepped
      exact h.moved hseparated rfl hresults (.inl rfl)
  | takes c hstepped =>
      obtain ⟨hseparated, hresults⟩ := hturned hstepped
      unfold took
      split
      · exact h.moved hseparated rfl hresults (.inl rfl)
      · exact h.holds hseparated hresults ‹_›
      · exact h.moved hseparated rfl hresults (.inr rfl)
      · exact h.moved hseparated rfl hresults (.inr rfl)
  | reads | fails | rests | ends => exact h.moved h.separated rfl hsame (.inr rfl)
  | dispatches hholds =>
      refine ⟨h.separated, fun c => ?_⟩
      have hsublist := h.sublist c
      rw [hholds] at hsublist
      exact (List.append_nil (s.dispatched ++ _)).symm ▸ hsublist

end WiredSession

/-! ## What arrived -/

/-- The message of a packet, if it has one. -/
def Packet.message? (self : Packet) : Option TrpcPacket := (TrpcPacket.fromPacket self).toOption

theorem getElem?_concat_of_some {messages : List TrpcPacket} {a : Arrival}
    (h : messages[a.index]? = some a.message) (message : TrpcPacket) :
    (messages ++ [message])[a.index]? = some a.message :=
  (List.getElem?_append_left (List.getElem?_eq_some_iff.mp h).1).trans h

namespace Dispatcher

/-- The arrivals that a dispatcher has handed out or keeps are among the messages dispatched. -/
structure Known (messages : List TrpcPacket) (state : Dispatcher) : Prop where
  arrived : state.arrived = messages.length
  backlog : ∀ a ∈ state.messageBacklog, messages[a.index]? = some a.message
  results : ∀ future a, state.futures future = some (.result a) →
    messages[a.index]? = some a.message

variable {messages : List TrpcPacket} {state after : Dispatcher}

theorem Known.shrinks (h : state.Known messages) (hshrinks : state.Shrinks after) :
    after.Known messages where
  arrived := hshrinks.arrived.trans h.arrived
  backlog := fun a ha => h.backlog a (hshrinks.messageBacklog.subset ha)
  results := fun future a hresult => h.results future a (hshrinks.results future a hresult)

theorem Known.dispatchMessage (h : state.Known messages) (hwellFormed : state.WellFormed)
    (message : TrpcPacket) : (state.dispatchMessage message).Known (messages ++ [message]) := by
  have hnew : (messages ++ [message])[(state.arrival message).index]? =
      some (state.arrival message).message := by
    rw [show (state.arrival message).index = messages.length from h.arrived]
    exact List.getElem?_concat_length
  have hold (a : Arrival) (ha : messages[a.index]? = some a.message) :=
    getElem?_concat_of_some ha message
  constructor
  · rw [dispatchMessage_arrived, h.arrived, List.length_append, List.length_singleton]
  · intro a ha
    cases dispatchMessage_conserved message hwellFormed with
    | handed item _ _ _ backlog =>
        rw [backlog] at ha
        exact hold a (h.backlog a ha)
    | queued _ _ _ backlog =>
        rw [backlog] at ha
        rcases BoundedQueue.mem_push ha with hmem | rfl
        · exact hold a (h.backlog a hmem)
        · exact hnew
  · intro future a hresult
    cases dispatchMessage_conserved message hwellFormed with
    | handed item _ futures =>
        rw [futures, update_eq_result_iff] at hresult
        rcases hresult with ⟨-, hhanded⟩ | ⟨-, hbefore⟩
        · cases hhanded
          exact hnew
        · exact hold a (h.results future a hbefore)
    | queued _ futures =>
        rw [futures] at hresult
        exact hold a (h.results future a hresult)

end Dispatcher

/-- A dispatched packet arrives as its message, or not at all. -/
theorem Session.known_dispatchPacket {κ : Type} {s : Session κ} {messages : List TrpcPacket}
    (h : s.dispatcher.Known messages) (hwellFormed : s.dispatcher.WellFormed) (packet : Packet) :
    (s.dispatchPacket packet).dispatcher.Known (messages ++ packet.message?.toList) := by
  have hobserved : (s.dispatcher.observePacket packet).Known messages :=
    ⟨h.arrived, h.backlog, h.results⟩
  have hkept : (s.dispatcher.observePacket packet).WellFormed :=
    hwellFormed.of_same rfl rfl rfl rfl
  have hsilent (hnone : packet.message? = none) :
      messages ++ packet.message?.toList = messages := by
    rw [hnone]
    exact List.append_nil messages
  unfold dispatchPacket
  simp only
  split
  · split
    · rename_i err herror
      rw [hsilent (by rw [Packet.message?, herror]; rfl)]
      exact hobserved.shrinks (Dispatcher.shrinks_setReaderError _ _)
    · rename_i message hmessage
      rw [show packet.message? = some message by rw [Packet.message?, hmessage]; rfl]
      exact hobserved.dispatchMessage hkept message
  · rename_i htype
    have hnone : packet.message? = none := by
      rw [Packet.message?, TrpcPacket.fromPacket, if_pos htype]
      rfl
    rwa [hsilent hnone]

namespace SessionReaders

variable {κ : Type}

/-- What was read, too, is among the messages dispatched. -/
structure Known (messages : List TrpcPacket) (state : SessionReaders κ) : Prop where
  dispatcher : state.session.dispatcher.Known messages
  reads : ∀ a ∈ state.messagesRead, messages[a.index]? = some a.message

variable {messages : List TrpcPacket} {s t : SessionReaders κ}

theorem Known.pass (h : s.Known messages) (r : Nat) (reader : Reader) :
    (s.pass r reader).Known messages := by
  have hlooked := s.session.dispatcher.readPass_looked reader.request
  constructor
  · constructor
    · exact hlooked.arrived.trans h.dispatcher.arrived
    · exact fun a ha => h.dispatcher.backlog a (hlooked.messageBacklog.subset ha)
    · intro future a hresult
      exact h.dispatcher.results future a (hlooked.futures ▸ hresult)
  · intro a ha
    rcases List.mem_append.mp ((s.perm_pass r reader).mem_iff.mpr (List.mem_append_left _ ha)) with
      hread | hbacklog
    · exact h.reads a hread
    · exact h.dispatcher.backlog a hbacklog

variable [DecidableEq κ]

/-- A packet brings its message, every other step brings none. -/
theorem Known.step (h : s.Known messages) (hwellFormed : s.session.dispatcher.WellFormed)
    {action : ReaderAction κ} (hstep : s.step action = some t) :
    t.Known (messages ++ (observed action).filterMap Packet.message?) := by
  have hquiet {after : SessionReaders κ} (hafter : after.Known messages) :
      after.Known (messages ++ []) := (List.append_nil messages).symm ▸ hafter
  cases Stepped.of_step hstep with
  | @session action session hunread hstepped =>
      have hcases := Session.Stepped.of_step hstepped
      cases action with
      | packet packet =>
          cases hcases
          have hsingle : [packet].filterMap Packet.message? = packet.message?.toList := by
            cases hmessage : packet.message? <;> simp [hmessage]
          rw [observed, hsingle]
          refine ⟨Session.known_dispatchPacket h.dispatcher hwellFormed packet, fun a ha => ?_⟩
          obtain ⟨hbound, -⟩ := List.getElem?_eq_some_iff.mp (h.reads a ha)
          exact (List.getElem?_append_left hbound).trans (h.reads a ha)
      | _ =>
          have hshrinks := Session.shrinks_step hcases (by simp)
          exact hquiet ⟨h.dispatcher.shrinks hshrinks, h.reads⟩
  | late | passOn | timeout | cancel => exact hquiet ⟨h.dispatcher, h.reads⟩
  | @read request timeout =>
      have hstarted : ({ s with readers := s.readers ++ [{ request, timeout }] } :
          SessionReaders κ).Known messages := ⟨h.dispatcher, h.reads⟩
      exact hquiet (hstarted.pass _ _)
  | wake => exact hquiet (h.pass _ _)

end SessionReaders

/-! ## Who has an arrival -/

/-- Where an arrival can be. -/
inductive Holder where
  | call (c : Nat)
  | reader (r : Nat)
  | backlog
  deriving DecidableEq

namespace SessionReaders

variable {κ : Type}

/-- A call or a reader has returned the arrival, or it is in the backlog. -/
def Holds (state : SessionReaders κ) (a : Arrival) : Holder → Prop
  | .call c => ∃ call, state.session.calls[c]? = some call ∧ call.task = .result (.response a)
  | .reader r => ∃ reader, state.readers[r]? = some reader ∧
      reader.task = .result (some (.message a))
  | .backlog => a ∈ state.session.dispatcher.messageBacklog

variable {s : SessionReaders κ}

theorem Handed.mem_messagesRead (h : s.Handed) {r : Nat} {a : Arrival}
    (hholds : s.Holds a (.reader r)) : (r, ReadItem.message a) ∈ s.reads ∧ a ∈ s.messagesRead := by
  have hread := (h.reads r (.message a)).mpr hholds
  exact ⟨hread, List.mem_filterMap.mpr ⟨_, hread, rfl⟩⟩

variable [DecidableEq κ]

/-- An arrival is in one place at most. -/
theorem Exclusive.holder_eq (h : s.Exclusive) (hhanded : s.Handed) {first second : Holder}
    {a b : Arrival} (hfirst : s.Holds a first) (hsecond : s.Holds b second)
    (heq : a.index = b.index) : first = second := by
  have hwellFormed := h.exclusion.dispatcher
  have hresult {c : Nat} {a : Arrival} (hholds : s.Holds a (.call c)) :
      s.session.dispatcher.futures c = some (.result a) := by
    obtain ⟨call, hcall, htask⟩ := hholds
    exact h.exclusion.returned c call a hcall (.inl htask)
  obtain ⟨hdistinct, -, hapart⟩ := List.nodup_append.mp (List.map_append ▸ h.nodup)
  have hreadOrKept {r : Nat} {a b : Arrival} (hread : s.Holds a (.reader r))
      (hkept : s.Holds b .backlog) : a.index ≠ b.index :=
    hapart _ (List.mem_map_of_mem (hhanded.mem_messagesRead hread).2) _ (List.mem_map_of_mem hkept)
  cases first with
  | call c =>
      cases second with
      | call d => rw [hwellFormed.result_unique c d a b (hresult hfirst) (hresult hsecond) heq]
      | reader r =>
          exact absurd heq.symm (h.results b (hhanded.mem_messagesRead hsecond).2 c a
            (hresult hfirst))
      | backlog => exact absurd heq (hwellFormed.result_notMem c a (hresult hfirst) b hsecond)
  | reader r =>
      cases second with
      | call c =>
          exact absurd heq (h.results a (hhanded.mem_messagesRead hfirst).2 c b (hresult hsecond))
      | reader q =>
          have hreads := (hhanded.mem_messagesRead hfirst).1
          have hothers := (hhanded.mem_messagesRead hsecond).1
          -- the messages read have different places, so these two were read as one
          have hnodup : ((Tagged.filterMap ReadItem.message? s.reads).map
              (Arrival.index ∘ Prod.snd)).Nodup := by
            rw [← List.map_map, Tagged.map_snd_filterMap]
            exact hdistinct
          have hsame := List.inj_on_of_nodup_map hnodup (Tagged.mem_filterMap hreads rfl)
            (Tagged.mem_filterMap hothers rfl) heq
          rw [(Prod.mk.inj hsame).1]
      | backlog => exact absurd heq (hreadOrKept hfirst hsecond)
  | backlog =>
      cases second with
      | call c => exact absurd heq.symm (hwellFormed.result_notMem c b (hresult hsecond) a hfirst)
      | reader r => exact absurd heq.symm (hreadOrKept hsecond hfirst)
      | backlog => rfl

end SessionReaders

/-! ## Commands of the other end -/

/-- The bytes that are written for commands, one after the other. -/
structure TrpcCommand.Framed (commands : List TrpcCommand) (bytes : List UInt8) : Prop where
  encodable : ∀ command ∈ commands, command.Encodable
  framed : ∃ packets : List Packet, commands.map toPacket = packets.map .ok ∧
    Tpck.serializeAll packets = .ok bytes

/-- Some of the packets that were written for commands are decoded to these commands. -/
theorem TrpcCommand.decode_sublist {commands : List TrpcCommand} {packets some : List Packet}
    (hcommands : ∀ command ∈ commands, command.Encodable)
    (h : commands.map toPacket = packets.map .ok) (hsome : some.Sublist packets) :
    ∃ sent : List TrpcCommand, sent.Sublist commands ∧
      List.Forall₂ Decodes sent (some.filterMap Packet.message?) := by
  have hwritten : (some.map Except.ok).Sublist (commands.map toPacket) := h ▸ hsome.map _
  obtain ⟨sent, hsent, heq⟩ := List.sublist_map_iff.mp hwritten
  obtain ⟨messages, hmessages, hdecodes⟩ := decode_packets
    (fun command hcommand => hcommands command (hsent.subset hcommand)) heq.symm
  refine ⟨sent, hsent, ?_⟩
  have hall : some.filterMap Packet.message? = messages := by
    calc some.filterMap Packet.message?
        = (some.map TrpcPacket.fromPacket).filterMap Except.toOption := by
          rw [List.filterMap_map]
          rfl
      _ = messages := by
          rw [hmessages, List.filterMap_map]
          exact List.filterMap_some
  rwa [hall]

namespace WiredSession

open Machine Tagged

variable {κ : Type} [DecidableEq κ]

omit [DecidableEq κ] in
/-- The messages that have arrived, in order, each with its connection. -/
def arrivals (self : WiredSession κ) : List (Nat × TrpcPacket) :=
  filterMap Packet.message? self.dispatched

/-- What every move keeps. -/
structure Sound (s : WiredSession κ) : Prop where
  taken : s.Taken
  exclusive : s.session.Exclusive
  handed : s.session.Handed
  known : s.session.Known (s.arrivals.map Prod.snd)

theorem Sound.moves {s next : WiredSession κ} (h : s.Sound) (hmoves : Moves s next) :
    next.Sound := by
  have htaken := h.taken.moves hmoves
  have hwellFormed := h.exclusive.exclusion.dispatcher
  cases hmoves with
  | @session action session hother hstepped =>
      refine ⟨htaken, h.exclusive.step hstepped, h.handed.step hstepped, ?_⟩
      have hknown := h.known.step hwellFormed hstepped
      rwa [SessionReaders.observed, List.filterMap_nil, List.append_nil] at hknown
      rintro packet rfl
      cases hother
  | transport | hands | reads | fails | rests =>
      exact ⟨htaken, h.exclusive, h.handed, h.known⟩
  | takes c =>
      refine ⟨htaken, ?_, ?_, ?_⟩
      · rw [took_session]
        exact h.exclusive
      · rw [took_session]
        exact h.handed
      · rw [took_session, arrivals, took_dispatched]
        exact h.known
  | @dispatches c packet session hholds hstepped =>
      refine ⟨htaken, h.exclusive.step hstepped, h.handed.step hstepped, ?_⟩
      have hknown := h.known.step hwellFormed hstepped
      have hobserved : [packet].filterMap Packet.message? = packet.message?.toList := by
        cases hmessage : packet.message? <;> simp [hmessage]
      rw [SessionReaders.observed, hobserved] at hknown
      change session.Known
        ((filterMap Packet.message? (s.dispatched ++ [(c, packet)])).map Prod.snd)
      rw [filterMap_concat, List.map_append]
      cases hmessage : packet.message? <;> rw [hmessage] at hknown <;> exact hknown
  | ends hstepped =>
      refine ⟨htaken, h.exclusive.step hstepped, h.handed.step hstepped, ?_⟩
      have hknown := h.known.step hwellFormed hstepped
      rwa [SessionReaders.observed, List.filterMap_nil, List.append_nil] at hknown
      simp

theorem Fresh.sound {s : WiredSession κ} (h : s.Fresh) : s.Sound := by
  obtain ⟨hsession, hloop, hdispatched, -, hconnections, hprotocol⟩ := h
  obtain ⟨hexclusive, hhanded⟩ := hsession.readers
  have harrivals : s.arrivals = [] := by
    rw [arrivals, hdispatched]
    rfl
  have hreads : s.session.messagesRead = [] := by
    rw [SessionReaders.messagesRead, hsession.2.2.2]
    rfl
  obtain ⟨⟨-, hfutures, harrived, hbacklog, -⟩, -⟩ := hsession.1
  refine ⟨⟨⟨fun c connection hconnection => ?_, fun c hcurrent => ?_⟩, fun c => ?_⟩, hexclusive,
    hhanded, ⟨?_, fun a ha => ?_, fun future a hresult => ?_⟩, fun a ha => ?_⟩
  · rw [hconnections] at hconnection
    cases hconnection
  · rw [hprotocol] at hcurrent
    cases hcurrent
  · rw [hdispatched, hloop]
    exact List.nil_sublist _
  · rw [harrivals]
    exact harrived
  · rw [hbacklog] at ha
    cases ha
  · rw [hfutures] at hresult
    cases hresult
  · rw [hreads] at ha
    cases ha

/-- What the session hands out was written by the other end. In every run of a session over a
transport, the messages that arrived from a connection are decoded, in order, from commands that
the other end has written to this connection. Each response of a call, each message that a
reader has returned and each message of the backlog is one of these arrivals, and no arrival is
in two of these places. -/
theorem answers_were_written {start t : WiredSession κ} {actions : List (WiredAction κ)}
    (hfresh : start.Fresh) (hrun : Run step start actions t) (commands : Nat → List TrpcCommand)
    (hwire : ∀ (c : Nat) (connection : Connection), t.transport.connections[c]? = some connection →
      ∃ bytes, TrpcCommand.Framed (commands c) bytes ∧ connection.reader.received <+: bytes) :
    (∀ c, ∃ sent : List TrpcCommand, sent.Sublist (commands c) ∧
      List.Forall₂ Decodes sent (values c t.arrivals)) ∧
    (∀ holder a, t.session.Holds a holder →
      ∃ c, t.arrivals[a.index]? = some (c, a.message)) ∧
    ∀ first second a b, t.session.Holds a first → t.session.Holds b second →
      a.index = b.index → first = second := by
  have hsound : t.Sound := invariant_run (fun s next hs hmoves => hs.moves hmoves) hfresh.sound hrun
  refine ⟨fun c => ?_, fun holder a hholds => ?_, fun first second a b =>
    hsound.exclusive.holder_eq hsound.handed⟩
  · have hdispatched : (values c t.dispatched).Sublist
        (PacketReader.packetsOf (t.transport.results c)) := by
      refine List.Sublist.trans ?_ (hsound.taken.sublist c)
      rw [values_append]
      exact List.sublist_append_left _ _
    rw [arrivals, values_filterMap]
    cases hconnection : t.transport.connections[c]? with
    | none =>
        rw [StreamTransport.results, hconnection] at hdispatched
        rw [List.sublist_nil.mp hdispatched]
        exact ⟨[], List.nil_sublist _, .nil⟩
    | some connection =>
        rw [StreamTransport.results, hconnection] at hdispatched
        obtain ⟨bytes, ⟨hcommands, packets, hpackets, hbytes⟩, hreceived⟩ :=
          hwire c connection hconnection
        have hframed := hsound.taken.separated.sound c connection hconnection
        have hreturned := hframed.returned_prefix (TpckParser.feeds_serializeAll hbytes) hreceived
        exact TrpcCommand.decode_sublist hcommands hpackets
          (hdispatched.trans hreturned.sublist)
  · have hknown : (t.arrivals.map Prod.snd)[a.index]? = some a.message := by
      cases holder with
      | call c =>
          obtain ⟨call, hcall, htask⟩ := hholds
          exact hsound.known.dispatcher.results c a
            (hsound.exclusive.exclusion.returned c call a hcall (.inl htask))
      | reader r => exact hsound.known.reads a (hsound.handed.mem_messagesRead hholds).2
      | backlog => exact hsound.known.dispatcher.backlog a hholds
    rw [List.getElem?_map] at hknown
    obtain ⟨⟨c, message⟩, hentry, rfl⟩ := Option.map_eq_some_iff.mp hknown
    exact ⟨c, hentry⟩

/-- The gateway tells its protocol version. -/
def sampleAnswer : TrpcCommand where
  service := TrpcService.responseRequest.value
  method := TrpcMethod.protocolVersion.value
  fields := .ofList [("version", 3)]

def sampleAnswerFrame : List UInt8 := [SOF, 7, 6, 4, 143, 1, 0, 0, 3, 0, 164, EOF]

/-- A call asks for the protocol version, and its response comes in two chunks. -/
def sampleExchange : List (WiredAction Nat) :=
  [.transport .made, .transport (.opened 0), .session (.session .opened), .read,
    .session (.session (.start (.requestResponse (.request .protocolVersion) none true))),
    .session (.session (.onCall 0 .written)),
    .transport (.onReader 0 (.dataReceived [SOF, 7, 6, 4, 143, 1, 0, 0])),
    .transport (.onReader 0 (.dataReceived [3, 0, 164, EOF])), .transport (.onReader 0 .wake),
    .dispatch, .session (.session (.onCall 0 .resume))]

theorem framed_sampleAnswer : TrpcCommand.Framed [sampleAnswer] sampleAnswerFrame := by
  refine ⟨fun command hcommand => ?_, [⟨6, [4, 143, 1, 0, 0, 3, 0]⟩], by decide, by decide⟩
  obtain rfl := List.mem_singleton.mp hcommand
  exact ⟨by decide, by decide⟩

theorem run_sampleExchange :
    ∃ t : WiredSession Nat, Run step { transport := rawTcpTpckTransport } sampleExchange t ∧
      t.transport.connections.map (fun connection => connection.reader.received) =
        [sampleAnswerFrame] ∧
      ∃ a, t.session.Holds a (.call 0) :=
  ⟨_, run_iff_exec.mpr rfl, rfl, _, _, rfl, rfl⟩

theorem answers_were_written_sample :
    ∃ t : WiredSession Nat, Run step { transport := rawTcpTpckTransport } sampleExchange t ∧
      (∃ a, t.session.Holds a (.call 0)) ∧
      ∃ sent : List TrpcCommand, sent.Sublist [sampleAnswer] ∧
        List.Forall₂ Decodes sent (values 0 t.arrivals) := by
  obtain ⟨t, hrun, hreceived, hholds⟩ := run_sampleExchange
  refine ⟨t, hrun, hholds, (answers_were_written
    ⟨SessionReaders.fresh_empty, rfl, rfl, rfl, rfl, rfl⟩ hrun (fun _ => [sampleAnswer])
    fun c connection hconnection => ?_).1 0⟩
  refine ⟨sampleAnswerFrame, framed_sampleAnswer, ?_⟩
  have hmem := List.mem_map_of_mem (f := fun connection => connection.reader.received)
    (List.mem_of_getElem? hconnection)
  rw [hreceived] at hmem
  rw [List.mem_singleton.mp hmem]

end WiredSession

end Tekmar482
