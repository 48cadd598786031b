import Tekmar482.ReaderWakeups

/-!
# What the readers read

The packets read are those of a bounded queue. A message is read once, or answers one call, and
a reader that gives up has taken nothing.
-/

namespace Tekmar482

open BoundedQueue

/-! ## A dispatched packet -/

namespace Dispatcher

theorem observePacket_eq (self : Dispatcher) (packet : Packet) :
    self.observePacket packet =
      { self with packetBacklog := push self.maxPacketBacklog.toNat self.packetBacklog packet } := by
  rw [observePacket, trim_eq_keepNewest, push]

theorem dispatchMessage_packets (message : TrpcPacket) (self : Dispatcher) :
    (self.dispatchMessage message).packetBacklog = self.packetBacklog ∧
      (self.dispatchMessage message).maxPacketBacklog = self.maxPacketBacklog := by
  rcases dispatchMessage_cases message self with ⟨item, -, hafter⟩ | ⟨-, hafter⟩
  · rw [hafter]
    simp only
    split <;> exact ⟨rfl, rfl⟩
  · rw [hafter]
    exact ⟨rfl, rfl⟩

/-- A dispatched message gets the next place in the order of arrival. -/
structure Arrives (before after : Dispatcher) : Prop where
  arrived : after.arrived = before.arrived + 1
  backlog : ∃ appended : List Arrival, after.messageBacklog.Sublist (before.messageBacklog ++ appended) ∧
    ∀ a ∈ appended, a.index = before.arrived
  results : ∀ future a, after.futures future = some (.result a) →
    before.futures future = some (.result a) ∨ a.index = before.arrived

theorem arrives_dispatchMessage {self : Dispatcher} (h : self.WellFormed) (message : TrpcPacket) :
    Arrives self (self.dispatchMessage message) := by
  refine ⟨dispatchMessage_arrived message self, ?_, ?_⟩
  · cases dispatchMessage_conserved message h with
    | handed item _ _ _ backlog =>
        refine ⟨[], ?_, by simp⟩
        rw [backlog, List.append_nil]
    | queued _ _ _ backlog =>
        refine ⟨[self.arrival message], ?_, fun a ha => ?_⟩
        · rw [backlog]
          exact (keepNewest_suffix _ _).sublist
        · rw [List.mem_singleton.mp ha]
          rfl
  · cases dispatchMessage_conserved message h with
    | handed item _ futures =>
        intro future a hresult
        rw [futures, update_eq_result_iff] at hresult
        rcases hresult with ⟨-, hhanded⟩ | ⟨-, hold⟩
        · cases hhanded
          exact .inr rfl
        · exact .inl hold
    | queued _ futures =>
        intro future a hresult
        rw [futures] at hresult
        exact .inl hresult

end Dispatcher

namespace Session

variable {κ : Type}

/-- A packet is observed, and then its message is dispatched, if it has one. -/
theorem dispatchPacket_cases (s : Session κ) (packet : Packet) :
    (∃ message, (s.dispatchPacket packet).dispatcher =
      (s.dispatcher.observePacket packet).dispatchMessage message) ∨
      (s.dispatcher.observePacket packet).Shrinks (s.dispatchPacket packet).dispatcher := by
  unfold dispatchPacket
  simp only
  split
  · split
    · exact .inr (Dispatcher.shrinks_setReaderError _ _)
    · rename_i message _
      exact .inl ⟨message, rfl⟩
  · exact .inr (Dispatcher.Leaves.refl _).toShrinks

theorem dispatchPacket_packets (s : Session κ) (packet : Packet) :
    (s.dispatchPacket packet).dispatcher.packetBacklog =
        push s.dispatcher.maxPacketBacklog.toNat s.dispatcher.packetBacklog packet ∧
      (s.dispatchPacket packet).dispatcher.maxPacketBacklog = s.dispatcher.maxPacketBacklog := by
  have hobserved := s.dispatcher.observePacket_eq packet
  rcases s.dispatchPacket_cases packet with ⟨message, heq⟩ | hshrinks
  · obtain ⟨hbacklog, hlimit⟩ :=
      Dispatcher.dispatchMessage_packets message (s.dispatcher.observePacket packet)
    rw [heq, hbacklog, hlimit, hobserved]
    exact ⟨rfl, rfl⟩
  · rw [hshrinks.packetBacklog, hshrinks.maxPacketBacklog, hobserved]
    exact ⟨rfl, rfl⟩

end Session

/-! ## The packets -/

def ReadItem.packet? : ReadItem → Option Packet
  | .packet value => some value
  | .message _ => none

def ReadItem.message? : ReadItem → Option Arrival
  | .packet _ => none
  | .message arrival => some arrival

namespace SessionReaders

variable {κ : Type}

/-- The packets that a step observes. -/
def observed : ReaderAction κ → List Packet
  | .session (.packet packet) => [packet]
  | _ => []

/-- The packets read, in order. -/
def packetsRead (self : SessionReaders κ) : List Packet :=
  self.reads.filterMap fun read => read.2.packet?

/-- The messages read, in order. -/
def messagesRead (self : SessionReaders κ) : List Arrival :=
  self.reads.filterMap fun read => read.2.message?

/-- The packet backlog with what was read from it. -/
def packetChannel (self : SessionReaders κ) : Channel Packet where
  waiting := self.session.dispatcher.packetBacklog
  taken := self.packetsRead

/-- What a step does to the packets is what some transfers of a bounded queue do. -/
def PacketStep (s : SessionReaders κ) (packets : List Packet) (t : SessionReaders κ) : Prop :=
  t.session.dispatcher.maxPacketBacklog = s.session.dispatcher.maxPacketBacklog ∧
    ∃ transfers, puts transfers = packets ∧
      s.packetChannel.replay (some s.session.dispatcher.maxPacketBacklog.toNat) transfers =
        t.packetChannel

theorem PacketStep.same {s t : SessionReaders κ}
    (hlimit : t.session.dispatcher.maxPacketBacklog = s.session.dispatcher.maxPacketBacklog)
    (hbacklog : t.session.dispatcher.packetBacklog = s.session.dispatcher.packetBacklog)
    (hreads : t.reads = s.reads) : PacketStep s [] t := by
  refine ⟨hlimit, [], rfl, ?_⟩
  rw [packetChannel, packetChannel, packetsRead, packetsRead, hbacklog, hreads]
  rfl

/-- The items that a pass hands over are those of its look. -/
theorem handed_pass (s : SessionReaders κ) (r : Nat) (reader : Reader) :
    (s.pass r reader).reads = s.reads ++
      ((s.session.dispatcher.look reader.request).1.map fun item => (r, item)).toList := by
  simp only [pass]
  cases hlook : (s.session.dispatcher.look reader.request).1 with
  | some item =>
      rw [Dispatcher.readPass_found hlook]
      rfl
  | none =>
      rw [Dispatcher.readPass_none hlook]
      simp only [Option.map_none, Option.toList_none]
      congr 1
      unfold handed
      split
      · rename_i item heq
        exact absurd heq (Dispatcher.unread_ne_some _ item)
      · rfl

theorem pass_dispatcher (s : SessionReaders κ) (r : Nat) (reader : Reader) :
    (∃ item, (s.session.dispatcher.look reader.request).1 = some item ∧
      (s.pass r reader).session.dispatcher = (s.session.dispatcher.look reader.request).2) ∨
      (s.session.dispatcher.look reader.request).1 = none ∧
        (s.pass r reader).session.dispatcher = s.session.dispatcher := by
  simp only [pass]
  cases hlook : (s.session.dispatcher.look reader.request).1 with
  | some item => exact .inl ⟨item, rfl, by rw [Dispatcher.readPass_found hlook]⟩
  | none => exact .inr ⟨rfl, by rw [Dispatcher.readPass_none hlook]⟩

/-- A look for a packet takes the oldest one. -/
theorem packetStep_pass_packet (s : SessionReaders κ) (r : Nat) {reader : Reader}
    (hrequest : reader.request = .packet) : PacketStep s [] (s.pass r reader) := by
  have hreads := s.handed_pass r reader
  have hdispatcher := s.pass_dispatcher r reader
  have hlook : s.session.dispatcher.look reader.request =
      (s.session.dispatcher.packetBacklog.head?.map .packet,
        { s.session.dispatcher with packetBacklog := s.session.dispatcher.packetBacklog.tail }) := by
    rw [hrequest, Dispatcher.look, Dispatcher.readPacket_fst, Dispatcher.readPacket_snd]
  rw [hlook] at hreads hdispatcher
  cases hbacklog : s.session.dispatcher.packetBacklog with
  | nil =>
      have hsame : (s.pass r reader).session.dispatcher = s.session.dispatcher := by
        rcases hdispatcher with ⟨item, hitem, -⟩ | ⟨-, heq⟩
        · rw [hbacklog] at hitem
          cases hitem
        · exact heq
      rw [hbacklog] at hreads
      exact .same (by rw [hsame]) (by rw [hsame]) (hreads.trans (List.append_nil _))
  | cons packet rest =>
      rw [hbacklog] at hreads hdispatcher
      have hrest : (s.pass r reader).session.dispatcher =
          { s.session.dispatcher with packetBacklog := rest } := by
        rcases hdispatcher with ⟨-, -, heq⟩ | ⟨hnone, -⟩
        · exact heq
        · cases hnone
      refine ⟨by rw [hrest], [.take], rfl, ?_⟩
      rw [packetChannel, packetChannel, packetsRead, packetsRead, hreads, hrest,
        List.filterMap_append, hbacklog]
      rfl

/-- A look for a message leaves the packets. -/
theorem packetStep_pass_message (s : SessionReaders κ) (r : Nat) {reader : Reader}
    {found : Option Arrival} {after : Dispatcher}
    (hlook : s.session.dispatcher.look reader.request = (found.map .message, after))
    (hbacklog : after.packetBacklog = s.session.dispatcher.packetBacklog)
    (hlimit : after.maxPacketBacklog = s.session.dispatcher.maxPacketBacklog) :
    PacketStep s [] (s.pass r reader) := by
  have hreads := s.handed_pass r reader
  have hdispatcher := s.pass_dispatcher r reader
  rw [hlook] at hreads hdispatcher
  have hkept : (s.pass r reader).session.dispatcher.packetBacklog =
        s.session.dispatcher.packetBacklog ∧
      (s.pass r reader).session.dispatcher.maxPacketBacklog =
        s.session.dispatcher.maxPacketBacklog := by
    rcases hdispatcher with ⟨-, -, heq⟩ | ⟨-, heq⟩
    · rw [heq]
      exact ⟨hbacklog, hlimit⟩
    · rw [heq]
      exact ⟨rfl, rfl⟩
  refine ⟨hkept.2, [], rfl, ?_⟩
  rw [packetChannel, packetChannel, packetsRead, packetsRead, hreads, hkept.1,
    List.filterMap_append]
  cases found <;> simp [Channel.replay, ReadItem.packet?]

theorem packetStep_pass (s : SessionReaders κ) (r : Nat) (reader : Reader) :
    PacketStep s [] (s.pass r reader) := by
  cases hrequest : reader.request with
  | packet => exact s.packetStep_pass_packet r hrequest
  | message =>
      have hlook : s.session.dispatcher.look reader.request =
          (s.session.dispatcher.readMessage.1.map .message,
            s.session.dispatcher.readMessage.2) := by
        rw [hrequest, Dispatcher.look]
      apply s.packetStep_pass_message r hlook <;> rw [(Dispatcher.readMessage_eq _).2]
  | matching predicate =>
      have hlook : s.session.dispatcher.look reader.request =
          ((s.session.dispatcher.readUntil predicate).1.map .message,
            (s.session.dispatcher.readUntil predicate).2) := by
        rw [hrequest, Dispatcher.look]
      apply s.packetStep_pass_message r hlook <;> rw [(Dispatcher.readUntil_eq _ predicate).2]

variable [DecidableEq κ]

theorem packetStep_session {s : SessionReaders κ} {action : SessionAction κ} {session : Session κ}
    (hstep : s.session.step action = some session) (readers : List Reader) :
    PacketStep s (observed (.session action)) { s with session, readers } := by
  have hstepped := Session.Stepped.of_step hstep
  cases action with
  | packet packet =>
      cases hstepped
      obtain ⟨hbacklog, hlimit⟩ := s.session.dispatchPacket_packets packet
      refine ⟨hlimit, [.put packet], rfl, ?_⟩
      rw [packetChannel, packetChannel, hbacklog]
      rfl
  | _ =>
      have hshrinks := Session.shrinks_step hstepped (by simp)
      exact .same hshrinks.maxPacketBacklog hshrinks.packetBacklog rfl

theorem packetStep {s t : SessionReaders κ} {action : ReaderAction κ}
    (hstep : s.step action = some t) : PacketStep s (observed action) t := by
  cases Stepped.of_step hstep with
  | session _ hstepped => exact packetStep_session hstepped _
  | late | passOn | timeout | cancel => exact .same rfl rfl rfl
  | read request =>
      exact packetStep_pass { s with readers := s.readers ++ [{ request, timeout := _ }] } _ _
  | wake => exact packetStep_pass s _ _

/-- The packets of a run go through a bounded queue. -/
theorem run_packets {start t : SessionReaders κ} {actions : List (ReaderAction κ)}
    (hrun : Machine.Run step start actions t) :
    PacketStep start (actions.flatMap observed) t := by
  induction hrun with
  | nil s => exact .same rfl rfl rfl
  | cons _ hstep _ ih =>
      obtain ⟨hlimit, first, hfirst, hmid⟩ := packetStep hstep
      obtain ⟨hlimit', second, hsecond, hend⟩ := ih
      refine ⟨hlimit'.trans hlimit, first ++ second, ?_, ?_⟩
      · rw [puts_append, hfirst, hsecond, List.flatMap_cons]
      · rw [Channel.replay_append, hmid, ← hlimit]
        exact hend

/-- The packets that `read_packet` returns, whoever reads, and those in the backlog are what a
bounded queue gives its consumer and still holds, after each observed packet was put in order.
They are observed packets in the order of observation, none twice, and all of them while no more
than the backlog holds have been observed. -/
theorem packets_in_order {start t : SessionReaders κ} {actions : List (ReaderAction κ)}
    (hfresh : start.Fresh) (hrun : Machine.Run step start actions t) :
    let limit := start.session.dispatcher.maxPacketBacklog.toNat
    let packets := actions.flatMap observed
    (∃ transfers, puts transfers = packets ∧
      ({} : Channel Packet).replay (some limit) transfers =
        ⟨t.session.dispatcher.packetBacklog, t.packetsRead⟩) ∧
    (t.packetsRead ++ t.session.dispatcher.packetBacklog).Sublist packets ∧
    (packets.length ≤ limit → t.packetsRead ++ t.session.dispatcher.packetBacklog = packets) := by
  intro limit packets
  obtain ⟨-, transfers, hputs, hreplay⟩ := run_packets hrun
  obtain ⟨-, hbacklog, -, hreads⟩ := hfresh
  have hstart : start.packetChannel = {} := by
    rw [packetChannel, packetsRead, hbacklog, hreads]
    rfl
  rw [hstart] at hreplay
  refine ⟨⟨transfers, hputs, hreplay⟩, ?_, fun hfits => ?_⟩
  · have hsublist := Channel.replay_sublist (some limit) {} transfers
    rw [hreplay, hputs] at hsublist
    exact hsublist
  · have hroom : ([] : List Packet).length + (puts transfers).length ≤ limit := by
      rw [hputs, List.length_nil, Nat.zero_add]
      exact hfits
    have hcomplete := Channel.replay_complete ({} : Channel Packet) transfers hroom
    rw [hreplay, hputs] at hcomplete
    exact hcomplete

theorem packets_in_order_sample :
    ∃ t : SessionReaders Nat, Machine.Run step {} sampleReads t ∧
      t.packetsRead ++ t.session.dispatcher.packetBacklog = sampleReads.flatMap observed := by
  obtain ⟨t, hrun⟩ : ∃ t : SessionReaders Nat, Machine.Run step {} sampleReads t :=
    ⟨_, Machine.run_iff_exec.mpr rfl⟩
  exact ⟨t, hrun, (packets_in_order fresh_empty hrun).2.2 (by decide)⟩

end SessionReaders

/-! ## The messages -/

/-- Whether a reader asked for an item. -/
def ReadRequest.accepts : ReadRequest → ReadItem → Bool
  | .packet, .packet _ => true
  | .message, .message _ => true
  | .matching predicate, .message arrival => predicate arrival.message
  | _, _ => false

namespace Dispatcher

/-- What a look finds is what was asked for, and the message, if it is one, leaves the backlog. -/
theorem look_found {self : Dispatcher} {request : ReadRequest} {item : ReadItem}
    (h : (self.look request).1 = some item) :
    request.accepts item = true ∧
      self.messageBacklog.Perm (item.message?.toList ++ (self.look request).2.messageBacklog) := by
  cases request with
  | packet =>
      simp only [look, readPacket_fst, readPacket_snd] at h ⊢
      obtain ⟨packet, -, rfl⟩ := Option.map_eq_some_iff.mp h
      exact ⟨rfl, List.Perm.refl _⟩
  | message =>
      simp only [look, (readMessage_eq self).1, (readMessage_eq self).2] at h ⊢
      obtain ⟨a, ha, rfl⟩ := Option.map_eq_some_iff.mp h
      exact ⟨rfl, (perm_read ha).2⟩
  | matching predicate =>
      simp only [look, (readUntil_eq self predicate).1, (readUntil_eq self predicate).2] at h ⊢
      obtain ⟨a, ha, rfl⟩ := Option.map_eq_some_iff.mp h
      exact perm_read ha

/-- A reader that returns an item has found it. -/
theorem look_of_readPass {self : Dispatcher} {request : ReadRequest} {item : ReadItem}
    (h : (self.readPass request).1 = .result (some item)) :
    (self.look request).1 = some item := by
  cases hlook : (self.look request).1 with
  | none =>
      rw [readPass_none hlook] at h
      exact absurd h (self.unread_ne_some item)
  | some found =>
      rw [readPass_found hlook] at h
      cases h
      rfl

end Dispatcher

namespace SessionReaders

variable {κ : Type}

/-- Each item that was read is the result of one reader, which asked for it. -/
structure Handed (state : SessionReaders κ) : Prop where
  reads : ∀ (r : Nat) (item : ReadItem), (r, item) ∈ state.reads ↔
    ∃ reader, state.readers[r]? = some reader ∧ reader.task = .result (some item)
  nodup : (state.reads.map Prod.fst).Nodup
  accepts : ∀ (r : Nat) (reader : Reader) (item : ReadItem), state.readers[r]? = some reader →
    reader.task = .result (some item) → reader.request.accepts item = true

/-- Readers may be added without a result, and change while they keep what they have. -/
theorem Handed.of_readers {s t : SessionReaders κ} (h : s.Handed) (hreads : t.reads = s.reads)
    (hkept : ∀ (r : Nat) (reader : Reader), s.readers[r]? = some reader →
      ∃ after, t.readers[r]? = some after ∧ after.request = reader.request ∧
        ∀ item, after.task = .result (some item) ↔ reader.task = .result (some item))
    (hnew : ∀ (r : Nat) (after : Reader), t.readers[r]? = some after →
      s.readers[r]? = none → ∀ item, after.task ≠ .result (some item)) : t.Handed := by
  have hback : ∀ (r : Nat) (after : Reader) (item : ReadItem), t.readers[r]? = some after →
      after.task = .result (some item) →
        ∃ reader, s.readers[r]? = some reader ∧ reader.task = .result (some item) ∧
          after.request = reader.request := by
    intro r after item hafter htask
    cases hreader : s.readers[r]? with
    | none => exact absurd htask (hnew r after hafter hreader item)
    | some reader =>
        obtain ⟨other, hother, hrequest, htasks⟩ := hkept r reader hreader
        cases hafter.symm.trans hother
        exact ⟨reader, rfl, (htasks item).mp htask, hrequest⟩
  constructor
  · intro r item
    rw [hreads, h.reads]
    constructor
    · rintro ⟨reader, hreader, htask⟩
      obtain ⟨after, hafter, -, htasks⟩ := hkept r reader hreader
      exact ⟨after, hafter, (htasks item).mpr htask⟩
    · rintro ⟨after, hafter, htask⟩
      obtain ⟨reader, hreader, htask', -⟩ := hback r after item hafter htask
      exact ⟨reader, hreader, htask'⟩
  · rw [hreads]
    exact h.nodup
  · intro r after item hafter htask
    obtain ⟨reader, hreader, htask', hrequest⟩ := hback r after item hafter htask
    rw [hrequest]
    exact h.accepts r reader item hreader htask'

/-- A reader changes, and neither before nor after has it read an item. -/
theorem Handed.modify {s : SessionReaders κ} (h : s.Handed) (r : Nat) {f : Reader → Reader}
    (hf : ∀ reader, s.readers[r]? = some reader → (f reader).request = reader.request ∧
      ∀ item, (f reader).task = .result (some item) ↔ reader.task = .result (some item)) :
    { s with readers := s.readers.modify r f }.Handed := by
  refine h.of_readers rfl (fun i reader hreader => ?_) (fun i after hafter hnone => ?_)
  · simp only [List.getElem?_modify, hreader]
    refine ⟨_, rfl, ?_⟩
    split
    · rename_i hsame
      exact hf reader (hsame ▸ hreader)
    · exact ⟨rfl, fun _ => Iff.rfl⟩
  · simp only [List.getElem?_modify, hnone] at hafter
    cases hafter

theorem Handed.append {s : SessionReaders κ} (h : s.Handed) {reader : Reader}
    (hreader : ∀ item, reader.task ≠ .result (some item)) :
    { s with readers := s.readers ++ [reader] }.Handed := by
  refine h.of_readers rfl (fun i other hother => ?_) (fun i after hafter hnone => ?_)
  · have hbound := (List.getElem?_eq_some_iff.mp hother).1
    exact ⟨other, (List.getElem?_append_left hbound).trans hother, rfl, fun _ => Iff.rfl⟩
  · have hge := List.getElem?_eq_none_iff.mp hnone
    rw [List.getElem?_append_right hge] at hafter
    have hmem := List.mem_of_getElem? hafter
    rw [List.mem_singleton.mp hmem]
    exact hreader

theorem mem_handed {r i : Nat} {task : FutureState (Option ReadItem)} {item : ReadItem} :
    (i, item) ∈ handed r task ↔ i = r ∧ task = .result (some item) := by
  unfold handed
  split
  · rw [List.mem_singleton, Prod.mk.injEq, FutureState.result.injEq, Option.some.injEq]
    exact and_congr_right fun _ => eq_comm
  · rename_i hnone
    constructor
    · exact fun hmem => absurd hmem List.not_mem_nil
    · rintro ⟨-, heq⟩
      exact absurd heq (hnone item)

theorem nodup_handed (r : Nat) (task : FutureState (Option ReadItem)) :
    ((handed r task).map Prod.fst).Nodup := by
  unfold handed
  split
  · exact List.nodup_singleton r
  · exact List.nodup_nil

/-- A pass of a waiting reader. -/
theorem Handed.pass {s : SessionReaders κ} (h : s.Handed) {r : Nat} {reader : Reader}
    (hreader : s.readers[r]? = some reader) (hwaits : reader.task = .waiting) :
    (s.pass r reader).Handed := by
  have hunread : ∀ item, (r, item) ∉ s.reads := by
    intro item hmem
    obtain ⟨other, hother, htask⟩ := (h.reads r item).mp hmem
    cases hreader.symm.trans hother
    rw [hwaits] at htask
    cases htask
  have hbound := (List.getElem?_eq_some_iff.mp hreader).1
  -- the pass changes the one reader
  have hself : (s.pass r reader).readers[r]? = some { reader with
      notified := false
      task := (s.session.dispatcher.readPass reader.request).1 } := by
    rw [SessionReaders.pass, List.getElem?_set_self hbound]
  have hother : ∀ i, i ≠ r → (s.pass r reader).readers[i]? = s.readers[i]? := fun i hne => by
    rw [SessionReaders.pass, List.getElem?_set_ne (Ne.symm hne)]
  constructor
  · intro i item
    rw [SessionReaders.pass, List.mem_append, mem_handed, h.reads]
    change _ ↔ ∃ after, (s.pass r reader).readers[i]? = some after ∧ _
    rcases eq_or_ne i r with rfl | hne
    · rw [hself, hreader]
      constructor
      · rintro (⟨other, hget, hresult⟩ | ⟨-, hresult⟩)
        · cases hget
          rw [hwaits] at hresult
          cases hresult
        · exact ⟨_, rfl, hresult⟩
      · rintro ⟨after, hget, hresult⟩
        cases hget
        exact .inr ⟨rfl, hresult⟩
    · rw [hother i hne]
      constructor
      · rintro (hold | ⟨heq, -⟩)
        · exact hold
        · exact absurd heq hne
      · exact .inl
  · rw [SessionReaders.pass, List.map_append, List.nodup_append]
    refine ⟨h.nodup, nodup_handed r _, ?_⟩
    intro i hi j hj heq
    obtain ⟨⟨i, item⟩, hmem, rfl⟩ := List.mem_map.mp hi
    obtain ⟨⟨j, found⟩, hfound, rfl⟩ := List.mem_map.mp hj
    have hsame : i = r := heq.trans (mem_handed.mp hfound).1
    exact hunread item (hsame ▸ hmem)
  · intro i after item hafter hresult
    rcases eq_or_ne i r with rfl | hne
    · rw [hself] at hafter
      cases hafter
      exact (Dispatcher.look_found (Dispatcher.look_of_readPass hresult)).1
    · exact h.accepts i after item ((hother i hne).symm.trans hafter) hresult

theorem Handed.session {s : SessionReaders κ} (h : s.Handed) (session : Session κ)
    (notified : Bool) :
    ({ s with
      session
      readers := if notified then s.readers.map Reader.notify else s.readers }).Handed := by
  refine h.of_readers rfl (fun i reader hreader => ?_) (fun i after hafter hnone => ?_)
  · cases notified with
    | false => exact ⟨reader, hreader, rfl, fun _ => Iff.rfl⟩
    | true =>
        simp only [if_true, List.getElem?_map, hreader, Option.map_some]
        exact ⟨_, rfl, rfl, fun _ => Iff.rfl⟩
  · cases notified with
    | false =>
        cases hnone.symm.trans hafter
    | true =>
        simp only [if_true, List.getElem?_map, hnone] at hafter
        cases hafter

variable [DecidableEq κ]

theorem Handed.step {s t : SessionReaders κ} (h : s.Handed) {action : ReaderAction κ}
    (hstep : s.step action = some t) : t.Handed := by
  cases Stepped.of_step hstep with
  | session => exact h.session _ _
  | late request => exact h.append (by simp)
  | @read request timeout =>
      have hcreated := @Handed.append κ s h { request, timeout } (by simp)
      exact hcreated.pass List.getElem?_concat_length rfl
  | passOn r => exact h.modify r fun reader _ => ⟨rfl, fun _ => Iff.rfl⟩
  | wake hreader hwaits => exact h.pass hreader hwaits
  | timeout hreader hwaits | cancel hreader hwaits =>
      apply h.modify
      intro other hother
      cases hreader.symm.trans hother
      rw [hwaits]
      simp

/-- Between any two steps a message that was read is in no other place. -/
structure Exclusive (state : SessionReaders κ) : Prop where
  exclusion : state.session.Exclusion
  links : state.session.UpdateLinks
  nodup : ((state.messagesRead ++ state.session.dispatcher.messageBacklog).map Arrival.index).Nodup
  arrived : ∀ a ∈ state.messagesRead, a.index < state.session.dispatcher.arrived
  results : ∀ a ∈ state.messagesRead, ∀ future b,
    state.session.dispatcher.futures future = some (.result b) → a.index ≠ b.index

/-- No message arrives in the session. -/
theorem Exclusive.quiet {s : SessionReaders κ} (h : s.Exclusive) {session : Session κ}
    (hexclusion : session.Exclusion) (hlinks : session.UpdateLinks)
    (hbacklog : session.dispatcher.messageBacklog.Sublist s.session.dispatcher.messageBacklog)
    (harrived : session.dispatcher.arrived = s.session.dispatcher.arrived)
    (hresults : ∀ future a, session.dispatcher.futures future = some (.result a) →
      s.session.dispatcher.futures future = some (.result a)) (readers : List Reader) :
    { s with session, readers }.Exclusive where
  exclusion := hexclusion
  links := hlinks
  nodup := h.nodup.sublist (((List.Sublist.refl _).append hbacklog).map _)
  arrived := fun a ha => harrived ▸ h.arrived a ha
  results := fun a ha future b hresult => h.results a ha future b (hresults future b hresult)

/-- A message arrives that was not read before. -/
theorem Exclusive.arrives {s : SessionReaders κ} (h : s.Exclusive) {session : Session κ}
    (hexclusion : session.Exclusion) (hlinks : session.UpdateLinks)
    (harrives : s.session.dispatcher.Arrives session.dispatcher) (readers : List Reader) :
    { s with session, readers }.Exclusive := by
  have hnew : session.dispatcher.arrived = s.session.dispatcher.arrived + 1 := harrives.arrived
  constructor
  · exact hexclusion
  · exact hlinks
  · rw [List.map_append, List.nodup_append]
    obtain ⟨hread, -, hapart⟩ := List.nodup_append.mp (List.map_append ▸ h.nodup)
    refine ⟨hread, ?_, ?_⟩
    · exact List.pairwise_map.mpr (hexclusion.dispatcher.sorted.imp fun hlt => Nat.ne_of_lt hlt)
    · intro i hi j hj heq
      obtain ⟨a, ha, rfl⟩ := List.mem_map.mp hi
      obtain ⟨b, hb, rfl⟩ := List.mem_map.mp hj
      obtain ⟨appended, hsublist, happended⟩ := harrives.backlog
      rcases List.mem_append.mp (hsublist.subset hb) with hold | hadded
      · exact hapart _ hi _ (List.mem_map_of_mem hold) heq
      · have hindex := happended b hadded
        have hlt := h.arrived a ha
        omega
  · intro a ha
    have hlt := h.arrived a ha
    change a.index < session.dispatcher.arrived
    omega
  · intro a ha future b hresult
    rcases harrives.results future b hresult with hold | hindex
    · exact h.results a ha future b hold
    · have hlt := h.arrived a ha
      omega

omit [DecidableEq κ] in
theorem messagesRead_pass (s : SessionReaders κ) (r : Nat) (reader : Reader) :
    (s.pass r reader).messagesRead = s.messagesRead ++
      ((s.session.dispatcher.look reader.request).1.bind ReadItem.message?).toList := by
  rw [messagesRead, handed_pass, List.filterMap_append]
  cases (s.session.dispatcher.look reader.request).1 with
  | none => rfl
  | some item => cases item <;> rfl

omit [DecidableEq κ] in
/-- A pass takes a message that it reads out of the backlog. -/
theorem perm_pass (s : SessionReaders κ) (r : Nat) (reader : Reader) :
    (s.messagesRead ++ s.session.dispatcher.messageBacklog).Perm
      ((s.pass r reader).messagesRead ++
        (s.pass r reader).session.dispatcher.messageBacklog) := by
  rw [messagesRead_pass, List.append_assoc]
  apply List.Perm.append_left
  rcases s.pass_dispatcher r reader with ⟨item, hitem, heq⟩ | ⟨hnone, heq⟩
  · rw [heq, hitem]
    exact (Dispatcher.look_found hitem).2
  · rw [heq, hnone]
    exact List.Perm.refl _

theorem Exclusive.pass {s : SessionReaders κ} (h : s.Exclusive) (r : Nat) (reader : Reader) :
    (s.pass r reader).Exclusive := by
  have hlooked := s.session.dispatcher.readPass_looked reader.request
  have hperm := s.perm_pass r reader
  have harrived : (s.pass r reader).session.dispatcher.arrived = s.session.dispatcher.arrived :=
    hlooked.arrived
  have hfutures : (s.pass r reader).session.dispatcher.futures = s.session.dispatcher.futures :=
    hlooked.futures
  -- the messages that are read now were in the backlog
  have hread : ∀ a ∈ (s.pass r reader).messagesRead,
      a ∈ s.messagesRead ∨ a ∈ s.session.dispatcher.messageBacklog := fun a ha =>
    List.mem_append.mp (hperm.mem_iff.mpr (List.mem_append_left _ ha))
  constructor
  · exact h.exclusion.quiet (.of_same
      (.of_same hlooked.pending hfutures hlooked.messageBacklog harrived) rfl rfl rfl)
  · exact ⟨h.links.queued, h.links.waiting, h.links.notInterrupted, h.links.holding,
      h.links.running, h.links.ended, h.links.cancelled⟩
  · exact (hperm.map Arrival.index).nodup_iff.mp h.nodup
  · intro a ha
    rw [harrived]
    rcases hread a ha with hold | hbacklog
    · exact h.arrived a hold
    · exact h.exclusion.dispatcher.backlog_arrived a hbacklog
  · intro a ha future b hresult
    rw [hfutures] at hresult
    rcases hread a ha with hold | hbacklog
    · exact h.results a hold future b hresult
    · exact Ne.symm (h.exclusion.dispatcher.result_notMem future b hresult a hbacklog)

theorem Exclusive.session {s : SessionReaders κ} (h : s.Exclusive) {action : SessionAction κ}
    {session : Session κ} (hstep : s.session.step action = some session) (readers : List Reader) :
    { s with session, readers }.Exclusive := by
  have hstepped := Session.Stepped.of_step hstep
  have hexclusion := h.exclusion.step h.links hstep
  have hlinks := h.links.step hstep
  cases action with
  | packet packet =>
      cases hstepped
      have hobserved : (s.session.dispatcher.observePacket packet).WellFormed :=
        h.exclusion.dispatcher.of_same rfl rfl rfl rfl
      rcases s.session.dispatchPacket_cases packet with ⟨message, heq⟩ | hshrinks
      · have harrives := Dispatcher.arrives_dispatchMessage hobserved message
        rw [← heq] at harrives
        exact h.arrives hexclusion hlinks
          ⟨harrives.arrived, harrives.backlog, harrives.results⟩ readers
      · exact h.quiet hexclusion hlinks hshrinks.messageBacklog hshrinks.arrived
          hshrinks.results readers
  | _ =>
      have hshrinks := Session.shrinks_step hstepped (by simp)
      exact h.quiet hexclusion hlinks hshrinks.messageBacklog hshrinks.arrived
        hshrinks.results readers

/-- The readers do not matter to where the messages are. -/
theorem Exclusive.of_readers {s : SessionReaders κ} (h : s.Exclusive)
    (readers : List Reader) : { s with readers }.Exclusive :=
  ⟨h.exclusion, h.links, h.nodup, h.arrived, h.results⟩

theorem Exclusive.step {s t : SessionReaders κ} (h : s.Exclusive) {action : ReaderAction κ}
    (hstep : s.step action = some t) : t.Exclusive := by
  cases Stepped.of_step hstep with
  | session _ hstepped => exact h.session hstepped _
  | late | passOn | timeout | cancel => exact h.of_readers _
  | read => exact (h.of_readers _).pass _ _
  | wake => exact h.pass _ _

/-- Before the first step nothing was read. -/
theorem Fresh.readers {s : SessionReaders κ} (h : s.Fresh) : s.Exclusive ∧ s.Handed := by
  obtain ⟨hsession, -, hreaders, hreads⟩ := h
  constructor
  · have hexclusion := hsession.exclusion
    have hread : s.messagesRead = [] := by
      rw [messagesRead, hreads]
      rfl
    refine ⟨hexclusion, hsession.updateLinks, ?_, ?_, ?_⟩ <;> rw [hread]
    · exact List.pairwise_map.mpr (hexclusion.dispatcher.sorted.imp fun hlt => Nat.ne_of_lt hlt)
    · exact fun a ha => absurd ha List.not_mem_nil
    · exact fun a ha => absurd ha List.not_mem_nil
  · refine ⟨fun r item => ?_, ?_, fun r reader item hreader => ?_⟩
    · rw [hreads, hreaders]
      simp
    · rw [hreads]
      exact List.nodup_nil
    · rw [hreaders] at hreader
      cases hreader

/-- In every reachable state, the messages that the readers returned and those in the backlog are
different messages, and none of those returned is the response of a call. Each item read is the
result of exactly one reader, which asked for it, so a reader that timed out, was cancelled or
failed has taken nothing. -/
theorem reads_exclusive {start t : SessionReaders κ} {actions : List (ReaderAction κ)}
    (hfresh : start.Fresh) (hrun : Machine.Run step start actions t) :
    ((t.messagesRead ++ t.session.dispatcher.messageBacklog).map Arrival.index).Nodup ∧
    (∀ a ∈ t.messagesRead, ∀ (c : Nat) (call : Call κ) (b : Arrival),
      t.session.calls[c]? = some call → call.task = .result (.response b) → a.index ≠ b.index) ∧
    (∀ (r : Nat) (item : ReadItem), (r, item) ∈ t.reads ↔
      ∃ reader, t.readers[r]? = some reader ∧ reader.task = .result (some item)) ∧
    (t.reads.map Prod.fst).Nodup ∧
    ∀ (r : Nat) (reader : Reader) (item : ReadItem), t.readers[r]? = some reader →
      reader.task = .result (some item) → reader.request.accepts item = true := by
  obtain ⟨hexclusive, hhanded⟩ := hfresh.readers
  have hend : t.Exclusive := hrun.invariant (fun s a u hs _ hstep => hs.step hstep) hexclusive
  have hgiven : t.Handed := hrun.invariant (fun s a u hs _ hstep => hs.step hstep) hhanded
  refine ⟨hend.nodup, ?_, hgiven.reads, hgiven.nodup, hgiven.accepts⟩
  intro a ha c call b hcall htask
  exact hend.results a ha c b (hend.exclusion.returned c call b hcall (.inl htask))

theorem reads_exclusive_sample :
    ∃ t : SessionReaders Nat, Machine.Run step {} sampleReads t ∧ t.reads.map Prod.fst = [1, 0] ∧
      ((t.messagesRead ++ t.session.dispatcher.messageBacklog).map Arrival.index).Nodup := by
  obtain ⟨t, hrun, hreads⟩ : ∃ t : SessionReaders Nat, Machine.Run step {} sampleReads t ∧
      t.reads.map Prod.fst = [1, 0] :=
    ⟨_, Machine.run_iff_exec.mpr rfl, rfl⟩
  exact ⟨t, hrun, hreads, (reads_exclusive fresh_empty hrun).1⟩

end SessionReaders

end Tekmar482
