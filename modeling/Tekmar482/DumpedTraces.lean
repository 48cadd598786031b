import Tekmar482.TraceFiles
import Tekmar482.TraceReplay

/-!
# Replaying a dumped trace

A trace file has the keys of every body in order, so the name of a field that came last when the
trace was written may be another one than the name that comes last when it is loaded. Where the
values under these names differ, the loaded trace expects or replays other packets.
-/

namespace Tekmar482

theorem sameOutcome_toPacket_iff (p q : TrpcPacket) :
    SameOutcome p.toPacket q.toPacket ↔ SameOutcome p.toBytes q.toBytes := by
  rw [TrpcPacket.toPacket, TrpcPacket.toPacket]
  cases p.toBytes with
  | error err => cases q.toBytes <;> rfl
  | ok data =>
      cases q.toBytes with
      | error err => rfl
      | ok data' => simp [SameOutcome, Except.map]

/-! ## Steps that replay the same packets -/

namespace TraceStep

/-- Both steps expect the same packet and replay the same packets. -/
structure SamePackets (s t : TraceStep) : Prop where
  sent : SameOutcome s.sent.toPacket t.sent.toPacket
  received : List.Forall₂ (fun p q => SameOutcome p.toPacket q.toPacket) s.received t.received

/-- Sorting the keys leaves the packets of a step exactly if it leaves the values of its fields. -/
theorem samePackets_sorted_iff (step : TraceStep) :
    step.SamePackets step.sorted ↔
      ∀ message ∈ step.messages, message.LastNamesAgree message.sorted := by
  have hmessage : ∀ message : TrpcPacket,
      SameOutcome message.toPacket message.sorted.toPacket ↔
        message.LastNamesAgree message.sorted := fun message =>
    (sameOutcome_toPacket_iff _ _).trans message.equals_sorted.sameOutcome_iff
  rw [messages, List.forall_mem_cons]
  constructor
  · rintro ⟨hsent, hreceived⟩
    rw [sorted, List.forall₂_map_right_iff, List.forall₂_same] at hreceived
    exact ⟨(hmessage _).mp hsent, fun message hmem => (hmessage _).mp (hreceived message hmem)⟩
  · rintro ⟨hsent, hreceived⟩
    refine ⟨(hmessage _).mpr hsent, ?_⟩
    rw [sorted, List.forall₂_map_right_iff, List.forall₂_same]
    exact fun message hmem => (hmessage _).mpr (hreceived message hmem)

end TraceStep

/-! ## Transports that replay the same packets -/

/-- Both transports are alike, up to messages that serialize to the same packets. -/
structure TraceReplayTransport.SamePackets (s t : TraceReplayTransport) : Prop where
  steps : List.Forall₂ TraceStep.SamePackets s.steps t.steps
  written : s.written = t.written
  packets : s.packets = t.packets
  packetEvent : s.packetEvent = t.packetEvent
  isOpen : s.isOpen = t.isOpen

namespace TraceReplayTransport

variable {s t : TraceReplayTransport}

theorem SamePackets.queueResponses (h : s.SamePackets t) {responses others : List TrpcPacket}
    (hresponses : List.Forall₂ (fun p q => SameOutcome p.toPacket q.toPacket) responses others) :
    SameOutcome (s.queueResponses responses).1 (t.queueResponses others).1 ∧
      (s.queueResponses responses).2.SamePackets (t.queueResponses others).2 := by
  induction hresponses generalizing s t with
  | nil => exact ⟨rfl, h⟩
  | cons hfirst _ ih =>
      rw [TraceReplayTransport.queueResponses, TraceReplayTransport.queueResponses, queueMessage,
        queueMessage]
      rcases hfirst.cases with ⟨err, err', hp, hq⟩ | ⟨packet, hp, hq⟩
      · rw [hp, hq]
        exact ⟨trivial, h⟩
      · rw [hp, hq]
        exact ih ⟨h.steps, h.written, congrArg (· ++ [packet]) h.packets, rfl, h.isOpen⟩

theorem SamePackets.writePacket (h : s.SamePackets t) (packet : Packet) :
    SameOutcome (s.writePacket packet).1 (t.writePacket packet).1 ∧
      (s.writePacket packet).2.SamePackets (t.writePacket packet).2 := by
  rw [TraceReplayTransport.writePacket, TraceReplayTransport.writePacket]
  split_ifs with htype
  · exact ⟨trivial, h⟩
  · have hsteps := h.steps
    cases TrpcPacket.fromPacket packet with
    | error err => exact ⟨trivial, h⟩
    | ok message =>
        cases hs : s.steps with
        | nil =>
            rw [hs, List.forall₂_nil_left_iff] at hsteps
            rw [hsteps]
            exact ⟨trivial, h⟩
        | cons step rest =>
            rw [hs, List.forall₂_cons_left_iff] at hsteps
            obtain ⟨other, others, hstep, hrest, ht⟩ := hsteps
            rw [ht]
            rcases hstep.sent.cases with ⟨err, err', hp, hq⟩ | ⟨expected, hp, hq⟩
            · simp only [hp, hq]
              exact ⟨trivial, h⟩
            · simp only [hp, hq]
              split_ifs
              · exact ⟨trivial, h⟩
              · have hnext : SamePackets
                    { s with steps := rest, written := s.written ++ [packet] }
                    { t with steps := others, written := t.written ++ [packet] } :=
                  ⟨hrest, congrArg (· ++ [packet]) h.written, h.packets, h.packetEvent, h.isOpen⟩
                exact hnext.queueResponses hstep.received

theorem SamePackets.readNext (h : s.SamePackets t) :
    s.readNext.1.SamePackets t.readNext.1 ∧ s.readNext.2 = t.readNext.2 := by
  rw [TraceReplayTransport.readNext, TraceReplayTransport.readNext, h.packets, h.isOpen]
  cases hpackets : t.packets with
  | nil =>
      cases t.isOpen with
      | true => exact ⟨⟨h.steps, h.written, rfl, rfl, rfl⟩, rfl⟩
      | false => exact ⟨h, rfl⟩
  | cons packet rest => exact ⟨⟨h.steps, h.written, rfl, h.packetEvent, rfl⟩, rfl⟩

end TraceReplayTransport

namespace TraceReplay

/-- Both replays have the same history, and transports that are alike. -/
structure SamePackets (r s : TraceReplay) : Prop where
  transport : r.transport.SamePackets s.transport
  accepted : r.accepted = s.accepted
  taken : r.taken = s.taken

theorem SamePackets.step {r s : TraceReplay} (h : r.SamePackets s) (action : TraceAction) :
    (r.step action).SamePackets (s.step action) := by
  cases action with
  | «open» =>
      obtain ⟨hsteps, hwritten, hpackets, hevent, -⟩ := h.transport
      exact ⟨⟨hsteps, hwritten, hpackets, hevent, rfl⟩, h.accepted, h.taken⟩
  | close =>
      obtain ⟨hsteps, hwritten, hpackets, -, -⟩ := h.transport
      exact ⟨⟨hsteps, hwritten, hpackets, rfl, rfl⟩, h.accepted, h.taken⟩
  | readPacket =>
      obtain ⟨htransport, hread⟩ := h.transport.readNext
      rw [TraceReplay.step, TraceReplay.step]
      cases hr : r.transport.readNext with
      | mk next outcome =>
          cases hs : s.transport.readNext with
          | mk next' outcome' =>
              rw [hr, hs] at htransport hread
              obtain rfl : outcome = outcome' := hread
              rcases outcome with _ | _ | packet
              · exact ⟨htransport, h.accepted, h.taken⟩
              · exact ⟨htransport, h.accepted, h.taken⟩
              · exact ⟨htransport, h.accepted, congrArg (· ++ [packet]) h.taken⟩
  | writePacket packet =>
      obtain ⟨houtcome, htransport⟩ := h.transport.writePacket packet
      rw [TraceReplay.step, TraceReplay.step]
      cases hr : r.transport.writePacket packet with
      | mk outcome next =>
          cases hs : s.transport.writePacket packet with
          | mk outcome' next' =>
              rw [hr, hs] at houtcome htransport
              rcases houtcome.cases with ⟨err, err', rfl, rfl⟩ | ⟨_, rfl, rfl⟩
              · exact ⟨htransport, h.accepted, h.taken⟩
              · exact ⟨htransport, congrArg (· ++ [packet]) h.accepted, h.taken⟩

/-- Scripts with the same packets are replayed alike, whatever is done to the transport. -/
theorem samePackets_run {script other : List TraceStep}
    (h : List.Forall₂ TraceStep.SamePackets script other) (actions : List TraceAction) :
    (run script actions).SamePackets (run other actions) := by
  induction actions using List.reverseRecOn with
  | nil => exact ⟨⟨h, rfl, rfl, rfl, rfl⟩, rfl, rfl⟩
  | append_singleton actions action ih =>
      rw [run_concat, run_concat]
      exact ih.step action

end TraceReplay

/-! ## Dumping and loading -/

section Files

variable {File : Type} (codec : JsonCodec File PyException)

/-- A trace that is dumped and loaded again expects and replays the same packets. -/
def ReplaysAlike (steps : List TraceStep) : Prop :=
  ∃ loaded, loadTrace codec (dumpTrace codec steps) = .ok loaded ∧
    List.Forall₂ TraceStep.SamePackets steps loaded

theorem replaysAlike_iff (steps : List TraceStep) :
    ReplaysAlike codec steps ↔
      ∀ step ∈ steps, ∀ message ∈ step.messages, message.LastNamesAgree message.sorted := by
  have hsorted : List.Forall₂ TraceStep.SamePackets steps (steps.map TraceStep.sorted) ↔
      ∀ step ∈ steps, ∀ message ∈ step.messages, message.LastNamesAgree message.sorted := by
    rw [List.forall₂_map_right_iff, List.forall₂_same]
    exact forall₂_congr fun step _ => step.samePackets_sorted_iff
  rw [← hsorted]
  constructor
  · rintro ⟨loaded, hload, hsame⟩
    rw [loadTrace_dumpTrace] at hload
    exact Except.ok.inj hload ▸ hsame
  · intro hsame
    exact ⟨_, loadTrace_dumpTrace codec steps, hsame⟩

/-- No run of a transport tells the loaded trace from the dumped one. -/
theorem ReplaysAlike.samePackets_run {steps : List TraceStep} (h : ReplaysAlike codec steps) :
    ∃ loaded, loadTrace codec (dumpTrace codec steps) = .ok loaded ∧
      ∀ actions, (TraceReplay.run steps actions).SamePackets (TraceReplay.run loaded actions) := by
  obtain ⟨loaded, hload, hsame⟩ := h
  exact ⟨loaded, hload, TraceReplay.samePackets_run hsame⟩

/-- A trace of created messages is replayed alike. -/
theorem replaysAlike_of_created {steps : List TraceStep} (h : ∀ step ∈ steps, step.Created) :
    ReplaysAlike codec steps := by
  rw [replaysAlike_iff]
  intro step hstep message hmem
  obtain ⟨service, method, fields, hcreate⟩ := h step hstep message hmem
  exact (TrpcPacket.unambiguous_of_create hcreate).lastNamesAgree message.equals_sorted

/-- Equal messages serialize equally exactly if the last names of each field agree: two messages,
a message and all that are equal to it, and the messages of a trace with those of its file. -/
theorem equal_messages_serialize_iff :
    (∀ p q : TrpcPacket, p.Equals q →
        (SameOutcome p.toBytes q.toBytes ↔ p.LastNamesAgree q)) ∧
      (∀ p : TrpcPacket,
        (∀ q, p.Equals q → SameOutcome p.toBytes q.toBytes) ↔ p.Unambiguous) ∧
      ∀ steps, ReplaysAlike codec steps ↔
        ∀ step ∈ steps, ∀ message ∈ step.messages, message.LastNamesAgree message.sorted :=
  ⟨fun _ _ h => h.sameOutcome_iff, TrpcPacket.forall_sameOutcome_iff, replaysAlike_iff codec⟩

end Files

/-- A setpoint group update that gives the group under an alias. -/
def aliasedMessage : TrpcPacket where
  serviceId := TrpcService.update.value
  methodId := TrpcMethod.setpointGroupEnable.value
  body := .ofList [("enable", 1), ("IDnumber", 4)]

/-- Each field has one name in the body, so that its order does not show. -/
theorem equal_messages_serialize_iff_aliased :
    SameOutcome aliasedMessage.toBytes aliasedMessage.sorted.toBytes ∧
      ReplaysAlike (JsonCodec.values PyException) [{ sent := aliasedMessage }] := by
  have hagree : aliasedMessage.LastNamesAgree aliasedMessage.sorted := by
    intro spec hspec _
    obtain rfl := Option.some.inj hspec
    decide
  obtain ⟨hpair, -, htrace⟩ := equal_messages_serialize_iff (JsonCodec.values PyException)
  refine ⟨(hpair _ _ aliasedMessage.equals_sorted).mpr hagree, (htrace _).mpr ?_⟩
  intro step hstep message hmessage
  obtain rfl := List.mem_singleton.mp hstep
  obtain rfl := List.mem_singleton.mp hmessage
  exact hagree

/-- A setpoint group update that gives the group under its name and under an alias. -/
def twoNamesMessage : TrpcPacket where
  serviceId := TrpcService.update.value
  methodId := TrpcMethod.setpointGroupEnable.value
  body := .ofList [("group_id", 1), ("IDnumber", 2)]

/-- The last name is the alias in the message and the name in its file. -/
theorem not_replaysAlike_twoNames :
    twoNamesMessage.Equals twoNamesMessage.sorted ∧
      twoNamesMessage.toBytes = .ok [0, 61, 1, 0, 0, 2, 0] ∧
      twoNamesMessage.sorted.toBytes = .ok [0, 61, 1, 0, 0, 1, 0] ∧
      ¬ SameOutcome twoNamesMessage.toBytes twoNamesMessage.sorted.toBytes ∧
      ¬ ReplaysAlike (JsonCodec.values PyException) [{ sent := twoNamesMessage }] := by
  have hbytes : twoNamesMessage.toBytes = .ok [0, 61, 1, 0, 0, 2, 0] := rfl
  have hsorted : twoNamesMessage.sorted.toBytes = .ok [0, 61, 1, 0, 0, 1, 0] := rfl
  have hdiffer : ¬ SameOutcome twoNamesMessage.toBytes twoNamesMessage.sorted.toBytes := by
    rw [hbytes, hsorted, SameOutcome]
    decide
  refine ⟨twoNamesMessage.equals_sorted, hbytes, hsorted, hdiffer, fun h => hdiffer ?_⟩
  rw [replaysAlike_iff] at h
  exact twoNamesMessage.equals_sorted.sameOutcome_iff.mpr
    (h _ List.mem_cons_self _ List.mem_cons_self)

end Tekmar482
