import Tekmar482.TraceFiles

/-!
# Replaying a script

A write is accepted if it is the packet of the next step. The step is consumed and the write
logged before the responses are serialized, so a response that cannot be serialized raises in
the middle of the call.
-/

namespace Tekmar482

/-- No name of the body is unknown to the method. -/
def TrpcPacket.Serializes (self : TrpcPacket) : Prop :=
  ∀ spec, methodSpec self.methodId = some spec → spec.Accepts self.body

namespace TrpcPacket

variable {message : TrpcPacket} {packet : Packet}

/-- A message is serialized after its header, or is refused for the names of its body. -/
theorem toBytes_cases (message : TrpcPacket) :
    (message.Serializes ∧ ∃ rest, message.toBytes = .ok (message.header ++ rest)) ∨
      (¬ message.Serializes ∧ ∃ err, message.toBytes = .error err) := by
  cases hspec : methodSpec message.methodId with
  | none =>
      refine .inl ⟨fun spec h => ?_, _, toBytes_of_unknown hspec⟩
      cases hspec.symm.trans h
  | some spec =>
      by_cases haccepts : spec.Accepts message.body
      · refine .inl ⟨fun other h => ?_, _, toBytes_of_accepts hspec haccepts⟩
        exact Option.some.inj (hspec.symm.trans h) ▸ haccepts
      · exact .inr ⟨fun h => haccepts (h spec hspec), toBytes_of_not_accepts hspec haccepts⟩

theorem serializes_iff (message : TrpcPacket) :
    message.Serializes ↔ ∃ packet, message.toPacket = .ok packet := by
  rcases message.toBytes_cases with ⟨hserializes, rest, hbytes⟩ | ⟨hrefused, err, herr⟩
  · exact iff_of_true hserializes ⟨_, congrArg (Except.map _) hbytes⟩
  · refine iff_of_false hrefused ?_
    rintro ⟨packet, hpacket⟩
    rw [toPacket, herr] at hpacket
    cases hpacket

/-- A packet of a message is decoded without an error. -/
theorem fromPacket_of_toPacket (h : message.toPacket = .ok packet) :
    packet.type = Packet.TYPE_TRPC ∧ ∃ decoded, fromPacket packet = .ok decoded := by
  rcases message.toBytes_cases with ⟨-, rest, hbytes⟩ | ⟨-, err, herr⟩
  · rw [toPacket, hbytes] at h
    obtain rfl := Except.ok.inj h
    have hlong : 5 ≤ (message.header ++ rest).length := by
      rw [header, List.length_append, List.length_append, length_packInt, length_packInt]
      omega
    obtain ⟨decoded, hdecoded, -⟩ := toBytes_fromBytes hlong
    refine ⟨rfl, decoded, ?_⟩
    rw [fromPacket, if_neg (by simp)]
    exact hdecoded
  · rw [toPacket, herr] at h
    cases h

/-- A created message can be serialized. -/
theorem serializes_of_create {service method : Int} {fields : OrderedDict String Int}
    (h : create service method fields = .ok message) : message.Serializes :=
  fun _ hspec => (canonical_of_create h hspec).accepts

end TrpcPacket

namespace TraceStep

/-- All messages of a step. -/
def messages (self : TraceStep) : List TrpcPacket := self.sent :: self.received

/-- All messages of the step come from `create`. -/
def Created (self : TraceStep) : Prop :=
  ∀ message ∈ self.messages, ∃ service method fields,
    TrpcPacket.create service method fields = .ok message

/-- A request step is created if its response is. -/
theorem created_request {method : Int} {response : Option TrpcPacket}
    {fields : OrderedDict String Int} {step : TraceStep}
    (hresponse : ∀ message ∈ response, ∃ service method fields,
      TrpcPacket.create service method fields = .ok message)
    (h : request method response fields = .ok step) : step.Created := by
  rw [request] at h
  cases hsent : TrpcPacket.create TrpcService.request.value method fields with
  | error err =>
      rw [hsent] at h
      cases h
  | ok sent =>
      rw [hsent] at h
      obtain rfl := Except.ok.inj h
      intro message hmem
      rcases List.mem_cons.mp hmem with rfl | hreceived
      · exact ⟨_, _, _, hsent⟩
      · exact hresponse message (Option.mem_toList.mp hreceived)

end TraceStep

namespace TraceReplayTransport

variable {t : TraceReplayTransport} {packet : Packet} {step : TraceStep} {rest : List TraceStep}

/-! ## One write -/

/-- The next step expects the packet. -/
def Expects (self : TraceReplayTransport) (packet : Packet) : Prop :=
  ∃ step rest, self.steps = step :: rest ∧ step.sent.toPacket = .ok packet

/-- The responses of the step that expects a packet can be serialized. -/
def CanAnswer (self : TraceReplayTransport) (packet : Packet) : Prop :=
  ∀ step rest, self.steps = step :: rest → step.sent.toPacket = .ok packet →
    ∀ response ∈ step.received, response.Serializes

/-- A write that raises leaves the remaining steps, the written log and the inbound queue. -/
def Atomic (self : TraceReplayTransport) (packet : Packet) : Prop :=
  ∀ err, (self.writePacket packet).1 = .error err →
    (self.writePacket packet).2.steps = self.steps ∧
      (self.writePacket packet).2.written = self.written ∧
      (self.writePacket packet).2.packets = self.packets

/-- A packet that is not expected is refused before anything changes. -/
theorem writePacket_of_not_expects (h : ¬ t.Expects packet) :
    ∃ err, t.writePacket packet = (.error err, t) := by
  rw [writePacket]
  split
  · exact ⟨_, rfl⟩
  · split
    · exact ⟨_, rfl⟩
    · exact ⟨_, rfl⟩
    · rename_i step rest message hsteps _
      cases hsent : step.sent.toPacket with
      | error err => exact ⟨err, rfl⟩
      | ok expected =>
          simp only
          rw [if_pos]
          · exact ⟨_, rfl⟩
          · rintro rfl
            exact h ⟨step, rest, hsteps, hsent⟩

/-- The packet of the next step consumes the step before the responses are queued. -/
theorem writePacket_of_expected (hsteps : t.steps = step :: rest)
    (hsent : step.sent.toPacket = .ok packet) :
    t.writePacket packet =
      { t with steps := rest, written := t.written ++ [packet] }.queueResponses step.received := by
  obtain ⟨htype, decoded, hdecoded⟩ := TrpcPacket.fromPacket_of_toPacket hsent
  rw [writePacket, if_neg (not_not_intro htype), hsteps, hdecoded]
  simp only [hsent, ne_eq, not_true_eq_false, if_false]

/-! ## The responses of one step -/

/-- Queueing touches neither the remaining steps nor the log, whether it ends well or not. -/
theorem queueResponses_frame (t : TraceReplayTransport) (responses : List TrpcPacket) :
    (t.queueResponses responses).2.steps = t.steps ∧
      (t.queueResponses responses).2.written = t.written := by
  induction responses generalizing t with
  | nil => exact ⟨rfl, rfl⟩
  | cons response rest ih =>
      rw [queueResponses, queueMessage]
      cases response.toPacket with
      | error err => exact ⟨rfl, rfl⟩
      | ok packet => exact ih _

theorem queueResponses_of_serializes {responses : List TrpcPacket}
    (h : ∀ response ∈ responses, response.Serializes) (t : TraceReplayTransport) :
    (t.queueResponses responses).1 = .ok () ∧
      ∃ packets, responses.map TrpcPacket.toPacket = packets.map Except.ok ∧
        (t.queueResponses responses).2.packets = t.packets ++ packets := by
  induction responses generalizing t with
  | nil => exact ⟨rfl, [], rfl, (List.append_nil _).symm⟩
  | cons response rest ih =>
      obtain ⟨hfirst, hrest⟩ := List.forall_mem_cons.mp h
      obtain ⟨packet, hpacket⟩ := response.serializes_iff.mp hfirst
      simp only [queueResponses, queueMessage, hpacket]
      obtain ⟨hok, packets, hpackets, hqueue⟩ :=
        ih hrest { t with packets := t.packets ++ [packet], packetEvent := true }
      refine ⟨hok, packet :: packets, ?_, ?_⟩
      · rw [List.map_cons, List.map_cons, hpacket, hpackets]
      · rw [hqueue, List.append_assoc, List.singleton_append]

theorem queueResponses_of_not_serializes {responses : List TrpcPacket}
    (h : ¬ ∀ response ∈ responses, response.Serializes) (t : TraceReplayTransport) :
    ∃ err, (t.queueResponses responses).1 = .error err := by
  induction responses generalizing t with
  | nil => exact absurd (List.forall_mem_nil _) h
  | cons response rest ih =>
      rw [queueResponses, queueMessage]
      cases hpacket : response.toPacket with
      | error err => exact ⟨err, rfl⟩
      | ok packet =>
          refine ih (fun hrest => h (List.forall_mem_cons.mpr ⟨?_, hrest⟩)) _
          exact response.serializes_iff.mpr ⟨packet, hpacket⟩

/-- A write that is expected and can be answered is logged, and all responses are queued. -/
theorem writePacket_of_serializes (hsteps : t.steps = step :: rest)
    (hsent : step.sent.toPacket = .ok packet)
    (hanswer : ∀ response ∈ step.received, response.Serializes) :
    ∃ next packets, t.writePacket packet = (.ok (), next) ∧ next.steps = rest ∧
      next.written = t.written ++ [packet] ∧ next.packets = t.packets ++ packets ∧
      step.received.map TrpcPacket.toPacket = packets.map Except.ok := by
  have hframe := queueResponses_frame
    { t with steps := rest, written := t.written ++ [packet] } step.received
  obtain ⟨hok, packets, hpackets, hqueue⟩ := queueResponses_of_serializes hanswer
    { t with steps := rest, written := t.written ++ [packet] }
  rw [← writePacket_of_expected hsteps hsent] at hframe hok hqueue
  exact ⟨_, packets, Prod.ext hok rfl, hframe.1, hframe.2, hqueue, hpackets⟩

/-- A write is atomic exactly if the responses of the step it consumes can be serialized. -/
theorem atomic_iff : t.Atomic packet ↔ t.CanAnswer packet := by
  constructor
  · intro hatomic step rest hsteps hsent
    by_contra hresponses
    obtain ⟨err, herr⟩ := queueResponses_of_not_serializes hresponses
      { t with steps := rest, written := t.written ++ [packet] }
    rw [← writePacket_of_expected hsteps hsent] at herr
    -- The step is gone although the write has raised.
    obtain ⟨hkept, -⟩ := hatomic err herr
    rw [writePacket_of_expected hsteps hsent, (queueResponses_frame _ _).1, hsteps] at hkept
    exact List.cons_ne_self _ _ hkept.symm
  · intro hanswer err herr
    by_cases hexpects : t.Expects packet
    · obtain ⟨step, rest, hsteps, hsent⟩ := hexpects
      obtain ⟨next, packets, hwrite, -⟩ :=
        writePacket_of_serializes hsteps hsent (hanswer step rest hsteps hsent)
      rw [hwrite] at herr
      cases herr
    · obtain ⟨err', hrefused⟩ := writePacket_of_not_expects hexpects
      rw [hrefused]
      exact ⟨rfl, rfl, rfl⟩

/-- The first packet is taken, or none is there and the queue stays. -/
theorem readNext_cases (t : TraceReplayTransport) :
    (∃ packet rest, t.packets = packet :: rest ∧
        t.readNext = ({ t with packets := rest }, some (.ok packet))) ∨
      t.readNext = ({ t with packetEvent := false }, none) ∨
      ∃ err, t.readNext = (t, some (.error err)) := by
  rw [readNext]
  split
  · rename_i packet rest hpackets
    exact .inl ⟨packet, rest, hpackets, rfl⟩
  · split_ifs
    · exact .inr (.inl rfl)
    · exact .inr (.inr ⟨_, rfl⟩)

end TraceReplayTransport

/-! ## Whole replays -/

/-- What is done to a transport. One turn of the loop of `read_next` is one action. -/
inductive TraceAction where
  | open
  | close
  | readPacket
  | writePacket (packet : Packet)
  deriving DecidableEq

/-- A transport with its history: the packets of the writes that returned, and those read. -/
structure TraceReplay where
  transport : TraceReplayTransport
  accepted : List Packet := []
  taken : List Packet := []
  deriving DecidableEq

namespace TraceReplay

def start (script : List TraceStep) : TraceReplay where
  transport := { steps := script }

def step (self : TraceReplay) : TraceAction → TraceReplay
  | .open => { self with transport := self.transport.open }
  | .close => { self with transport := self.transport.close }
  | .readPacket =>
      match self.transport.readNext with
      | (next, some (.ok packet)) =>
          { self with transport := next, taken := self.taken ++ [packet] }
      | (next, _) => { self with transport := next }
  | .writePacket packet =>
      match self.transport.writePacket packet with
      | (.ok _, next) => { self with transport := next, accepted := self.accepted ++ [packet] }
      | (.error _, next) => { self with transport := next }

/-- The replay of a script after the actions. -/
def run (script : List TraceStep) (actions : List TraceAction) : TraceReplay :=
  actions.foldl step (start script)

theorem run_concat (script : List TraceStep) (actions : List TraceAction) (action : TraceAction) :
    run script (actions ++ [action]) = (run script actions).step action := by
  rw [run, List.foldl_append]
  rfl

/-- The accepted writes are the log and the packets of the consumed steps, in order, and what was
received so far is what these steps hold. -/
def Faithful (script : List TraceStep) (self : TraceReplay) : Prop :=
  self.transport.written = self.accepted ∧
    ∃ consumed, script = consumed ++ self.transport.steps ∧
      (consumed.map fun step => step.sent.toPacket) = self.accepted.map Except.ok ∧
      (consumed.flatMap TraceStep.received).map TrpcPacket.toPacket =
        (self.taken ++ self.transport.packets).map Except.ok

variable {script : List TraceStep} {replay : TraceReplay}

theorem faithful_start (script : List TraceStep) : (start script).Faithful script :=
  ⟨rfl, [], rfl, rfl, rfl⟩

/-- A write that can be answered is accepted as a whole or changes nothing. -/
theorem Faithful.writePacket {packet : Packet} (h : replay.Faithful script)
    (hanswer : replay.transport.CanAnswer packet) :
    (replay.step (.writePacket packet)).Faithful script := by
  by_cases hexpects : replay.transport.Expects packet
  · obtain ⟨hwritten, consumed, hscript, hsent, hreceived⟩ := h
    obtain ⟨step, rest, hsteps, hpacket⟩ := hexpects
    obtain ⟨next, packets, hwrite, hrest, hlog, hqueue, hpackets⟩ :=
      TraceReplayTransport.writePacket_of_serializes hsteps hpacket
        (hanswer step rest hsteps hpacket)
    rw [TraceReplay.step, hwrite]
    refine ⟨?_, consumed ++ [step], ?_, ?_, ?_⟩
    · exact hlog.trans (congrArg (· ++ [packet]) hwritten)
    · rw [hscript, hsteps, hrest, List.append_assoc, List.singleton_append]
    · rw [List.map_append, List.map_append, hsent, List.map_singleton, List.map_singleton,
        hpacket]
    · calc
        ((consumed ++ [step]).flatMap TraceStep.received).map TrpcPacket.toPacket =
            (consumed.flatMap TraceStep.received).map TrpcPacket.toPacket ++
              step.received.map TrpcPacket.toPacket := by
          rw [List.flatMap_append, List.flatMap_singleton, List.map_append]
        _ = (replay.taken ++ replay.transport.packets).map Except.ok ++ packets.map Except.ok := by
          rw [hreceived, hpackets]
        _ = (replay.taken ++ next.packets).map Except.ok := by
          rw [hqueue, ← List.map_append, List.append_assoc]
  · obtain ⟨err, hrefused⟩ := TraceReplayTransport.writePacket_of_not_expects hexpects
    rw [TraceReplay.step, hrefused]
    exact h

theorem Faithful.readPacket (h : replay.Faithful script) :
    (replay.step .readPacket).Faithful script := by
  obtain ⟨hwritten, consumed, hscript, hsent, hreceived⟩ := h
  rw [step]
  rcases replay.transport.readNext_cases with
    ⟨packet, rest, hpackets, hread⟩ | hread | ⟨err, hread⟩
  · rw [hpackets, List.append_cons] at hreceived
    rw [hread]
    exact ⟨hwritten, consumed, hscript, hsent, hreceived⟩
  · rw [hread]
    exact ⟨hwritten, consumed, hscript, hsent, hreceived⟩
  · rw [hread]
    exact ⟨hwritten, consumed, hscript, hsent, hreceived⟩

variable {actions : List TraceAction}

/-- As long as every write can be answered, the replay stays faithful. -/
theorem faithful_run
    (hanswer : ∀ before packet, before ++ [.writePacket packet] <+: actions →
      (run script before).transport.CanAnswer packet)
    {before : List TraceAction} (hcut : before <+: actions) :
    (run script before).Faithful script := by
  induction before using List.reverseRecOn with
  | nil => exact faithful_start script
  | append_singleton before action ih =>
      have hbefore := ih ((List.prefix_append before [action]).trans hcut)
      rw [run_concat]
      cases action with
      | «open» => exact hbefore
      | close => exact hbefore
      | readPacket => exact hbefore.readPacket
      | writePacket packet => exact hbefore.writePacket (hanswer before packet hcut)

/-- At every moment of the actions the replay is faithful, and every write is atomic. -/
structure ReplaysExactly (script : List TraceStep) (actions : List TraceAction) : Prop where
  faithful : ∀ before, before <+: actions → (run script before).Faithful script
  atomic : ∀ before packet, before ++ [.writePacket packet] <+: actions →
    (run script before).transport.Atomic packet

theorem replaysExactly_iff_canAnswer (script : List TraceStep) (actions : List TraceAction) :
    ReplaysExactly script actions ↔
      ∀ before packet, before ++ [.writePacket packet] <+: actions →
        (run script before).transport.CanAnswer packet := by
  constructor
  · intro h before packet hcut
    exact TraceReplayTransport.atomic_iff.mp (h.atomic before packet hcut)
  · intro hanswer
    refine ⟨fun before hcut => faithful_run hanswer hcut, fun before packet hcut => ?_⟩
    exact TraceReplayTransport.atomic_iff.mpr (hanswer before packet hcut)

/-- A replay whose transport is complete has accepted the packets of the whole script, and has
received all its answers. -/
theorem Faithful.complete (h : replay.Faithful script)
    (hcomplete : replay.transport.assertComplete = .ok ()) :
    (script.map fun step => step.sent.toPacket) = replay.accepted.map Except.ok ∧
      (script.flatMap TraceStep.received).map TrpcPacket.toPacket =
        (replay.taken ++ replay.transport.packets).map Except.ok := by
  obtain ⟨-, consumed, hscript, hsent, hreceived⟩ := h
  have hsteps : replay.transport.steps = [] := by
    by_contra hleft
    rw [TraceReplayTransport.assertComplete, if_neg hleft] at hcomplete
    cases hcomplete
  rw [hsteps, List.append_nil] at hscript
  rw [hscript]
  exact ⟨hsent, hreceived⟩

/-! ## Scripts that can be answered -/

/-- The responses of every step that can be reached can be serialized. -/
def Answerable (script : List TraceStep) : Prop :=
  ∀ before step after, script = before ++ step :: after →
    (∀ earlier ∈ before, earlier.sent.Serializes) → step.sent.Serializes →
      ∀ response ∈ step.received, response.Serializes

/-- A write of the next packet consumes the step, also where it raises. -/
theorem steps_writePacket {packet : Packet} {step : TraceStep} {rest : List TraceStep}
    (hsteps : replay.transport.steps = step :: rest) (hsent : step.sent.toPacket = .ok packet) :
    (replay.step (.writePacket packet)).transport.steps = rest := by
  obtain ⟨hrest, -⟩ := TraceReplayTransport.queueResponses_frame
    { replay.transport with steps := rest, written := replay.transport.written ++ [packet] }
    step.received
  rw [← TraceReplayTransport.writePacket_of_expected hsteps hsent] at hrest
  rw [TraceReplay.step]
  split
  · rename_i hwrite
    rwa [hwrite] at hrest
  · rename_i hwrite
    rwa [hwrite] at hrest

/-- What is consumed was serialized for it. -/
theorem consumed_run (script : List TraceStep) (actions : List TraceAction) :
    ∃ consumed, script = consumed ++ (run script actions).transport.steps ∧
      ∀ step ∈ consumed, step.sent.Serializes := by
  induction actions using List.reverseRecOn with
  | nil => exact ⟨[], rfl, List.forall_mem_nil _⟩
  | append_singleton actions action ih =>
      obtain ⟨consumed, hscript, hsent⟩ := ih
      rw [run_concat]
      cases action with
      | «open» => exact ⟨consumed, hscript, hsent⟩
      | close => exact ⟨consumed, hscript, hsent⟩
      | readPacket =>
          refine ⟨consumed, ?_, hsent⟩
          rw [step]
          rcases (run script actions).transport.readNext_cases with
            ⟨packet, rest, -, hread⟩ | hread | ⟨err, hread⟩
          all_goals rw [hread]; exact hscript
      | writePacket packet =>
          by_cases hexpects : (run script actions).transport.Expects packet
          · obtain ⟨step, rest, hsteps, hpacket⟩ := hexpects
            refine ⟨consumed ++ [step], ?_, ?_⟩
            · rw [steps_writePacket hsteps hpacket, hscript, hsteps, List.append_assoc,
                List.singleton_append]
            · refine List.forall_mem_append.mpr ⟨hsent, List.forall_mem_singleton.mpr ?_⟩
              exact step.sent.serializes_iff.mpr ⟨packet, hpacket⟩
          · obtain ⟨err, hrefused⟩ := TraceReplayTransport.writePacket_of_not_expects hexpects
            refine ⟨consumed, ?_, hsent⟩
            rw [step, hrefused]
            exact hscript

/-- Writing the packets of the first steps leads to the others. -/
theorem exists_writes {before rest : List TraceStep} (replay : TraceReplay)
    (hsteps : replay.transport.steps = before ++ rest)
    (hsent : ∀ step ∈ before, step.sent.Serializes) :
    ∃ actions : List TraceAction, (actions.foldl step replay).transport.steps = rest := by
  induction before generalizing replay with
  | nil => exact ⟨[], hsteps⟩
  | cons first before ih =>
      obtain ⟨hfirst, hbefore⟩ := List.forall_mem_cons.mp hsent
      obtain ⟨packet, hpacket⟩ := first.sent.serializes_iff.mp hfirst
      obtain ⟨actions, hactions⟩ :=
        ih (replay.step (.writePacket packet)) (steps_writePacket hsteps hpacket) hbefore
      exact ⟨.writePacket packet :: actions, hactions⟩

theorem forall_replaysExactly_iff (script : List TraceStep) :
    (∀ actions, ReplaysExactly script actions) ↔ Answerable script := by
  constructor
  · intro h before step after hscript hbefore hsent
    obtain ⟨packet, hpacket⟩ := step.sent.serializes_iff.mp hsent
    obtain ⟨actions, hsteps⟩ := exists_writes (start script) hscript hbefore
    have hanswer := (replaysExactly_iff_canAnswer script _).mp
      (h (actions ++ [.writePacket packet])) actions packet List.prefix_rfl
    exact hanswer step after hsteps hpacket
  · intro h actions
    rw [replaysExactly_iff_canAnswer]
    intro before packet _ step rest hsteps hpacket
    obtain ⟨consumed, hscript, hsent⟩ := consumed_run script before
    rw [hsteps] at hscript
    exact h consumed step rest hscript hsent (step.sent.serializes_iff.mpr ⟨packet, hpacket⟩)

/-- Created messages can all be serialized. -/
theorem answerable_of_created {script : List TraceStep} (h : ∀ step ∈ script, step.Created) :
    Answerable script := by
  rintro before step after rfl - - response hresponse
  have hstep := h step (List.mem_append_right _ List.mem_cons_self)
  obtain ⟨service, method, fields, hcreate⟩ := hstep response (List.mem_cons_of_mem _ hresponse)
  exact TrpcPacket.serializes_of_create hcreate

/-- A script is replayed exactly as long as every packet that is the next expected one finds its
responses serializable, and under all actions if the responses of all its steps are. -/
theorem replaysExactly_iff (script : List TraceStep) :
    (∀ actions, ReplaysExactly script actions ↔
        ∀ before packet, before ++ [.writePacket packet] <+: actions →
          (run script before).transport.CanAnswer packet) ∧
      ((∀ actions, ReplaysExactly script actions) ↔ Answerable script) :=
  ⟨replaysExactly_iff_canAnswer script, forall_replaysExactly_iff script⟩

/-- The request for the protocol version and its answer. -/
def versionStep : TraceStep where
  sent := { serviceId := TrpcService.request.value, methodId := TrpcMethod.protocolVersion.value }
  received :=
    [{ serviceId := TrpcService.responseRequest.value
       methodId := TrpcMethod.protocolVersion.value
       body := .ofList [("version", 3)] }]

/-- The packet of the request for the protocol version. -/
def versionRequest : Packet := { type := Packet.TYPE_TRPC, data := [1, 143, 1, 0, 0, 0, 0] }

/-- The answer to the only request is serialized. -/
theorem replaysExactly_iff_version :
    ReplaysExactly [versionStep] [.open, .writePacket versionRequest, .readPacket] := by
  refine (replaysExactly_iff [versionStep]).2.mpr (fun before step after hscript _ _ => ?_) _
  cases before with
  | nil =>
      obtain ⟨rfl, -⟩ := List.cons.inj hscript
      exact List.forall_mem_singleton.mpr ((TrpcPacket.serializes_iff _).mpr ⟨_, rfl⟩)
  | cons first before =>
      have hrest := (List.cons.inj hscript).2
      exact absurd hrest.symm (List.append_ne_nil_of_right_ne_nil _ (List.cons_ne_nil _ _))

/-- The second answer to the request has a field that its method does not know. -/
def unknownFieldStep : TraceStep where
  sent := { serviceId := TrpcService.request.value, methodId := TrpcMethod.protocolVersion.value }
  received :=
    [{ serviceId := TrpcService.responseRequest.value
       methodId := TrpcMethod.protocolVersion.value
       body := .ofList [("version", 3)] },
     { serviceId := TrpcService.responseRequest.value
       methodId := TrpcMethod.protocolVersion.value
       body := .ofList [("bogus", 1)] }]

/-- The step can be loaded from a file. The write of its packet raises, but the step is gone, the
write is in the log and the first answer is queued. -/
theorem not_replaysExactly_unknownField :
    loadTrace (JsonCodec.values PyException)
        (dumpTrace (JsonCodec.values PyException) [unknownFieldStep]) = .ok [unknownFieldStep] ∧
      (∃ msg, ((start [unknownFieldStep]).transport.writePacket versionRequest).1 =
        .error (.unknownFieldError msg)) ∧
      (run [unknownFieldStep] [.writePacket versionRequest]).transport.steps = [] ∧
      (run [unknownFieldStep] [.writePacket versionRequest]).transport.written = [versionRequest] ∧
      (run [unknownFieldStep] [.writePacket versionRequest]).transport.packets.length = 1 ∧
      ¬ ReplaysExactly [unknownFieldStep] [.writePacket versionRequest] := by
  refine ⟨rfl, ⟨_, rfl⟩, rfl, rfl, rfl, fun h => ?_⟩
  obtain ⟨hsteps, -⟩ := h.atomic [] versionRequest List.prefix_rfl _ rfl
  cases hsteps

end TraceReplay

end Tekmar482
