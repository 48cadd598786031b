import Tekmar482.Client
import Tekmar482.ConfirmedWrites

/-!
# Confirmations that echo the command

A confirmed write awaits an update response that repeats every field of its payload. The
fields of the payload are those of the method, so the match reads the whole body: it takes
the messages with the body of the command and no other.
-/

namespace Tekmar482

/-- The writes whose confirmation the client can await. -/
inductive ConfirmableWrite where
  | setpoint (map : SetpointMap) (address value setback : Int)
  | modeSetting (address mode : Int)
  | reportingState (enabled : Bool)
  | setbackEnable (enabled : Bool)
  | setpointGroupEnable (groupId : Int) (enabled : Bool)
  | dateTime (fields : DateTimeFields)
  deriving DecidableEq, Repr

namespace ConfirmableWrite

def method : ConfirmableWrite → TrpcMethod
  | setpoint map _ _ _ => map.method
  | modeSetting _ _ => .modeSetting
  | reportingState _ => .reportingState
  | setbackEnable _ => .setbackEnable
  | setpointGroupEnable _ _ => .setpointGroupEnable
  | dateTime _ => .dateTime

/-- The fields of the payload. -/
def fields : ConfirmableWrite → OrderedDict String Int
  | setpoint map address value setback => (map.payload address value setback).asFields
  | modeSetting address mode => modeSettingFields address mode
  | reportingState enabled => reportingStateFields enabled
  | setbackEnable enabled => enableFields enabled
  | setpointGroupEnable groupId enabled =>
      ({ groupId := groupId, enabled := some enabled } : SetpointGroupFields).asFields
  | dateTime fields => fields.asFields

/-- The address that the match names besides the fields. -/
def matchAddress : ConfirmableWrite → Option Int
  | setpoint _ address _ _ => some address
  | modeSetting address _ => some address
  | _ => none

def command (self : ConfirmableWrite) : TrpcCommand := .update self.method self.fields

def responseMatch (self : ConfirmableWrite) : ResponseMatch :=
  .forCommand self.command self.matchAddress self.fields

/-- The values of the payload fit their wire fields. -/
def Fits (self : ConfirmableWrite) : Prop :=
  ∀ item ∈ (methodSpecs self.method).fields, ∀ value ∈ self.fields.get? item.name,
    0 ≤ value ∧ value < 256 ^ item.size

/-- The requests that the setters make to have the write confirmed. -/
def requests (hasTimeout : Bool) :
    ConfirmableWrite → List (Except PyException (SessionRequest (List Int)))
  | setpoint .heatSetpoints address value setback =>
      [.ok (Client.setHeatSetpoint address setback hasTimeout value),
        .ok (Client.setLatestHeatSetpoint address setback hasTimeout value true)]
  | setpoint .coolSetpoints address value setback =>
      [.ok (Client.setCoolSetpoint address setback hasTimeout value),
        .ok (Client.setLatestCoolSetpoint address setback hasTimeout value true)]
  | setpoint .slabSetpoints address value setback =>
      [.ok (Client.setSlabSetpoint address setback hasTimeout value),
        .ok (Client.setLatestSlabSetpoint address setback hasTimeout value true)]
  | setpoint .setpointTargets address value setback =>
      [.ok (Client.setSetpointDevice address setback hasTimeout value),
        .ok (Client.setLatestSetpointDevice address setback hasTimeout value true)]
  | setpoint .fanPercent address value setback =>
      [Client.setFanPercent address setback hasTimeout value,
        Client.setLatestFanPercent address setback hasTimeout value true]
  | modeSetting address mode => [Client.setMode address mode true hasTimeout]
  | setpointGroupEnable groupId enabled => [.ok (Client.setSetpointGroup groupId enabled hasTimeout)]
  | dateTime fields => [.ok (Client.setDatetime fields hasTimeout)]
  | reportingState _ | setbackEnable _ => []

/-- The command and the response match of a write, as the client builds them: a setter
with a request to the session, discovery and the reporting switch with a call. -/
inductive Built (write : ConfirmableWrite) : TrpcCommand → ResponseMatch → Prop
  | request {hasTimeout : Bool} {request : SessionRequest (List Int)} {wait : ResponseWait}
      (hrequest : .ok request ∈ write.requests hasTimeout)
      (hwait : (Call.create request).response = some wait) :
      Built write (Call.create request).command wait.responseMatch
  | reportingState {enabled : Bool} {command : TrpcCommand} {responseMatch : ResponseMatch}
      (hwrite : write = .reportingState enabled)
      (hcall : Client.setReportingState enabled =
        Routine.perform (SessionCall.updateResponse command responseMatch)) :
      Built write command responseMatch
  | setbackEnable {enabled : Bool} {command : TrpcCommand} {responseMatch : ResponseMatch}
      (hwrite : write = .setbackEnable enabled)
      (hcall : Client.updateResponse .setbackEnable (enableFields enabled) (enableFields enabled) =
        Routine.perform (SessionCall.updateResponse command responseMatch)) :
      Built write command responseMatch

/-- A setter awaits the default match of the whole payload. -/
theorem create_of_requests {write : ConfirmableWrite} {hasTimeout : Bool}
    {request : SessionRequest (List Int)} (h : .ok request ∈ write.requests hasTimeout) :
    (Call.create request).command = write.command ∧
      (Call.create request).response = some ⟨write.responseMatch, true, hasTimeout⟩ := by
  cases write with
  | setpoint map address value setback =>
      cases map with
      | fanPercent =>
          simp only [requests, Client.setFanPercent, Client.setLatestFanPercent,
            Client.validatePercent] at h
          split at h
          · simp only [Except.map, List.mem_cons, Except.ok.injEq, List.not_mem_nil,
              or_false] at h
            rcases h with rfl | rfl <;> exact ⟨rfl, rfl⟩
          · simp [Except.map] at h
      | _ =>
          simp only [requests, List.mem_cons, Except.ok.injEq, List.not_mem_nil, or_false] at h
          rcases h with rfl | rfl <;> exact ⟨rfl, rfl⟩
  | modeSetting address mode =>
      simp only [requests, Client.setMode] at h
      split at h
      · simp only [if_true, List.mem_singleton, Except.ok.injEq] at h
        subst h
        exact ⟨rfl, rfl⟩
      · simp at h
  | reportingState enabled => cases h
  | setbackEnable enabled => cases h
  | setpointGroupEnable groupId enabled =>
      simp only [requests, List.mem_singleton, Except.ok.injEq] at h
      subst h
      exact ⟨rfl, rfl⟩
  | dateTime fields =>
      simp only [requests, List.mem_singleton, Except.ok.injEq] at h
      subst h
      exact ⟨rfl, rfl⟩

/-- However the client builds a write, the match names its whole payload. -/
theorem Built.eq {write : ConfirmableWrite} {command : TrpcCommand} {responseMatch : ResponseMatch}
    (h : Built write command responseMatch) :
    command = write.command ∧ responseMatch = write.responseMatch := by
  cases h with
  | request hrequest hwait =>
      obtain ⟨hcommand, hresponse⟩ := create_of_requests hrequest
      rw [hresponse] at hwait
      injection hwait with hwait
      exact ⟨hcommand, hwait ▸ rfl⟩
  | reportingState hwrite hcall =>
      subst hwrite
      injection hcall with hcall _
      injection hcall with hcommand hmatch
      exact ⟨hcommand.symm, hmatch.symm⟩
  | setbackEnable hwrite hcall =>
      subst hwrite
      injection hcall with hcall _
      injection hcall with hcommand hmatch
      exact ⟨hcommand.symm, hmatch.symm⟩

/-- A payload has every field of its method, in the order of the layout. -/
theorem keys_fields (write : ConfirmableWrite) :
    write.fields.keys = (methodSpecs write.method).fields.map FieldSpec.name := by
  have hkeys {items : List (String × Int)}
      (hnames : items.map Prod.fst = (methodSpecs write.method).fields.map FieldSpec.name) :
      (OrderedDict.ofList items).keys =
        (methodSpecs write.method).fields.map FieldSpec.name := by
    rw [OrderedDict.keys, OrderedDict.entries_ofList, hnames]
    rw [hnames]
    exact (methodSpecs write.method).names_nodup
  cases write with
  | setpoint map address value setback => cases map <;> exact hkeys rfl
  | _ => exact hkeys rfl

theorem canonical_fields (write : ConfirmableWrite) :
    (methodSpecs write.method).Canonical write.fields := by
  intro key hkey
  rw [keys_fields] at hkey
  exact List.mem_map.mp hkey

/-- The address of the match is one of the fields. -/
theorem get_address {write : ConfirmableWrite} {address : Int}
    (h : write.matchAddress = some address) : ("address", address) ∈ write.fields.entries := by
  cases write with
  | setpoint map other value setback =>
      injection h with h
      subst h
      cases map <;>
        simp [fields, SetpointMap.payload, setbackSetpointFields, setbackPercentFields,
          setbackTemperatureFields, SetbackPayload.entries_asFields]
  | modeSetting other mode =>
      injection h with h
      subst h
      rw [fields, modeSettingFields, OrderedDict.entries_ofList (by simp)]
      exact List.mem_cons_self
  | _ => cases h

end ConfirmableWrite

namespace TrpcPacket

/-- The bytes of a command with canonical fields: a header and the packed fields. -/
theorem toBytes_update {method : TrpcMethod} {fields : OrderedDict String Int}
    (hfields : (methodSpecs method).Canonical fields) :
    ∃ message sent, (TrpcCommand.update method fields).toMessage = .ok message ∧
      message.toBytes = .ok sent ∧ sent.drop 5 = packFields fields (methodSpecs method).fields := by
  have hnormal := (methodSpecs method).normalizeFields_of_canonical hfields
  refine ⟨⟨TrpcService.update.value, method.value, fields, []⟩,
    packInt TrpcService.update.value 1 ++ packInt method.value 4 ++
      (packFields fields (methodSpecs method).fields ++ []), ?_, ?_, ?_⟩
  · simp only [TrpcCommand.toMessage, TrpcCommand.update, create, methodSpec_value, hnormal,
      Except.map]
  · simp only [toBytes, methodSpec_value, hnormal, Except.map]
  · rw [List.append_nil, List.drop_left']
    rw [List.length_append, length_packInt, length_packInt]

/-- The ids of a message are its first byte and the next four. -/
theorem ids_fromBytes {data : List UInt8} (h : 5 ≤ data.length) :
    ∃ reply, fromBytes data = .ok reply ∧ reply.serviceId = unpackInt (data.take 1) ∧
      reply.methodId = unpackInt ((data.drop 1).take 4) := by
  cases hspec : methodSpec (unpackInt ((data.drop 1).take 4)) with
  | none => exact ⟨_, fromBytes_unknown h hspec, rfl, rfl⟩
  | some spec => exact ⟨_, fromBytes_known h hspec, rfl, rfl⟩

section Echo

variable {method : TrpcMethod} {fields : OrderedDict String Int} {data : List UInt8}
  {reply : TrpcPacket}

/-- A reply of a method has the numbers that the layout cuts from its padded body. -/
theorem get_reply (h : fromBytes data = .ok reply) (hmethod : reply.methodId = method.value)
    {name : String} (hname : name ∈ (methodSpecs method).fields.map FieldSpec.name) (value : Int) :
    reply.get name = some value ↔
      (name, value) ∈ cut (methodSpecs method).fields
        (ljust ((data.drop 5).take (methodSpecs method).size) (methodSpecs method).size) := by
  have hlen : 5 ≤ data.length := by
    by_contra hshort
    rw [fromBytes, HEADER_SIZE, if_pos (Nat.lt_of_not_le hshort)] at h
    cases h
  have hid : unpackInt ((data.drop 1).take 4) = method.value := by
    obtain ⟨message, hmessage, -, hparsed⟩ := ids_fromBytes hlen
    rw [h] at hmessage
    injection hmessage with hmessage
    rw [← hparsed, ← hmessage, hmethod]
  have hspec : methodSpec (unpackInt ((data.drop 1).take 4)) = some (methodSpecs method) := by
    rw [hid, methodSpec_value]
  obtain ⟨item, hitem, rfl⟩ := List.mem_map.mp hname
  rw [fromBytes_known hlen hspec] at h
  injection h with h
  subst h
  simp only [get, hspec, MethodSpec.get?_fieldAliases_name (methodSpecs method) hitem,
    Option.getD_some]
  rw [OrderedDict.get?_eq_some_iff, entries_decoded]

/-- A reply of a method repeats a whole payload exactly when its body, cut or padded to the
size of the method, is the packed payload. -/
theorem fields_match_iff (hkeys : fields.keys = (methodSpecs method).fields.map FieldSpec.name)
    (hfits : ∀ item ∈ (methodSpecs method).fields, ∀ value ∈ fields.get? item.name,
      0 ≤ value ∧ value < 256 ^ item.size)
    (h : fromBytes data = .ok reply) (hmethod : reply.methodId = method.value) :
    (∀ entry ∈ fields.entries, reply.get entry.1 = some entry.2) ↔
      ljust ((data.drop 5).take (methodSpecs method).size) (methodSpecs method).size =
        packFields fields (methodSpecs method).fields := by
  have hsize : (ljust ((data.drop 5).take (methodSpecs method).size)
      (methodSpecs method).size).length = (methodSpecs method).size := by
    rw [length_ljust, List.length_take]
    omega
  have hname {entry : String × Int} (hentry : entry ∈ fields.entries) :
      entry.1 ∈ (methodSpecs method).fields.map FieldSpec.name := by
    rw [← hkeys]
    exact List.mem_map_of_mem hentry
  constructor
  · intro hall
    refine (packFields_of_cut _ _ fields hsize fun entry hentry => ?_).symm
    have hknown : entry.1 ∈ (methodSpecs method).fields.map FieldSpec.name := by
      rw [← keys_cut]
      exact List.mem_map_of_mem hentry
    obtain ⟨value, hvalue⟩ := (fields.mem_keys_iff entry.1).mp (hkeys ▸ hknown)
    have hreply := hall (entry.1, value) ((fields.get?_eq_some_iff _ _).mp hvalue)
    rw [(get_reply h hmethod hknown entry.2).mpr hentry] at hreply
    rw [hvalue, hreply]
  · intro hbody entry hentry
    rw [get_reply h hmethod (hname hentry), hbody, cut_packFields]
    obtain ⟨item, hitem, hsame⟩ := List.mem_map.mp (hname hentry)
    have hvalue : fields.get? item.name = some entry.2 := by
      rw [hsame]
      exact (fields.get?_eq_some_iff _ _).mpr hentry
    have hrange := hfits item hitem entry.2 hvalue
    refine List.mem_map.mpr ⟨item, hitem, ?_⟩
    rw [hvalue, Option.getD_some, Int.emod_eq_of_lt hrange.1 hrange.2, hsame]

end Echo

end TrpcPacket

namespace ConfirmableWrite

/-- The match that the client builds for a confirmed write takes a message exactly when it
is an update response of the command's method whose body, cut or padded with zero bytes to
the size of the method, is the body of the command. -/
theorem accepts_iff_echo {write : ConfirmableWrite} (hfits : write.Fits) {command : TrpcCommand}
    {responseMatch : ResponseMatch} (hbuilt : Built write command responseMatch) :
    ∃ message sent, command.toMessage = .ok message ∧ message.toBytes = .ok sent ∧
      ∀ data : List UInt8, 5 ≤ data.length → ∃ reply, TrpcPacket.fromBytes data = .ok reply ∧
        (responseMatch.accepts reply = true ↔
          unpackInt (data.take 1) = TrpcService.responseUpdate.value ∧
          unpackInt ((data.drop 1).take 4) = command.method ∧
          TrpcPacket.ljust ((data.drop 5).take (methodSpecs write.method).size)
            (methodSpecs write.method).size = sent.drop 5) := by
  obtain ⟨rfl, rfl⟩ := hbuilt.eq
  obtain ⟨message, sent, hmessage, hsent, hbody⟩ := TrpcPacket.toBytes_update write.canonical_fields
  refine ⟨message, sent, hmessage, hsent, fun data hlen => ?_⟩
  obtain ⟨reply, hreply, hservice, hid⟩ := TrpcPacket.ids_fromBytes hlen
  have haccepts := ResponseMatch.accepts_forCommand_iff
    (show responseServiceFor write.command.service = some .responseUpdate from rfl)
    write.matchAddress write.fields reply
  refine ⟨reply, hreply, haccepts.trans ?_⟩
  rw [hservice, hid]
  refine and_congr_right fun _ => and_congr_right fun hmethod => ?_
  rw [hbody, ← TrpcPacket.fields_match_iff write.keys_fields hfits hreply (hid.trans hmethod)]
  refine and_iff_right_of_imp fun hfields address haddress => ?_
  exact hfields ("address", address) (get_address haddress)

/-- A heat setpoint write of slot 2, and the request of its setter. -/
theorem accepts_iff_echo_heatSetpoint :
    ∃ message sent,
      (setpoint .heatSetpoints 0x0102 40 2).command.toMessage = .ok message ∧
      message.toBytes = .ok sent ∧
      ∀ data : List UInt8, 5 ≤ data.length → ∃ reply, TrpcPacket.fromBytes data = .ok reply ∧
        ((setpoint .heatSetpoints 0x0102 40 2).responseMatch.accepts reply = true ↔
          unpackInt (data.take 1) = TrpcService.responseUpdate.value ∧
          unpackInt ((data.drop 1).take 4) = TrpcMethod.heatSetpoint.value ∧
          TrpcPacket.ljust ((data.drop 5).take (methodSpecs .heatSetpoint).size)
            (methodSpecs .heatSetpoint).size = sent.drop 5) := by
  have hfits : (setpoint .heatSetpoints 0x0102 40 2).Fits := by
    simp only [Fits]
    decide
  have hrequest : .ok (Client.setHeatSetpoint 0x0102 2 true 40) ∈
      (setpoint .heatSetpoints 0x0102 40 2).requests true := List.mem_cons_self
  exact accepts_iff_echo hfits (.request hrequest rfl)

end ConfirmableWrite

end Tekmar482
