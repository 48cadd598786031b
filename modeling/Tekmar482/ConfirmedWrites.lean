import Tekmar482.Setters
import Tekmar482.SetpointHistory
import Tekmar482.StateRebuild

/-!
# Confirmed writes

A device confirms a write with the bytes of the command under another service. Applied
to a state that knows the device, the confirmation shows the written value, and
every other value of the device and every other discovered device stays.
-/

namespace Tekmar482

/-- The payload of a write to a setpoint map. -/
def SetpointMap.payload (map : SetpointMap) (address value setback : Int) : SetbackPayload :=
  match map with
  | .heatSetpoints | .coolSetpoints | .slabSetpoints =>
      setbackSetpointFields address value setback
  | .fanPercent => setbackPercentFields address value setback
  | .setpointTargets => setbackTemperatureFields address value setback

/-- The writes of the setters. -/
inductive DeviceWrite where
  | setpoint (map : SetpointMap) (address value : Int) (setback : ThaSetback)
  | mode (address value : Int)
  deriving DecidableEq, Repr

namespace DeviceWrite

def address : DeviceWrite → Int
  | .setpoint _ address _ _ => address
  | .mode address _ => address

/-- The command of a write. -/
def command : DeviceWrite → TrpcCommand
  | .setpoint map address value setback =>
      .update map.method (map.payload address value setback.value).asFields
  | .mode address value => .update .modeSetting (modeSettingFields address value)

/-- The values of a write fit their wire fields. -/
def Fits : DeviceWrite → Prop
  | .setpoint map address value _ =>
      (0 ≤ address ∧ address < 256 ^ 2) ∧ 0 ≤ value ∧ value < 256 ^ map.size
  | .mode address value => (0 ≤ address ∧ address < 256 ^ 2) ∧ 0 ≤ value ∧ value < 256 ^ 1

/-- The device value that a write is about. -/
def written : DeviceWrite → DeviceValue
  | .setpoint map _ _ _ => .setpoints map
  | .mode _ _ => .scalar .modeSetting

/-- The runtime shows the written value. -/
def ReadBack (before after : DeviceRuntime) : DeviceWrite → Prop
  | .setpoint map _ value setback =>
      (setback ≠ .current → (after.setpoints map).get setback = some value) ∧
      (setback = .current ∨ (before.setpoints map).activeSetback = some setback →
        (after.setpoints map).current = some value)
  | .mode _ value => after.scalar .modeSetting = some value

end DeviceWrite

/-- A device value and its availability are the same in two runtimes. -/
def SameValue (before after : DeviceRuntime) (value : DeviceValue) : Prop :=
  (value ∈ after.availableValues ↔ value ∈ before.availableValues) ∧
  match value with
  | .scalar scalar => after.scalar scalar = before.scalar scalar
  | .setpoints map => after.setpoints map = before.setpoints map

/-! ## The updated runtime -/

/-- A value stored under the current or the active slot is the current value. -/
theorem SetpointValues.current_withValue {self : SetpointValues} {setback : ThaSetback}
    (h : setback = .current ∨ self.activeSetback = some setback) (value : Int) :
    (self.withValue setback (some value)).current = some value := by
  have hactive : (self.withValue setback (some value)).activeSetback = self.activeSetback := by
    rw [withValue]
    split <;> rfl
  have hlookup (slot : ThaSetback)
      (hslot : setback = slot ∨ setback = .current ∧ self.activeSetback = some slot) :
      (self.withValue setback (some value)).lookup slot = some value := by
    rw [lookup_withValue, if_pos hslot]
  have hcurrent (hslot : setback = .current) :
      (self.withValue setback (some value)).lookup .current = some value :=
    hlookup .current (Or.inl hslot)
  simp only [current, hactive]
  cases heq : self.activeSetback with
  | none =>
      rw [heq] at h
      rcases h with hslot | hnone
      · exact hcurrent hslot
      · cases hnone
  | some active =>
      have hstored : (self.withValue setback (some value)).lookup active = some value := by
        apply hlookup
        rcases h with hslot | hsame
        · exact Or.inr ⟨hslot, heq⟩
        · exact Or.inl (Option.some.inj (hsame.symm.trans heq))
      by_cases hactive : active = .current
      · subst hactive
        exact hstored
      · simp only [if_neg hactive, hstored, ite_self]

namespace DeviceRuntime

/-- A setpoint update leaves every other value of the device. -/
theorem sameValue_withSetpoint (self : DeviceRuntime) (map : SetpointMap) (setback : ThaSetback)
    (raw : Option Int) {value : DeviceValue} (h : value ≠ .setpoints map) :
    SameValue self (self.withSetpoint map setback raw) value := by
  constructor
  · rw [availableValues_withSetpoint, Finset.mem_insert]
    exact or_iff_right h
  · cases value with
    | scalar scalar => exact self.scalar_withSetpoint map setback raw scalar
    | setpoints other =>
        simp only
        rw [setpoints_withSetpoint, if_neg fun heq => h (congrArg DeviceValue.setpoints heq)]

/-- A scalar update other than the setback state leaves every other value. -/
theorem sameValue_withScalar (self : DeviceRuntime) {scalar : ScalarValue} (raw : Option Int)
    (hscalar : scalar ≠ .setbackState) {value : DeviceValue} (h : value ≠ .scalar scalar) :
    SameValue self (self.withScalar scalar raw) value := by
  constructor
  · rw [availableValues_withScalar, Finset.mem_insert]
    exact or_iff_right h
  · cases value with
    | scalar other =>
        simp only
        rw [scalar_withScalar, if_neg fun heq => h (congrArg DeviceValue.scalar heq)]
    | setpoints map =>
        simp only
        rw [setpoints_withScalar, if_neg hscalar]

end DeviceRuntime

/-! ## The confirmation of a command -/

/-- The bytes of a command as its confirmation has them. -/
def confirmation (data : List UInt8) : List UInt8 :=
  data.set 0 (UInt8.ofNat TrpcService.responseUpdate.value.toNat)

/-- The confirmation of a command with canonical fields is decoded with them. -/
theorem decode_confirmation {method : TrpcMethod} {fields : OrderedDict String Int}
    (hfields : (methodSpecs method).Canonical fields) :
    ∃ message data reply, (TrpcCommand.update method fields).toMessage = .ok message ∧
      message.toBytes = .ok data ∧ TrpcPacket.fromBytes (confirmation data) = .ok reply ∧
      RuntimeReport method reply ∧
      ∀ item ∈ (methodSpecs method).fields, reply.get item.name =
        some ((fields.get? item.name).getD 0 % 256 ^ item.size) := by
  have hcreate (service : Int) : TrpcPacket.create service method.value fields =
      .ok { serviceId := service, methodId := method.value, body := fields } := by
    simp only [TrpcPacket.create, TrpcPacket.methodSpec_value,
      (methodSpecs method).normalizeFields_of_canonical hfields, Except.map]
  obtain ⟨message, data, _, hmessage, hdata, -⟩ :=
    @TrpcPacket.decode_canonical TrpcService.update.value _ _ (by decide) hfields
  obtain ⟨message', data', reply, hmessage', hdata', hreply, hservice, hmethod, hget⟩ :=
    @TrpcPacket.decode_canonical TrpcService.responseUpdate.value _ _ (by decide) hfields
  have hsame : data' = confirmation data := by
    rw [hcreate] at hmessage hmessage'
    injection hmessage with hmessage
    injection hmessage' with hmessage'
    have hset := TrpcPacket.toBytes_withService TrpcService.responseUpdate.value hdata
    rw [← hmessage] at hset
    rw [← hmessage', hset] at hdata'
    injection hdata' with hdata'
    exact hdata'.symm
  rw [hsame] at hreply
  refine ⟨message, data, reply, hmessage, hdata, hreply, ⟨?_, hmethod⟩, hget⟩
  rw [hservice]
  decide

/-! ## The confirmed state -/

namespace Tekmar482State

theorem data_applyMessage_eq (state : Tekmar482State) (message : TrpcPacket) :
    (state.applyMessage message).2.data = applyOrKeep state.discovery state.data message :=
  state.data_applyMessage message

/-- A message acts on every discovered device through its runtime. -/
theorem runtime_applyMessage (state : Tekmar482State) (message : TrpcPacket) {address : Int}
    (h : address ∈ state.discovery.addresses) :
    (state.applyMessage message).2.runtime address =
      (state.runtime address).map fun runtime => updatedRuntime runtime message := by
  rw [runtime, data_applyMessage_eq, get?_applyOrKeep h, updatedSnapshots, runtime,
    Option.map_map, Option.map_map]
  rfl

/-- A device in the data has a runtime, with its own address. -/
theorem exists_runtime (state : Tekmar482State) {address : Int}
    (h : address ∈ state.data.devices.map fun snapshot => snapshot.info.address) :
    ∃ runtime, state.runtime address = some runtime ∧ runtime.info.address = address := by
  have hfound : state.data.snapshots.get? address ≠ none := by
    rw [Ne, AvailableInfo.snapshots, OrderedDict.get?_ofList_eq_none_iff, not_not, List.map_map]
    exact h
  obtain ⟨snapshot, hsnapshot⟩ := Option.ne_none_iff_exists'.mp hfound
  refine ⟨snapshot.runtime, ?_, AvailableInfo.address_of_get? hsnapshot⟩
  rw [runtime, hsnapshot, Option.map_some]

/-- A message to another address leaves a device alone. -/
theorem runtime_applyMessage_other (state : Tekmar482State) {message : TrpcPacket}
    {address other : Int} (haddress : message.get "address" = some address)
    (hother : other ∈ state.discovery.addresses) (hne : other ≠ address) :
    (state.applyMessage message).2.runtime other = state.runtime other := by
  rw [runtime_applyMessage state message hother]
  cases hruntime : state.runtime other with
  | none => rfl
  | some before =>
      have hown : before.info.address = other := by
        obtain ⟨snapshot, hsnapshot, rfl⟩ := Option.map_eq_some_iff.mp hruntime
        exact AvailableInfo.address_of_get? hsnapshot
      rw [Option.map_some, updatedRuntime_eq_self]
      rintro ⟨_, hmessage⟩
      rw [haddress, hown] at hmessage
      exact hne (Option.some.inj hmessage).symm

end Tekmar482State

/-- What the confirmation of a write does to a runtime. -/
def DeviceWrite.ReadsBack (write : DeviceWrite) (before : DeviceRuntime) : Prop :=
  ∃ message data reply, write.command.toMessage = .ok message ∧
    message.toBytes = .ok data ∧ TrpcPacket.fromBytes (confirmation data) = .ok reply ∧
    reply.get "address" = some write.address ∧
    write.ReadBack before (updatedRuntime before reply) ∧
    write.written ∈ (updatedRuntime before reply).availableValues ∧
    ∀ value, value ≠ write.written → SameValue before (updatedRuntime before reply) value

theorem DeviceWrite.readsBack_setpoint {map : SetpointMap} {address value : Int}
    {setback : ThaSetback} (hfits : (DeviceWrite.setpoint map address value setback).Fits)
    {before : DeviceRuntime} (haddress : before.info.address = address) :
    (DeviceWrite.setpoint map address value setback).ReadsBack before := by
  obtain ⟨⟨haddress0, haddress1⟩, hvalue0, hvalue1⟩ := hfits
  have hname : (map.payload address value setback.value).name = map.field := by
    cases map <;> rfl
  have hpayload : (map.payload address value setback.value).address = address ∧
      (map.payload address value setback.value).setback = setback.value ∧
      (map.payload address value setback.value).value = value := by
    cases map <;> exact ⟨rfl, rfl, rfl⟩
  have hsetback : setback.value % 256 ^ 1 = setback.value := by cases setback <;> rfl
  obtain ⟨message, data, reply, hmessage, hdata, hreply, hreport, hfields⟩ :=
    decode_confirmation (SetbackPayload.canonical_asFields hname)
  obtain ⟨hget, hslot, hfield⟩ := SetbackPayload.get_of_fields hname hfields
  rw [hpayload.1, Int.emod_eq_of_lt haddress0 haddress1] at hget
  rw [hpayload.2.1, hsetback] at hslot
  rw [hpayload.2.2, Int.emod_eq_of_lt hvalue0 hvalue1] at hfield
  have hmethod : map.method ∈ deviceValueMethods := by cases map <;> decide
  have hupdated : updatedRuntime before reply =
      before.withSetpoint map setback (some value) := by
    rw [updatedRuntime_report hreport hmethod (hget.trans (congrArg some haddress.symm)),
      applyRuntimeMessage_report map.setpointMethods_method hslot hfield]
    rfl
  refine ⟨message, data, reply, hmessage, hdata, hreply, hget, ?_⟩
  rw [hupdated]
  refine ⟨⟨fun hconcrete => ?_, fun hcurrent => ?_⟩, ?_, fun other hother =>
    before.sameValue_withSetpoint map setback (some value) hother⟩
  · rw [DeviceRuntime.setpoints_withSetpoint, if_pos rfl, SetpointValues.get,
      if_neg hconcrete, SetpointValues.lookup_withValue, if_pos (Or.inl rfl)]
  · rw [DeviceRuntime.setpoints_withSetpoint, if_pos rfl]
    exact SetpointValues.current_withValue hcurrent value
  · rw [DeviceRuntime.availableValues_withSetpoint]
    exact Finset.mem_insert_self _ _

theorem DeviceWrite.readsBack_mode {address value : Int}
    (hfits : (DeviceWrite.mode address value).Fits) {before : DeviceRuntime}
    (haddress : before.info.address = address) :
    (DeviceWrite.mode address value).ReadsBack before := by
  obtain ⟨⟨haddress0, haddress1⟩, hvalue0, hvalue1⟩ := hfits
  have hentries : (modeSettingFields address value).entries =
      [("address", address), ("mode", value)] := rfl
  have hcanonical : (methodSpecs .modeSetting).Canonical (modeSettingFields address value) := by
    intro key hkey
    rw [OrderedDict.keys, hentries] at hkey
    simp only [List.map_cons, List.map_nil, List.mem_cons, List.not_mem_nil, or_false] at hkey
    rcases hkey with rfl | rfl
    · exact ⟨⟨"address", 2, []⟩, by simp [methodSpecs], rfl⟩
    · exact ⟨⟨"mode", 1, []⟩, by simp [methodSpecs], rfl⟩
  obtain ⟨message, data, reply, hmessage, hdata, hreply, hreport, hfields⟩ :=
    decode_confirmation hcanonical
  have hget : reply.get "address" = some (address % 256 ^ 2) :=
    hfields ⟨"address", 2, []⟩ (by simp [methodSpecs])
  have hfield : reply.get "mode" = some (value % 256 ^ 1) :=
    hfields ⟨"mode", 1, []⟩ (by simp [methodSpecs])
  rw [Int.emod_eq_of_lt haddress0 haddress1] at hget
  rw [Int.emod_eq_of_lt hvalue0 hvalue1] at hfield
  have hupdated : updatedRuntime before reply =
      before.withScalar .modeSetting (some value) := by
    rw [updatedRuntime_report hreport (by decide)
      (hget.trans (congrArg some haddress.symm))]
    simp only [applyRuntimeMessage, scalarMethods, hfield, Option.getD_some]
  refine ⟨message, data, reply, hmessage, hdata, hreply, hget, ?_⟩
  rw [hupdated]
  refine ⟨?_, ?_, fun other hother =>
    before.sameValue_withScalar (some value) (by decide) hother⟩
  · exact (before.scalar_withScalar .modeSetting .modeSetting (some value)).trans (if_pos rfl)
  · rw [DeviceRuntime.availableValues_withScalar]
    exact Finset.mem_insert_self _ _

/-- A confirmed write is read back from a runtime of its address. -/
theorem DeviceWrite.readsBack {write : DeviceWrite} (hfits : write.Fits) {before : DeviceRuntime}
    (haddress : before.info.address = write.address) : write.ReadsBack before := by
  cases write with
  | setpoint map address value setback => exact readsBack_setpoint hfits haddress
  | mode address value => exact readsBack_mode hfits haddress

/-- A confirmed write is read back: applying the confirmation to a state with the
device shows the written value and makes it available, and leaves every other value
of the device and every other discovered device. -/
theorem confirmed_write_read_back (write : DeviceWrite) (hfits : write.Fits)
    (state : Tekmar482State) (hdiscovery : write.address ∈ state.discovery.addresses)
    (hdata : write.address ∈ state.data.devices.map fun snapshot => snapshot.info.address) :
    ∃ message data reply, write.command.toMessage = .ok message ∧
      message.toBytes = .ok data ∧ TrpcPacket.fromBytes (confirmation data) = .ok reply ∧
      let confirmed := (state.applyMessage reply).2
      (∃ before after, state.runtime write.address = some before ∧
        confirmed.runtime write.address = some after ∧ write.ReadBack before after ∧
        write.written ∈ after.availableValues ∧
        ∀ value, value ≠ write.written → SameValue before after value) ∧
      ∀ other ∈ state.discovery.addresses, other ≠ write.address →
        confirmed.runtime other = state.runtime other := by
  obtain ⟨before, hbefore, haddress⟩ := state.exists_runtime hdata
  obtain ⟨message, data, reply, hmessage, hbytes, hreply, hget, hafter⟩ :=
    write.readsBack hfits haddress
  refine ⟨message, data, reply, hmessage, hbytes, hreply,
    ⟨before, updatedRuntime before reply, hbefore, ?_, hafter⟩, fun other hother hne => ?_⟩
  · rw [state.runtime_applyMessage reply hdiscovery, hbefore, Option.map_some]
  · exact state.runtime_applyMessage_other hget hother hne

/-- Two devices in the data, of which only the first was discovered. -/
def partlyDiscovered : Tekmar482State where
  discovery := { devices := [{ address := 1011 }] }
  data := { devices := [⟨{ info := { address := 1011 } }⟩, ⟨{ info := { address := 7 } }⟩] }

theorem confirmed_write_read_back_heat :
    ∃ reply after, (partlyDiscovered.applyMessage reply).2.runtime 1011 = some after ∧
      (after.setpoints .heatSetpoints).current = some 42 := by
  obtain ⟨message, data, reply, -, -, -, ⟨before, after, -, hafter, hread, -⟩, -⟩ :=
    confirmed_write_read_back (.setpoint .heatSetpoints 1011 42 .current)
      ⟨by decide, by decide⟩ partlyDiscovered (by decide) (by decide)
  exact ⟨reply, after, hafter, hread.2 (Or.inl rfl)⟩

/-- A device that was not discovered is dropped by the confirmation of a write to
another one. -/
theorem not_confirmed_write_other :
    let write := DeviceWrite.mode 1011 1
    write.Fits ∧ write.address ∈ partlyDiscovered.discovery.addresses ∧
      write.address ∈ (partlyDiscovered.data.devices.map fun snapshot => snapshot.info.address) ∧
      ∃ message data reply, write.command.toMessage = .ok message ∧
        message.toBytes = .ok data ∧ TrpcPacket.fromBytes (confirmation data) = .ok reply ∧
        (7 : Int) ≠ write.address ∧ (partlyDiscovered.runtime 7).isSome = true ∧
        (partlyDiscovered.applyMessage reply).2.runtime 7 = none := by
  refine ⟨⟨by decide, by decide⟩, by decide, by decide,
    { serviceId := 0, methodId := 0x127, body := .ofList [("address", 1011), ("mode", 1)] },
    [0, 0x27, 1, 0, 0, 0xF3, 3, 1],
    { serviceId := 3, methodId := 0x127, body := .ofList [("address", 1011), ("mode", 1)] },
    by decide, by decide, by decide, by decide, by decide, by decide⟩

end Tekmar482
