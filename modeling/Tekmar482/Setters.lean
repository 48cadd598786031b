import Tekmar482.Session
import Tekmar482.State
import Tekmar482.TrpcCodec
import Tekmar482.Units

/-!
# Setter commands

The setters of the client write one value of a device. Every setter makes one call of
the session: a plain update awaits its confirmation, and a coalesced one replaces
the older unsent update of its key.
-/

namespace Tekmar482

/-- A payload for writes to a setback slot: one value under its field name. -/
structure SetbackPayload where
  address : Int
  setback : Int
  name : String
  value : Int

namespace SetbackPayload

def asFields (self : SetbackPayload) : OrderedDict String Int :=
  .ofList [("address", self.address), ("setback", self.setback), (self.name, self.value)]

/-- The key for superseding unsent writes to the same slot. -/
def coalesceKey (self : SetbackPayload) (method : TrpcMethod) : List Int :=
  [method.value, self.address, self.setback]

end SetbackPayload

/-- Payload for HeatSetpoint/CoolSetpoint/SlabSetpoint writes. -/
def setbackSetpointFields (address setpoint setback : Int) : SetbackPayload :=
  ⟨address, setback, "setpoint", setpoint⟩

/-- Payload for FanPercent writes. -/
def setbackPercentFields (address percent setback : Int) : SetbackPayload :=
  ⟨address, setback, "percent", percent⟩

/-- Payload for SetpointDevice target temperature writes. -/
def setbackTemperatureFields (address temp setback : Int) : SetbackPayload :=
  ⟨address, setback, "temp", temp⟩

/-- Payload for ModeSetting writes. -/
def modeSettingFields (address mode : Int) : OrderedDict String Int :=
  .ofList [("address", address), ("mode", mode)]

namespace Client

def updateSetbackPayload (method : TrpcMethod) (payload : SetbackPayload) (hasTimeout : Bool) :
    SessionRequest (List Int) :=
  let command := TrpcCommand.update method payload.asFields
  .updateResponse command
    (some (.forCommand command (some payload.address) payload.asFields)) hasTimeout

def coalescedSetbackPayload (method : TrpcMethod) (payload : SetbackPayload)
    (confirm hasTimeout : Bool) : SessionRequest (List Int) :=
  let command := TrpcCommand.update method payload.asFields
  if confirm then
    .coalescedUpdateResponse command (payload.coalesceKey method)
      (some (.forCommand command (some payload.address) payload.asFields)) hasTimeout
  else .coalescedUpdate command (payload.coalesceKey method)

section

variable (address : Int) (setback : Int) (hasTimeout : Bool)

def setHeatSetpoint (setpoint : Int) : SessionRequest (List Int) :=
  updateSetbackPayload .heatSetpoint (setbackSetpointFields address setpoint setback) hasTimeout

def setHeatSetpointCelsius (celsius : ℚ) : SessionRequest (List Int) :=
  setHeatSetpoint address setback hasTimeout (celsiusToDege celsius)

def setLatestHeatSetpoint (setpoint : Int) (confirm : Bool) : SessionRequest (List Int) :=
  coalescedSetbackPayload .heatSetpoint (setbackSetpointFields address setpoint setback) confirm
    hasTimeout

def setLatestHeatSetpointCelsius (celsius : ℚ) (confirm : Bool) : SessionRequest (List Int) :=
  setLatestHeatSetpoint address setback hasTimeout (celsiusToDege celsius) confirm

def setCoolSetpoint (setpoint : Int) : SessionRequest (List Int) :=
  updateSetbackPayload .coolSetpoint (setbackSetpointFields address setpoint setback) hasTimeout

def setCoolSetpointCelsius (celsius : ℚ) : SessionRequest (List Int) :=
  setCoolSetpoint address setback hasTimeout (celsiusToDege celsius)

def setLatestCoolSetpoint (setpoint : Int) (confirm : Bool) : SessionRequest (List Int) :=
  coalescedSetbackPayload .coolSetpoint (setbackSetpointFields address setpoint setback) confirm
    hasTimeout

def setLatestCoolSetpointCelsius (celsius : ℚ) (confirm : Bool) : SessionRequest (List Int) :=
  setLatestCoolSetpoint address setback hasTimeout (celsiusToDege celsius) confirm

def setSlabSetpoint (setpoint : Int) : SessionRequest (List Int) :=
  updateSetbackPayload .slabSetpoint (setbackSetpointFields address setpoint setback) hasTimeout

def setSlabSetpointCelsius (celsius : ℚ) : SessionRequest (List Int) :=
  setSlabSetpoint address setback hasTimeout (celsiusToDege celsius)

def setLatestSlabSetpoint (setpoint : Int) (confirm : Bool) : SessionRequest (List Int) :=
  coalescedSetbackPayload .slabSetpoint (setbackSetpointFields address setpoint setback) confirm
    hasTimeout

def setLatestSlabSetpointCelsius (celsius : ℚ) (confirm : Bool) : SessionRequest (List Int) :=
  setLatestSlabSetpoint address setback hasTimeout (celsiusToDege celsius) confirm

def setSetpointDevice (temp : Int) : SessionRequest (List Int) :=
  updateSetbackPayload .setpointDevice (setbackTemperatureFields address temp setback) hasTimeout

def setSetpointDeviceCelsius (celsius : ℚ) : SessionRequest (List Int) :=
  setSetpointDevice address setback hasTimeout (celsiusToDegh celsius)

def setLatestSetpointDevice (temp : Int) (confirm : Bool) : SessionRequest (List Int) :=
  coalescedSetbackPayload .setpointDevice (setbackTemperatureFields address temp setback) confirm
    hasTimeout

def setLatestSetpointDeviceCelsius (celsius : ℚ) (confirm : Bool) : SessionRequest (List Int) :=
  setLatestSetpointDevice address setback hasTimeout (celsiusToDegh celsius) confirm

end

def validatePercent (value : Int) : Except PyException Unit :=
  if 0 ≤ value ∧ value ≤ 100 then .ok ()
  else .error (.valueError s!"percent must be between 0 and 100: {value}")

def setFanPercent (address setback : Int) (hasTimeout : Bool) (percent : Int) :
    Except PyException (SessionRequest (List Int)) :=
  (validatePercent percent).map fun _ =>
    updateSetbackPayload .fanPercent (setbackPercentFields address percent setback) hasTimeout

def setLatestFanPercent (address setback : Int) (hasTimeout : Bool) (percent : Int)
    (confirm : Bool) : Except PyException (SessionRequest (List Int)) :=
  (validatePercent percent).map fun _ =>
    coalescedSetbackPayload .fanPercent (setbackPercentFields address percent setback) confirm
      hasTimeout

def setMode (address mode : Int) (confirm hasTimeout : Bool) :
    Except PyException (SessionRequest (List Int)) :=
  if mode ∈ DeviceMode.members.map DeviceMode.value then
    let payload := modeSettingFields address mode
    let key := [TrpcMethod.modeSetting.value, address]
    let command := TrpcCommand.update .modeSetting payload
    .ok (if confirm then
        .coalescedUpdateResponse command key (some (.forCommand command (some address) payload))
          hasTimeout
      else .coalescedUpdate command key)
  else .error (.valueError s!"unsupported device mode: {mode}")

def setSetpointGroup (groupId : Int) (enabled hasTimeout : Bool) : SessionRequest (List Int) :=
  let fields : SetpointGroupFields := { groupId := groupId, enabled := some enabled }
  let command := TrpcCommand.update .setpointGroupEnable fields.asFields
  .updateResponse command (some (.forCommand command none fields.asFields)) hasTimeout

/-- Update the gateway date/time to the fields of a time. -/
def setDatetime (fields : DateTimeFields) (hasTimeout : Bool) : SessionRequest (List Int) :=
  let command := TrpcCommand.update .dateTime fields.asFields
  .updateResponse command (some (.forCommand command none fields.asFields)) hasTimeout

end Client

/-! ## Written fields -/

namespace SetpointMap

/-- The method that writes a setpoint map. -/
def method : SetpointMap → TrpcMethod
  | .setpointTargets => .setpointDevice
  | .heatSetpoints => .heatSetpoint
  | .coolSetpoints => .coolSetpoint
  | .slabSetpoints => .slabSetpoint
  | .fanPercent => .fanPercent

/-- The message field with the value of a setpoint map. -/
def field : SetpointMap → String
  | .setpointTargets => "temp"
  | .heatSetpoints => "setpoint"
  | .coolSetpoints => "setpoint"
  | .slabSetpoints => "setpoint"
  | .fanPercent => "percent"

/-- The width of that field in bytes. -/
def size : SetpointMap → Nat
  | .setpointTargets => 2
  | .heatSetpoints => 1
  | .coolSetpoints => 1
  | .slabSetpoints => 1
  | .fanPercent => 1

theorem setpointMethods_method (map : SetpointMap) :
    setpointMethods map.method = some (map, map.field) := by
  cases map <;> rfl

/-- The layout of a setpoint method. -/
theorem fields_method (map : SetpointMap) : (methodSpecs map.method).fields =
    [⟨"address", 2, []⟩, ⟨"setback", 1, []⟩, ⟨map.field, map.size, []⟩] := by
  cases map <;> rfl

theorem field_ne (map : SetpointMap) : map.field ≠ "address" ∧ map.field ≠ "setback" := by
  cases map <;> decide

end SetpointMap

namespace SetbackPayload

theorem entries_asFields (payload : SetbackPayload)
    (h : payload.name ≠ "address" ∧ payload.name ≠ "setback") :
    payload.asFields.entries =
      [("address", payload.address), ("setback", payload.setback),
        (payload.name, payload.value)] := by
  apply OrderedDict.entries_ofList
  simp [Ne.symm h.1, Ne.symm h.2]

/-- The fields of a payload are those of its method. -/
theorem canonical_asFields {map : SetpointMap} {payload : SetbackPayload}
    (h : payload.name = map.field) :
    (methodSpecs map.method).Canonical payload.asFields := by
  intro key hkey
  rw [OrderedDict.keys, entries_asFields payload (h ▸ map.field_ne)] at hkey
  rw [map.fields_method]
  simp only [List.map_cons, List.map_nil, List.mem_cons, List.not_mem_nil, or_false] at hkey
  rcases hkey with rfl | rfl | rfl
  · exact ⟨⟨"address", 2, []⟩, by simp, rfl⟩
  · exact ⟨⟨"setback", 1, []⟩, by simp, rfl⟩
  · exact ⟨⟨map.field, map.size, []⟩, by simp, h.symm⟩

/-- The values of a payload in a message with its fields, modulo their widths. -/
theorem get_of_fields {map : SetpointMap} {payload : SetbackPayload} (h : payload.name = map.field)
    {message : TrpcPacket} (hfields : ∀ item ∈ (methodSpecs map.method).fields,
      message.get item.name = some ((payload.asFields.get? item.name).getD 0 % 256 ^ item.size)) :
    message.get "address" = some (payload.address % 256 ^ 2) ∧
      message.get "setback" = some (payload.setback % 256 ^ 1) ∧
      message.get map.field = some (payload.value % 256 ^ map.size) := by
  have hentries := entries_asFields payload (h ▸ map.field_ne)
  have hfield (name : String) (value : Int) (hmem : (name, value) ∈ payload.asFields.entries)
      (size : Nat) (hitem : ⟨name, size, []⟩ ∈ (methodSpecs map.method).fields) :
      message.get name = some (value % 256 ^ size) := by
    have hget := hfields _ hitem
    rw [(payload.asFields.get?_eq_some_iff name value).mpr hmem] at hget
    exact hget
  refine ⟨?_, ?_, ?_⟩
  · exact hfield "address" payload.address (by simp [hentries]) 2 (by simp [map.fields_method])
  · exact hfield "setback" payload.setback (by simp [hentries]) 1 (by simp [map.fields_method])
  · exact hfield map.field payload.value (by simp [hentries, h]) map.size
      (by simp [map.fields_method])

end SetbackPayload

end Tekmar482
