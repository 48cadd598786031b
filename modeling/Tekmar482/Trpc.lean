import Tekmar482.Packet
import Tekmar482.Library.OrderedDict
import Tekmar482.Library.Text
import Mathlib.Data.Finset.Basic

/-!
# tRPC messages

The method table fixes the body layout of every known method. A message body
maps field names to integers; encoding and decoding walk the layout of the
method, and a message of an unknown method is carried as extra bytes.
-/

namespace Tekmar482

/-- A fixed-width unsigned integer field in a message body. -/
structure FieldSpec where
  name : String
  size : Nat
  aliases : List String := []
  deriving DecidableEq, Repr

/-- The names under which a field is accepted. -/
def FieldSpec.names (self : FieldSpec) : List String := self.name :: self.aliases

/-- A method name and body layout. All names and aliases of a layout differ, so
an accepted name belongs to one field. -/
structure MethodSpec where
  name : String
  fields : List FieldSpec := []
  aliases : List String := []
  distinct : (fields.flatMap FieldSpec.names).Nodup := by decide

namespace MethodSpec

/-- The packed body size in bytes. -/
def size (self : MethodSpec) : Nat := (self.fields.map FieldSpec.size).sum

/-- Accepted body field names mapped to canonical names. -/
def fieldAliases (self : MethodSpec) : OrderedDict String String :=
  OrderedDict.ofList
    (self.fields.flatMap fun item => item.names.map fun accepted => (accepted, item.name))

/-- The loop of `normalizeFields`: normalized fields and unknown names so far. -/
def normalizeLoop (aliases : OrderedDict String String) :
    List (String × Int) → OrderedDict String Int → List String →
      OrderedDict String Int × List String
  | [], normalized, unknown => (normalized, unknown)
  | (key, value) :: rest, normalized, unknown =>
      match aliases.get? key with
      | none => normalizeLoop aliases rest normalized (unknown ++ [key])
      | some canonical => normalizeLoop aliases rest (normalized.set canonical value) unknown

/-- Normalize accepted aliases to canonical field names. -/
def normalizeFields (self : MethodSpec) (fields : OrderedDict String Int) :
    Except PyException (OrderedDict String Int) :=
  match normalizeLoop self.fieldAliases fields.entries .empty [] with
  | (normalized, []) => .ok normalized
  | (_, unknown) =>
      .error (.unknownFieldError
        ("unknown field(s) for " ++ self.name ++ ": " ++
          ", ".intercalate (unknown.mergeSort fun a b => decide (a ≤ b))))

end MethodSpec

/-- Known tRPC services. -/
inductive TrpcService where
  | update
  | request
  | report
  | responseUpdate
  | responseRequest
  deriving DecidableEq, Repr

namespace TrpcService

def value : TrpcService → Int
  | update => 0x00
  | request => 0x01
  | report => 0x02
  | responseUpdate => 0x03
  | responseRequest => 0x04

def members : List TrpcService := [update, request, report, responseUpdate, responseRequest]

/-- The enum member of a service id, if it is known. -/
def ofValue? (id : Int) : Option TrpcService := members.find? fun s => s.value == id

@[simp] theorem ofValue?_value (s : TrpcService) : ofValue? s.value = some s := by
  cases s <;> rfl

theorem ofValue?_eq_some_iff (id : Int) (s : TrpcService) :
    ofValue? id = some s ↔ id = s.value := by
  constructor
  · intro h
    have hfound := List.find?_some h
    exact (beq_iff_eq.mp hfound).symm
  · rintro rfl
    exact ofValue?_value s

end TrpcService

/-- Known tRPC methods. -/
inductive TrpcMethod where
  | nullMethod
  | networkError
  | reportingState
  | outdoorTemp
  | deviceAttributes
  | modeSetting
  | activeDemand
  | currentTemperature
  | currentFloorTemperature
  | setpointGroupEnable
  | setpointDevice
  | heatSetpoint
  | coolSetpoint
  | slabSetpoint
  | relativeHumidity
  | humiditySetMax
  | humiditySetMin
  | fanPercent
  | takingAddress
  | deviceInventory
  | setbackEnable
  | setbackState
  | setbackEvents
  | firmwareRevision
  | protocolVersion
  | deviceType
  | deviceVersion
  | dateTime
  deriving DecidableEq, Repr

namespace TrpcMethod

def value : TrpcMethod → Int
  | nullMethod => 0x00000000
  | networkError => 0x00000107
  | reportingState => 0x0000010F
  | outdoorTemp => 0x00000117
  | deviceAttributes => 0x0000011F
  | modeSetting => 0x00000127
  | activeDemand => 0x0000012F
  | currentTemperature => 0x00000137
  | currentFloorTemperature => 0x00000138
  | setpointGroupEnable => 0x0000013D
  | setpointDevice => 0x0000013E
  | heatSetpoint => 0x0000013F
  | coolSetpoint => 0x00000147
  | slabSetpoint => 0x0000014F
  | relativeHumidity => 0x00000150
  | humiditySetMax => 0x00000151
  | humiditySetMin => 0x00000152
  | fanPercent => 0x00000157
  | takingAddress => 0x0000015F
  | deviceInventory => 0x00000167
  | setbackEnable => 0x0000016F
  | setbackState => 0x00000177
  | setbackEvents => 0x0000017F
  | firmwareRevision => 0x00000187
  | protocolVersion => 0x0000018F
  | deviceType => 0x00000197
  | deviceVersion => 0x0000019F
  | dateTime => 0x000001A7

def members : List TrpcMethod :=
  [nullMethod, networkError, reportingState, outdoorTemp, deviceAttributes, modeSetting,
    activeDemand, currentTemperature, currentFloorTemperature, setpointGroupEnable,
    setpointDevice, heatSetpoint, coolSetpoint, slabSetpoint, relativeHumidity,
    humiditySetMax, humiditySetMin, fanPercent, takingAddress, deviceInventory,
    setbackEnable, setbackState, setbackEvents, firmwareRevision, protocolVersion,
    deviceType, deviceVersion, dateTime]

/-- The enum member of a method id, if it is known. -/
def ofValue? (id : Int) : Option TrpcMethod := members.find? fun m => m.value == id

@[simp] theorem ofValue?_value (m : TrpcMethod) : ofValue? m.value = some m := by
  cases m <;> rfl

theorem ofValue?_eq_some_iff (id : Int) (m : TrpcMethod) :
    ofValue? id = some m ↔ id = m.value := by
  constructor
  · intro h
    have hfound := List.find?_some h
    exact (beq_iff_eq.mp hfound).symm
  · rintro rfl
    exact ofValue?_value m

theorem value_injective : Function.Injective value := by
  intro m n h
  have hm := ofValue?_value m
  rw [h, ofValue?_value] at hm
  exact (Option.some.inj hm).symm

/-- Every method id fits the four bytes of the header. -/
theorem value_range (m : TrpcMethod) : 0 ≤ m.value ∧ m.value < 2 ^ 32 := by
  cases m <;> decide

end TrpcMethod

/-- The body layouts of the known methods. -/
def methodSpecs : TrpcMethod → MethodSpec
  | .nullMethod => { name := "NullMethod" }
  | .networkError => { name := "NetworkError", fields := [⟨"error", 2, []⟩] }
  | .reportingState => { name := "ReportingState", fields := [⟨"state", 1, []⟩] }
  | .outdoorTemp =>
      { name := "OutdoorTemp", fields := [⟨"temp", 2, []⟩], aliases := ["OutdoorTemperature"] }
  | .deviceAttributes =>
      { name := "DeviceAttributes", fields := [⟨"address", 2, []⟩, ⟨"attributes", 2, []⟩] }
  | .modeSetting => { name := "ModeSetting", fields := [⟨"address", 2, []⟩, ⟨"mode", 1, []⟩] }
  | .activeDemand => { name := "ActiveDemand", fields := [⟨"address", 2, []⟩, ⟨"demand", 1, []⟩] }
  | .currentTemperature =>
      { name := "CurrentTemperature", fields := [⟨"address", 2, []⟩, ⟨"temp", 2, []⟩] }
  | .currentFloorTemperature =>
      { name := "CurrentFloorTemperature", fields := [⟨"address", 2, []⟩, ⟨"temp", 2, []⟩] }
  | .setpointGroupEnable =>
      { name := "SetpointGroupEnable"
        fields := [⟨"group_id", 1, ["IDnumber", "groupid"]⟩, ⟨"enable", 1, ["Enable"]⟩] }
  | .setpointDevice =>
      { name := "SetpointDevice"
        fields := [⟨"address", 2, []⟩, ⟨"setback", 1, []⟩, ⟨"temp", 2, []⟩] }
  | .heatSetpoint =>
      { name := "HeatSetpoint"
        fields := [⟨"address", 2, []⟩, ⟨"setback", 1, []⟩, ⟨"setpoint", 1, []⟩] }
  | .coolSetpoint =>
      { name := "CoolSetpoint"
        fields := [⟨"address", 2, []⟩, ⟨"setback", 1, []⟩, ⟨"setpoint", 1, []⟩] }
  | .slabSetpoint =>
      { name := "SlabSetpoint"
        fields := [⟨"address", 2, []⟩, ⟨"setback", 1, []⟩, ⟨"setpoint", 1, []⟩] }
  | .relativeHumidity =>
      { name := "RelativeHumidity"
        fields := [⟨"address", 2, []⟩, ⟨"percent", 1, ["RHpercent"]⟩] }
  | .humiditySetMax =>
      { name := "HumiditySetMax"
        fields := [⟨"address", 2, []⟩, ⟨"percent", 1, ["percentMax"]⟩] }
  | .humiditySetMin =>
      { name := "HumiditySetMin"
        fields := [⟨"address", 2, []⟩, ⟨"percent", 1, ["percentMin"]⟩] }
  | .fanPercent =>
      { name := "FanPercent"
        fields := [⟨"address", 2, []⟩, ⟨"setback", 1, []⟩, ⟨"percent", 1, []⟩] }
  | .takingAddress =>
      { name := "TakingAddress", fields := [⟨"old_address", 2, []⟩, ⟨"new_address", 2, []⟩] }
  | .deviceInventory => { name := "DeviceInventory", fields := [⟨"address", 2, []⟩] }
  | .setbackEnable => { name := "SetbackEnable", fields := [⟨"enable", 1, []⟩] }
  | .setbackState =>
      { name := "SetbackState", fields := [⟨"address", 2, []⟩, ⟨"setback", 1, []⟩] }
  | .setbackEvents =>
      { name := "SetbackEvents", fields := [⟨"address", 2, []⟩, ⟨"events", 1, []⟩] }
  | .firmwareRevision => { name := "FirmwareRevision", fields := [⟨"revision", 2, []⟩] }
  | .protocolVersion => { name := "ProtocolVersion", fields := [⟨"version", 2, []⟩] }
  | .deviceType => { name := "DeviceType", fields := [⟨"address", 2, []⟩, ⟨"type", 4, []⟩] }
  | .deviceVersion =>
      { name := "DeviceVersion", fields := [⟨"address", 2, []⟩, ⟨"j_number", 4, []⟩] }
  | .dateTime =>
      { name := "DateTime"
        fields := [⟨"year", 2, []⟩, ⟨"month", 1, []⟩, ⟨"day", 1, []⟩, ⟨"weekday", 1, []⟩,
          ⟨"hour", 1, []⟩, ⟨"minute", 1, []⟩] }

/-- The layout of a method id, if it is known. -/
def methodSpec (method : Int) : Option MethodSpec :=
  (TrpcMethod.ofValue? method).map methodSpecs

/-- The normal response service for a sent service. -/
def responseServiceFor (service : Int) : Option TrpcService :=
  if service = TrpcService.request.value then some .responseRequest
  else if service = TrpcService.update.value then some .responseUpdate
  else none

/-- `size` bytes of a natural number, least significant first. -/
def leBytes : Nat → Nat → List UInt8
  | 0, _ => []
  | size + 1, n => UInt8.ofNat n :: leBytes size (n / 256)

/-- A little-endian unsigned number. -/
def leNat : List UInt8 → Nat
  | [] => 0
  | b :: rest => b.toNat + 256 * leNat rest

/-- Pack an integer; the mask keeps its residue modulo `256 ^ size`. -/
def packInt (value : Int) (size : Nat) : List UInt8 := leBytes size (value % 256 ^ size).toNat

def unpackInt (data : List UInt8) : Int := leNat data

/-- A tRPC message carried inside a tekmar packet of type 6. -/
structure TrpcPacket where
  serviceId : Int
  methodId : Int
  body : OrderedDict String Int := .empty
  extra : List UInt8 := []
  deriving DecidableEq

namespace TrpcPacket

def HEADER_SIZE : Nat := 5

/-- Build a message by service and method id, with the fields normalized. -/
def create (service method : Int) (fields : OrderedDict String Int := .empty) :
    Except PyException TrpcPacket :=
  match methodSpec method with
  | none => .ok { serviceId := service, methodId := method, body := fields }
  | some spec =>
      (spec.normalizeFields fields).map fun body =>
        { serviceId := service, methodId := method, body := body }

def service (self : TrpcPacket) : Option TrpcService := TrpcService.ofValue? self.serviceId

def method (self : TrpcPacket) : Option TrpcMethod := TrpcMethod.ofValue? self.methodId

/-- The packed fields of a layout, with zero for a missing field. -/
def packFields (normalized : OrderedDict String Int) (fields : List FieldSpec) : List UInt8 :=
  fields.flatMap fun item => packInt ((normalized.get? item.name).getD 0) item.size

/-- Serialize the header and body. -/
def toBytes (self : TrpcPacket) : Except PyException (List UInt8) :=
  let header := packInt self.serviceId 1 ++ packInt self.methodId 4
  match methodSpec self.methodId with
  | none => .ok (header ++ self.extra)
  | some spec =>
      (spec.normalizeFields self.body).map fun normalized =>
        header ++ (packFields normalized spec.fields ++ self.extra)

/-- Wrap this message in a tekmar packet. -/
def toPacket (self : TrpcPacket) : Except PyException Packet :=
  self.toBytes.map fun data => { type := Packet.TYPE_TRPC, data := data }

/-- The decoding loop: one field after the other, at the running offset. -/
def unpackFields (padded : List UInt8) :
    Nat → List FieldSpec → OrderedDict String Int → OrderedDict String Int
  | _, [], body => body
  | offset, item :: rest, body =>
      unpackFields padded (offset + item.size) rest
        (body.set item.name (unpackInt ((padded.drop offset).take item.size)))

/-- Python's `bytes.ljust` with zero bytes. -/
def ljust (data : List UInt8) (size : Nat) : List UInt8 :=
  data ++ List.replicate (size - data.length) 0

/-- Parse header and body bytes. -/
def fromBytes (data : List UInt8) : Except PyException TrpcPacket :=
  if data.length < HEADER_SIZE then
    .error (.protocolError "tRPC payload must contain a 5-byte header")
  else
    let parsedServiceId := unpackInt (data.take 1)
    let parsedMethodId := unpackInt ((data.drop 1).take 4)
    let bodyData := data.drop HEADER_SIZE
    match methodSpec parsedMethodId with
    | none =>
        .ok { serviceId := parsedServiceId, methodId := parsedMethodId, extra := bodyData }
    | some spec =>
        let padded := ljust (bodyData.take spec.size) spec.size
        .ok {
          serviceId := parsedServiceId
          methodId := parsedMethodId
          body := unpackFields padded 0 spec.fields .empty
          extra := bodyData.drop spec.size }

/-- Parse a tRPC message from a tekmar packet. -/
def fromPacket (packet : Packet) : Except PyException TrpcPacket :=
  if packet.type ≠ Packet.TYPE_TRPC then
    .error (.protocolError s!"packet type {packet.type.toNat} is not TYPE_TRPC")
  else
    fromBytes packet.data

/-- A body field by canonical name or accepted alias. -/
def get (self : TrpcPacket) (field : String) : Option Int :=
  let canonical := match methodSpec self.methodId with
    | some spec => (spec.fieldAliases.get? field).getD field
    | none => field
  self.body.get? canonical

/-- A required body field by canonical name or accepted alias. -/
def require (self : TrpcPacket) (field : String) : Except PyException Int :=
  match self.get field with
  | some value => .ok value
  | none =>
      let name := match methodSpec self.methodId with
        | some spec => Text.quote spec.name
        | none => toString self.methodId
      .error (.unknownFieldError ("message " ++ name ++ " has no field " ++ Text.quote field))

end TrpcPacket

/-! ## Payload fields -/

def addressFields (address : Int) : OrderedDict String Int := .ofList [("address", address)]

def addressSetbackFields (address setback : Int) : OrderedDict String Int :=
  .ofList [("address", address), ("setback", setback)]

/-- Fields that identify matching responses for a setback slot. -/
def setbackMatchFields (setback : Int) : OrderedDict String Int := .ofList [("setback", setback)]

def reportingStateFields (enabled : Bool) : OrderedDict String Int :=
  .ofList [("state", if enabled then 1 else 0)]

def enableFields (enabled : Bool) : OrderedDict String Int :=
  .ofList [("enable", if enabled then 1 else 0)]

/-- Fields of a request for a setpoint group, which also identify its responses. -/
def setpointGroupFields (groupId : Int) : OrderedDict String Int :=
  .ofList [("group_id", groupId)]

/-- Payload for a setpoint group request or update. -/
structure SetpointGroupFields where
  groupId : Int
  enabled : Option Bool := none

def SetpointGroupFields.asFields (self : SetpointGroupFields) : OrderedDict String Int :=
  match self.enabled with
  | none => .ofList [("group_id", self.groupId)]
  | some enabled => .ofList [("group_id", self.groupId), ("enable", if enabled then 1 else 0)]

/-- Payload for the gateway DateTime method. -/
structure DateTimeFields where
  year : Int
  month : Int
  day : Int
  weekday : Int
  hour : Int
  minute : Int
  deriving DecidableEq, Repr

def DateTimeFields.asFields (self : DateTimeFields) : OrderedDict String Int :=
  .ofList [("year", self.year), ("month", self.month), ("day", self.day),
    ("weekday", self.weekday), ("hour", self.hour), ("minute", self.minute)]

/-- A typed command before it is serialized. -/
structure TrpcCommand where
  service : Int
  method : Int
  fields : OrderedDict String Int := .empty
  deriving DecidableEq

namespace TrpcCommand

def request (method : TrpcMethod) (fields : OrderedDict String Int := .empty) : TrpcCommand :=
  { service := TrpcService.request.value, method := method.value, fields := fields }

def update (method : TrpcMethod) (fields : OrderedDict String Int := .empty) : TrpcCommand :=
  { service := TrpcService.update.value, method := method.value, fields := fields }

/-- Create the message of this command. -/
def toMessage (self : TrpcCommand) : Except PyException TrpcPacket :=
  TrpcPacket.create self.service self.method self.fields

end TrpcCommand

/-- Typed predicate for responses. -/
structure ResponseMatch where
  methodId : Int
  serviceIds : Option (Finset Int) := none
  address : Option Int := none
  fields : OrderedDict String Int := .empty
  deriving DecidableEq

namespace ResponseMatch

/-- The default response match of a command, narrowed by address and fields. -/
def forCommand (command : TrpcCommand) (address : Option Int := none)
    (fields : OrderedDict String Int := .empty) : ResponseMatch where
  methodId := command.method
  serviceIds := (responseServiceFor command.service).map fun service => {service.value}
  address := address
  fields := fields

/-- Whether a message satisfies this match. -/
def accepts (self : ResponseMatch) (message : TrpcPacket) : Bool :=
  (match self.serviceIds with
    | none => true
    | some ids => decide (message.serviceId ∈ ids)) &&
  message.methodId == self.methodId &&
  (match self.address with
    | none => true
    | some address => message.get "address" == some address) &&
  self.fields.entries.all fun item => message.get item.1 == some item.2

/-- The default match of a command takes the messages of its response service and its
method that name the address and the fields. -/
theorem accepts_forCommand_iff {command : TrpcCommand} {service : TrpcService}
    (hservice : responseServiceFor command.service = some service) (address : Option Int)
    (matchFields : OrderedDict String Int) (message : TrpcPacket) :
    (forCommand command address matchFields).accepts message = true ↔
      message.serviceId = service.value ∧
      message.methodId = command.method ∧
      (∀ a, address = some a → message.get "address" = some a) ∧
      ∀ entry ∈ matchFields.entries, message.get entry.1 = some entry.2 := by
  cases address <;> simp [accepts, forCommand, hservice, and_assoc]

/-- The default match of a request takes the responses of its method that name
the address and the fields. -/
theorem accepts_request_iff (method : TrpcMethod) (fields matchFields : OrderedDict String Int)
    (address : Option Int) (message : TrpcPacket) :
    (forCommand (TrpcCommand.request method fields) address matchFields).accepts message = true ↔
      message.serviceId = TrpcService.responseRequest.value ∧
      message.methodId = method.value ∧
      (∀ a, address = some a → message.get "address" = some a) ∧
      ∀ entry ∈ matchFields.entries, message.get entry.1 = some entry.2 :=
  accepts_forCommand_iff rfl address matchFields message

end ResponseMatch

end Tekmar482
