import Tekmar482.Models
import Tekmar482.Trpc
import Tekmar482.Library.Routine

/-!
# Discovery and polling

The client's discovery and polling programs, as routines of the session calls they
await. Timeouts are the environment's: a reply may always be missing, and a
deadline may be found expired at any check. A pacing delay belongs to the call
before it, so a cancellation there is an exception of that call.
-/

namespace Tekmar482

/-- The session calls that client programs await. -/
inductive SessionCall where
  | open
  | close
  | isOpen
  | send (command : TrpcCommand)
  | requestResponse (command : TrpcCommand) (responseMatch : ResponseMatch)
  | updateResponse (command : TrpcCommand) (responseMatch : ResponseMatch)
  | readUntil (predicate : TrpcPacket → Bool)
  | deadlineExpired

/-- What a session call returns. -/
abbrev SessionReply : SessionCall → Type
  | .open | .close => Unit
  | .isOpen | .deadlineExpired => Bool
  | .send _ => TrpcPacket
  | .requestResponse _ _ | .updateResponse _ _ | .readUntil _ => Option TrpcPacket

/-- A program of the client. -/
abbrev ClientRoutine (α : Type) := Routine SessionCall SessionReply PyException α

namespace Client

def requestResponse (method : TrpcMethod) (matchAddress : Option Int)
    (matchFields fields : OrderedDict String Int) : ClientRoutine (Option TrpcPacket) :=
  let command := TrpcCommand.request method fields
  Routine.perform (SessionCall.requestResponse command (.forCommand command matchAddress matchFields))

def updateResponse (method : TrpcMethod) (matchFields fields : OrderedDict String Int) :
    ClientRoutine (Option TrpcPacket) :=
  let command := TrpcCommand.update method fields
  Routine.perform (SessionCall.updateResponse command (.forCommand command none matchFields))

/-- Enable or disable tHA reporting. -/
def setReportingState (enabled : Bool) : ClientRoutine (Option TrpcPacket) :=
  let fields := reportingStateFields enabled
  updateResponse .reportingState fields fields

/-- A required field of a message that may be missing. -/
def requireField (message : Option TrpcPacket) (field : String) : ClientRoutine (Option Int) :=
  match message with
  | none => pure none
  | some message => do
      let value ← Routine.ofExcept (message.require field)
      pure (some value)

/-- Request gateway firmware and protocol metadata. -/
def getGatewayInfo : ClientRoutine GatewayInfo := do
  let firmware ← requestResponse .firmwareRevision none .empty .empty
  let protocol ← requestResponse .protocolVersion none .empty .empty
  let firmwareRevision ← requireField firmware "revision"
  let protocolVersion ← requireField protocol "version"
  pure { firmwareRevision, protocolVersion }

def isInventoryResponse (message : TrpcPacket) : Bool :=
  message.service == some .responseRequest && message.method == some .deviceInventory

/-- The inventory loop. It asks for at most `fuel` more responses. -/
def inventoryLoop : Nat → List Int → ClientRoutine (List Int)
  | 0, _ => Routine.hang
  | fuel + 1, addresses => do
      let expired : Bool ← Routine.perform SessionCall.deadlineExpired
      if expired then pure addresses
      else
        let message : Option TrpcPacket ←
          Routine.perform (SessionCall.readUntil isInventoryResponse)
        match message with
        | none => pure addresses
        | some message => do
            let address ← Routine.ofExcept (message.require "address")
            if address = 0 ∨ address = 0xFFFF then pure addresses
            else
              inventoryLoop fuel
                (if address ∈ addresses then addresses else addresses ++ [address])

/-- Request device inventory, usually starting at address 0. -/
def requestDeviceInventory (address : Int := 0) : ClientRoutine TrpcPacket :=
  Routine.perform (SessionCall.send (TrpcCommand.request .deviceInventory (addressFields address)))

/-- Request all device addresses. -/
def getInventoryAddresses (fuel : Nat) (startAddress : Int := 0) : ClientRoutine (List Int) := do
  let _ ← requestDeviceInventory startAddress
  inventoryLoop fuel []

/-- Request metadata for one discovered device address. -/
def getDeviceInfo (address : Int) : ClientRoutine DiscoveredDevice := do
  let fields := addressFields address
  let deviceType ← requestResponse .deviceType (some address) .empty fields
  let deviceVersion ← requestResponse .deviceVersion (some address) .empty fields
  let attributes ← requestResponse .deviceAttributes (some address) .empty fields
  let setbackEvents ← requestResponse .setbackEvents (some address) .empty fields
  let rawAttributes ← requireField attributes "attributes"
  let rawTypeCode ← requireField deviceType "type"
  let rawVersion ← requireField deviceVersion "j_number"
  let events ← requireField setbackEvents "events"
  pure {
    address := address
    typeCode := if rawTypeCode = some 0xFFFFFFFF then none else rawTypeCode
    version := if rawVersion = some 0xFFFFFFFF then none else rawVersion
    attributes := { raw := rawAttributes.getD 0 }
    setbackEvents := events }

/-- The metadata of the discovered addresses, one after the other. -/
def getDevices : List Int → ClientRoutine (List DiscoveredDevice)
  | [] => pure []
  | address :: rest => do
      let device ← getDeviceInfo address
      let devices ← getDevices rest
      pure (device :: devices)

/-- Discover gateway metadata and all visible attached devices, optionally with
reporting turned off meanwhile, and optionally setting the setback flag. -/
def discover (fuel : Nat) (manageReporting : Bool) (setbackEnable : Option Bool) :
    ClientRoutine DiscoveryResult :=
  Routine.tryFinally
    (do
      if manageReporting then
        let _ ← setReportingState false
      let gateway ← getGatewayInfo
      match setbackEnable with
      | none => pure ()
      | some enabled => do
          let fields := enableFields enabled
          let _ ← updateResponse .setbackEnable fields fields
      let addresses ← getInventoryAddresses fuel
      let devices ← getDevices addresses
      pure { gateway, devices })
    (if manageReporting then do
      let _ ← setReportingState true
      pure ()
    else pure ())

/-! ## Polling -/

def field (message : Option TrpcPacket) (name : String) : Option Int :=
  message.bind fun message => message.get name

/-- Request one gateway value. -/
def requestGatewayField (method : TrpcMethod) (name : String) : ClientRoutine (Option Int) := do
  let message ← requestResponse method none .empty .empty
  pure (field message name)

/-- Request one value of a device. -/
def requestField (address : Int) (method : TrpcMethod) (name : String) :
    ClientRoutine (Option Int) := do
  let message ← requestResponse method (some address) .empty (addressFields address)
  pure (field message name)

/-- A routine that is run on a condition, with the value that stands without it. -/
def runWhen {α : Type} (condition : Bool) (routine : ClientRoutine α) (value : α) : ClientRoutine α :=
  if condition then routine else pure value

/-- Request the gateway's current date/time fields. -/
def getDatetime : ClientRoutine (Option GatewayDateTime) := do
  let message ← requestResponse .dateTime none .empty .empty
  match message with
  | none => pure none
  | some message => do
      let year ← Routine.ofExcept (message.require "year")
      let month ← Routine.ofExcept (message.require "month")
      let day ← Routine.ofExcept (message.require "day")
      let weekday ← Routine.ofExcept (message.require "weekday")
      let hour ← Routine.ofExcept (message.require "hour")
      let minute ← Routine.ofExcept (message.require "minute")
      pure (some { year, month, day, weekday, hour, minute })

/-- The flags of the setpoint groups, one request after the other. -/
def dumpSetpointGroups : List Int → (Finmap fun _ : Int => Option Bool) →
    ClientRoutine (Finmap fun _ : Int => Option Bool)
  | [], groups => pure groups
  | groupId :: rest, groups => do
      let fields := setpointGroupFields groupId
      let message ← requestResponse .setpointGroupEnable none fields fields
      let value := field message "enable"
      dumpSetpointGroups rest (groups.insert groupId (value.map fun value => value != 0))

/-- Poll gateway runtime values. -/
def pollGateway (info : GatewayInfo) (includeDatetime includeSetpointGroups : Bool) :
    ClientRoutine GatewaySnapshot := do
  let reporting ← requestGatewayField .reportingState "state"
  let setback ← requestGatewayField .setbackEnable "enable"
  let outdoorTemp ← requestGatewayField .outdoorTemp "temp"
  let networkError ← requestGatewayField .networkError "error"
  let dateTime ← runWhen includeDatetime getDatetime none
  let setpointGroups ← runWhen includeSetpointGroups
    (some <$> dumpSetpointGroups ((List.range 12).map fun n => (n : Int) + 1) ∅) none
  pure {
    info, outdoorTemp, networkError, dateTime
    reportingEnabled := reporting.map fun value => value != 0
    setbackEnabled := setback.map fun value => value != 0
    setpointGroups }

/-- Python's `first or second` on optional slots: a slot of value zero counts as
missing. -/
def slotOr (first second : Option ThaSetback) : Option ThaSetback :=
  match first with
  | none => second
  | some slot => if slot.truthy then some slot else second

/-- The slot loop of `dumpSetpoints`, with the values, the active slot and the
slot of the current value observed so far. -/
def dumpSetpointsLoop (method : TrpcMethod) (name : String) (address : Int) :
    List ThaSetback → (ThaSetback → Option (Option Int)) → Option ThaSetback →
      Option ThaSetback → ClientRoutine SetpointValues
  | [], values, observedActive, currentObserved =>
      pure {
        values
        activeSetback := observedActive
        currentObservedSetback := currentObserved }
  | setback :: rest, values, observedActive, currentObserved => do
      let fields := addressSetbackFields address setback.value
      let matchFields := if setback = .current then .empty else setbackMatchFields setback.value
      let message ← requestResponse method (some address) matchFields fields
      let value := field message name
      match message with
      | some reply =>
          if setback = .current then
            let observed := slotOr (setbackFromValue (reply.get "setback")) observedActive
            let values := match observed with
              | none => values
              | some slot => Function.update values slot (some value)
            dumpSetpointsLoop method name address rest
              (Function.update values setback (some value)) (slotOr observed observedActive)
              observed
          else
            dumpSetpointsLoop method name address rest
              (Function.update values setback (some value)) observedActive currentObserved
      | none =>
          dumpSetpointsLoop method name address rest
            (Function.update values setback (some value)) observedActive currentObserved

def dumpSetpoints (method : TrpcMethod) (name : String) (address : Int)
    (activeSetback : Option ThaSetback) (includeSetbacks : Bool) : ClientRoutine SetpointValues :=
  dumpSetpointsLoop method name address
    (if includeSetbacks then ThaSetback.members else [.current]) (fun _ => none) activeSetback none

/-- Values that are requested when a device or the protocol supports them. -/
def availableWhen (condition : Bool) (values : Finset DeviceValue) : Finset DeviceValue :=
  if condition then values else ∅

/-- Poll the runtime values of one device. -/
def dumpDeviceSnapshot (device : DiscoveredDevice) (protocolVersion : Option Int)
    (includeSetbacks : Bool) : ClientRoutine DeviceSnapshot := do
  let address := device.address
  let humidity :=
    device.supportsHumidity && (protocolVersion == some 2 || protocolVersion == some 3)
  let currentTemperature ← requestField address .currentTemperature "temp"
  let activeDemand ← requestField address .activeDemand "demand"
  let setbackState ← requestField address .setbackState "setback"
  let activeSetback := setbackFromValue setbackState
  let unpolled : SetpointValues := { activeSetback }
  let currentFloorTemperature ← runWhen (protocolVersion == some 3)
    (requestField address .currentFloorTemperature "temp") none
  let modeSetting ← runWhen device.supportsModeSetting
    (requestField address .modeSetting "mode") none
  let heatSetpoints ← runWhen device.supportsHeatSetpoint
    (dumpSetpoints .heatSetpoint "setpoint" address activeSetback includeSetbacks) unpolled
  let coolSetpoints ← runWhen device.supportsCoolSetpoint
    (dumpSetpoints .coolSetpoint "setpoint" address activeSetback includeSetbacks) unpolled
  let slabSetpoints ← runWhen device.supportsSlabSetpoint
    (dumpSetpoints .slabSetpoint "setpoint" address activeSetback includeSetbacks) unpolled
  let fanPercent ← runWhen device.supportsFanPercent
    (dumpSetpoints .fanPercent "percent" address activeSetback includeSetbacks) unpolled
  let relativeHumidity ← runWhen humidity
    (requestField address .relativeHumidity "percent") none
  let humiditySetpointMin ← runWhen humidity
    (requestField address .humiditySetMin "percent") none
  let humiditySetpointMax ← runWhen humidity
    (requestField address .humiditySetMax "percent") none
  let setpointTargets ← runWhen device.supportsSetpointDevice
    (dumpSetpoints .setpointDevice "temp" address activeSetback includeSetbacks) unpolled
  let availableValues : Finset DeviceValue :=
    {.scalar .currentTemperature, .scalar .activeDemand, .scalar .setbackState} ∪
    availableWhen (protocolVersion == some 3) {.scalar .currentFloorTemperature} ∪
    availableWhen device.supportsModeSetting {.scalar .modeSetting} ∪
    availableWhen device.supportsHeatSetpoint {.setpoints .heatSetpoints} ∪
    availableWhen device.supportsCoolSetpoint {.setpoints .coolSetpoints} ∪
    availableWhen device.supportsSlabSetpoint {.setpoints .slabSetpoints} ∪
    availableWhen device.supportsFanPercent {.setpoints .fanPercent} ∪
    availableWhen humidity {.scalar .relativeHumidity, .scalar .humiditySetpointMin,
      .scalar .humiditySetpointMax} ∪
    availableWhen device.supportsSetpointDevice {.setpoints .setpointTargets}
  pure ⟨DeviceRuntime.create {
    info := device
    availableValues, currentTemperature, currentFloorTemperature, activeDemand, setbackState
    modeSetting, relativeHumidity, humiditySetpointMin, humiditySetpointMax, setpointTargets
    heatSetpoints, coolSetpoints, slabSetpoints, fanPercent }⟩

/-- Poll the runtime values of known devices, one after the other. -/
def pollDevices (protocolVersion : Option Int) (includeSetbacks : Bool) :
    List DiscoveredDevice → ClientRoutine (List DeviceSnapshot)
  | [] => pure []
  | device :: rest => do
      let snapshot ← dumpDeviceSnapshot device protocolVersion includeSetbacks
      let snapshots ← pollDevices protocolVersion includeSetbacks rest
      pure (snapshot :: snapshots)

/-- Poll runtime values for an existing discovery result. -/
def pollRuntime (discovery : DiscoveryResult)
    (includeSetbacks includeDatetime includeSetpointGroups : Bool) :
    ClientRoutine AvailableInfo := do
  let gateway ← pollGateway discovery.gateway includeDatetime includeSetpointGroups
  let devices ←
    pollDevices discovery.gateway.protocolVersion includeSetbacks discovery.devices
  pure { gateway, devices }

end Client

end Tekmar482
