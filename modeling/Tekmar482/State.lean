import Tekmar482.Models
import Tekmar482.Trpc

/-!
# Runtime state reducer

A report or response message updates one value of the gateway or of one
discovered device; every other message leaves the snapshot as it is.
-/

namespace Tekmar482

def runtimeServices : List TrpcService := [.report, .responseRequest, .responseUpdate]

def gatewayMethods : List TrpcMethod :=
  [.dateTime, .networkError, .outdoorTemp, .reportingState, .setbackEnable,
    .setpointGroupEnable]

def deviceValueMethods : List TrpcMethod :=
  [.activeDemand, .coolSetpoint, .currentFloorTemperature, .currentTemperature, .fanPercent,
    .heatSetpoint, .humiditySetMax, .humiditySetMin, .modeSetting, .relativeHumidity,
    .setbackState, .setpointDevice, .slabSetpoint]

def setpointMethods : TrpcMethod → Option (SetpointMap × String)
  | .coolSetpoint => some (.coolSetpoints, "setpoint")
  | .fanPercent => some (.fanPercent, "percent")
  | .heatSetpoint => some (.heatSetpoints, "setpoint")
  | .setpointDevice => some (.setpointTargets, "temp")
  | .slabSetpoint => some (.slabSetpoints, "setpoint")
  | _ => none

def scalarMethods : TrpcMethod → Option (ScalarValue × String)
  | .activeDemand => some (.activeDemand, "demand")
  | .currentFloorTemperature => some (.currentFloorTemperature, "temp")
  | .currentTemperature => some (.currentTemperature, "temp")
  | .humiditySetMax => some (.humiditySetpointMax, "percent")
  | .humiditySetMin => some (.humiditySetpointMin, "percent")
  | .modeSetting => some (.modeSetting, "mode")
  | .relativeHumidity => some (.relativeHumidity, "percent")
  | .setbackState => some (.setbackState, "setback")
  | _ => none

/-- Whether a message can carry runtime state. -/
def isRuntimeMessage (message : TrpcPacket) : Bool :=
  (match message.service with
    | none => false
    | some service => decide (service ∈ runtimeServices)) && message.method.isSome

/-- Whether a message indicates that the device inventory may have changed. -/
def isTopologyMessage (message : TrpcPacket) : Bool :=
  isRuntimeMessage message && message.method == some .takingAddress

def messageDatetime (message : TrpcPacket) : Option GatewayDateTime :=
  match message.get "year", message.get "month", message.get "day", message.get "weekday",
      message.get "hour", message.get "minute" with
  | some year, some month, some day, some weekday, some hour, some minute =>
      some { year, month, day, weekday, hour, minute }
  | _, _, _, _, _, _ => none

def applyGatewayMessage (data : AvailableInfo) (method : TrpcMethod) (message : TrpcPacket) :
    Option AvailableInfo :=
  match method with
  | .reportingState =>
      let state := message.get "state"
      some { data with gateway :=
        { data.gateway with reportingEnabled := state.map fun value => value != 0 } }
  | .networkError =>
      some { data with gateway := { data.gateway with networkError := message.get "error" } }
  | .outdoorTemp =>
      some { data with gateway := { data.gateway with outdoorTemp := message.get "temp" } }
  | .setbackEnable =>
      let enable := message.get "enable"
      some { data with gateway :=
        { data.gateway with setbackEnabled := enable.map fun value => value != 0 } }
  | .setpointGroupEnable =>
      let enable := message.get "enable"
      match message.get "group_id" with
      | none => none
      | some groupId =>
          let groups := data.gateway.setpointGroups.getD ∅
          some { data with gateway :=
            { data.gateway with
              setpointGroups := some (groups.insert groupId (enable.map fun value => value != 0)) } }
  | .dateTime =>
      match messageDatetime message with
      | none => none
      | some dateTime => some { data with gateway := { data.gateway with dateTime := dateTime } }
  | _ => none

def applySetpointReport (runtime : DeviceRuntime) (valueKey : SetpointMap) (field : String)
    (message : TrpcPacket) : Option DeviceRuntime :=
  match setbackFromValue (message.get "setback") with
  | none => none
  | some setback => some (runtime.withSetpoint valueKey setback (message.get field))

/-- The runtime of a device after a message of a device method. -/
def applyRuntimeMessage (runtime : DeviceRuntime) (method : TrpcMethod) (message : TrpcPacket) :
    Option DeviceRuntime :=
  match scalarMethods method with
  | some (value, field) => some (runtime.withScalar value (message.get field))
  | none =>
      match setpointMethods method with
      | some (valueKey, field) => applySetpointReport runtime valueKey field message
      | none => none

/-- The snapshots keyed by tHA address. -/
def AvailableInfo.snapshots (self : AvailableInfo) : OrderedDict Int DeviceSnapshot :=
  OrderedDict.ofList (self.devices.map fun snapshot => (snapshot.info.address, snapshot))

def applyDeviceMessage (discovery : DiscoveryResult) (data : AvailableInfo) (address : Int)
    (method : TrpcMethod) (message : TrpcPacket) : Option AvailableInfo :=
  match data.snapshots.get? address with
  | none => none
  | some snapshot =>
      match applyRuntimeMessage snapshot.runtime method message with
      | none => none
      | some runtime =>
          let snapshots := data.snapshots.set address { runtime := runtime }
          some { data with devices :=
            discovery.devices.filterMap fun device => snapshots.get? device.address }

/-- Updated runtime data after applying one tRPC message. -/
def applyMessage (discovery : DiscoveryResult) (data : AvailableInfo) (message : TrpcPacket) :
    Option AvailableInfo :=
  if isRuntimeMessage message then
    match message.method with
    | none => none
    | some method =>
        if method ∈ gatewayMethods then applyGatewayMessage data method message
        else if method ∈ deviceValueMethods then
          match message.get "address" with
          | none => none
          | some address =>
              if address ∈ discovery.devices.map DiscoveredDevice.address then
                applyDeviceMessage discovery data address method message
              else none
        else none
  else none

/-- Mutable runtime state for a discovered tekmar 482 topology. -/
structure Tekmar482State where
  discovery : DiscoveryResult
  data : AvailableInfo
  deriving DecidableEq

namespace Tekmar482State

/-- Typed runtime values for one device address. -/
def runtime (self : Tekmar482State) (address : Int) : Option DeviceRuntime :=
  (self.data.snapshots.get? address).map DeviceSnapshot.runtime

/-- Apply a report or response message, and tell whether the snapshot changed. -/
def applyMessage (self : Tekmar482State) (message : TrpcPacket) : Bool × Tekmar482State :=
  match Tekmar482.applyMessage self.discovery self.data message with
  | none => (false, self)
  | some updated =>
      if updated = self.data then (false, self) else (true, { self with data := updated })

/-- The state after a sequence of messages. -/
def applyMessages (self : Tekmar482State) (messages : List TrpcPacket) : Tekmar482State :=
  messages.foldl (fun state message => (state.applyMessage message).2) self

end Tekmar482State

end Tekmar482
