import Tekmar482.Controller
import Tekmar482.Setters
import Tekmar482.TrpcNames

/-!
# Device handles

A handle writes the values of one discovered device through the client. It checks first that the
device is known and supports the method.
-/

namespace Tekmar482

/-- Whether a discovered device supports a writable or readable method. -/
def deviceSupportsMethod (device : DiscoveredDevice) : TrpcMethod → Bool
  | .heatSetpoint => device.supportsHeatSetpoint
  | .coolSetpoint => device.supportsCoolSetpoint
  | .slabSetpoint => device.supportsSlabSetpoint
  | .fanPercent => device.supportsFanPercent
  | .relativeHumidity | .humiditySetMin | .humiditySetMax => device.supportsHumidity
  | .setpointDevice => device.supportsSetpointDevice
  | .modeSetting => device.supportsModeSetting
  | .activeDemand | .currentFloorTemperature | .currentTemperature | .setbackState => true
  | _ => false

/-- The error for a method that a device does not support. -/
def unsupportedMethod (address : Int) (method : TrpcMethod) : PyException :=
  -- every method has a display name
  let name := (methodName method.value).getD ""
  .protocolError s!"device {address} does not support {name}"

def requireDeviceSupport (device : DiscoveredDevice) (method : TrpcMethod) :
    Except PyException Unit :=
  if deviceSupportsMethod device method then .ok ()
  else .error (unsupportedMethod device.address method)

/-- The error for an address without a device. -/
def unknownAddress (address : Int) : PyException :=
  .protocolError s!"unknown tekmar device address: {address}"

namespace Tekmar482State

/-- The discovered devices keyed by tHA address. -/
def discoveryDevices (self : Tekmar482State) : OrderedDict Int DiscoveredDevice :=
  .ofList (self.discovery.devices.map fun device => (device.address, device))

/-- A discovered device by its tHA address. -/
def device (self : Tekmar482State) (address : Int) : Option DiscoveredDevice :=
  self.discoveryDevices.get? address

def requireDeviceSupport (self : Tekmar482State) (address : Int) (method : TrpcMethod) :
    Except PyException Unit :=
  match self.device address with
  | none => .error (unknownAddress address)
  | some device => Tekmar482.requireDeviceSupport device method

end Tekmar482State

/-- A handle for one device, with the controller as a call of the handle finds it. -/
structure DeviceHandle where
  controller : ControllerSystem
  address : Int

namespace DeviceHandle

/-- Static discovery metadata of the device. -/
def info (self : DeviceHandle) : Except PyException DiscoveredDevice :=
  match self.controller.discovery with
  | none => .error (.protocolError "tekmar 482 controller has not discovered devices")
  | some discovery =>
      match discovery.devices.find? fun device => device.address == self.address with
      | some device => .ok device
      | none => .error (unknownAddress self.address)

/-- Latest runtime values of the device. -/
def runtime (self : DeviceHandle) : Option DeviceRuntime :=
  match self.controller.state with
  | none => none
  | some state => state.runtime self.address

def requireSupport (self : DeviceHandle) (method : TrpcMethod) : Except PyException Unit :=
  match self.controller.state with
  | some state => state.requireDeviceSupport self.address method
  | none => do
      let device ← self.info
      requireDeviceSupport device method

/-- A write of the client after the check of its method. -/
def supported (self : DeviceHandle) (method : TrpcMethod)
    (request : Except PyException (SessionRequest (List Int))) :
    Except PyException (SessionRequest (List Int)) := do
  self.requireSupport method
  request

section

variable (self : DeviceHandle) (confirm hasTimeout : Bool)

def setHeatSetpointCelsius (celsius : ℚ) (setback : Int) :
    Except PyException (SessionRequest (List Int)) :=
  self.supported .heatSetpoint
    (.ok (Client.setLatestHeatSetpointCelsius self.address setback hasTimeout celsius confirm))

def setCoolSetpointCelsius (celsius : ℚ) (setback : Int) :
    Except PyException (SessionRequest (List Int)) :=
  self.supported .coolSetpoint
    (.ok (Client.setLatestCoolSetpointCelsius self.address setback hasTimeout celsius confirm))

def setSlabSetpointCelsius (celsius : ℚ) (setback : Int) :
    Except PyException (SessionRequest (List Int)) :=
  self.supported .slabSetpoint
    (.ok (Client.setLatestSlabSetpointCelsius self.address setback hasTimeout celsius confirm))

def setSetpointDeviceCelsius (celsius : ℚ) (setback : Int) :
    Except PyException (SessionRequest (List Int)) :=
  self.supported .setpointDevice
    (.ok (Client.setLatestSetpointDeviceCelsius self.address setback hasTimeout celsius confirm))

def setFanPercent (percent setback : Int) : Except PyException (SessionRequest (List Int)) :=
  self.supported .fanPercent
    (Client.setLatestFanPercent self.address setback hasTimeout percent confirm)

def setMode (mode : Int) : Except PyException (SessionRequest (List Int)) :=
  self.supported .modeSetting (Client.setMode self.address mode confirm hasTimeout)

end

end DeviceHandle

end Tekmar482
