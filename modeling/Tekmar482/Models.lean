import Tekmar482.Setpoints
import Tekmar482.Library.OrderedDict
import Mathlib.Data.Finmap
import Mathlib.Data.Finset.Insert

/-!
# Discovered devices and runtime snapshots

The values the gateway and its devices expose. A runtime value of a device is
either a scalar or a setpoint map, and each update function takes only the kind
of value it can store.
-/

namespace Tekmar482

/-- Date/time fields reported by the 482 gateway. -/
structure GatewayDateTime where
  year : Int
  month : Int
  day : Int
  weekday : Int
  hour : Int
  minute : Int
  deriving DecidableEq, Repr

/-- The scalar runtime values of a device. -/
inductive ScalarValue where
  | currentTemperature
  | currentFloorTemperature
  | activeDemand
  | setbackState
  | modeSetting
  | relativeHumidity
  | humiditySetpointMin
  | humiditySetpointMax
  deriving DecidableEq, Repr

/-- The setback-indexed runtime values of a device. -/
inductive SetpointMap where
  | setpointTargets
  | heatSetpoints
  | coolSetpoints
  | slabSetpoints
  | fanPercent
  deriving DecidableEq, Repr

/-- Canonical runtime value keys exposed for a discovered device. -/
inductive DeviceValue where
  | scalar (value : ScalarValue)
  | setpoints (value : SetpointMap)
  deriving DecidableEq, Repr

/-- Decoded DeviceAttributes bit field. -/
structure DeviceAttributes where
  raw : Int := 0
  deriving DecidableEq, Repr

namespace DeviceAttributes

/-- Whether one of the given bits is set. -/
def supports (self : DeviceAttributes) (bit : Int) : Bool := Int.land self.raw bit != 0

def heatSetpoint (self : DeviceAttributes) : Bool :=
  self.supports DeviceAttributeBit.HEAT_SETPOINT

def coolSetpoint (self : DeviceAttributes) : Bool :=
  self.supports DeviceAttributeBit.COOL_SETPOINT

def slabSetpoint (self : DeviceAttributes) : Bool :=
  self.supports (Int.lor DeviceAttributeBit.SLAB_SETPOINT DeviceAttributeBit.SLAB_SETPOINT_ALT)

def fanPercent (self : DeviceAttributes) : Bool :=
  self.supports DeviceAttributeBit.FAN_PERCENT

def humiditySetpointMin (self : DeviceAttributes) : Bool :=
  self.supports DeviceAttributeBit.HUMIDITY_SET_MIN

def humiditySetpointMax (self : DeviceAttributes) : Bool :=
  self.supports DeviceAttributeBit.HUMIDITY_SET_MAX

def humidity (self : DeviceAttributes) : Bool :=
  self.humiditySetpointMin || self.humiditySetpointMax

def setpointDevice (self : DeviceAttributes) : Bool :=
  self.supports DeviceAttributeBit.SETPOINT_DEVICE

end DeviceAttributes

/-- Static tekmar 482 gateway metadata. -/
structure GatewayInfo where
  firmwareRevision : Option Int := none
  protocolVersion : Option Int := none
  deriving DecidableEq, Repr

/-- Device discovered behind a tekmar 482 gateway. -/
structure DiscoveredDevice where
  address : Int
  typeCode : Option Int := none
  version : Option Int := none
  attributes : DeviceAttributes := {}
  setbackEvents : Option Int := none
  deriving DecidableEq, Repr

namespace DiscoveredDevice

def feature (self : DiscoveredDevice) : Option DeviceFeature :=
  match self.typeCode with
  | none => none
  | some code => deviceFeatures.lookup code

def supportsHeatSetpoint (self : DiscoveredDevice) : Bool :=
  self.attributes.heatSetpoint || self.feature.any DeviceFeature.supportsHeat

def supportsCoolSetpoint (self : DiscoveredDevice) : Bool :=
  self.attributes.coolSetpoint || self.feature.any DeviceFeature.supportsCool

def supportsSlabSetpoint (self : DiscoveredDevice) : Bool := self.attributes.slabSetpoint

def supportsFanPercent (self : DiscoveredDevice) : Bool :=
  self.attributes.fanPercent || self.feature.any DeviceFeature.supportsFan

def supportsHumidity (self : DiscoveredDevice) : Bool :=
  self.attributes.humidity || self.feature.any DeviceFeature.supportsHumidity

def kind (self : DiscoveredDevice) : Option DeviceKind :=
  match self.feature with
  | some feature => some feature.kind
  | none =>
      if self.attributes.setpointDevice then some .setpoint
      else if self.supportsHeatSetpoint || self.supportsCoolSetpoint ||
          self.supportsSlabSetpoint || self.supportsFanPercent || self.supportsHumidity then
        some .thermostat
      else none

def supportsSetpointDevice (self : DiscoveredDevice) : Bool :=
  self.attributes.setpointDevice || self.feature.any fun feature => feature.kind == .setpoint

def supportsModeSetting (self : DiscoveredDevice) : Bool :=
  self.kind == some .thermostat && !self.supportsSetpointDevice

end DiscoveredDevice

/-- Gateway and device inventory returned by discovery. -/
structure DiscoveryResult where
  gateway : GatewayInfo := {}
  devices : List DiscoveredDevice
  deriving DecidableEq, Repr

/-- Gateway values collected by a dump operation. -/
@[ext] structure GatewaySnapshot where
  info : GatewayInfo := {}
  outdoorTemp : Option Int := none
  networkError : Option Int := none
  dateTime : Option GatewayDateTime := none
  reportingEnabled : Option Bool := none
  setbackEnabled : Option Bool := none
  setpointGroups : Option (Finmap fun _ : Int => Option Bool) := none
  deriving DecidableEq

/-- The runtime types a device can have. -/
inductive RuntimeClass where
  | deviceRuntime
  | thermostatRuntime
  | snowmeltRuntime
  | setpointDeviceRuntime
  deriving DecidableEq, Repr

def runtimeClass (device : DiscoveredDevice) : RuntimeClass :=
  match device.kind with
  | some .thermostat => .thermostatRuntime
  | some .snowmelt => .snowmeltRuntime
  | some .setpoint => .setpointDeviceRuntime
  | none => .deviceRuntime

/-- Typed runtime values for one discovered device. -/
structure DeviceRuntime where
  cls : RuntimeClass := .deviceRuntime
  info : DiscoveredDevice
  availableValues : Finset DeviceValue := ∅
  currentTemperature : Option Int := none
  currentFloorTemperature : Option Int := none
  activeDemand : Option Int := none
  setbackState : Option Int := none
  modeSetting : Option Int := none
  relativeHumidity : Option Int := none
  humiditySetpointMin : Option Int := none
  humiditySetpointMax : Option Int := none
  setpointTargets : SetpointValues := {}
  heatSetpoints : SetpointValues := {}
  coolSetpoints : SetpointValues := {}
  slabSetpoints : SetpointValues := {}
  fanPercent : SetpointValues := {}
  deriving DecidableEq

namespace DeviceRuntime

/-- The values with the runtime subtype of their device. -/
def create (values : DeviceRuntime) : DeviceRuntime :=
  { values with cls := runtimeClass values.info }

/-- A scalar value by its key. -/
def scalar (self : DeviceRuntime) : ScalarValue → Option Int
  | .currentTemperature => self.currentTemperature
  | .currentFloorTemperature => self.currentFloorTemperature
  | .activeDemand => self.activeDemand
  | .setbackState => self.setbackState
  | .modeSetting => self.modeSetting
  | .relativeHumidity => self.relativeHumidity
  | .humiditySetpointMin => self.humiditySetpointMin
  | .humiditySetpointMax => self.humiditySetpointMax

/-- A setpoint map by its key. -/
def setpoints (self : DeviceRuntime) : SetpointMap → SetpointValues
  | .setpointTargets => self.setpointTargets
  | .heatSetpoints => self.heatSetpoints
  | .coolSetpoints => self.coolSetpoints
  | .slabSetpoints => self.slabSetpoints
  | .fanPercent => self.fanPercent

/-- A copy with one scalar value updated. A new setback state also becomes the
active slot of every setpoint map. -/
def withScalar (self : DeviceRuntime) (value : ScalarValue) (raw : Option Int) : DeviceRuntime :=
  let availableValues := insert (.scalar value) self.availableValues
  match value with
  | .setbackState =>
      let activeSetback := setbackFromValue raw
      { self with
        availableValues := availableValues
        setbackState := raw
        setpointTargets := self.setpointTargets.withActiveSetback activeSetback
        heatSetpoints := self.heatSetpoints.withActiveSetback activeSetback
        coolSetpoints := self.coolSetpoints.withActiveSetback activeSetback
        slabSetpoints := self.slabSetpoints.withActiveSetback activeSetback
        fanPercent := self.fanPercent.withActiveSetback activeSetback }
  | .currentTemperature =>
      { self with availableValues := availableValues, currentTemperature := raw }
  | .currentFloorTemperature =>
      { self with availableValues := availableValues, currentFloorTemperature := raw }
  | .activeDemand => { self with availableValues := availableValues, activeDemand := raw }
  | .modeSetting => { self with availableValues := availableValues, modeSetting := raw }
  | .relativeHumidity => { self with availableValues := availableValues, relativeHumidity := raw }
  | .humiditySetpointMin =>
      { self with availableValues := availableValues, humiditySetpointMin := raw }
  | .humiditySetpointMax =>
      { self with availableValues := availableValues, humiditySetpointMax := raw }

/-- A copy with one setpoint-like value updated. -/
def withSetpoint (self : DeviceRuntime) (value : SetpointMap) (setback : ThaSetback)
    (raw : Option Int) : DeviceRuntime :=
  let availableValues := insert (.setpoints value) self.availableValues
  match value with
  | .setpointTargets =>
      { self with
        availableValues := availableValues
        setpointTargets := self.setpointTargets.withValue setback raw }
  | .heatSetpoints =>
      { self with
        availableValues := availableValues
        heatSetpoints := self.heatSetpoints.withValue setback raw }
  | .coolSetpoints =>
      { self with
        availableValues := availableValues
        coolSetpoints := self.coolSetpoints.withValue setback raw }
  | .slabSetpoints =>
      { self with
        availableValues := availableValues
        slabSetpoints := self.slabSetpoints.withValue setback raw }
  | .fanPercent =>
      { self with
        availableValues := availableValues
        fanPercent := self.fanPercent.withValue setback raw }

@[simp] theorem info_withScalar (self : DeviceRuntime) (value : ScalarValue)
    (raw : Option Int) : (self.withScalar value raw).info = self.info := by
  cases value <;> rfl

@[simp] theorem info_withSetpoint (self : DeviceRuntime) (value : SetpointMap)
    (setback : ThaSetback) (raw : Option Int) :
    (self.withSetpoint value setback raw).info = self.info := by
  cases value <;> rfl

/-- A scalar update makes the value available. -/
theorem availableValues_withScalar (self : DeviceRuntime) (value : ScalarValue)
    (raw : Option Int) :
    (self.withScalar value raw).availableValues = insert (.scalar value) self.availableValues := by
  cases value <;> rfl

/-- A setpoint update makes its map available. -/
theorem availableValues_withSetpoint (self : DeviceRuntime) (map : SetpointMap)
    (setback : ThaSetback) (raw : Option Int) :
    (self.withSetpoint map setback raw).availableValues =
      insert (.setpoints map) self.availableValues := by
  cases map <;> rfl

/-- A scalar update changes the addressed value only. -/
theorem scalar_withScalar (self : DeviceRuntime) (value other : ScalarValue)
    (raw : Option Int) :
    (self.withScalar value raw).scalar other = if other = value then raw else self.scalar other := by
  cases value <;> cases other <;> rfl

@[simp] theorem scalar_withSetpoint (self : DeviceRuntime) (value : SetpointMap)
    (setback : ThaSetback) (raw : Option Int) (other : ScalarValue) :
    (self.withSetpoint value setback raw).scalar other = self.scalar other := by
  cases value <;> cases other <;> rfl

/-- A scalar update reaches the setpoint maps through the active setback only. -/
theorem setpoints_withScalar (self : DeviceRuntime) (value : ScalarValue) (raw : Option Int)
    (map : SetpointMap) :
    (self.withScalar value raw).setpoints map =
      if value = .setbackState then (self.setpoints map).withActiveSetback (setbackFromValue raw)
      else self.setpoints map := by
  cases value <;> cases map <;> rfl

/-- A setpoint update changes the addressed map only. -/
theorem setpoints_withSetpoint (self : DeviceRuntime) (value other : SetpointMap)
    (setback : ThaSetback) (raw : Option Int) :
    (self.withSetpoint value setback raw).setpoints other =
      if other = value then (self.setpoints value).withValue setback raw
      else self.setpoints other := by
  cases value <;> cases other <;> rfl

end DeviceRuntime

/-- Device values collected by a dump operation. -/
structure DeviceSnapshot where
  runtime : DeviceRuntime
  deriving DecidableEq

def DeviceSnapshot.info (self : DeviceSnapshot) : DiscoveredDevice := self.runtime.info

/-- Snapshot of the information exposed by the gateway. -/
@[ext] structure AvailableInfo where
  gateway : GatewaySnapshot := {}
  devices : List DeviceSnapshot
  deriving DecidableEq

end Tekmar482
