import Mathlib.Data.Fintype.Defs
import Mathlib.Data.Int.Bitwise

/-!
# Setback slots and device capabilities

The setback slots of a device, the capability bits of `DeviceAttributes`, and
the capabilities that the device type code alone implies.
-/

namespace Tekmar482

/-- tHA setback states. -/
inductive ThaSetback where
  | wake4
  | unocc4
  | occ4
  | sleep4
  | occ2
  | unocc2
  | away
  | current
  deriving DecidableEq, Repr

namespace ThaSetback

def value : ThaSetback → Int
  | wake4 => 0x00
  | unocc4 => 0x01
  | occ4 => 0x02
  | sleep4 => 0x03
  | occ2 => 0x04
  | unocc2 => 0x05
  | away => 0x06
  | current => 0x07

/-- The members in definition order. -/
def members : List ThaSetback := [wake4, unocc4, occ4, sleep4, occ2, unocc2, away, current]

/-- The enum member of a raw value, if it is known. -/
def ofValue? (raw : Int) : Option ThaSetback := members.find? fun s => s.value == raw

@[simp] theorem ofValue?_value (s : ThaSetback) : ofValue? s.value = some s := by
  cases s <;> rfl

theorem value_injective : Function.Injective value := by
  intro s t h
  have hs := ofValue?_value s
  rw [h, ofValue?_value] at hs
  exact (Option.some.inj hs).symm

theorem mem_members (s : ThaSetback) : s ∈ members := by
  cases s <;> decide

instance : Fintype ThaSetback := ⟨⟨members, by decide⟩, mem_members⟩

/-- Python's truth value of a member: the member of value zero is falsy. -/
def truthy (s : ThaSetback) : Bool := s.value != 0

/-- The member's name in lower case. -/
def name : ThaSetback → String
  | wake4 => "wake_4"
  | unocc4 => "unocc_4"
  | occ4 => "occ_4"
  | sleep4 => "sleep_4"
  | occ2 => "occ_2"
  | unocc2 => "unocc_2"
  | away => "away"
  | current => "current"

theorem name_injective : Function.Injective name := by
  intro s t h
  revert h
  cases s <;> cases t <;> decide

/-- What a slot means to a user. -/
def description : ThaSetback → Option String
  | wake4 | occ4 | occ2 => some "Awake"
  | unocc4 | sleep4 | unocc2 => some "Sleep"
  | away => some "Away"
  | current => none

end ThaSetback

/-- Device operating mode. -/
inductive DeviceMode where
  | off
  | heat
  | auto
  | cool
  | vent
  | emergency
  deriving DecidableEq, Repr

namespace DeviceMode

def value : DeviceMode → Int
  | off => 0x00
  | heat => 0x01
  | auto => 0x02
  | cool => 0x03
  | vent => 0x04
  | emergency => 0x06

/-- The member's name in lower case. -/
def name : DeviceMode → String
  | off => "off"
  | heat => "heat"
  | auto => "auto"
  | cool => "cool"
  | vent => "vent"
  | emergency => "emergency"

def members : List DeviceMode := [off, heat, auto, cool, vent, emergency]

def ofValue? (raw : Int) : Option DeviceMode := members.find? fun mode => mode.value == raw

end DeviceMode

/-- Current device demand. -/
inductive ActiveDemand where
  | idle
  | heat
  | cool
  deriving DecidableEq, Repr

namespace ActiveDemand

def value : ActiveDemand → Int
  | idle => 0x00
  | heat => 0x01
  | cool => 0x03

/-- The member's name in lower case. -/
def name : ActiveDemand → String
  | idle => "idle"
  | heat => "heat"
  | cool => "cool"

def members : List ActiveDemand := [idle, heat, cool]

def ofValue? (raw : Int) : Option ActiveDemand := members.find? fun demand => demand.value == raw

end ActiveDemand

namespace ThaValue

/-- The not-available value of a one-byte field. -/
def NA_8 : Int := 0xFF

/-- The not-available value of a two-byte field. -/
def NA_16 : Int := 0xFFFF

end ThaValue

/-- Known high-level tHA device categories. -/
inductive DeviceKind where
  | thermostat
  | setpoint
  | snowmelt
  deriving DecidableEq, Repr

namespace DeviceAttributeBit

def HEAT_SETPOINT : Int := 0x001
def COOL_SETPOINT : Int := 0x002
def SLAB_SETPOINT : Int := 0x004
def FAN_PERCENT : Int := 0x008
def HUMIDITY_SET_MAX : Int := 0x020
def HUMIDITY_SET_MIN : Int := 0x040
def SETPOINT_DEVICE : Int := 0x080
def SLAB_SETPOINT_ALT : Int := 0x100

end DeviceAttributeBit

/-- Known capability metadata for a tekmar device type code. -/
structure DeviceFeature where
  kind : DeviceKind
  heat : Nat := 0
  cool : Nat := 0
  fan : Nat := 0
  humidity : Nat := 0
  deriving DecidableEq, Repr

namespace DeviceFeature

def supportsHeat (self : DeviceFeature) : Bool := 0 < self.heat

def supportsCool (self : DeviceFeature) : Bool := 0 < self.cool

def supportsFan (self : DeviceFeature) : Bool := 0 < self.fan

def supportsHumidity (self : DeviceFeature) : Bool := 0 < self.humidity

end DeviceFeature

/-- Device type codes with known capabilities. -/
def deviceFeatures : List (Int × DeviceFeature) :=
  [(101101, { kind := .setpoint, heat := 1 }),
    (101102, { kind := .setpoint, heat := 1, cool := 1 }),
    (102301, { kind := .thermostat, heat := 1 }),
    (102302, { kind := .thermostat, heat := 1 }),
    (102303, { kind := .thermostat, heat := 2 }),
    (102304, { kind := .thermostat, heat := 1, cool := 1, fan := 1 }),
    (100102, { kind := .thermostat, heat := 1 }),
    (100103, { kind := .thermostat, heat := 1 }),
    (100101, { kind := .thermostat, heat := 1, cool := 1, fan := 1 }),
    (99301, { kind := .thermostat, heat := 1 }),
    (10599181, { kind := .thermostat, heat := 1 }),
    (99302, { kind := .thermostat, heat := 1 }),
    (99401, { kind := .thermostat, heat := 2 }),
    (99203, { kind := .thermostat, heat := 1, cool := 1, fan := 1 }),
    (99202, { kind := .thermostat, heat := 2, cool := 1, fan := 1 }),
    (99201, { kind := .thermostat, heat := 2, cool := 2, fan := 2 }),
    (107201, { kind := .thermostat, heat := 1 }),
    (105103, { kind := .thermostat, heat := 1 }),
    (105102, { kind := .thermostat, heat := 2, cool := 1, fan := 1, humidity := 1 }),
    (105101, { kind := .thermostat, heat := 1, cool := 1, fan := 1 }),
    (104401, { kind := .thermostat, heat := 2, cool := 2, fan := 1, humidity := 1 }),
    (105801, { kind := .snowmelt }),
    (108401, { kind := .snowmelt }),
    (108402, { kind := .snowmelt })]

end Tekmar482
