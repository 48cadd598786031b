import Tekmar482.Models
import Tekmar482.Units

/-!
# Decoding raw values

Raw values become temperatures, percentages and names. A not-available value, a
missing one and a value of the wrong shape all decode to nothing.
-/

namespace Tekmar482

/-- Raw values keyed by setback name. -/
abbrev RawSetpointMap := OrderedDict String (Option Int)

/-- A raw runtime value in the legacy shape. -/
inductive RawSnapshotValue where
  | int (value : Option Int)
  | map (values : RawSetpointMap)
  deriving DecidableEq

/-- A decoded tHA temperature value. -/
structure DecodedTemperature where
  raw : Int
  celsius : ℚ
  fahrenheit : ℚ
  deriving DecidableEq

/-- A decoded integer enum-like value. -/
structure DecodedNamedValue where
  raw : Int
  name : String
  description : Option String := none
  deriving DecidableEq

namespace RawSnapshotValue

/-- The integer that a value is, if it is one. -/
def asInt : RawSnapshotValue → Option Int
  | .int value => value
  | .map _ => none

end RawSnapshotValue

/-- Round to one decimal. -/
def roundTenth (value : ℚ) : ℚ := HalfEven.round (value * 10) / 10

/-- The decoded value of an integer other than the not-available one. -/
def decodeAvailable {α : Type} (notAvailable : Int) (decode : Int → Option α)
    (value : RawSnapshotValue) : Option α :=
  match value.asInt with
  | none => none
  | some raw => if raw = notAvailable then none else decode raw

/-- A temperature of a Celsius value, if there is one. -/
def temperatureOf (raw : Int) (celsius : Option ℚ) : Option DecodedTemperature :=
  celsius.map fun celsius =>
    { raw := raw, celsius := roundTenth celsius
      fahrenheit := roundTenth (celsiusToFahrenheit celsius) }

/-- Decode a two-byte tHA degH temperature value. -/
def decodeDegh : RawSnapshotValue → Option DecodedTemperature :=
  decodeAvailable ThaValue.NA_16 fun raw => temperatureOf raw (deghToCelsius raw)

/-- Decode a one-byte tHA degE setpoint value. -/
def decodeDege : RawSnapshotValue → Option DecodedTemperature :=
  decodeAvailable ThaValue.NA_8 fun raw => temperatureOf raw (degeToCelsius raw)

/-- Decode a one-byte percent value. -/
def decodePercent : RawSnapshotValue → Option Int := decodeAvailable ThaValue.NA_8 some

/-- Decode an ActiveDemand value. -/
def decodeActiveDemand : RawSnapshotValue → Option DecodedNamedValue :=
  decodeAvailable ThaValue.NA_8 fun raw =>
    some { raw, name := ((ActiveDemand.ofValue? raw).map ActiveDemand.name).getD "unknown" }

/-- Decode a DeviceMode value. -/
def decodeDeviceMode : RawSnapshotValue → Option DecodedNamedValue :=
  decodeAvailable ThaValue.NA_8 fun raw =>
    some { raw, name := ((DeviceMode.ofValue? raw).map DeviceMode.name).getD "unknown" }

/-- Decode a tHA setback value. -/
def decodeSetback : RawSnapshotValue → Option DecodedNamedValue :=
  decodeAvailable ThaValue.NA_8 fun raw =>
    match ThaSetback.ofValue? raw with
    | none => some { raw, name := "unknown" }
    | some setback => some { raw, name := setback.name, description := setback.description }

/-- Decode the entries of a setback-keyed mapping. -/
def decodeMap {α : Type} (decode : RawSnapshotValue → Option α) :
    RawSnapshotValue → Option (OrderedDict String (Option α))
  | .int _ => none
  | .map values => some (values.mapValues fun raw => decode (.int raw))

/-- Decode a setback-keyed setpoint mapping. -/
def decodeSetpointMap : RawSnapshotValue → Option (OrderedDict String (Option DecodedTemperature)) :=
  decodeMap decodeDege

/-- Decode a setback-keyed degH temperature mapping. -/
def decodeTemperatureMap :
    RawSnapshotValue → Option (OrderedDict String (Option DecodedTemperature)) :=
  decodeMap decodeDegh

/-- Decode a setback-keyed percent mapping. -/
def decodePercentMap : RawSnapshotValue → Option (OrderedDict String (Option Int)) :=
  decodeMap decodePercent

/-- A decoded runtime value. -/
inductive DecodedValue where
  | missing
  | temperature (value : DecodedTemperature)
  | named (value : DecodedNamedValue)
  | percent (value : Int)
  | temperatures (values : OrderedDict String (Option DecodedTemperature))
  | percents (values : OrderedDict String (Option Int))
  deriving DecidableEq

/-- A value that may be missing. -/
def DecodedValue.ofOption {α : Type} (wrap : α → DecodedValue) (value : Option α) : DecodedValue :=
  (value.map wrap).getD .missing

/-- Decode one entry of a raw values mapping, if its key is known. -/
def decodeDeviceValue (key : String) (value : RawSnapshotValue) : Option DecodedValue :=
  match key with
  | "current_temperature" | "current_floor_temperature" =>
      some (.ofOption .temperature (decodeDegh value))
  | "heat_setpoints" | "cool_setpoints" | "slab_setpoints" =>
      some (.ofOption .temperatures (decodeSetpointMap value))
  | "setpoint_targets" => some (.ofOption .temperatures (decodeTemperatureMap value))
  | "fan_percent" => some (.ofOption .percents (decodePercentMap value))
  | "active_demand" => some (.ofOption .named (decodeActiveDemand value))
  | "setback_state" => some (.ofOption .named (decodeSetback value))
  | "mode_setting" => some (.ofOption .named (decodeDeviceMode value))
  | "relative_humidity" | "humidity_setpoint_min" | "humidity_setpoint_max" =>
      some (.ofOption .percent (decodePercent value))
  | "setpoint_target" => some (.ofOption .temperature (decodeDegh value))
  | _ => none

/-- Decode a raw DeviceSnapshot values mapping. Unknown keys are dropped. -/
def decodeDeviceValues (values : OrderedDict String RawSnapshotValue) :
    OrderedDict String DecodedValue :=
  values.entries.foldl (fun decoded entry =>
    match decodeDeviceValue entry.1 entry.2 with
    | none => decoded
    | some value => decoded.set entry.1 value) .empty

/-! ## What decodes to nothing -/

theorem decodeAvailable_eq_none_iff {α : Type} {notAvailable : Int} {decode : Int → Option α}
    (h : ∀ raw, raw ≠ notAvailable → decode raw ≠ none) (value : Option Int) :
    decodeAvailable notAvailable decode (.int value) = none ↔
      value = none ∨ value = some notAvailable := by
  cases value with
  | none => simp [decodeAvailable, RawSnapshotValue.asInt]
  | some raw =>
      by_cases hraw : raw = notAvailable
      · simp [decodeAvailable, RawSnapshotValue.asInt, hraw]
      · simp [decodeAvailable, RawSnapshotValue.asInt, hraw, h raw hraw]

theorem decodeDegh_eq_none_iff (value : Option Int) :
    decodeDegh (.int value) = none ↔ value = none ∨ value = some ThaValue.NA_16 := by
  apply decodeAvailable_eq_none_iff
  intro raw hraw
  simp [temperatureOf, deghToCelsius, deghToFahrenheit, hraw]

theorem decodeDege_eq_none_iff (value : Option Int) :
    decodeDege (.int value) = none ↔ value = none ∨ value = some ThaValue.NA_8 := by
  apply decodeAvailable_eq_none_iff
  intro raw hraw
  simp [temperatureOf, degeToCelsius, hraw]

theorem decodePercent_eq_none_iff (value : Option Int) :
    decodePercent (.int value) = none ↔ value = none ∨ value = some ThaValue.NA_8 := by
  apply decodeAvailable_eq_none_iff
  exact fun raw _ => Option.some_ne_none raw

end Tekmar482
