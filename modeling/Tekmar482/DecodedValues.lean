import Tekmar482.Decoding
import Tekmar482.StateStore

/-!
# Two ways to decode a device

The raw values of a device can be decoded entry by entry, or the device can be
decoded first and then shown. The two differ in when the current value of a
setpoint map is resolved: among raw values or among decoded ones.
-/

namespace Tekmar482

/-! ## Setback-keyed dictionaries -/

/-- Whether a setback-keyed map has a current value to show. -/
def showsCurrent {α : Type} (values : ThaSetback → Option (Option α))
    (active : Option ThaSetback) : Bool :=
  (values .current).isSome ||
    match active with
    | none => false
    | some slot => slot ≠ .current && (values slot).isSome

/-- Add the stored slots to a dictionary, each under its name. -/
def addSlots {α : Type} (values : ThaSetback → Option (Option α)) (slots : List ThaSetback)
    (dict : OrderedDict String (Option α)) : OrderedDict String (Option α) :=
  slots.foldl (fun dict setback =>
      match setback, values setback with
      | .current, _ | _, none => dict
      | _, some value => dict.set setback.name value) dict

/-- The entries of a setback-keyed map: the current value when the map has one to
show, and then the stored slots in order. -/
def slotDict {α : Type} (values : ThaSetback → Option (Option α)) (active : Option ThaSetback)
    (current : Option α) : OrderedDict String (Option α) :=
  addSlots values ThaSetback.members
    (if showsCurrent values active then OrderedDict.empty.set ThaSetback.current.name current
      else .empty)

/-- JSON-friendly raw values keyed by setback name. -/
def SetpointValues.asDict (self : SetpointValues) : RawSetpointMap :=
  slotDict self.values self.activeSetback self.current

/-- Decoded values for setback-indexed raw data. -/
structure DecodedSetbackValues (α : Type) where
  values : ThaSetback → Option (Option α) := fun _ => none
  activeSetback : Option ThaSetback := none
  currentObservedSetback : Option ThaSetback := none

namespace DecodedSetbackValues

variable {α : Type}

/-- Decode raw setpoint values. -/
def fromSetpoints (setpoints : SetpointValues) (decoder : RawSnapshotValue → Option α) :
    DecodedSetbackValues α where
  values setback := (setpoints.values setback).map fun value => decoder (.int value)
  activeSetback := setpoints.activeSetback
  currentObservedSetback := setpoints.currentObservedSetback

/-- The stored value of a slot, if it is present and has one. -/
def lookup (self : DecodedSetbackValues α) (setback : ThaSetback) : Option α :=
  (self.values setback).join

/-- The active decoded value. -/
def current (self : DecodedSetbackValues α) : Option α :=
  match self.activeSetback with
  | none => self.lookup .current
  | some active =>
      if active = .current then self.lookup .current
      else if self.currentObservedSetback = some active then
        match self.lookup active with
        | none => self.lookup .current
        | some activeValue => some activeValue
      else self.lookup active

/-- JSON-friendly decoded values keyed by setback name. -/
def asDict (self : DecodedSetbackValues α) : OrderedDict String (Option α) :=
  slotDict self.values self.activeSetback self.current

end DecodedSetbackValues

/-- Decode the values of a map. -/
def SetpointValues.decoded {α : Type} (self : SetpointValues)
    (decoder : RawSnapshotValue → Option α) : DecodedSetbackValues α :=
  .fromSetpoints self decoder

/-! ## The values of a device -/

namespace DeviceValue

/-- The members in definition order. -/
def members : List DeviceValue :=
  [.scalar .currentTemperature, .scalar .currentFloorTemperature, .scalar .activeDemand,
    .scalar .setbackState, .scalar .modeSetting, .scalar .relativeHumidity,
    .scalar .humiditySetpointMin, .scalar .humiditySetpointMax, .setpoints .setpointTargets,
    .setpoints .heatSetpoints, .setpoints .coolSetpoints, .setpoints .slabSetpoints,
    .setpoints .fanPercent]

/-- The string of a member. -/
def key : DeviceValue → String
  | .scalar .currentTemperature => "current_temperature"
  | .scalar .currentFloorTemperature => "current_floor_temperature"
  | .scalar .activeDemand => "active_demand"
  | .scalar .setbackState => "setback_state"
  | .scalar .modeSetting => "mode_setting"
  | .scalar .relativeHumidity => "relative_humidity"
  | .scalar .humiditySetpointMin => "humidity_setpoint_min"
  | .scalar .humiditySetpointMax => "humidity_setpoint_max"
  | .setpoints .setpointTargets => "setpoint_targets"
  | .setpoints .heatSetpoints => "heat_setpoints"
  | .setpoints .coolSetpoints => "cool_setpoints"
  | .setpoints .slabSetpoints => "slab_setpoints"
  | .setpoints .fanPercent => "fan_percent"

theorem mem_members (value : DeviceValue) : value ∈ members := by
  cases value with
  | scalar value => cases value <;> decide
  | setpoints value => cases value <;> decide

theorem keys_nodup : (members.map key).Nodup := by
  decide

end DeviceValue

/-- Typed decoded runtime values for one discovered device. -/
structure DecodedDeviceRuntime where
  currentTemperature : Option DecodedTemperature
  currentFloorTemperature : Option DecodedTemperature
  activeDemand : Option DecodedNamedValue
  setbackState : Option DecodedNamedValue
  modeSetting : Option DecodedNamedValue
  relativeHumidity : Option Int
  humiditySetpointMin : Option Int
  humiditySetpointMax : Option Int
  setpointTargets : DecodedSetbackValues DecodedTemperature
  heatSetpoints : DecodedSetbackValues DecodedTemperature
  coolSetpoints : DecodedSetbackValues DecodedTemperature
  slabSetpoints : DecodedSetbackValues DecodedTemperature
  fanPercent : DecodedSetbackValues Int

namespace DecodedDeviceRuntime

/-- Build typed decoded values from raw runtime values. -/
def fromRuntime (runtime : DeviceRuntime) : DecodedDeviceRuntime where
  currentTemperature := decodeDegh (.int runtime.currentTemperature)
  currentFloorTemperature := decodeDegh (.int runtime.currentFloorTemperature)
  activeDemand := decodeActiveDemand (.int runtime.activeDemand)
  setbackState := decodeSetback (.int runtime.setbackState)
  modeSetting := decodeDeviceMode (.int runtime.modeSetting)
  relativeHumidity := decodePercent (.int runtime.relativeHumidity)
  humiditySetpointMin := decodePercent (.int runtime.humiditySetpointMin)
  humiditySetpointMax := decodePercent (.int runtime.humiditySetpointMax)
  setpointTargets := runtime.setpointTargets.decoded decodeDegh
  heatSetpoints := runtime.heatSetpoints.decoded decodeDege
  coolSetpoints := runtime.coolSetpoints.decoded decodeDege
  slabSetpoints := runtime.slabSetpoints.decoded decodeDege
  fanPercent := runtime.fanPercent.decoded decodePercent

/-- One decoded value in the legacy shape. -/
def rawValue (self : DecodedDeviceRuntime) : DeviceValue → DecodedValue
  | .scalar .currentTemperature => .ofOption .temperature self.currentTemperature
  | .scalar .currentFloorTemperature => .ofOption .temperature self.currentFloorTemperature
  | .scalar .activeDemand => .ofOption .named self.activeDemand
  | .scalar .setbackState => .ofOption .named self.setbackState
  | .scalar .modeSetting => .ofOption .named self.modeSetting
  | .scalar .relativeHumidity => .ofOption .percent self.relativeHumidity
  | .scalar .humiditySetpointMin => .ofOption .percent self.humiditySetpointMin
  | .scalar .humiditySetpointMax => .ofOption .percent self.humiditySetpointMax
  | .setpoints .setpointTargets => .temperatures self.setpointTargets.asDict
  | .setpoints .heatSetpoints => .temperatures self.heatSetpoints.asDict
  | .setpoints .coolSetpoints => .temperatures self.coolSetpoints.asDict
  | .setpoints .slabSetpoints => .temperatures self.slabSetpoints.asDict
  | .setpoints .fanPercent => .percents self.fanPercent.asDict

end DecodedDeviceRuntime

namespace DeviceRuntime

/-- One raw runtime value in the legacy shape. -/
def rawValue (self : DeviceRuntime) : DeviceValue → RawSnapshotValue
  | .scalar value => .int (self.scalar value)
  | .setpoints value => .map (self.setpoints value).asDict

/-- The available values with something to show for each, in definition order. -/
def availableItems {α : Type} (self : DeviceRuntime) (shown : DeviceValue → α) :
    List (String × α) :=
  (DeviceValue.members.filter fun value => value ∈ self.availableValues).map fun value =>
    (value.key, shown value)

/-- This runtime view in the legacy snapshot value shape. -/
def rawValues (self : DeviceRuntime) : OrderedDict String RawSnapshotValue :=
  .ofList (self.availableItems self.rawValue)

def decoded (self : DeviceRuntime) : DecodedDeviceRuntime := .fromRuntime self

/-- Decoded values in the legacy snapshot value shape. -/
def decodedValues (self : DeviceRuntime) : OrderedDict String DecodedValue :=
  .ofList (self.availableItems self.decoded.rawValue)

end DeviceRuntime

/-! ## Decoding a shown map -/

section SlotDict

variable {α β : Type} (values : ThaSetback → Option (Option α)) (active : Option ThaSetback)
  (current : Option α)

theorem get?_addSlots_current (slots : List ThaSetback) (dict : OrderedDict String (Option α)) :
    (addSlots values slots dict).get? ThaSetback.current.name =
      dict.get? ThaSetback.current.name := by
  induction slots generalizing dict with
  | nil => rfl
  | cons slot rest ih =>
      rw [addSlots, List.foldl_cons]
      refine (ih _).trans ?_
      split
      · rfl
      · rfl
      · rename_i hslot _
        apply OrderedDict.get?_set_of_ne
        intro hname
        exact hslot (ThaSetback.name_injective hname).symm

theorem get?_slotDict_current :
    (slotDict values active current).get? ThaSetback.current.name =
      if showsCurrent values active then some current else none := by
  rw [slotDict, get?_addSlots_current]
  split
  · exact OrderedDict.get?_set_self _ _ _
  · rfl

variable (f : Option α → Option β)

theorem showsCurrent_map :
    showsCurrent (fun slot => (values slot).map f) active = showsCurrent values active := by
  cases active <;> simp [showsCurrent]

theorem mapValues_addSlots (slots : List ThaSetback) (dict : OrderedDict String (Option α)) :
    (addSlots values slots dict).mapValues f =
      addSlots (fun slot => (values slot).map f) slots (dict.mapValues f) := by
  induction slots generalizing dict with
  | nil => rfl
  | cons slot rest ih =>
      rw [addSlots, List.foldl_cons, addSlots, List.foldl_cons]
      refine (ih _).trans ?_
      congr 1
      cases slot <;> cases values _ <;> simp [OrderedDict.mapValues_set]

/-- Decoding a shown map is showing the decoded slots, with the current value decoded. -/
theorem mapValues_slotDict :
    (slotDict values active current).mapValues f =
      slotDict (fun slot => (values slot).map f) active (f current) := by
  rw [slotDict, slotDict, mapValues_addSlots, showsCurrent_map]
  congr 1
  split
  · exact OrderedDict.mapValues_set f _ _ _
  · rfl

end SlotDict

/-! ## Resolving the current value -/

/-- The active slot is not available, and hides an available current value: the
slot is the one that the current value was observed for. -/
def SetpointValues.Hides (self : SetpointValues) (notAvailable : Int) : Prop :=
  ∃ active, self.activeSetback = some active ∧ active ≠ .current ∧
    self.currentObservedSetback = some active ∧ self.lookup active = some notAvailable ∧
    ∃ value, self.lookup .current = some value ∧ value ≠ notAvailable

section Current

variable {α : Type} {decoder : RawSnapshotValue → Option α} {notAvailable : Int}
  (hdecoder : ∀ value, decoder (.int value) = none ↔ value = none ∨ value = some notAvailable)
  (setpoints : SetpointValues)

include hdecoder

theorem lookup_decoded (slot : ThaSetback) :
    (setpoints.decoded decoder).lookup slot = decoder (.int (setpoints.lookup slot)) := by
  have hnone : decoder (.int none) = none := (hdecoder none).mpr (.inl rfl)
  cases hvalue : setpoints.values slot with
  | none =>
      simp [SetpointValues.decoded, DecodedSetbackValues.fromSetpoints, SetpointValues.lookup,
        DecodedSetbackValues.lookup, hvalue, hnone]
  | some value =>
      simp [SetpointValues.decoded, DecodedSetbackValues.fromSetpoints, SetpointValues.lookup,
        DecodedSetbackValues.lookup, hvalue]

/-- Resolving the current value before decoding and after it give the same value,
unless the active slot hides the current value. -/
theorem decoder_current_iff :
    decoder (.int setpoints.current) = (setpoints.decoded decoder).current ↔
      ¬ setpoints.Hides notAvailable := by
  have hlookup := lookup_decoded hdecoder setpoints
  have hactive : (setpoints.decoded decoder).activeSetback = setpoints.activeSetback := rfl
  have hobserved : (setpoints.decoded decoder).currentObservedSetback =
    setpoints.currentObservedSetback := rfl
  rw [SetpointValues.current, DecodedSetbackValues.current, hactive, hobserved]
  simp only [hlookup, SetpointValues.Hides]
  cases setpoints.activeSetback with
  | none => simp
  | some active =>
      by_cases hcurrent : active = .current
      · simp [hcurrent]
      · by_cases hsame : setpoints.currentObservedSetback = some active
        · simp only [if_neg hcurrent, if_pos hsame]
          cases hvalue : setpoints.lookup active with
          | none =>
              rw [(hdecoder none).mpr (.inl rfl)]
              simp [hvalue]
          | some value =>
              by_cases havailable : value = notAvailable
              · subst havailable
                rw [(hdecoder (some value)).mpr (.inr rfl), eq_comm, hdecoder]
                constructor
                · rintro hmissing ⟨slot, _, _, _, _, shown, hshown, hne⟩
                  rw [hshown] at hmissing
                  rcases hmissing with hnone | hsentinel
                  · cases hnone
                  · exact hne (Option.some.inj hsentinel)
                · intro hnot
                  cases hshown : setpoints.lookup .current with
                  | none => exact .inl rfl
                  | some shown =>
                      refine .inr (congrArg some ?_)
                      by_contra hne
                      exact hnot ⟨active, rfl, hcurrent, hsame, hvalue, shown, hshown, hne⟩
              · cases hdecoded : decoder (.int (some value)) with
                | none =>
                    rcases (hdecoder _).mp hdecoded with hnone | hsentinel
                    · cases hnone
                    · exact absurd (Option.some.inj hsentinel) havailable
                | some decoded => simp [hvalue, havailable]
        · simp [hcurrent, hsame]

/-- The shown maps agree unless the active slot hides the current value. -/
theorem mapValues_asDict (h : ¬ setpoints.Hides notAvailable) :
    setpoints.asDict.mapValues (fun raw => decoder (.int raw)) =
      (setpoints.decoded decoder).asDict := by
  have hcurrent := (decoder_current_iff hdecoder setpoints).mpr h
  rw [SetpointValues.asDict, mapValues_slotDict, DecodedSetbackValues.asDict, ← hcurrent]
  rfl

/-- A hidden current value is shown by one map only. -/
theorem get?_current_of_hides (h : setpoints.Hides notAvailable) :
    (setpoints.asDict.mapValues fun raw => decoder (.int raw)).get? ThaSetback.current.name ≠
      (setpoints.decoded decoder).asDict.get? ThaSetback.current.name := by
  have hne : decoder (.int setpoints.current) ≠ (setpoints.decoded decoder).current :=
    fun heq => (decoder_current_iff hdecoder setpoints).mp heq h
  have hshows : showsCurrent setpoints.values setpoints.activeSetback = true := by
    obtain ⟨_, _, _, _, _, value, hvalue, _⟩ := h
    have hpresent : setpoints.values .current ≠ none := by
      intro hnone
      rw [SetpointValues.lookup, hnone] at hvalue
      cases hvalue
    simp [showsCurrent, Option.isSome_iff_ne_none.mpr hpresent]
  have hshows' := (showsCurrent_map setpoints.values setpoints.activeSetback
    fun raw => decoder (.int raw)).trans hshows
  rw [SetpointValues.asDict, mapValues_slotDict, get?_slotDict_current, if_pos hshows',
    DecodedSetbackValues.asDict, get?_slotDict_current]
  intro heq
  exact hne (Option.some.inj (heq.trans (if_pos hshows')))

end Current

/-! ## The two paths -/

/-- Two entries agree key by key. -/
def SameEntry : Option DecodedValue → Option DecodedValue → Prop
  | some (.temperatures values), some (.temperatures others) =>
      ∀ slot, values.get? slot = others.get? slot
  | some (.percents values), some (.percents others) => ∀ slot, values.get? slot = others.get? slot
  | value, other => value = other

/-- Two decoded dictionaries agree key by key, down to the entries of their maps. -/
def AgreeByKey (values others : OrderedDict String DecodedValue) : Prop :=
  ∀ key, SameEntry (values.get? key) (others.get? key)

theorem SameEntry.refl (value : Option DecodedValue) : SameEntry value value := by
  cases value with
  | none => rfl
  | some value => cases value <;> first | rfl | exact fun _ => rfl

/-- The not-available value of a map's entries. -/
def SetpointMap.notAvailable : SetpointMap → Int
  | .setpointTargets => ThaValue.NA_16
  | .heatSetpoints | .coolSetpoints | .slabSetpoints | .fanPercent => ThaValue.NA_8

namespace DeviceRuntime

variable (self : DeviceRuntime)

/-- What the first path makes of an available value. -/
def decodedRaw (value : DeviceValue) : DecodedValue :=
  (decodeDeviceValue value.key (self.rawValue value)).getD .missing

theorem decodeDeviceValue_key (value : DeviceValue) :
    decodeDeviceValue value.key (self.rawValue value) = some (self.decodedRaw value) := by
  cases value with
  | scalar value => cases value <;> rfl
  | setpoints value => cases value <;> rfl

theorem keys_availableItems_nodup {α : Type} (shown : DeviceValue → α) :
    ((self.availableItems shown).map Prod.fst).Nodup := by
  have hkeys : (self.availableItems shown).map Prod.fst =
      (DeviceValue.members.filter fun value => value ∈ self.availableValues).map
        DeviceValue.key := by
    rw [availableItems, List.map_map]
    rfl
  rw [hkeys]
  exact DeviceValue.keys_nodup.sublist (List.filter_sublist.map _)

theorem get?_availableItems {α : Type} (shown : DeviceValue → α) {value : DeviceValue}
    (h : value ∈ self.availableValues) :
    (OrderedDict.ofList (self.availableItems shown)).get? value.key = some (shown value) := by
  apply OrderedDict.get?_ofList_of_mem (self.keys_availableItems_nodup shown)
  apply List.mem_map_of_mem (f := fun value => (value.key, shown value))
  exact List.mem_filter.mpr ⟨value.mem_members, by simpa using h⟩

/-- The first path, value by value. -/
theorem decodeDeviceValues_rawValues :
    decodeDeviceValues self.rawValues = .ofList (self.availableItems self.decodedRaw) := by
  rw [decodeDeviceValues, rawValues,
    OrderedDict.entries_ofList (self.keys_availableItems_nodup self.rawValue), OrderedDict.ofList,
    availableItems, availableItems, List.foldl_map, List.foldl_map]
  apply List.foldl_ext
  intro dict value _
  rw [self.decodeDeviceValue_key value]

/-- The paths agree on a scalar value. -/
theorem decodedRaw_scalar (value : ScalarValue) :
    self.decodedRaw (.scalar value) = self.decoded.rawValue (.scalar value) := by
  cases value <;> rfl

/-- The paths agree on a map that hides nothing. -/
theorem decodedRaw_setpoints {value : SetpointMap}
    (h : ¬ (self.setpoints value).Hides value.notAvailable) :
    self.decodedRaw (.setpoints value) = self.decoded.rawValue (.setpoints value) := by
  cases value with
  | setpointTargets =>
      exact congrArg DecodedValue.temperatures (mapValues_asDict decodeDegh_eq_none_iff _ h)
  | heatSetpoints | coolSetpoints | slabSetpoints =>
      exact congrArg DecodedValue.temperatures (mapValues_asDict decodeDege_eq_none_iff _ h)
  | fanPercent =>
      exact congrArg DecodedValue.percents (mapValues_asDict decodePercent_eq_none_iff _ h)

/-- The paths differ on a map that hides a current value. -/
theorem not_sameEntry_setpoints {value : SetpointMap}
    (h : (self.setpoints value).Hides value.notAvailable) :
    ¬ SameEntry (some (self.decodedRaw (.setpoints value)))
      (some (self.decoded.rawValue (.setpoints value))) := by
  intro hsame
  cases value with
  | setpointTargets => exact get?_current_of_hides decodeDegh_eq_none_iff _ h (hsame _)
  | heatSetpoints | coolSetpoints | slabSetpoints =>
      exact get?_current_of_hides decodeDege_eq_none_iff _ h (hsame _)
  | fanPercent => exact get?_current_of_hides decodePercent_eq_none_iff _ h (hsame _)

/-- The two decoding paths agree key by key exactly when no available setpoint map
has its observed active slot not available under an available current value. -/
theorem decodeDeviceValues_agree_iff :
    AgreeByKey (decodeDeviceValues self.rawValues) self.decodedValues ↔
      ∀ value, .setpoints value ∈ self.availableValues →
        ¬ (self.setpoints value).Hides value.notAvailable := by
  rw [decodeDeviceValues_rawValues]
  constructor
  · intro hagree value havailable hhides
    have hsame := hagree (DeviceValue.setpoints value).key
    rw [self.get?_availableItems self.decodedRaw havailable, decodedValues,
      self.get?_availableItems self.decoded.rawValue havailable] at hsame
    exact self.not_sameEntry_setpoints hhides hsame
  · intro h key
    have hitems : self.availableItems self.decodedRaw =
        self.availableItems self.decoded.rawValue := by
      apply List.map_congr_left
      intro value hvalue
      have havailable : value ∈ self.availableValues := by
        simpa using (List.mem_filter.mp hvalue).2
      cases value with
      | scalar value => rw [self.decodedRaw_scalar value]
      | setpoints value => rw [self.decodedRaw_setpoints (h value havailable)]
    rw [hitems]
    exact .refl _

end DeviceRuntime

/-- A heat-only device. -/
def sampleDevice : DiscoveredDevice := { address := 1011, attributes := { raw := 1 } }

/-- Its state before any message. -/
def heatState : Tekmar482State where
  discovery := { devices := [sampleDevice] }
  data := { devices := [⟨.create { info := sampleDevice }⟩] }

/-- The active slot, its current value, and then the slot as not available. -/
def sentinelReports : List TrpcPacket :=
  [{ serviceId := TrpcService.report.value, methodId := TrpcMethod.setbackState.value,
      body := .ofList [("address", 1011), ("setback", 2)] },
    { serviceId := TrpcService.report.value, methodId := TrpcMethod.heatSetpoint.value,
      body := .ofList [("address", 1011), ("setback", 7), ("setpoint", 42)] },
    { serviceId := TrpcService.report.value, methodId := TrpcMethod.heatSetpoint.value,
      body := .ofList [("address", 1011), ("setback", 2), ("setpoint", 255)] }]

/-- The device after these reports. -/
def sentinelRuntime : DeviceRuntime :=
  (((DeviceRuntime.create { info := sampleDevice }).withScalar .setbackState (some 2)).withSetpoint
    .heatSetpoints .current (some 42)).withSetpoint .heatSetpoints .occ4 (some 255)

/-- The first path shows no current value, the second one the stale one. -/
theorem not_agreeByKey_sentinel :
    (heatState.applyMessages sentinelReports).runtime 1011 = some sentinelRuntime ∧
      ¬ AgreeByKey (decodeDeviceValues sentinelRuntime.rawValues)
        sentinelRuntime.decodedValues := by
  constructor
  · decide
  · intro hagree
    have havailable : DeviceValue.setpoints .heatSetpoints ∈ sentinelRuntime.availableValues := by
      decide
    have hhides : (sentinelRuntime.setpoints .heatSetpoints).Hides 255 :=
      ⟨.occ4, rfl, by decide, rfl, rfl, 42, rfl, by decide⟩
    have hsame := hagree (DeviceValue.setpoints .heatSetpoints).key
    rw [DeviceRuntime.decodeDeviceValues_rawValues,
      DeviceRuntime.get?_availableItems _ _ havailable, DeviceRuntime.decodedValues,
      DeviceRuntime.get?_availableItems _ _ havailable] at hsame
    exact sentinelRuntime.not_sameEntry_setpoints hhides hsame

end Tekmar482
