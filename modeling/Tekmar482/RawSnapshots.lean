import Tekmar482.RawSetpoints
import Tekmar482.FittingSnapshots
import Tekmar482.SetpointHistory
import Tekmar482.StateRegisters

/-!
# Raw snapshots

A device runtime is exported as a dictionary of raw values, and a runtime can be read from
such a dictionary. The dictionary has no active slot of its own for a setpoint map: reading
takes the slot that the setback state names for every map.
-/

namespace Tekmar482

open LastValue

/-! ## Reading raw values -/

/-- A device value from a legacy raw key. -/
def DeviceValue.fromKey (key : String) : Option DeviceValue :=
  members.find? fun value => value.key == key

/-- Setpoint values from a legacy scalar current value. -/
def SetpointValues.fromCurrent (value : RawSnapshotValue)
    (activeSetback : Option ThaSetback := none) : SetpointValues :=
  fromMapping (Function.update (fun _ => none) .current (some (rawInt value))) activeSetback

/-- The raw value under a key, `None` if there is none. -/
def rawGet (values : OrderedDict String RawSnapshotValue) (key : String) : RawSnapshotValue :=
  (values.get? key).getD (.int none)

/-- Typed runtime values from a legacy raw value mapping. -/
def DeviceRuntime.fromRawValues (info : DiscoveredDevice)
    (values : OrderedDict String RawSnapshotValue) : DeviceRuntime :=
  let known := (values.keys.filterMap DeviceValue.fromKey).toFinset
  let availableValues :=
    if "setpoint_target" ∈ values.keys then insert (.setpoints .setpointTargets) known else known
  let raw (value : DeviceValue) := rawGet values value.key
  let setbackState := rawInt (raw (.scalar .setbackState))
  let activeSetback := setbackFromValue setbackState
  let setpointTargets :=
    if .setpoints .setpointTargets ∈ availableValues then
      SetpointValues.fromRaw (raw (.setpoints .setpointTargets)) activeSetback
    else {}
  -- A mapping with the key of the maps as well has the current value from there.
  let setpointTargets :=
    if "setpoint_target" ∈ values.keys ∧ .setpoints .setpointTargets ∉ known then
      SetpointValues.fromCurrent (rawGet values "setpoint_target") activeSetback
    else setpointTargets
  .create
    { info := info
      availableValues := availableValues
      currentTemperature := rawInt (raw (.scalar .currentTemperature))
      currentFloorTemperature := rawInt (raw (.scalar .currentFloorTemperature))
      activeDemand := rawInt (raw (.scalar .activeDemand))
      setbackState := setbackState
      modeSetting := rawInt (raw (.scalar .modeSetting))
      relativeHumidity := rawInt (raw (.scalar .relativeHumidity))
      humiditySetpointMin := rawInt (raw (.scalar .humiditySetpointMin))
      humiditySetpointMax := rawInt (raw (.scalar .humiditySetpointMax))
      setpointTargets := setpointTargets
      heatSetpoints := .fromRaw (raw (.setpoints .heatSetpoints)) activeSetback
      coolSetpoints := .fromRaw (raw (.setpoints .coolSetpoints)) activeSetback
      slabSetpoints := .fromRaw (raw (.setpoints .slabSetpoints)) activeSetback
      fanPercent := .fromRaw (raw (.setpoints .fanPercent)) activeSetback }

namespace DeviceSnapshot

def fromRawValues (info : DiscoveredDevice) (values : OrderedDict String RawSnapshotValue) :
    DeviceSnapshot :=
  ⟨.fromRawValues info values⟩

/-- JSON-friendly raw values keyed by legacy names. -/
def values (self : DeviceSnapshot) : OrderedDict String RawSnapshotValue := self.runtime.rawValues

end DeviceSnapshot

/-! ## Reading a map with another active slot -/

namespace SetpointValues

variable (self : SetpointValues) (active : Option ThaSetback)

theorem activeSetback_withValue (setback : ThaSetback) (value : Option Int) :
    (self.withValue setback value).activeSetback = self.activeSetback := by
  rw [withValue]
  split <;> rfl

/-- A value in the slot is the one that the map shows as current. -/
def Confirms : Prop :=
  ∀ slot value, observedSetback active = some slot → self.lookup slot = some value →
    self.current = some value

theorem observedSetback_eq_some_iff {slot : ThaSetback} :
    observedSetback active = some slot ↔ active = some slot ∧ slot ≠ .current := by
  cases active with
  | none => simp [observedSetback]
  | some found =>
      by_cases hcurrent : found = .current
      · subst hcurrent
        simp only [observedSetback, if_true, reduceCtorEq, Option.some.injEq, false_iff, not_and,
          not_not]
        exact Eq.symm
      · simp only [observedSetback, if_neg hcurrent, Option.some.injEq]
        exact ⟨fun h => ⟨h, h ▸ hcurrent⟩, And.left⟩

/-- A map shows the value of its own active slot as current. -/
theorem confirms_activeSetback : self.Confirms self.activeSetback := by
  intro slot value hobserved hvalue
  obtain ⟨hactive, hslot⟩ := (observedSetback_eq_some_iff _).mp hobserved
  exact self.current_eq_lookup hactive hslot hvalue

variable {self} in
/-- A map without slots shows nothing. -/
theorem get_eq_none (h : self.values = fun _ => none) (setback : ThaSetback) :
    self.get setback = none := by
  have hlookup (slot : ThaSetback) : self.lookup slot = none := by rw [lookup, h, Option.join_none]
  rw [get, hlookup]
  split
  · rw [current, hlookup]
    cases self.activeSetback with
    | none => rfl
    | some active => simp only [hlookup, ite_self]
  · rfl

theorem lookup_reread {slot : ThaSetback} (hslot : slot ≠ .current) :
    (fromRaw (.map self.asDict) active).lookup slot = self.lookup slot :=
  self.lookup_fromRaw_asDict hslot

theorem lookup_current_reread :
    (fromRaw (.map self.asDict) active).lookup .current = self.current := by
  refine self.lookup_current_fromRaw_asDict.trans ?_
  split
  · rfl
  · rename_i hshows
    exact (self.current_eq_none (Bool.eq_false_iff.mpr hshows)).symm

theorem observed_reread :
    (fromRaw (.map self.asDict) active).currentObservedSetback =
      if showsCurrent self.values self.activeSetback then observedSetback active else none := by
  have hvalue := self.values_fromRaw_asDict .current
  rw [if_pos rfl] at hvalue
  change (if none = none ∧ ((fromRaw (.map self.asDict) self.activeSetback).values .current).isSome
    then _ else _) = _
  rw [hvalue]
  cases showsCurrent self.values self.activeSetback <;> simp

/-- Read with a slot, an exported map shows the value of this slot before its own current one. -/
theorem current_reread :
    (fromRaw (.map self.asDict) active).current =
      ((observedSetback active).bind self.lookup).or self.current := by
  have hkeep : (fromRaw (.map self.asDict) active).activeSetback = active := rfl
  have hlookup := self.lookup_current_reread active
  rw [current, hkeep]
  cases active with
  | none => exact hlookup
  | some slot =>
      by_cases hcurrent : slot = .current
      · subst hcurrent
        exact hlookup
      · have hobserved : observedSetback (some slot) = some slot := if_neg hcurrent
        simp only [if_neg hcurrent, self.lookup_reread _ hcurrent, hlookup, observed_reread,
          hobserved, Option.bind_some]
        cases hshows : showsCurrent self.values self.activeSetback with
        | true =>
            rw [if_pos rfl, if_pos rfl]
            cases self.lookup slot <;> rfl
        | false =>
            rw [self.current_eq_none hshows]
            simp

/-- Reading an exported map with a slot shows the same values exactly if the map confirms it. -/
theorem get_reread_iff :
    (∀ setback, (fromRaw (.map self.asDict) active).get setback = self.get setback) ↔
      self.Confirms active := by
  have hcurrent : (fromRaw (.map self.asDict) active).current = self.current ↔
      self.Confirms active := by
    rw [current_reread]
    constructor
    · intro h slot value hslot hvalue
      rw [hslot, Option.bind_some, hvalue, Option.some_or] at h
      exact h.symm
    · intro h
      cases hslot : observedSetback active with
      | none => rfl
      | some slot =>
          rw [Option.bind_some]
          cases hvalue : self.lookup slot with
          | none => rfl
          | some value => exact (h slot value hslot hvalue).symm
  rw [← hcurrent]
  constructor
  · intro h
    simpa only [get, if_pos] using h .current
  · intro h setback
    rw [get, get]
    split
    · exact h
    · rename_i hslot
      exact self.lookup_reread _ hslot

end SetpointValues

/-! ## Reading an exported runtime -/

theorem DeviceValue.fromKey_key (value : DeviceValue) : fromKey value.key = some value := by
  rcases value with value | value <;> cases value <;> rfl

namespace DeviceRuntime

variable (self : DeviceRuntime)

theorem keys_rawValues :
    self.rawValues.keys =
      (DeviceValue.members.filter fun value => value ∈ self.availableValues).map
        DeviceValue.key := by
  rw [rawValues, OrderedDict.keys,
    OrderedDict.entries_ofList (self.keys_availableItems_nodup self.rawValue), availableItems,
    List.map_map]
  rfl

/-- The keys of an exported runtime name its available values. -/
theorem known_rawValues :
    (self.rawValues.keys.filterMap DeviceValue.fromKey).toFinset = self.availableValues := by
  have hnamed : (DeviceValue.fromKey ∘ DeviceValue.key) = some := funext DeviceValue.fromKey_key
  ext value
  rw [keys_rawValues, List.filterMap_map, hnamed, List.filterMap_some, List.mem_toFinset,
    List.mem_filter]
  simp [value.mem_members]

/-- No value is exported under the key of a scalar setpoint target. -/
theorem not_mem_setpointTarget : "setpoint_target" ∉ self.rawValues.keys := by
  rw [keys_rawValues]
  intro hmem
  obtain ⟨value, -, hkey⟩ := List.mem_map.mp hmem
  rcases value with value | value <;> cases value <;> exact absurd hkey (by decide)

theorem rawGet_rawValues (value : DeviceValue) :
    rawGet self.rawValues value.key =
      if value ∈ self.availableValues then self.rawValue value else .int none := by
  split
  · rename_i havailable
    rw [rawGet, rawValues, self.get?_availableItems self.rawValue havailable, Option.getD_some]
  · rename_i hmissing
    have hkey : value.key ∉ self.rawValues.keys := by
      intro hkey
      apply hmissing
      rw [← self.known_rawValues, List.mem_toFinset]
      exact List.mem_filterMap.mpr ⟨value.key, hkey, value.fromKey_key⟩
    rw [rawGet, (OrderedDict.get?_eq_none_iff _ _).mpr hkey, Option.getD_none]

/-- The slot that reading an exported runtime takes as active. -/
def rereadSetback : Option ThaSetback :=
  setbackFromValue (if .scalar .setbackState ∈ self.availableValues then self.setbackState else none)

/-- The runtime that reading the exported values gives. -/
def reread : DeviceRuntime := fromRawValues self.info self.rawValues

@[simp] theorem info_reread : self.reread.info = self.info := rfl

@[simp] theorem cls_reread : self.reread.cls = runtimeClass self.info := rfl

@[simp] theorem availableValues_reread : self.reread.availableValues = self.availableValues := by
  change (if "setpoint_target" ∈ self.rawValues.keys then _ else _) = _
  rw [if_neg self.not_mem_setpointTarget, known_rawValues]

theorem scalar_reread (value : ScalarValue) :
    self.reread.scalar value =
      if .scalar value ∈ self.availableValues then self.scalar value else none := by
  have hread : self.reread.scalar value = 
      rawInt (rawGet self.rawValues (DeviceValue.scalar value).key) := by
    cases value <;> rfl
  rw [hread, rawGet_rawValues]
  split <;> rfl

theorem setback_reread :
    setbackFromValue (rawInt (rawGet self.rawValues (DeviceValue.scalar .setbackState).key)) =
      self.rereadSetback := by
  rw [rawGet_rawValues, rereadSetback]
  split <;> rfl

/-- An available map is read from what was exported for it, and shows nothing otherwise. -/
theorem get_setpoints_reread (map : SetpointMap) (setback : ThaSetback) :
    (self.reread.setpoints map).get setback =
      if .setpoints map ∈ self.availableValues then
        (SetpointValues.fromRaw (.map (self.setpoints map).asDict) self.rereadSetback).get setback
      else none := by
  have hread : (self.reread.setpoints map).get setback =
      (SetpointValues.fromRaw (rawGet self.rawValues (DeviceValue.setpoints map).key)
        self.rereadSetback).get setback := by
    rw [← setback_reread]
    cases map
    case setpointTargets =>
      have havailable := self.availableValues_reread
      change (ite _ _ (ite (_ ∈ self.reread.availableValues) _ _) : SetpointValues).get setback = _
      rw [if_neg fun h => self.not_mem_setpointTarget h.1, havailable]
      split
      · rfl
      · rename_i hmissing
        rw [rawGet_rawValues, if_neg hmissing, SetpointValues.get_eq_none rfl]
        exact (SetpointValues.get_eq_none rfl _).symm
    all_goals rfl
  rw [hread, rawGet_rawValues]
  split
  · rfl
  · exact SetpointValues.get_eq_none rfl _

/-- Two runtimes that show the same device, the same available values and the same value for
each scalar and in each slot of each map. -/
structure ShowsAlike (runtime other : DeviceRuntime) : Prop where
  cls : runtime.cls = other.cls
  info : runtime.info = other.info
  availableValues : runtime.availableValues = other.availableValues
  scalar : ∀ value, runtime.scalar value = other.scalar value
  get : ∀ map setback, (runtime.setpoints map).get setback = (other.setpoints map).get setback

/-- Nothing is shown for a value. -/
def ShowsNothing (self : DeviceRuntime) : DeviceValue → Prop
  | .scalar value => self.scalar value = none
  | .setpoints map => ∀ setback, (self.setpoints map).get setback = none

/-- The slot that the setback state names. -/
def activeSetback (self : DeviceRuntime) : Option ThaSetback := setbackFromValue self.setbackState

variable {self}

theorem Blank.showsNothing {value : DeviceValue} (h : self.Blank value) :
    self.ShowsNothing value := by
  cases value with
  | scalar value => exact h
  | setpoints map => exact SetpointValues.get_eq_none h

theorem rereadSetback_eq (h : ∀ value ∉ self.availableValues, self.ShowsNothing value) :
    self.rereadSetback = self.activeSetback := by
  rw [rereadSetback, activeSetback]
  split
  · rfl
  · rename_i hmissing
    have hnone : self.setbackState = none := h (.scalar .setbackState) hmissing
    rw [hnone]

theorem ShowsAlike.showsNothing (h : self.reread.ShowsAlike self) {value : DeviceValue}
    (hmissing : value ∉ self.availableValues) : self.ShowsNothing value := by
  cases value with
  | scalar value =>
      exact (h.scalar value).symm.trans ((self.scalar_reread value).trans (if_neg hmissing))
  | setpoints map =>
      intro setback
      refine (h.get map setback).symm.trans ?_
      exact (self.get_setpoints_reread map setback).trans (if_neg hmissing)

theorem showsAlike_reread (hcls : self.cls = runtimeClass self.info)
    (hnothing : ∀ value ∉ self.availableValues, self.ShowsNothing value)
    (hconfirms : ∀ map, .setpoints map ∈ self.availableValues →
      (self.setpoints map).Confirms self.activeSetback) : self.reread.ShowsAlike self := by
  refine ⟨hcls.symm, rfl, self.availableValues_reread, fun value => ?_, fun map setback => ?_⟩
  · refine (self.scalar_reread value).trans ?_
    split
    · rfl
    · rename_i hmissing
      exact (hnothing (.scalar value) hmissing).symm
  · refine (self.get_setpoints_reread map setback).trans ?_
    split
    · rename_i havailable
      rw [rereadSetback_eq hnothing]
      exact (SetpointValues.get_reread_iff _ _).mpr (hconfirms map havailable) setback
    · rename_i hmissing
      exact (hnothing (.setpoints map) hmissing setback).symm

/-- Reading an exported runtime shows the same values exactly if it has the class of its device,
shows nothing for the values that are not available, and shows in each available map the value of
the active slot, if it has one, as current. -/
theorem fromRawValues_rawValues_iff (runtime : DeviceRuntime) :
    (fromRawValues runtime.info runtime.rawValues).ShowsAlike runtime ↔
      runtime.cls = runtimeClass runtime.info ∧
      (∀ value ∉ runtime.availableValues, runtime.ShowsNothing value) ∧
      ∀ map, .setpoints map ∈ runtime.availableValues →
        (runtime.setpoints map).Confirms runtime.activeSetback := by
  constructor
  · intro h
    have hnothing : ∀ value ∉ runtime.availableValues, runtime.ShowsNothing value :=
      fun value hmissing => ShowsAlike.showsNothing h hmissing
    refine ⟨h.cls.symm, hnothing, fun map havailable => ?_⟩
    rw [← rereadSetback_eq hnothing, ← SetpointValues.get_reread_iff]
    intro setback
    rw [← h.get map setback]
    exact ((runtime.get_setpoints_reread map setback).trans (if_pos havailable)).symm
  · rintro ⟨hcls, hnothing, hconfirms⟩
    exact showsAlike_reread hcls hnothing hconfirms

/-! ## Messages between two polls -/

/-- A message leaves a runtime, or writes one scalar value or one slot of a map. -/
theorem updatedRuntime_cases (runtime : DeviceRuntime) (message : TrpcPacket) :
    updatedRuntime runtime message = runtime ∨
    (∃ value raw, updatedRuntime runtime message = runtime.withScalar value raw) ∨
    ∃ map setback raw, updatedRuntime runtime message = runtime.withSetpoint map setback raw := by
  simp only [updatedRuntime]
  split
  · exact .inl rfl
  · split
    · simp only [applyRuntimeMessage, applySetpointReport]
      split
      · exact .inr (.inl ⟨_, _, rfl⟩)
      · split
        · split
          · exact .inl rfl
          · exact .inr (.inr ⟨_, _, _, rfl⟩)
        · exact .inl rfl
    · exact .inl rfl

/-- The runtime has the class of its device and stores nothing for the values that it does not
have. -/
structure Tidy (runtime : DeviceRuntime) : Prop where
  cls : runtime.cls = runtimeClass runtime.info
  blank : ∀ value ∉ runtime.availableValues, runtime.Blank value

/-- Every map has the slot as active that the setback state names. -/
def Synced (runtime : DeviceRuntime) : Prop :=
  ∀ map, (runtime.setpoints map).activeSetback = runtime.activeSetback

theorem Tidy.updated {runtime : DeviceRuntime} (h : runtime.Tidy) (message : TrpcPacket) :
    (updatedRuntime runtime message).Tidy := by
  obtain hsame | ⟨written, raw, hwritten⟩ | ⟨written, setback, raw, hwritten⟩ :=
    updatedRuntime_cases runtime message
  · rwa [hsame]
  · rw [hwritten]
    constructor
    · rw [cls_withScalar, info_withScalar]
      exact h.cls
    · intro value hvalue
      rw [availableValues_withScalar, Finset.mem_insert, not_or] at hvalue
      exact (h.blank value hvalue.2).withScalar hvalue.1 raw
  · rw [hwritten]
    constructor
    · rw [cls_withSetpoint, info_withSetpoint]
      exact h.cls
    · intro value hvalue
      rw [availableValues_withSetpoint, Finset.mem_insert, not_or] at hvalue
      exact (h.blank value hvalue.2).withSetpoint hvalue.1 setback raw

/-- A setback state makes its slot the active one of every map. -/
theorem synced_withScalar (runtime : DeviceRuntime) (raw : Option Int) :
    (runtime.withScalar .setbackState raw).Synced := by
  intro map
  rw [setpoints_withScalar, if_pos rfl]
  rfl

theorem Synced.updated {runtime : DeviceRuntime} (h : runtime.Synced) (message : TrpcPacket) :
    (updatedRuntime runtime message).Synced := by
  obtain hsame | ⟨written, raw, hwritten⟩ | ⟨written, setback, raw, hwritten⟩ :=
    updatedRuntime_cases runtime message
  · rwa [hsame]
  · rw [hwritten]
    by_cases hstate : written = .setbackState
    · subst hstate
      exact runtime.synced_withScalar raw
    · intro map
      rw [setpoints_withScalar, if_neg hstate, h map]
      have hkeep := runtime.scalar_withScalar written .setbackState raw
      rw [if_neg fun heq => hstate heq.symm] at hkeep
      exact congrArg setbackFromValue hkeep.symm
  · rw [hwritten]
    intro map
    have hactive : ((runtime.withSetpoint written setback raw).setpoints map).activeSetback =
        (runtime.setpoints map).activeSetback := by
      rw [setpoints_withSetpoint]
      split
      · rename_i heq
        rw [heq, SetpointValues.activeSetback_withValue]
      · rfl
    rw [hactive, h map]
    exact congrArg setbackFromValue
      (runtime.scalar_withSetpoint written setback raw .setbackState).symm

theorem showsAlike_of_synced {runtime : DeviceRuntime} (htidy : runtime.Tidy)
    (hsynced : runtime.Synced) :
    (fromRawValues runtime.info runtime.rawValues).ShowsAlike runtime := by
  refine showsAlike_reread htidy.cls (fun value hmissing => (htidy.blank value hmissing).showsNothing)
    fun map _ => ?_
  rw [← hsynced map]
  exact (runtime.setpoints map).confirms_activeSetback

/-- A report of the setback state, among other messages, leaves the maps in step with it. -/
theorem synced_foldl {runtime : DeviceRuntime} {message : TrpcPacket}
    (hreport : RuntimeReport .setbackState message)
    (haddress : message.get "address" = some runtime.info.address)
    (before after : List TrpcPacket) :
    ((before ++ message :: after).foldl updatedRuntime runtime).Synced := by
  rw [List.foldl_append, List.foldl_cons]
  have hinfo : (before.foldl updatedRuntime runtime).info = runtime.info :=
    Tekmar482State.info_foldl_updatedRuntime before runtime
  have hwritten : (updatedRuntime (before.foldl updatedRuntime runtime) message).Synced := by
    rw [updatedRuntime_report hreport (by decide) (by rw [hinfo]; exact haddress)]
    exact synced_withScalar _ _
  exact inv_foldl Synced (fun _ => True) (fun _ message h _ => h.updated message) after
    (fun _ _ => trivial) _ hwritten

end DeviceRuntime

namespace Client

open DeviceRuntime

/-- Whatever a poll was answered, and whatever messages follow, once a device has reported its
setback state its runtime is exported without loss: reading the raw values shows the same. -/
theorem reread_after_setback_report {discovery : DiscoveryResult}
    (hdistinct : (discovery.devices.map DiscoveredDevice.address).Nodup)
    {includeSetbacks includeDatetime includeSetpointGroups : Bool}
    {trace : List ((call : SessionCall) × Except PyException (SessionReply call))}
    {data : AvailableInfo}
    (hpoll : Routine.Runs
      (pollRuntime discovery includeSetbacks includeDatetime includeSetpointGroups) trace (.ok data))
    {device : DiscoveredDevice} (hdevice : device ∈ discovery.devices)
    (before after : List TrpcPacket) {message : TrpcPacket}
    (hreport : RuntimeReport .setbackState message)
    (haddress : message.get "address" = some device.address) :
    ∃ runtime, ((⟨discovery, data⟩ : Tekmar482State).applyMessages
        (before ++ message :: after)).runtime device.address = some runtime ∧
      (fromRawValues runtime.info runtime.rawValues).ShowsAlike runtime := by
  let contract : Routine.Contract SessionCall SessionReply PyException Unit :=
    { requires := fun _ _ => True, answers := fun _ _ _ _ => True }
  have hdelivers := @delivers_pollRuntime_fits _ contract (fun _ _ => trivial) discovery
    includeSetbacks includeDatetime includeSetpointGroups ()
  obtain ⟨hinfos, hfits⟩ :=
    hdelivers.runs hpoll (fun _ _ => ()) (fun _ _ _ => trivial) data rfl
  have haligned : (⟨discovery, data⟩ : Tekmar482State).Aligned := by
    refine ⟨?_, hdistinct⟩
    rw [← hinfos, List.map_map]
    rfl
  obtain ⟨polled, hfound, hat, hruntime⟩ :=
    haligned.runtime_applyMessages (before ++ message :: after) (List.mem_map_of_mem hdevice)
  refine ⟨_, hruntime, ?_⟩
  obtain ⟨hmem, -⟩ := (haligned.runtime_eq_some_iff _ _).mp hfound
  have htidy : polled.Tidy := ⟨(hfits _ hmem).cls, (hfits _ hmem).blank⟩
  refine showsAlike_of_synced ?_ (synced_foldl hreport (hat ▸ haddress) before after)
  exact inv_foldl Tidy (fun _ => True) (fun _ message h _ => h.updated message) _
    (fun _ _ => trivial) _ htidy

/-- A gateway that answers no request. -/
def unanswered (_ : Unit) : (call : SessionCall) → Except PyException (SessionReply call) × Unit
  | .open | .close => (.ok (), ())
  | .isOpen | .deadlineExpired => (.ok false, ())
  | .send command => (command.toMessage, ())
  | .requestResponse _ _ | .updateResponse _ _ | .readUntil _ => (.ok none, ())

def sampleReport (method : TrpcMethod) (fields : List (String × Int)) : TrpcPacket where
  serviceId := TrpcService.report.value
  methodId := method.value
  body := .ofList (("address", 1011) :: fields)

/-- Heat setpoints for a slot and for the current one, around a report of the setback state. -/
theorem reread_after_setback_report_sample : ∃ trace data runtime,
    Routine.Runs (pollRuntime { devices := [sampleDevice] } true true true) trace (.ok data) ∧
    ((⟨{ devices := [sampleDevice] }, data⟩ : Tekmar482State).applyMessages
      ([sampleReport .heatSetpoint [("setback", 0), ("setpoint", 40)]] ++
        sampleReport .setbackState [("setback", 0)] ::
          [sampleReport .heatSetpoint [("setback", 7), ("setpoint", 42)]])).runtime 1011 =
      some runtime ∧
    (fromRawValues runtime.info runtime.rawValues).ShowsAlike runtime := by
  have hpolled : (((pollRuntime { devices := [sampleDevice] } true true true).outcome
      unanswered ()).bind Except.toOption).any (fun data => data.devices.length == 1) = true := by
    decide +kernel
  have hreport : RuntimeReport .setbackState (sampleReport .setbackState [("setback", 0)]) :=
    ⟨by decide, rfl⟩
  obtain ⟨trace, data, hruns, -⟩ := Routine.runs_of_returned hpolled
  obtain ⟨runtime, hruntime, halike⟩ := reread_after_setback_report (by decide) hruns
    (List.mem_singleton_self sampleDevice)
    [sampleReport .heatSetpoint [("setback", 0), ("setpoint", 40)]]
    [sampleReport .heatSetpoint [("setback", 7), ("setpoint", 42)]] hreport (by decide)
  exact ⟨trace, data, runtime, hruns, hruntime, halike⟩

end Client

end Tekmar482
