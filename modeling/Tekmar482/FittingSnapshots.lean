import Tekmar482.PolledValues
import Tekmar482.DeviceHandle

/-!
# Snapshots that fit their devices

A poll makes available what discovery says that a device offers. A message makes its own
value available, and nothing is shown for a value that is not available.
-/

namespace Tekmar482

/-- The method whose messages carry a value. -/
def DeviceValue.method : DeviceValue → TrpcMethod
  | .scalar value => value.method
  | .setpoints value => value.method

/-- Whether a value is part of the gateway's protocol version. -/
def DeviceValue.inProtocol (protocolVersion : Option Int) : DeviceValue → Bool
  | .scalar .currentFloorTemperature => protocolVersion == some 3
  | .scalar .relativeHumidity | .scalar .humiditySetpointMin | .scalar .humiditySetpointMax =>
      protocolVersion == some 2 || protocolVersion == some 3
  | _ => true

/-- Whether discovery says that a device has a value. -/
def DiscoveredDevice.offers (self : DiscoveredDevice) (protocolVersion : Option Int)
    (value : DeviceValue) : Bool :=
  deviceSupportsMethod self value.method && value.inProtocol protocolVersion

/-- A message that stores a value of a device. -/
def DeviceValue.ReportedBy (value : DeviceValue) (address : Int) (message : TrpcPacket) : Prop :=
  RuntimeReport value.method message ∧ message.get "address" = some address ∧
    match value with
    | .scalar _ => True
    | .setpoints _ => (setbackFromValue (message.get "setback")).isSome = true

/-- Nothing is stored for a value. -/
def DeviceRuntime.Blank (self : DeviceRuntime) : DeviceValue → Prop
  | .scalar value => self.scalar value = none
  | .setpoints value => (self.setpoints value).values = fun _ => none

/-- The snapshot has the class of its device, every value that the device offers, other
values only as they were reported, and nothing stored for the rest. -/
structure DeviceSnapshot.Fits (protocolVersion : Option Int) (reported : DeviceValue → Prop)
    (snapshot : DeviceSnapshot) : Prop where
  cls : snapshot.runtime.cls = runtimeClass snapshot.info
  offered : ∀ value, snapshot.info.offers protocolVersion value = true →
    value ∈ snapshot.runtime.availableValues
  available : ∀ value ∈ snapshot.runtime.availableValues,
    snapshot.info.offers protocolVersion value = true ∨ reported value
  blank : ∀ value ∉ snapshot.runtime.availableValues, snapshot.runtime.Blank value

theorem DeviceSnapshot.Fits.mono {protocolVersion : Option Int}
    {reported reported' : DeviceValue → Prop} {snapshot : DeviceSnapshot}
    (h : snapshot.Fits protocolVersion reported)
    (hreported : ∀ value, reported value → reported' value) :
    snapshot.Fits protocolVersion reported' :=
  { h with available := fun value hvalue => (h.available value hvalue).imp_right (hreported value) }

/-! ## Messages -/

namespace DeviceRuntime

@[simp] theorem cls_withScalar (self : DeviceRuntime) (value : ScalarValue) (raw : Option Int) :
    (self.withScalar value raw).cls = self.cls := by
  cases value <;> rfl

@[simp] theorem cls_withSetpoint (self : DeviceRuntime) (value : SetpointMap)
    (setback : ThaSetback) (raw : Option Int) :
    (self.withSetpoint value setback raw).cls = self.cls := by
  cases value <;> rfl

theorem Blank.withScalar {self : DeviceRuntime} {value : DeviceValue} (h : self.Blank value)
    {written : ScalarValue} (hne : value ≠ .scalar written) (raw : Option Int) :
    (self.withScalar written raw).Blank value := by
  cases value with
  | scalar value =>
      have hother : value ≠ written := fun heq => hne (heq ▸ rfl)
      exact (self.scalar_withScalar written value raw).trans ((if_neg hother).trans h)
  | setpoints value =>
      change ((self.withScalar written raw).setpoints value).values = _
      rw [setpoints_withScalar]
      split
      · exact h
      · exact h

theorem Blank.withSetpoint {self : DeviceRuntime} {value : DeviceValue} (h : self.Blank value)
    {written : SetpointMap} (hne : value ≠ .setpoints written) (setback : ThaSetback)
    (raw : Option Int) : (self.withSetpoint written setback raw).Blank value := by
  cases value with
  | scalar value => exact (self.scalar_withSetpoint written setback raw value).trans h
  | setpoints value =>
      have hother : value ≠ written := fun heq => hne (heq ▸ rfl)
      change ((self.withSetpoint written setback raw).setpoints value).values = _
      rw [setpoints_withSetpoint, if_neg hother]
      exact h

end DeviceRuntime

theorem setpointMethods_eq_some_iff (method : TrpcMethod) (value : SetpointMap) (field : String) :
    setpointMethods method = some (value, field) ↔ method = value.method ∧ field = value.field := by
  constructor
  · intro h
    cases method <;> cases h <;> exact ⟨rfl, rfl⟩
  · rintro ⟨rfl, rfl⟩
    exact value.setpointMethods_method

/-- A write of one value keeps a snapshot fitting, once the value counts as reported. -/
theorem DeviceSnapshot.Fits.write {protocolVersion : Option Int} {reported : DeviceValue → Prop}
    {snapshot : DeviceSnapshot} (h : snapshot.Fits protocolVersion reported)
    {updated : DeviceRuntime} {written : DeviceValue} (hinfo : updated.info = snapshot.info)
    (hcls : updated.cls = snapshot.runtime.cls)
    (havailable : updated.availableValues = insert written snapshot.runtime.availableValues)
    (hblank : ∀ value, snapshot.runtime.Blank value → value ≠ written → updated.Blank value)
    {reported' : DeviceValue → Prop} (hmono : ∀ value, reported value → reported' value)
    (hwritten : reported' written) :
    (DeviceSnapshot.mk updated).Fits protocolVersion reported' := by
  have hsame : (DeviceSnapshot.mk updated).info = snapshot.info := hinfo
  constructor
  · rw [hsame]
    exact hcls.trans h.cls
  · intro value hoffers
    rw [hsame] at hoffers
    rw [havailable]
    exact Finset.mem_insert_of_mem (h.offered value hoffers)
  · intro value hvalue
    rw [hsame]
    rw [havailable, Finset.mem_insert] at hvalue
    rcases hvalue with rfl | hold
    · exact .inr hwritten
    · exact (h.available value hold).imp_right (hmono value)
  · intro value hvalue
    rw [havailable, Finset.mem_insert, not_or] at hvalue
    exact hblank value (h.blank value hvalue.2) hvalue.1

/-- A message that is applied to a device keeps its snapshot fitting. -/
theorem DeviceSnapshot.Fits.applyRuntimeMessage {protocolVersion : Option Int}
    {reported : DeviceValue → Prop} {snapshot : DeviceSnapshot}
    (h : snapshot.Fits protocolVersion reported) {method : TrpcMethod} {message : TrpcPacket}
    {updated : DeviceRuntime}
    (happlied : Tekmar482.applyRuntimeMessage snapshot.runtime method message = some updated)
    (hreport : RuntimeReport method message)
    (haddress : message.get "address" = some snapshot.info.address) :
    (DeviceSnapshot.mk updated).Fits protocolVersion fun value =>
      reported value ∨ value.ReportedBy snapshot.info.address message := by
  have hinfo : updated.info = snapshot.info := info_applyRuntimeMessage happlied
  simp only [Tekmar482.applyRuntimeMessage, applySetpointReport] at happlied
  split at happlied
  · rename_i written field hwritten
    obtain ⟨rfl, rfl⟩ := (scalarMethods_eq_some_iff _ _ _).mp hwritten
    cases happlied
    exact h.write hinfo (DeviceRuntime.cls_withScalar _ _ _)
      (DeviceRuntime.availableValues_withScalar _ _ _)
      (fun _ hblank hne => hblank.withScalar hne _) (fun _ => .inl)
      (.inr ⟨hreport, haddress, trivial⟩)
  · split at happlied
    · rename_i written field hwritten
      obtain ⟨rfl, rfl⟩ := (setpointMethods_eq_some_iff _ _ _).mp hwritten
      split at happlied
      · cases happlied
      · rename_i setback hsetback
        cases happlied
        exact h.write hinfo (DeviceRuntime.cls_withSetpoint _ _ _ _)
          (DeviceRuntime.availableValues_withSetpoint _ _ _ _)
          (fun _ hblank hne => hblank.withSetpoint hne _ _) (fun _ => .inl)
          (.inr ⟨hreport, haddress, Option.isSome_iff_exists.mpr ⟨_, hsetback⟩⟩)
    · cases happlied

/-- Every snapshot fits. -/
def AvailableInfo.Fits (reported : Int → DeviceValue → Prop) (self : AvailableInfo) : Prop :=
  ∀ snapshot ∈ self.devices,
    snapshot.Fits self.gateway.info.protocolVersion (reported snapshot.info.address)

theorem AvailableInfo.Fits.mono {reported reported' : Int → DeviceValue → Prop}
    {data : AvailableInfo} (h : data.Fits reported)
    (hreported : ∀ address value, reported address value → reported' address value) :
    data.Fits reported' :=
  fun snapshot hmem => (h snapshot hmem).mono (hreported _)

theorem info_applyGatewayMessage {data updated : AvailableInfo} {method : TrpcMethod}
    {message : TrpcPacket} (h : applyGatewayMessage data method message = some updated) :
    updated.gateway.info = data.gateway.info := by
  simp only [applyGatewayMessage] at h
  split at h
  all_goals try split at h
  all_goals cases h
  all_goals rfl

/-- A looked-up snapshot is one of the snapshots, under its own address. -/
theorem AvailableInfo.mem_of_get?_snapshots {data : AvailableInfo} {address : Int}
    {snapshot : DeviceSnapshot} (h : data.snapshots.get? address = some snapshot) :
    snapshot ∈ data.devices ∧ snapshot.info.address = address := by
  obtain ⟨found, hfound, heq⟩ := List.mem_map.mp (OrderedDict.mem_of_get?_ofList h)
  cases heq
  exact ⟨hfound, rfl⟩

theorem AvailableInfo.Fits.applyDeviceMessage {reported : Int → DeviceValue → Prop}
    {data updated : AvailableInfo} (h : data.Fits reported) {discovery : DiscoveryResult}
    {address : Int} {method : TrpcMethod} {message : TrpcPacket}
    (happlied : Tekmar482.applyDeviceMessage discovery data address method message = some updated)
    (hreport : RuntimeReport method message) (haddress : message.get "address" = some address) :
    updated.Fits fun address value => reported address value ∨ value.ReportedBy address message := by
  simp only [Tekmar482.applyDeviceMessage] at happlied
  split at happlied
  · cases happlied
  · rename_i snapshot hsnapshot
    obtain ⟨hmem, rfl⟩ := AvailableInfo.mem_of_get?_snapshots hsnapshot
    split at happlied
    · cases happlied
    · rename_i runtime hruntime
      cases happlied
      intro found hfound
      obtain ⟨device, -, hget⟩ := List.mem_filterMap.mp hfound
      rw [OrderedDict.get?_set] at hget
      split at hget
      · cases hget
        have hfits := (h snapshot hmem).applyRuntimeMessage hruntime hreport haddress
        have hinfo : (DeviceSnapshot.mk runtime).info = snapshot.info :=
          info_applyRuntimeMessage hruntime
        rw [hinfo]
        exact hfits
      · obtain ⟨hold, -⟩ := AvailableInfo.mem_of_get?_snapshots hget
        exact (h found hold).mono fun _ => .inl

/-- A message keeps every snapshot fitting. -/
theorem AvailableInfo.Fits.applyMessage {reported : Int → DeviceValue → Prop}
    {data updated : AvailableInfo} (h : data.Fits reported) {discovery : DiscoveryResult}
    {message : TrpcPacket} (happlied : Tekmar482.applyMessage discovery data message = some updated) :
    updated.Fits fun address value => reported address value ∨ value.ReportedBy address message := by
  simp only [Tekmar482.applyMessage] at happlied
  split at happlied
  · rename_i hruntime
    split at happlied
    · cases happlied
    · rename_i method hmethod
      split at happlied
      · intro snapshot hsnapshot
        rw [devices_applyGatewayMessage happlied] at hsnapshot
        rw [info_applyGatewayMessage happlied]
        exact (h snapshot hsnapshot).mono fun _ => .inl
      · split at happlied
        · split at happlied
          · cases happlied
          · rename_i address haddress
            split at happlied
            · have hreport := (isRuntimeMessage_iff message method hmethod).mp hruntime
              exact h.applyDeviceMessage happlied hreport haddress
            · cases happlied
        · cases happlied
  · cases happlied

/-! ## Polls -/

namespace Client

open Routine

variable {γ : Type} {contract : Contract SessionCall SessionReply PyException γ}

/-- What is not run leaves the value that stands without it. -/
theorem delivers_runWhen (hrequires : ∀ g op, contract.requires g op) {α : Type} (condition : Bool)
    (routine : ClientRoutine α) (value : α) (g : γ) :
    (runWhen condition routine value).Delivers contract
      (fun a _ => condition = false → a = value) g := by
  cases condition with
  | false => exact Delivers.pure fun _ => rfl
  | true =>
      apply Follows.of_forall routine hrequires
      intro _ _ _ _ hfalse
      cases hfalse

/-- The values that a poll makes available. -/
def polledValues (device : DiscoveredDevice) (protocolVersion : Option Int) : Finset DeviceValue :=
  let humidity :=
    device.supportsHumidity && (protocolVersion == some 2 || protocolVersion == some 3)
  {.scalar .currentTemperature, .scalar .activeDemand, .scalar .setbackState} ∪
    availableWhen (protocolVersion == some 3) {.scalar .currentFloorTemperature} ∪
    availableWhen device.supportsModeSetting {.scalar .modeSetting} ∪
    availableWhen device.supportsHeatSetpoint {.setpoints .heatSetpoints} ∪
    availableWhen device.supportsCoolSetpoint {.setpoints .coolSetpoints} ∪
    availableWhen device.supportsSlabSetpoint {.setpoints .slabSetpoints} ∪
    availableWhen device.supportsFanPercent {.setpoints .fanPercent} ∪
    availableWhen humidity {.scalar .relativeHumidity, .scalar .humiditySetpointMin,
      .scalar .humiditySetpointMax} ∪
    availableWhen device.supportsSetpointDevice {.setpoints .setpointTargets}

theorem mem_availableWhen (condition : Bool) (values : Finset DeviceValue) (value : DeviceValue) :
    value ∈ availableWhen condition values ↔ condition = true ∧ value ∈ values := by
  cases condition <;> simp [availableWhen]

/-- A poll makes available what discovery says that the device has. -/
theorem mem_polledValues (device : DiscoveredDevice) (protocolVersion : Option Int)
    (value : DeviceValue) :
    value ∈ polledValues device protocolVersion ↔ device.offers protocolVersion value = true := by
  rcases value with value | value <;> cases value <;>
    simp [polledValues, mem_availableWhen, DiscoveredDevice.offers, deviceSupportsMethod,
      DeviceValue.method, DeviceValue.inProtocol, ScalarValue.method, SetpointMap.method]

/-- The poll of one device leaves blank what the device does not offer. -/
theorem delivers_dumpDeviceSnapshot_fits (hrequires : ∀ g op, contract.requires g op)
    (device : DiscoveredDevice) (protocolVersion : Option Int) (includeSetbacks : Bool) (g : γ) :
    (dumpDeviceSnapshot device protocolVersion includeSetbacks).Delivers contract
      (fun snapshot _ => snapshot.info = device ∧
        snapshot.Fits protocolVersion fun _ => False) g := by
  have hany {α : Type} (routine : ClientRoutine α) : Obeys contract routine :=
    .of_forall routine hrequires
  have hwhen {α β : Type} {condition : Bool} {routine : ClientRoutine α} {value : α}
      {f : α → ClientRoutine β} {P : β → γ → Prop} {g : γ}
      (hf : ∀ a g', (condition = false → a = value) → (f a).Delivers contract P g') :
      (runWhen condition routine value >>= f).Delivers contract P g :=
    Delivers.bind (delivers_runWhen hrequires condition routine value g) hf
  unfold dumpDeviceSnapshot
  refine (hany _).delivers_bind fun currentTemperature g => ?_
  refine (hany _).delivers_bind fun activeDemand g => ?_
  refine (hany _).delivers_bind fun setbackState g => ?_
  refine hwhen fun currentFloorTemperature g hfloor => hwhen fun modeSetting g hmode => ?_
  refine hwhen fun heatSetpoints g hheat => hwhen fun coolSetpoints g hcool => ?_
  refine hwhen fun slabSetpoints g hslab => hwhen fun fanPercent g hfan => ?_
  refine hwhen fun relativeHumidity g hhumidity => hwhen fun humiditySetpointMin g hmin => ?_
  refine hwhen fun humiditySetpointMax g hmax => hwhen fun setpointTargets g htargets => ?_
  apply Delivers.pure
  refine ⟨rfl, rfl, ?_, ?_, ?_⟩
  · exact fun value hoffers => (mem_polledValues device protocolVersion value).mpr hoffers
  · exact fun value hvalue => .inl ((mem_polledValues device protocolVersion value).mp hvalue)
  · intro value hvalue
    have hoffers := mt (mem_polledValues device protocolVersion value).mpr hvalue
    rw [Bool.not_eq_true] at hoffers
    rcases value with value | value <;> cases value
    all_goals
      simp only [DiscoveredDevice.offers, DeviceValue.method, DeviceValue.inProtocol,
        ScalarValue.method, SetpointMap.method, deviceSupportsMethod, Bool.true_and,
        Bool.and_true, reduceCtorEq] at hoffers
    · exact hfloor hoffers
    · exact hmode hoffers
    · exact hhumidity hoffers
    · exact hmin hoffers
    · exact hmax hoffers
    · exact congrArg SetpointValues.values (htargets hoffers)
    · exact congrArg SetpointValues.values (hheat hoffers)
    · exact congrArg SetpointValues.values (hcool hoffers)
    · exact congrArg SetpointValues.values (hslab hoffers)
    · exact congrArg SetpointValues.values (hfan hoffers)

theorem delivers_pollDevices_fits (hrequires : ∀ g op, contract.requires g op)
    (protocolVersion : Option Int) (includeSetbacks : Bool) (devices : List DiscoveredDevice)
    (g : γ) :
    (pollDevices protocolVersion includeSetbacks devices).Delivers contract
      (fun snapshots _ => snapshots.map DeviceSnapshot.info = devices ∧
        ∀ snapshot ∈ snapshots, snapshot.Fits protocolVersion fun _ => False) g := by
  induction devices generalizing g with
  | nil => exact Delivers.pure ⟨rfl, fun _ h => absurd h List.not_mem_nil⟩
  | cons device rest ih =>
      apply Delivers.bind (delivers_dumpDeviceSnapshot_fits hrequires device _ _ g)
      rintro snapshot g' ⟨rfl, hfits⟩
      apply Delivers.bind (ih g')
      rintro snapshots g'' ⟨rfl, hrest⟩
      exact Delivers.pure ⟨rfl, List.forall_mem_cons.mpr ⟨hfits, hrest⟩⟩

theorem delivers_pollGateway_info (hrequires : ∀ g op, contract.requires g op) (info : GatewayInfo)
    (includeDatetime includeSetpointGroups : Bool) (g : γ) :
    (pollGateway info includeDatetime includeSetpointGroups).Delivers contract
      (fun gateway _ => gateway.info = info) g := by
  have hany {α : Type} (routine : ClientRoutine α) : Obeys contract routine :=
    .of_forall routine hrequires
  unfold pollGateway
  iterate 6
    refine (hany _).delivers_bind fun _ _ => ?_
  exact Delivers.pure rfl

/-- Whatever replies a poll gets, its snapshots are those of the devices, and fit them. -/
theorem delivers_pollRuntime_fits (hrequires : ∀ g op, contract.requires g op)
    (discovery : DiscoveryResult) (includeSetbacks includeDatetime includeSetpointGroups : Bool)
    (g : γ) :
    (pollRuntime discovery includeSetbacks includeDatetime includeSetpointGroups).Delivers contract
      (fun data _ => data.devices.map DeviceSnapshot.info = discovery.devices ∧
        data.Fits fun _ _ => False) g := by
  apply Delivers.bind (delivers_pollGateway_info hrequires discovery.gateway _ _ g)
  intro gateway g' hinfo
  apply Delivers.bind (delivers_pollDevices_fits hrequires _ _ discovery.devices g')
  rintro devices g'' ⟨hinfos, hdevices⟩
  refine Delivers.pure ⟨hinfos, fun snapshot hmem => ?_⟩
  change snapshot.Fits gateway.info.protocolVersion _
  rw [hinfo]
  exact hdevices snapshot hmem

end Client

end Tekmar482
