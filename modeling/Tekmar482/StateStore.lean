import Tekmar482.State
import Tekmar482.TrpcCodec
import Tekmar482.Library.LastValue

/-!
# The reducer as a last-writer-wins store

While the snapshot holds the discovered devices in discovery order, a message
acts on the gateway values and on every device separately, and a message about nothing
that was discovered changes nothing.
-/

namespace Tekmar482

open LastValue

/-! ## Reports of one method -/

/-- A message of a runtime service and a given method. -/
def RuntimeReport (method : TrpcMethod) (message : TrpcPacket) : Prop :=
  message.serviceId ∈ [TrpcService.report.value, TrpcService.responseRequest.value,
    TrpcService.responseUpdate.value] ∧ message.methodId = method.value

instance (method : TrpcMethod) (message : TrpcPacket) :
    Decidable (RuntimeReport method message) :=
  inferInstanceAs (Decidable (_ ∧ _))

/-- The value that a message of a gateway method writes. -/
def gatewayReport {β : Type*} (method : TrpcMethod) (value : TrpcPacket → β)
    (message : TrpcPacket) : Option β :=
  if RuntimeReport method message then some (value message) else none

/-- The value that a message of a device method writes at an address. -/
def deviceReport {β : Type*} (method : TrpcMethod) (address : Int) (value : TrpcPacket → β)
    (message : TrpcPacket) : Option β :=
  if RuntimeReport method message ∧ message.get "address" = some address then
    some (value message)
  else none

/-- The flag that a message writes for a setpoint group. -/
def groupReport (groupId : Int) (message : TrpcPacket) : Option (Option (Option Bool)) :=
  if RuntimeReport .setpointGroupEnable message ∧ message.get "group_id" = some groupId then
    some (some ((message.get "enable").map fun value => value != 0))
  else none

/-- The method whose messages carry a scalar value. -/
def ScalarValue.method : ScalarValue → TrpcMethod
  | .currentTemperature => .currentTemperature
  | .currentFloorTemperature => .currentFloorTemperature
  | .activeDemand => .activeDemand
  | .setbackState => .setbackState
  | .modeSetting => .modeSetting
  | .relativeHumidity => .relativeHumidity
  | .humiditySetpointMin => .humiditySetMin
  | .humiditySetpointMax => .humiditySetMax

/-- The message field that holds a scalar value. -/
def ScalarValue.field : ScalarValue → String
  | .currentTemperature => "temp"
  | .currentFloorTemperature => "temp"
  | .activeDemand => "demand"
  | .setbackState => "setback"
  | .modeSetting => "mode"
  | .relativeHumidity => "percent"
  | .humiditySetpointMin => "percent"
  | .humiditySetpointMax => "percent"

theorem ScalarValue.method_injective : Function.Injective ScalarValue.method := by
  intro v w h
  cases v <;> cases w <;> first | rfl | cases h

theorem method_eq_some_iff (message : TrpcPacket) (method : TrpcMethod) :
    message.method = some method ↔ message.methodId = method.value :=
  TrpcMethod.ofValue?_eq_some_iff message.methodId method

/-- The services of the reducer are those of a report. -/
theorem isRuntimeMessage_iff (message : TrpcPacket) (method : TrpcMethod)
    (hmethod : message.method = some method) :
    isRuntimeMessage message = true ↔ RuntimeReport method message := by
  have hid := (method_eq_some_iff message method).mp hmethod
  simp only [isRuntimeMessage, hmethod, Option.isSome_some, Bool.and_true, RuntimeReport, hid,
    and_true]
  cases hservice : message.service with
  | none =>
      have hne (service : TrpcService) : message.serviceId ≠ service.value := fun h => by
        rw [TrpcPacket.service, h, TrpcService.ofValue?_value] at hservice
        cases hservice
      simp [hne]
  | some service =>
      rw [(TrpcService.ofValue?_eq_some_iff _ _).mp hservice]
      cases service <;> decide

theorem RuntimeReport.method_eq {method : TrpcMethod} {message : TrpcPacket}
    (h : RuntimeReport method message) : message.method = some method :=
  (method_eq_some_iff message method).mpr h.2

/-- A message is a report of at most one method. -/
theorem RuntimeReport.unique {method other : TrpcMethod} {message : TrpcPacket}
    (h : RuntimeReport method message) (h' : RuntimeReport other message) : method = other :=
  Option.some.inj (h.method_eq.symm.trans h'.method_eq)

/-! ## One message, device by device -/

/-- The runtime of one device after a message. -/
def updatedRuntime (runtime : DeviceRuntime) (message : TrpcPacket) : DeviceRuntime :=
  match message.method with
  | none => runtime
  | some method =>
      if isRuntimeMessage message ∧ method ∈ deviceValueMethods ∧
          message.get "address" = some runtime.info.address then
        (applyRuntimeMessage runtime method message).getD runtime
      else runtime

/-- The gateway values after a message of a method. -/
def gatewayAfter (gateway : GatewaySnapshot) (method : TrpcMethod) (message : TrpcPacket) :
    GatewaySnapshot :=
  ((applyGatewayMessage { gateway := gateway, devices := [] } method message).map
    AvailableInfo.gateway).getD gateway

/-- The gateway values after a message. -/
def updatedGateway (gateway : GatewaySnapshot) (message : TrpcPacket) : GatewaySnapshot :=
  match message.method with
  | none => gateway
  | some method =>
      if isRuntimeMessage message then gatewayAfter gateway method message else gateway

/-- A device report acts on the device it addresses. -/
theorem updatedRuntime_report {runtime : DeviceRuntime} {message : TrpcPacket}
    {method : TrpcMethod} (hreport : RuntimeReport method message)
    (hmethod : method ∈ deviceValueMethods)
    (haddress : message.get "address" = some runtime.info.address) :
    updatedRuntime runtime message =
      (applyRuntimeMessage runtime method message).getD runtime := by
  rw [updatedRuntime, hreport.method_eq]
  simp only
  rw [if_pos ⟨(isRuntimeMessage_iff message method hreport.method_eq).mpr hreport, hmethod,
    haddress⟩]

theorem scalarMethods_eq_some_iff (method : TrpcMethod) (value : ScalarValue) (field : String) :
    scalarMethods method = some (value, field) ↔
      method = value.method ∧ field = value.field := by
  constructor
  · intro h
    cases method <;> cases h <;> exact ⟨rfl, rfl⟩
  · rintro ⟨rfl, rfl⟩
    cases value <;> rfl

theorem ScalarValue.method_mem (value : ScalarValue) : value.method ∈ deviceValueMethods := by
  cases value <;> decide

/-- A device message leaves the device's address alone. -/
theorem info_applyRuntimeMessage {runtime updated : DeviceRuntime} {method : TrpcMethod}
    {message : TrpcPacket} (h : applyRuntimeMessage runtime method message = some updated) :
    updated.info = runtime.info := by
  simp only [applyRuntimeMessage, applySetpointReport] at h
  split at h
  · injection h with h
    rw [← h, DeviceRuntime.info_withScalar]
  · split at h
    · split at h
      · cases h
      · injection h with h
        rw [← h, DeviceRuntime.info_withSetpoint]
    · cases h

@[simp] theorem info_updatedRuntime (runtime : DeviceRuntime) (message : TrpcPacket) :
    (updatedRuntime runtime message).info = runtime.info := by
  simp only [updatedRuntime]
  split
  · rfl
  · split
    · cases h : applyRuntimeMessage runtime _ message with
      | none => rfl
      | some updated => exact info_applyRuntimeMessage h
    · rfl

/-- A device message writes the scalar of its method and no other. -/
theorem scalar_applyRuntimeMessage {runtime updated : DeviceRuntime} {method : TrpcMethod}
    {message : TrpcPacket} (h : applyRuntimeMessage runtime method message = some updated)
    (value : ScalarValue) :
    updated.scalar value =
      if method = value.method then message.get value.field else runtime.scalar value := by
  simp only [applyRuntimeMessage, applySetpointReport] at h
  split at h
  · rename_i written field hwritten
    obtain ⟨rfl, rfl⟩ := (scalarMethods_eq_some_iff _ _ _).mp hwritten
    injection h with h
    rw [← h, DeviceRuntime.scalar_withScalar]
    by_cases heq : value = written
    · rw [if_pos heq, if_pos (congrArg ScalarValue.method heq.symm), heq]
    · rw [if_neg heq, if_neg fun hmethod => heq (ScalarValue.method_injective hmethod).symm]
  · rename_i hscalar
    have hne : method ≠ value.method := fun hmethod => by
      rw [(scalarMethods_eq_some_iff method value value.field).mpr ⟨hmethod, rfl⟩] at hscalar
      cases hscalar
    rw [if_neg hne]
    split at h
    · split at h
      · cases h
      · injection h with h
        rw [← h, DeviceRuntime.scalar_withSetpoint]
    · cases h

theorem isSome_applyRuntimeMessage (runtime : DeviceRuntime) (value : ScalarValue)
    (message : TrpcPacket) :
    ∃ updated, applyRuntimeMessage runtime value.method message = some updated := by
  refine ⟨runtime.withScalar value (message.get value.field), ?_⟩
  simp only [applyRuntimeMessage, (scalarMethods_eq_some_iff _ value value.field).mpr ⟨rfl, rfl⟩]

/-- Each scalar value is a register of the messages of its method and address. -/
theorem scalar_updatedRuntime (runtime : DeviceRuntime) (message : TrpcPacket)
    (value : ScalarValue) :
    (updatedRuntime runtime message).scalar value =
      (deviceReport value.method runtime.info.address (fun m => m.get value.field)
        message).getD (runtime.scalar value) := by
  simp only [updatedRuntime, deviceReport]
  cases hmethod : message.method with
  | none =>
      rw [if_neg fun h => by
        rw [h.1.method_eq] at hmethod
        cases hmethod]
      rfl
  | some method =>
      simp only [isRuntimeMessage_iff message method hmethod]
      by_cases heq : method = value.method
      · subst heq
        by_cases h : RuntimeReport value.method message ∧
            message.get "address" = some runtime.info.address
        · obtain ⟨updated, hupdated⟩ := isSome_applyRuntimeMessage runtime value message
          rw [if_pos h, if_pos ⟨h.1, value.method_mem, h.2⟩, hupdated, Option.getD_some,
            scalar_applyRuntimeMessage hupdated, if_pos rfl, Option.getD_some]
        · rw [if_neg h, if_neg fun h' => h ⟨h'.1, h'.2.2⟩, Option.getD_none]
      · have hother : ¬ (RuntimeReport value.method message ∧
            message.get "address" = some runtime.info.address) := fun h =>
          heq (Option.some.inj (hmethod.symm.trans h.1.method_eq))
        rw [if_neg hother, Option.getD_none]
        split
        · cases hupdated : applyRuntimeMessage runtime method message with
          | none => rfl
          | some updated =>
              rw [Option.getD_some, scalar_applyRuntimeMessage hupdated, if_neg heq]
        · rfl

/-! ## Re-assembly in discovery order -/

/-- The snapshot holds the discovered devices, in discovery order, and their
addresses differ. -/
structure Tekmar482State.Aligned (state : Tekmar482State) : Prop where
  order : state.data.devices.map (fun snapshot => snapshot.info.address) =
    state.discovery.devices.map DiscoveredDevice.address
  distinct : (state.discovery.devices.map DiscoveredDevice.address).Nodup

namespace Tekmar482State

variable {state : Tekmar482State}

theorem Aligned.nodup (h : state.Aligned) :
    (state.data.devices.map fun snapshot => snapshot.info.address).Nodup :=
  h.order ▸ h.distinct

/-- Looking an address up finds the snapshot with that address. -/
theorem Aligned.get?_snapshots (h : state.Aligned) (address : Int) (snapshot : DeviceSnapshot) :
    state.data.snapshots.get? address = some snapshot ↔
      snapshot ∈ state.data.devices ∧ snapshot.info.address = address := by
  have hkeys : (state.data.devices.map fun snapshot => (snapshot.info.address, snapshot)).map
      Prod.fst = state.data.devices.map fun snapshot => snapshot.info.address := by
    simp
  rw [OrderedDict.get?_eq_some_iff, AvailableInfo.snapshots,
    OrderedDict.entries_ofList (hkeys ▸ h.nodup), List.mem_map]
  constructor
  · rintro ⟨found, hfound, heq⟩
    obtain ⟨haddress, rfl⟩ := Prod.mk.inj heq
    exact ⟨hfound, haddress⟩
  · rintro ⟨hmem, rfl⟩
    exact ⟨snapshot, hmem, rfl⟩

/-- Replacing one snapshot in the dictionary replaces it at its position. -/
theorem Aligned.devices_set (h : state.Aligned) (address : Int) (updated : DeviceSnapshot) :
    state.discovery.devices.filterMap
        (fun device => (state.data.snapshots.set address updated).get? device.address) =
      state.data.devices.map fun snapshot =>
        if snapshot.info.address = address then updated else snapshot := by
  let find : Int → Option DeviceSnapshot := (state.data.snapshots.set address updated).get?
  calc state.discovery.devices.filterMap (fun device => find device.address)
      = (state.discovery.devices.map DiscoveredDevice.address).filterMap find := by
        rw [List.filterMap_map]
        rfl
    _ = (state.data.devices.map fun snapshot => snapshot.info.address).filterMap find := by
        rw [h.order]
    _ = state.data.devices.filterMap fun snapshot =>
          some (if snapshot.info.address = address then updated else snapshot) := by
        rw [List.filterMap_map]
        apply List.filterMap_congr
        intro snapshot hmem
        simp only [find, Function.comp_apply, OrderedDict.get?_set]
        split
        · rfl
        · exact (h.get?_snapshots _ _).mpr ⟨hmem, rfl⟩
    _ = _ := by rw [← List.filterMap_eq_map]; rfl

theorem data_applyMessage (state : Tekmar482State) (message : TrpcPacket) :
    (state.applyMessage message).2.data =
      (Tekmar482.applyMessage state.discovery state.data message).getD state.data := by
  simp only [applyMessage]
  cases Tekmar482.applyMessage state.discovery state.data message with
  | none => rfl
  | some updated =>
      simp only
      by_cases h : updated = state.data
      · rw [Option.getD_some, h, if_pos rfl]
      · rw [Option.getD_some, if_neg h]

@[simp] theorem discovery_applyMessage (state : Tekmar482State) (message : TrpcPacket) :
    (state.applyMessage message).2.discovery = state.discovery := by
  simp only [applyMessage]
  split
  · rfl
  · split <;> rfl

end Tekmar482State

theorem devices_applyGatewayMessage {data updated : AvailableInfo} {method : TrpcMethod}
    {message : TrpcPacket} (h : applyGatewayMessage data method message = some updated) :
    updated.devices = data.devices := by
  simp only [applyGatewayMessage] at h
  split at h
  all_goals try split at h
  all_goals cases h
  all_goals rfl

/-- A gateway message reads and writes the gateway values only. -/
theorem gateway_applyGatewayMessage (data : AvailableInfo) (method : TrpcMethod)
    (message : TrpcPacket) :
    (applyGatewayMessage data method message).map AvailableInfo.gateway =
      (applyGatewayMessage { gateway := data.gateway, devices := [] } method message).map
        AvailableInfo.gateway := by
  simp only [applyGatewayMessage]
  split
  all_goals try split
  all_goals rfl

theorem applyGatewayMessage_eq_none {method : TrpcMethod} (h : method ∉ gatewayMethods)
    (data : AvailableInfo) (message : TrpcPacket) :
    applyGatewayMessage data method message = none := by
  cases method <;> first | rfl | exact absurd (by decide) h

theorem not_mem_deviceValueMethods {method : TrpcMethod} (h : method ∈ gatewayMethods) :
    method ∉ deviceValueMethods := by
  revert h
  cases method <;> decide

namespace Tekmar482State

variable {state : Tekmar482State}

/-- A device message replaces the runtime of the addressed device. -/
theorem Aligned.devices_applyDeviceMessage (h : state.Aligned) (address : Int)
    (method : TrpcMethod) (message : TrpcPacket) :
    ((applyDeviceMessage state.discovery state.data address method message).getD
        state.data).devices =
      state.data.devices.map fun snapshot =>
        if snapshot.info.address = address then
          ⟨(applyRuntimeMessage snapshot.runtime method message).getD snapshot.runtime⟩
        else snapshot := by
  have hkeep (hsame : ∀ snapshot ∈ state.data.devices, snapshot.info.address = address →
      applyRuntimeMessage snapshot.runtime method message = none) :
      state.data.devices = state.data.devices.map fun snapshot =>
        if snapshot.info.address = address then
          ⟨(applyRuntimeMessage snapshot.runtime method message).getD snapshot.runtime⟩
        else snapshot := by
    conv_lhs => rw [← List.map_id state.data.devices]
    apply List.map_congr_left
    intro snapshot hmem
    by_cases haddress : snapshot.info.address = address
    · rw [if_pos haddress, hsame snapshot hmem haddress, Option.getD_none, id]
    · rw [if_neg haddress, id]
  simp only [applyDeviceMessage]
  cases hfind : state.data.snapshots.get? address with
  | none =>
      refine hkeep fun snapshot hmem haddress => ?_
      rw [(h.get?_snapshots address snapshot).mpr ⟨hmem, haddress⟩] at hfind
      cases hfind
  | some found =>
      have hunique (snapshot : DeviceSnapshot) (hmem : snapshot ∈ state.data.devices)
          (haddress : snapshot.info.address = address) : snapshot = found := by
        rw [(h.get?_snapshots address snapshot).mpr ⟨hmem, haddress⟩] at hfind
        exact Option.some.inj hfind
      cases hupdated : applyRuntimeMessage found.runtime method message with
      | none =>
          simp only [hupdated, Option.getD_none]
          refine hkeep fun snapshot hmem haddress => ?_
          rw [hunique snapshot hmem haddress, hupdated]
      | some updated =>
          simp only [hupdated, Option.getD_some, h.devices_set]
          apply List.map_congr_left
          intro snapshot hmem
          by_cases haddress : snapshot.info.address = address
          · rw [if_pos haddress, if_pos haddress, hunique snapshot hmem haddress, hupdated,
              Option.getD_some]
          · rw [if_neg haddress, if_neg haddress]

/-- A message acts on each device of the snapshot separately. -/
theorem Aligned.devices_applyMessage (h : state.Aligned) (message : TrpcPacket) :
    (state.applyMessage message).2.data.devices =
      state.data.devices.map fun snapshot => ⟨updatedRuntime snapshot.runtime message⟩ := by
  have hkeep (hsame : ∀ snapshot ∈ state.data.devices,
      updatedRuntime snapshot.runtime message = snapshot.runtime) :
      state.data.devices =
        state.data.devices.map fun snapshot => ⟨updatedRuntime snapshot.runtime message⟩ := by
    conv_lhs => rw [← List.map_id state.data.devices]
    apply List.map_congr_left
    intro snapshot hmem
    rw [hsame snapshot hmem, id]
  rw [data_applyMessage]
  simp only [Tekmar482.applyMessage]
  cases hmethod : message.method with
  | none =>
      rw [ite_self]
      exact hkeep fun snapshot _ => by simp only [updatedRuntime, hmethod]
  | some method =>
      have hrun (snapshot : DeviceSnapshot) : updatedRuntime snapshot.runtime message =
          if isRuntimeMessage message ∧ method ∈ deviceValueMethods ∧
              message.get "address" = some snapshot.info.address then
            (applyRuntimeMessage snapshot.runtime method message).getD snapshot.runtime
          else snapshot.runtime := by
        rw [updatedRuntime, hmethod]
        rfl
      by_cases hruntime : isRuntimeMessage message = true
      · rw [if_pos hruntime]
        simp only
        by_cases hgateway : method ∈ gatewayMethods
        · rw [if_pos hgateway]
          have hsame := hkeep fun snapshot _ => by
            rw [hrun, if_neg fun hall => not_mem_deviceValueMethods hgateway hall.2.1]
          cases hupdated : applyGatewayMessage state.data method message with
          | none => exact hsame
          | some updated =>
              rw [Option.getD_some, devices_applyGatewayMessage hupdated]
              exact hsame
        · rw [if_neg hgateway]
          by_cases hvalue : method ∈ deviceValueMethods
          · rw [if_pos hvalue]
            cases haddress : message.get "address" with
            | none =>
                refine hkeep fun snapshot _ => ?_
                rw [hrun, if_neg fun hall => by
                  rw [haddress] at hall
                  exact absurd hall.2.2 (by simp)]
            | some address =>
                have hdevices (snapshot : DeviceSnapshot) :
                    (⟨updatedRuntime snapshot.runtime message⟩ : DeviceSnapshot) =
                      if snapshot.info.address = address then
                        ⟨(applyRuntimeMessage snapshot.runtime method message).getD
                          snapshot.runtime⟩
                      else snapshot := by
                  rw [hrun, haddress]
                  by_cases heq : snapshot.info.address = address
                  · rw [if_pos heq, if_pos ⟨hruntime, hvalue, congrArg some heq.symm⟩]
                  · rw [if_neg heq, if_neg fun hall => heq (Option.some.inj hall.2.2).symm]
                simp only [hdevices]
                split
                · exact h.devices_applyDeviceMessage address method message
                · rename_i hunknown
                  rw [← h.order] at hunknown
                  conv_lhs => rw [Option.getD_none, ← List.map_id state.data.devices]
                  apply List.map_congr_left
                  intro snapshot hmem
                  rw [if_neg fun heq => hunknown (List.mem_map.mpr ⟨snapshot, hmem, heq⟩), id]
          · rw [if_neg hvalue]
            exact hkeep fun snapshot _ => by rw [hrun, if_neg fun hall => hvalue hall.2.1]
      · rw [if_neg hruntime]
        exact hkeep fun snapshot _ => by rw [hrun, if_neg fun hall => hruntime hall.1]

/-- The gateway values follow the gateway messages alone. -/
theorem gateway_applyMessage (state : Tekmar482State) (message : TrpcPacket) :
    (state.applyMessage message).2.data.gateway = updatedGateway state.data.gateway message := by
  rw [data_applyMessage]
  simp only [Tekmar482.applyMessage, updatedGateway, gatewayAfter]
  cases hmethod : message.method with
  | none => rw [ite_self]; rfl
  | some method =>
      simp only
      by_cases hruntime : isRuntimeMessage message = true
      · rw [if_pos hruntime, if_pos hruntime, ← gateway_applyGatewayMessage]
        by_cases hgateway : method ∈ gatewayMethods
        · rw [if_pos hgateway]
          cases applyGatewayMessage state.data method message <;> rfl
        · rw [if_neg hgateway, applyGatewayMessage_eq_none hgateway, Option.map_none,
            Option.getD_none]
          split
          · split
            · rfl
            · split
              · simp only [applyDeviceMessage]
                split
                · rfl
                · split <;> rfl
              · rfl
          · rfl
      · rw [if_neg hruntime, if_neg hruntime]
        rfl

theorem Aligned.applyMessage (h : state.Aligned) (message : TrpcPacket) :
    (state.applyMessage message).2.Aligned := by
  constructor
  · rw [h.devices_applyMessage, discovery_applyMessage, List.map_map, ← h.order]
    apply List.map_congr_left
    intro snapshot _
    exact congrArg DiscoveredDevice.address (info_updatedRuntime snapshot.runtime message)
  · rw [discovery_applyMessage]
    exact h.distinct

end Tekmar482State

end Tekmar482
