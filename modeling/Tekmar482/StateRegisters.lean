import Tekmar482.StateStore

/-!
# Runs of the reducer

Every scalar value of a device, every cell of the gateway and every setpoint
group is a register that the messages of one method write. After a run each of
them holds the field of the last message that writes it.
-/

namespace Tekmar482

open LastValue

namespace Tekmar482State

variable {state : Tekmar482State}

/-! ## Runs of messages -/

theorem Aligned.applyMessages (h : state.Aligned) (messages : List TrpcPacket) :
    (state.applyMessages messages).Aligned :=
  inv_foldl Aligned (fun _ => True) (fun _ message hs _ => hs.applyMessage message) messages
    (fun _ _ => trivial) state h

/-- A run acts on each device of the snapshot separately. -/
theorem Aligned.devices_applyMessages (h : state.Aligned) (messages : List TrpcPacket) :
    (state.applyMessages messages).data.devices =
      state.data.devices.map fun snapshot => ⟨messages.foldl updatedRuntime snapshot.runtime⟩ := by
  induction messages generalizing state with
  | nil => exact (List.map_id _).symm
  | cons message rest ih =>
      have hrest := ih (h.applyMessage message)
      rw [h.devices_applyMessage, List.map_map] at hrest
      exact hrest

theorem gateway_applyMessages (state : Tekmar482State) (messages : List TrpcPacket) :
    (state.applyMessages messages).data.gateway =
      messages.foldl updatedGateway state.data.gateway := by
  induction messages generalizing state with
  | nil => rfl
  | cons message rest ih =>
      have hrest := ih (state.applyMessage message).2
      rw [gateway_applyMessage] at hrest
      exact hrest

theorem discovery_applyMessages (state : Tekmar482State) (messages : List TrpcPacket) :
    (state.applyMessages messages).discovery = state.discovery := by
  induction messages generalizing state with
  | nil => rfl
  | cons message rest ih => exact (ih _).trans (state.discovery_applyMessage message)

theorem info_foldl_updatedRuntime (messages : List TrpcPacket) (runtime : DeviceRuntime) :
    (messages.foldl updatedRuntime runtime).info = runtime.info :=
  inv_foldl (fun r => r.info = runtime.info) (fun _ => True)
    (fun r message hr _ => (info_updatedRuntime r message).trans hr) messages
    (fun _ _ => trivial) runtime rfl

theorem Aligned.runtime_eq_some_iff (h : state.Aligned) (address : Int)
    (runtime : DeviceRuntime) :
    state.runtime address = some runtime ↔
      (⟨runtime⟩ : DeviceSnapshot) ∈ state.data.devices ∧ runtime.info.address = address := by
  rw [Tekmar482State.runtime, Option.map_eq_some_iff]
  constructor
  · rintro ⟨snapshot, hfind, rfl⟩
    exact (h.get?_snapshots address snapshot).mp hfind
  · intro hmem
    exact ⟨⟨runtime⟩, (h.get?_snapshots address ⟨runtime⟩).mpr hmem, rfl⟩

/-- A discovered device keeps its runtime through a run, message by message. -/
theorem Aligned.runtime_applyMessages (h : state.Aligned) (messages : List TrpcPacket)
    {address : Int} (haddress : address ∈ state.discovery.devices.map DiscoveredDevice.address) :
    ∃ before, state.runtime address = some before ∧ before.info.address = address ∧
      (state.applyMessages messages).runtime address =
        some (messages.foldl updatedRuntime before) := by
  rw [← h.order] at haddress
  obtain ⟨⟨before⟩, hmem, rfl⟩ := List.mem_map.mp haddress
  refine ⟨before, (h.runtime_eq_some_iff _ before).mpr ⟨hmem, rfl⟩, rfl, ?_⟩
  rw [(h.applyMessages messages).runtime_eq_some_iff, h.devices_applyMessages]
  exact ⟨List.mem_map.mpr ⟨⟨before⟩, hmem, rfl⟩,
    congrArg DiscoveredDevice.address (info_foldl_updatedRuntime messages before)⟩

/-- Each scalar value of a device is its last reported value. -/
theorem scalar_foldl_updatedRuntime (messages : List TrpcPacket) (runtime : DeviceRuntime)
    (value : ScalarValue) :
    (messages.foldl updatedRuntime runtime).scalar value =
      lastValue (deviceReport value.method runtime.info.address fun m => m.get value.field)
        messages (runtime.scalar value) :=
  @cell_foldl _ _ _ _ (fun r => r.scalar value) _ (fun r => r.info = runtime.info) (fun _ => True)
    (fun r message hr _ => (info_updatedRuntime r message).trans hr)
    (fun r message hr _ => by rw [scalar_updatedRuntime, hr]) messages (fun _ _ => trivial)
    runtime rfl

end Tekmar482State

/-! ## Gateway cells -/

/-- A gateway cell that the messages of one method set to a value is a register
of these messages. -/
theorem cell_updatedGateway {β : Type*} {cell : GatewaySnapshot → β} {method : TrpcMethod}
    {value : TrpcPacket → β} {message : TrpcPacket}
    (hwrite : RuntimeReport method message →
      ∀ gateway, cell (gatewayAfter gateway method message) = value message)
    (hother : ∀ other gateway, other ≠ method →
      cell (gatewayAfter gateway other message) = cell gateway) (gateway : GatewaySnapshot) :
    cell (updatedGateway gateway message) =
      (gatewayReport method value message).getD (cell gateway) := by
  rw [updatedGateway, gatewayReport]
  cases hmethod : message.method with
  | none =>
      rw [if_neg fun h => by
        rw [h.method_eq] at hmethod
        cases hmethod]
      rfl
  | some actual =>
      simp only [isRuntimeMessage_iff message actual hmethod]
      by_cases heq : actual = method
      · subst heq
        by_cases hreport : RuntimeReport actual message
        · rw [if_pos hreport, if_pos hreport, hwrite hreport, Option.getD_some]
        · rw [if_neg hreport, if_neg hreport, Option.getD_none]
      · have hnot : ¬ RuntimeReport method message := fun h =>
          heq (Option.some.inj (hmethod.symm.trans h.method_eq))
        rw [if_neg hnot, Option.getD_none]
        split
        · exact hother actual gateway heq
        · rfl

/-- A gateway cell is its last reported value after a run. -/
theorem cell_applyMessages {β : Type*} {cell : GatewaySnapshot → β} {write : TrpcPacket → Option β}
    (decoded : TrpcPacket → Prop)
    (hcell : ∀ gateway message, decoded message →
      cell (updatedGateway gateway message) = (write message).getD (cell gateway))
    (state : Tekmar482State) (messages : List TrpcPacket) (h : ∀ m ∈ messages, decoded m) :
    cell (state.applyMessages messages).data.gateway =
      lastValue write messages (cell state.data.gateway) := by
  rw [Tekmar482State.gateway_applyMessages]
  exact cell_foldl (fun _ => True) decoded (fun _ _ _ _ => trivial)
    (fun gateway message _ hm => hcell gateway message hm) messages h state.data.gateway trivial

/-- What a message of a method leaves alone in the gateway values. -/
structure GatewayFrame (method : TrpcMethod) (before after : GatewaySnapshot) : Prop where
  reportingEnabled : method ≠ .reportingState → after.reportingEnabled = before.reportingEnabled
  networkError : method ≠ .networkError → after.networkError = before.networkError
  outdoorTemp : method ≠ .outdoorTemp → after.outdoorTemp = before.outdoorTemp
  setbackEnabled : method ≠ .setbackEnable → after.setbackEnabled = before.setbackEnabled
  setpointGroups : method ≠ .setpointGroupEnable → after.setpointGroups = before.setpointGroups
  dateTime : method ≠ .dateTime → after.dateTime = before.dateTime

/-- A gateway message changes at most the cell of its method. -/
theorem gatewayFrame_gatewayAfter (gateway : GatewaySnapshot) (method : TrpcMethod)
    (message : TrpcPacket) : GatewayFrame method gateway (gatewayAfter gateway method message) := by
  simp only [gatewayAfter, applyGatewayMessage]
  split
  all_goals try split
  all_goals constructor
  all_goals intro h
  all_goals first | rfl | exact absurd rfl h

section Cells

variable {message : TrpcPacket} (gateway : GatewaySnapshot)

theorem reportingEnabled_updatedGateway :
    (updatedGateway gateway message).reportingEnabled =
      (gatewayReport .reportingState (fun m => (m.get "state").map fun value => value != 0)
        message).getD gateway.reportingEnabled :=
  cell_updatedGateway (fun _ _ => rfl)
    (fun other before => (gatewayFrame_gatewayAfter before other message).reportingEnabled) gateway

theorem setbackEnabled_updatedGateway :
    (updatedGateway gateway message).setbackEnabled =
      (gatewayReport .setbackEnable (fun m => (m.get "enable").map fun value => value != 0)
        message).getD gateway.setbackEnabled :=
  cell_updatedGateway (fun _ _ => rfl)
    (fun other before => (gatewayFrame_gatewayAfter before other message).setbackEnabled) gateway

theorem outdoorTemp_updatedGateway :
    (updatedGateway gateway message).outdoorTemp =
      (gatewayReport .outdoorTemp (fun m => m.get "temp") message).getD gateway.outdoorTemp :=
  cell_updatedGateway (fun _ _ => rfl)
    (fun other before => (gatewayFrame_gatewayAfter before other message).outdoorTemp) gateway

theorem networkError_updatedGateway :
    (updatedGateway gateway message).networkError =
      (gatewayReport .networkError (fun m => m.get "error") message).getD
        gateway.networkError :=
  cell_updatedGateway (fun _ _ => rfl)
    (fun other before => (gatewayFrame_gatewayAfter before other message).networkError) gateway

/-- A decoded date/time message has all its fields. -/
theorem messageDatetime_fromBytes {data : List UInt8}
    (hdecode : TrpcPacket.fromBytes data = .ok message)
    (hmethod : message.methodId = TrpcMethod.dateTime.value) :
    ∃ dateTime, messageDatetime message = some dateTime := by
  have hfield (field : String)
      (h : field ∈ (methodSpecs .dateTime).fields.map FieldSpec.name) :
      ∃ value, message.get field = some value :=
    TrpcPacket.get_fromBytes hdecode hmethod h
  obtain ⟨year, hyear⟩ := hfield "year" (by decide)
  obtain ⟨month, hmonth⟩ := hfield "month" (by decide)
  obtain ⟨day, hday⟩ := hfield "day" (by decide)
  obtain ⟨weekday, hweekday⟩ := hfield "weekday" (by decide)
  obtain ⟨hour, hhour⟩ := hfield "hour" (by decide)
  obtain ⟨minute, hminute⟩ := hfield "minute" (by decide)
  refine ⟨{ year, month, day, weekday, hour, minute }, ?_⟩
  simp only [messageDatetime, hyear, hmonth, hday, hweekday, hhour, hminute]

theorem dateTime_updatedGateway {data : List UInt8}
    (hdecode : TrpcPacket.fromBytes data = .ok message) :
    (updatedGateway gateway message).dateTime =
      (gatewayReport .dateTime messageDatetime message).getD gateway.dateTime := by
  refine cell_updatedGateway (fun hreport before => ?_)
    (fun other before => (gatewayFrame_gatewayAfter before other message).dateTime) gateway
  obtain ⟨dateTime, hdateTime⟩ := messageDatetime_fromBytes hdecode hreport.2
  simp only [gatewayAfter, applyGatewayMessage, hdateTime, Option.map_some, Option.getD_some]

/-- The stored flag of a setpoint group, if the group is known. -/
def GatewaySnapshot.group (gateway : GatewaySnapshot) (groupId : Int) : Option (Option Bool) :=
  (gateway.setpointGroups.getD ∅).lookup groupId

theorem group_updatedGateway (groupId : Int) :
    (updatedGateway gateway message).group groupId =
      (groupReport groupId message).getD (gateway.group groupId) := by
  rw [updatedGateway, groupReport]
  cases hmethod : message.method with
  | none =>
      rw [if_neg fun h => by
        rw [h.1.method_eq] at hmethod
        cases hmethod]
      rfl
  | some actual =>
      simp only [isRuntimeMessage_iff message actual hmethod]
      by_cases heq : actual = .setpointGroupEnable
      · subst heq
        by_cases hreport : RuntimeReport .setpointGroupEnable message
        · rw [if_pos hreport]
          simp only [hreport, true_and, gatewayAfter, applyGatewayMessage]
          cases hgroup : message.get "group_id" with
          | none => simp
          | some reported =>
              simp only [Option.map_some, Option.getD_some, GatewaySnapshot.group,
                Option.some.injEq]
              by_cases hsame : reported = groupId
              · rw [if_pos hsame, hsame, Finmap.lookup_insert, Option.getD_some]
              · rw [if_neg hsame, Finmap.lookup_insert_of_ne _ (Ne.symm hsame),
                  Option.getD_none]
        · rw [if_neg hreport, if_neg fun h => hreport h.1, Option.getD_none]
      · have hnot : ¬ (RuntimeReport .setpointGroupEnable message ∧
            message.get "group_id" = some groupId) := fun h =>
          heq (Option.some.inj (hmethod.symm.trans h.1.method_eq))
        rw [if_neg hnot, Option.getD_none]
        split
        · rw [GatewaySnapshot.group,
            (gatewayFrame_gatewayAfter gateway actual message).setpointGroups heq]
          rfl
        · rfl

end Cells

/-! ## The store as a whole -/

/-- A message of another service, of another method, or about an address that
was not discovered. -/
def Unrelated (discovery : DiscoveryResult) (message : TrpcPacket) : Prop :=
  message.serviceId ∉ [TrpcService.report.value, TrpcService.responseRequest.value,
    TrpcService.responseUpdate.value] ∨
  (∀ method ∈ gatewayMethods ++ deviceValueMethods, message.methodId ≠ method.value) ∨
  ∃ address, message.get "address" = some address ∧
    address ∉ discovery.devices.map DiscoveredDevice.address

/-- The messages of the gateway methods carry no address. -/
theorem get_address_gateway {data : List UInt8} {message : TrpcPacket} {method : TrpcMethod}
    (hdecode : TrpcPacket.fromBytes data = .ok message) (hid : message.methodId = method.value)
    (h : method ∈ gatewayMethods) : message.get "address" = none := by
  apply TrpcPacket.get_fromBytes_eq_none hdecode hid
  · revert h
    cases method <;> decide
  · revert h
    cases method <;> decide

/-- An unrelated message updates nothing. -/
theorem applyMessage_unrelated {data : List UInt8} {message : TrpcPacket}
    {discovery : DiscoveryResult} (hdecode : TrpcPacket.fromBytes data = .ok message)
    (h : Unrelated discovery message) (snapshot : AvailableInfo) :
    applyMessage discovery snapshot message = none := by
  simp only [applyMessage]
  cases hmethod : message.method with
  | none => exact ite_self none
  | some method =>
      have hid := (method_eq_some_iff message method).mp hmethod
      simp only [isRuntimeMessage_iff message method hmethod]
      by_cases hreport : RuntimeReport method message
      · rw [if_pos hreport]
        rcases h with hservice | hother | ⟨address, haddress, hunknown⟩
        · exact absurd hreport.1 hservice
        · rw [if_neg fun hmem => hother method (List.mem_append_left _ hmem) hid,
            if_neg fun hmem => hother method (List.mem_append_right _ hmem) hid]
        · have hgateway : method ∉ gatewayMethods := fun hmem => by
            rw [get_address_gateway hdecode hid hmem] at haddress
            cases haddress
          rw [if_neg hgateway]
          simp only [haddress, if_neg hunknown, ite_self]
      · rw [if_neg hreport]

namespace Tekmar482State

/-- The reducer is a last-writer-wins store. Over a run of decoded messages the
device addresses stay, every device value and gateway cell holds the field of
the last message that reports it, and unrelated messages change nothing. -/
theorem applyMessages_lastValue (state : Tekmar482State) (h : state.Aligned)
    (messages : List TrpcPacket)
    (hdecoded : ∀ m ∈ messages, ∃ data, TrpcPacket.fromBytes data = .ok m) :
    let final := state.applyMessages messages
    (final.data.devices.map fun snapshot => snapshot.info.address) =
      (state.data.devices.map fun snapshot => snapshot.info.address) ∧
    (∀ address ∈ state.discovery.devices.map DiscoveredDevice.address, ∃ before after,
      state.runtime address = some before ∧ final.runtime address = some after ∧
      ∀ value : ScalarValue, after.scalar value =
        lastValue (deviceReport value.method address fun m => m.get value.field) messages
          (before.scalar value)) ∧
    final.data.gateway.reportingEnabled =
      lastValue (gatewayReport .reportingState fun m =>
        (m.get "state").map fun value => value != 0) messages
        state.data.gateway.reportingEnabled ∧
    final.data.gateway.setbackEnabled =
      lastValue (gatewayReport .setbackEnable fun m =>
        (m.get "enable").map fun value => value != 0) messages
        state.data.gateway.setbackEnabled ∧
    final.data.gateway.outdoorTemp =
      lastValue (gatewayReport .outdoorTemp fun m => m.get "temp") messages
        state.data.gateway.outdoorTemp ∧
    final.data.gateway.networkError =
      lastValue (gatewayReport .networkError fun m => m.get "error") messages
        state.data.gateway.networkError ∧
    final.data.gateway.dateTime =
      lastValue (gatewayReport .dateTime messageDatetime) messages
        state.data.gateway.dateTime ∧
    (∀ groupId, final.data.gateway.group groupId =
      lastValue (groupReport groupId) messages (state.data.gateway.group groupId)) ∧
    ∀ (current : Tekmar482State) (message : TrpcPacket),
      (∃ data, TrpcPacket.fromBytes data = .ok message) →
      Unrelated current.discovery message → current.applyMessage message = (false, current) := by
  have hcell {β : Type} {cell : GatewaySnapshot → β} {write : TrpcPacket → Option β}
      (hwrite : ∀ gateway message, (∃ data, TrpcPacket.fromBytes data = .ok message) →
        cell (updatedGateway gateway message) = (write message).getD (cell gateway)) :=
    cell_applyMessages _ hwrite state messages hdecoded
  refine ⟨?_, ?_, hcell fun gateway _ _ => reportingEnabled_updatedGateway gateway,
    hcell fun gateway _ _ => setbackEnabled_updatedGateway gateway,
    hcell fun gateway _ _ => outdoorTemp_updatedGateway gateway,
    hcell fun gateway _ _ => networkError_updatedGateway gateway,
    hcell fun gateway _ hdata => hdata.elim fun _ => dateTime_updatedGateway gateway,
    fun groupId => ?_, ?_⟩
  · rw [(h.applyMessages messages).order, discovery_applyMessages, h.order]
  · intro address haddress
    obtain ⟨before, hbefore, hinfo, hafter⟩ := h.runtime_applyMessages messages haddress
    refine ⟨before, _, hbefore, hafter, fun value => ?_⟩
    rw [scalar_foldl_updatedRuntime, hinfo]
  · exact @hcell _ (fun gateway => gateway.group groupId) _ fun gateway _ _ =>
      group_updatedGateway gateway groupId
  · rintro current message ⟨data, hdecode⟩ hunrelated
    rw [applyMessage, applyMessage_unrelated hdecode hunrelated]

/-- Two thermostats, of which the second was never reported. -/
def sampleState : Tekmar482State where
  discovery := { devices := [{ address := 1011 }, { address := 2022 }] }
  data := { devices := [⟨{ info := { address := 1011 } }⟩, ⟨{ info := { address := 2022 } }⟩] }

/-- Two temperature reports around one of an undiscovered device, and an outdoor
temperature. -/
def sampleMessages : List TrpcPacket :=
  [{ serviceId := 2, methodId := 0x137, body := .ofList [("address", 1011), ("temp", 700)] },
    { serviceId := 2, methodId := 0x137, body := .ofList [("address", 9), ("temp", 1)] },
    { serviceId := 4, methodId := 0x137, body := .ofList [("address", 1011), ("temp", 710)] },
    { serviceId := 2, methodId := 0x117, body := .ofList [("temp", 500)] }]

theorem applyMessages_lastValue_sample :
    (∃ after, (sampleState.applyMessages sampleMessages).runtime 1011 = some after ∧
      after.scalar .currentTemperature = some 710) ∧
    (∃ after, (sampleState.applyMessages sampleMessages).runtime 2022 = some after ∧
      after.scalar .currentTemperature = none) ∧
    (sampleState.applyMessages sampleMessages).data.gateway.outdoorTemp = some 500 := by
  have hdecoded : ∀ m ∈ sampleMessages, ∃ data, TrpcPacket.fromBytes data = .ok m := by
    simp only [sampleMessages, List.forall_mem_cons]
    exact ⟨⟨[2, 0x37, 1, 0, 0, 0xF3, 3, 0xBC, 2], by decide⟩,
      ⟨[2, 0x37, 1, 0, 0, 9, 0, 1], by decide⟩,
      ⟨[4, 0x37, 1, 0, 0, 0xF3, 3, 0xC6, 2], by decide⟩,
      ⟨[2, 0x17, 1, 0, 0, 0xF4, 1], by decide⟩, fun _ h => absurd h List.not_mem_nil⟩
  obtain ⟨-, hdevices, -, -, houtdoor, -⟩ :=
    applyMessages_lastValue sampleState ⟨by decide, by decide⟩ sampleMessages hdecoded
  refine ⟨?_, ?_, houtdoor.trans (by decide)⟩
  · obtain ⟨before, after, hbefore, hafter, hvalue⟩ := hdevices 1011 (by decide)
    exact ⟨after, hafter, (hvalue .currentTemperature).trans (by
      rw [← Option.some.inj hbefore]
      decide)⟩
  · obtain ⟨before, after, hbefore, hafter, hvalue⟩ := hdevices 2022 (by decide)
    exact ⟨after, hafter, (hvalue .currentTemperature).trans (by
      rw [← Option.some.inj hbefore]
      decide)⟩

end Tekmar482State

end Tekmar482
