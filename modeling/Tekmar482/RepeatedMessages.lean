import Tekmar482.StateRebuild

/-!
# Repeated messages

A message that was just applied changes nothing when it arrives again: every write of
the reducer is a fixed point after one step, and so is the rebuild of the device list.
-/

namespace Tekmar482

namespace SetpointValues

theorem withValue_withValue (self : SetpointValues) (setback : ThaSetback) (value : Option Int) :
    (self.withValue setback value).withValue setback value = self.withValue setback value := by
  simp only [withValue]
  by_cases hcurrent : setback = .current
  · subst hcurrent
    simp only [if_true]
    cases hobserved : observedSetback self.activeSetback with
    | none => simp only [Function.update_idem]
    | some slot =>
        have hslot : slot ≠ .current := by
          intro h
          subst h
          simp only [observedSetback] at hobserved
          split at hobserved
          · cases hobserved
          · split at hobserved <;> simp_all
        simp only [Function.update_comm hslot, Function.update_idem]
  · simp only [if_neg hcurrent, Function.update_idem]

end SetpointValues

namespace DeviceRuntime

theorem withScalar_withScalar (self : DeviceRuntime) (value : ScalarValue) (raw : Option Int) :
    (self.withScalar value raw).withScalar value raw = self.withScalar value raw := by
  cases value <;> simp [withScalar, SetpointValues.withActiveSetback]

theorem withSetpoint_withSetpoint (self : DeviceRuntime) (value : SetpointMap)
    (setback : ThaSetback) (raw : Option Int) :
    (self.withSetpoint value setback raw).withSetpoint value setback raw =
      self.withSetpoint value setback raw := by
  cases value <;> simp [withSetpoint, SetpointValues.withValue_withValue]

end DeviceRuntime

/-- A device message writes what it wrote before. -/
theorem applyRuntimeMessage_again {runtime updated : DeviceRuntime} {method : TrpcMethod}
    {message : TrpcPacket} (h : applyRuntimeMessage runtime method message = some updated) :
    applyRuntimeMessage updated method message = some updated := by
  simp only [applyRuntimeMessage, applySetpointReport] at h ⊢
  cases hscalar : scalarMethods method with
  | some entry =>
      simp only [hscalar, Option.some.injEq] at h ⊢
      rw [← h, DeviceRuntime.withScalar_withScalar]
  | none =>
      simp only [hscalar] at h ⊢
      cases hsetpoint : setpointMethods method with
      | none => simp only [hsetpoint, reduceCtorEq] at h
      | some entry =>
          simp only [hsetpoint] at h ⊢
          cases hslot : setbackFromValue (message.get "setback") with
          | none => simp only [hslot, reduceCtorEq] at h
          | some setback =>
              simp only [hslot, Option.some.injEq] at h ⊢
              rw [← h, DeviceRuntime.withSetpoint_withSetpoint]

theorem updatedRuntime_updatedRuntime (runtime : DeviceRuntime) (message : TrpcPacket) :
    updatedRuntime (updatedRuntime runtime message) message = updatedRuntime runtime message := by
  cases hmethod : message.method with
  | none => simp only [updatedRuntime, hmethod]
  | some method =>
      have hinfo := info_updatedRuntime runtime message
      simp only [updatedRuntime, hmethod] at hinfo ⊢
      split
      · rename_i hacts
        rw [if_pos hacts] at hinfo
        rw [hinfo, if_pos hacts]
        cases happly : applyRuntimeMessage runtime method message with
        | none => rw [Option.getD_none, happly, Option.getD_none]
        | some updated =>
            rw [Option.getD_some, applyRuntimeMessage_again happly, Option.getD_some]
      · rfl

theorem gatewayAfter_gatewayAfter (gateway : GatewaySnapshot) (method : TrpcMethod)
    (message : TrpcPacket) :
    gatewayAfter (gatewayAfter gateway method message) method message =
      gatewayAfter gateway method message := by
  cases method with
  | setpointGroupEnable =>
      simp only [gatewayAfter, applyGatewayMessage]
      cases message.get "group_id" with
      | none => rfl
      | some groupId => simp [Finmap.insert_insert]
  | dateTime =>
      simp only [gatewayAfter, applyGatewayMessage]
      cases messageDatetime message <;> rfl
  | _ => rfl

theorem updatedGateway_updatedGateway (gateway : GatewaySnapshot) (message : TrpcPacket) :
    updatedGateway (updatedGateway gateway message) message = updatedGateway gateway message := by
  simp only [updatedGateway]
  cases message.method with
  | none => rfl
  | some method =>
      simp only
      split
      · exact gatewayAfter_gatewayAfter gateway method message
      · rfl

/-- The snapshot that a message leaves is one that the message does not change. -/
theorem applyOrKeep_applyOrKeep (discovery : DiscoveryResult) (data : AvailableInfo)
    (message : TrpcPacket) :
    applyOrKeep discovery (applyOrKeep discovery data message) message =
      applyOrKeep discovery data message := by
  apply AvailableInfo.ext
  · simp only [gateway_applyOrKeep, updatedGateway_updatedGateway]
  · by_cases hagain : Reaches discovery (applyOrKeep discovery data message) message
    · by_cases hfirst : Reaches discovery data message
      · -- Both rebuilds read the discovered addresses, where the second finds the first's work.
        rw [devices_of_reaches hagain, devices_of_reaches hfirst]
        apply List.filterMap_congr
        intro device hdevice
        have hknown : device.address ∈ discovery.addresses := List.mem_map_of_mem hdevice
        rw [updatedSnapshots, get?_applyOrKeep hknown, updatedSnapshots, Option.map_map]
        congr 1
        funext snapshot
        simp only [Function.comp_apply, updatedRuntime_updatedRuntime]
      · -- The first message kept the devices, so the second cannot find more than it did.
        obtain ⟨hcarries, address, hknown, haddress, hfound⟩ := hagain
        rw [AvailableInfo.snapshots, devices_of_not_reaches hfirst] at hfound
        exact absurd ⟨hcarries, address, hknown, haddress, hfound⟩ hfirst
    · exact devices_of_not_reaches hagain

namespace Tekmar482State

theorem applyMessage_eq_self {state : Tekmar482State} {message : TrpcPacket}
    (h : applyOrKeep state.discovery state.data message = state.data) :
    state.applyMessage message = (false, state) := by
  rw [applyOrKeep] at h
  simp only [applyMessage]
  cases happly : Tekmar482.applyMessage state.discovery state.data message with
  | none => rfl
  | some updated =>
      rw [happly, Option.getD_some] at h
      simp only [h, if_true]

/-- A message that was just applied reports no change and leaves the data as it is,
whatever the discovery and the snapshot hold. -/
theorem applyMessage_again (state : Tekmar482State) (message : TrpcPacket) :
    (state.applyMessage message).2.applyMessage message =
      (false, (state.applyMessage message).2) := by
  apply applyMessage_eq_self
  rw [discovery_applyMessage, data_applyMessage]
  exact applyOrKeep_applyOrKeep state.discovery state.data message

end Tekmar482State

end Tekmar482
