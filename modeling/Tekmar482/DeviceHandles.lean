import Tekmar482.LiveSnapshots

/-!
# Writes of device handles

While a poll only replaces the state of the discovery that it has polled, the live state and
the discovery have the same devices. So a handle writes what the live runtime of its device
has, and raises an error for everything else.
-/

namespace Tekmar482

open Machine

/-! ## The state and its discovery -/

namespace Tekmar482State

/-- Every device of the discovery has a snapshot, and no other has. -/
def Matches (self : Tekmar482State) : Prop :=
  ∀ address, self.device address = (self.data.snapshots.get? address).map DeviceSnapshot.info

theorem matches_of_infos {discovery : DiscoveryResult} {data : AvailableInfo}
    (h : data.devices.map DeviceSnapshot.info = discovery.devices) :
    Matches { discovery, data } := by
  have hdevices : discoveryDevices { discovery, data } =
      data.snapshots.mapValues DeviceSnapshot.info := by
    rw [AvailableInfo.snapshots, OrderedDict.mapValues_ofList, discoveryDevices, ← h, List.map_map,
      List.map_map]
    rfl
  intro address
  rw [device, hdevices, OrderedDict.get?_mapValues]

variable {state : Tekmar482State}

theorem matches_applyDeviceMessage (h : state.Matches) {data : AvailableInfo} {address : Int}
    {method : TrpcMethod} {message : TrpcPacket}
    (happlied : applyDeviceMessage state.discovery state.data address method message = some data) :
    ({ state with data } : Tekmar482State).Matches := by
  simp only [applyDeviceMessage] at happlied
  split at happlied
  · cases happlied
  · rename_i snapshot hsnapshot
    split at happlied
    · cases happlied
    · rename_i runtime hruntime
      cases happlied
      have hinfo : (DeviceSnapshot.mk runtime).info = snapshot.info :=
        info_applyRuntimeMessage hruntime
      -- the updated dictionary still finds each device under its address
      let updated := state.data.snapshots.set address { runtime := runtime }
      have hmap (other : Int) : (updated.get? other).map DeviceSnapshot.info = state.device other := by
        rw [h other, OrderedDict.get?_set]
        split
        · rename_i heq
          rw [heq, hsnapshot, Option.map_some, Option.map_some, hinfo]
        · rfl
      have hkey {other : Int} {found : DeviceSnapshot} (hfound : updated.get? other = some found) :
          found.info.address = other := by
        rw [OrderedDict.get?_set] at hfound
        split at hfound
        · rename_i heq
          cases hfound
          rw [hinfo, heq]
          exact (AvailableInfo.mem_of_get?_snapshots hsnapshot).2
        · exact (AvailableInfo.mem_of_get?_snapshots hfound).2
      have hgraph : ∀ item ∈ (state.discovery.devices.filterMap fun device =>
          updated.get? device.address).map fun found => (found.info.address, found),
          updated.get? item.1 = some item.2 := by
        intro item hitem
        obtain ⟨found, hfound, rfl⟩ := List.mem_map.mp hitem
        obtain ⟨device, -, hget⟩ := List.mem_filterMap.mp hfound
        exact hkey hget ▸ hget
      intro other
      change state.device other = ((OrderedDict.ofList _).get? other).map DeviceSnapshot.info
      rw [OrderedDict.get?_ofList_of_graph hgraph]
      split
      · exact (hmap other).symm
      · rename_i hnone
        rw [Option.map_none, ← hmap other, Option.map_eq_none_iff]
        rw [Option.eq_none_iff_forall_ne_some]
        intro found hfound
        apply hnone
        obtain ⟨device, hdevice, haddress⟩ : ∃ device ∈ state.discovery.devices,
            device.address = other := by
          have hsome : state.device other = some found.info := by
            rw [← hmap other, hfound, Option.map_some]
          obtain ⟨device, hdevice, heq⟩ :=
            List.mem_map.mp (OrderedDict.mem_of_get?_ofList hsome)
          exact ⟨device, hdevice, congrArg Prod.fst heq⟩
        have hmem : found ∈ state.discovery.devices.filterMap fun device =>
            updated.get? device.address :=
          List.mem_filterMap.mpr ⟨device, hdevice, haddress ▸ hfound⟩
        have hpair := List.mem_map_of_mem (f := fun found : DeviceSnapshot =>
          (found.info.address, found)) hmem
        exact hkey hfound ▸ List.mem_map_of_mem (f := Prod.fst) hpair

/-- A message keeps the devices of the state. -/
theorem Matches.applyMessage (h : state.Matches) (message : TrpcPacket) :
    (state.applyMessage message).2.Matches := by
  suffices hdata : ∀ data, Tekmar482.applyMessage state.discovery state.data message = some data →
      ({ state with data } : Tekmar482State).Matches by
    simp only [Tekmar482State.applyMessage]
    split
    · exact h
    · rename_i data hdata'
      split
      · exact h
      · exact hdata data hdata'
  intro data happlied
  simp only [Tekmar482.applyMessage] at happlied
  split at happlied
  · split at happlied
    · cases happlied
    · split at happlied
      · intro address
        rw [AvailableInfo.snapshots, devices_applyGatewayMessage happlied]
        exact h address
      · split at happlied
        · split at happlied
          · cases happlied
          · split at happlied
            · exact matches_applyDeviceMessage h happlied
            · cases happlied
        · cases happlied
  · cases happlied

/-- The device of a runtime is the discovered one. -/
theorem Matches.device_eq (h : state.Matches) (address : Int) :
    state.device address = (state.runtime address).map DeviceRuntime.info := by
  rw [h address, runtime, Option.map_map]
  rfl

end Tekmar482State

namespace ControllerSystem

variable {s t : ControllerSystem} {options : ControllerOptions}

/-- When a poll replaces the state, the controller still has the discovery that was polled. -/
def InstallsPolled (self : ControllerSystem) (action : ControllerAction) : Prop :=
  ∀ task ∈ self.installing action, self.discovery = task.discovery

instance (self : ControllerSystem) (action : ControllerAction) :
    Decidable (self.InstallsPolled action) :=
  inferInstanceAs (Decidable (∀ _ ∈ self.installing action, _))

/-- The live state has the devices of its discovery. -/
structure Matching (system : ControllerSystem) : Prop where
  fitting : Fitting system
  state : ∀ state, system.state = some state → state.Matches

@[simp] theorem state_setTask (s : ControllerSystem) (task : Task) (id : Option Nat) :
    (s.setTask task id).state = s.state := by
  cases id <;> rfl

@[simp] theorem state_observe (s : ControllerSystem) (action : DispatcherAction)
    (after : Dispatcher) : (s.observe action after).state = s.state := by
  cases action <;> rfl

@[simp] theorem state_unsubscribed (s : ControllerSystem) : s.unsubscribed.state = s.state := by
  unfold unsubscribed
  split <;> rfl

/-- What one step does to the state: nothing, one message, or a poll that replaces it. -/
inductive StateStep (before : ControllerSystem) (action : ControllerAction)
    (after : Option Tekmar482State) : Prop
  | kept (same : after = before.state)
  | applied (message : TrpcPacket)
      (changed : after = before.state.map fun state => (state.applyMessage message).2)
  | installed (task : Task) (data : AvailableInfo) (installing : task ∈ before.installing action)
      (polled : ∃ discovery, task.discovery = some discovery ∧
        data.devices.map DeviceSnapshot.info = discovery.devices)
      (replaced : after = before.discovery.map fun discovery => { discovery, data })

theorem stateStep (h : Fitting s) {action : ControllerAction} (hstep : s.step options action = some t) :
    StateStep s action t.state := by
  cases step_cases options hstep with
  | session => exact .kept (state_observe ..)
  | call => exact .kept rfl
  | request => exact .kept (state_setTask ..)
  | resume => exact .kept (state_setTask ..)
  | iterate => exact .kept rfl
  | @take queue item after _ _ =>
      cases item with
      | message arrival =>
          simp only [handleItem, handleMessage]
          split
          · exact .kept rfl
          · exact .applied arrival.message rfl
      | stop => exact .kept (state_unsubscribed _)
      | error err => exact .kept (state_unsubscribed _)
  | @proceed id task after call next reply system htask hroutine hperform =>
      rw [state_setTask]
      cases call with
      | session call => cases hperform
      | runningData | isRunning | data | discovery | setDiscovery discovery | runReportLoop
      | subscribe =>
          cases hperform
          exact .kept rfl
      | stopReportLoop =>
          cases hperform
          exact .kept (state_unsubscribed s)
      | applyMessage message =>
          cases hperform
          exact .applied message rfl
      | setState data =>
          cases hperform
          obtain ⟨told, -, ⟨-, hpolled⟩, -⟩ := h.call htask hroutine
          have hinstalling : task ∈ s.installing (.proceed id) := by
            rw [installing, atCall, htask, Option.bind_some, hroutine]
            rfl
          exact .installed task data hinstalling hpolled rfl

/-- Every step that replaces the state with what was polled keeps the devices. -/
theorem Matching.step (h : Matching s) {action : ControllerAction}
    (hinstalls : s.InstallsPolled action) (hstep : s.step options action = some t) :
    Matching t := by
  refine ⟨h.fitting.step hstep, fun state hstate => ?_⟩
  cases stateStep h.fitting hstep with
  | kept hsame => exact h.state state (hsame ▸ hstate)
  | applied message hchanged =>
      rw [hchanged] at hstate
      obtain ⟨before, hbefore, rfl⟩ := Option.map_eq_some_iff.mp hstate
      exact (h.state before hbefore).applyMessage message
  | installed task data hinstalling hpolled hreplaced =>
      obtain ⟨discovery, hdiscovery, hinfos⟩ := hpolled
      rw [hreplaced, hinstalls task hinstalling, hdiscovery] at hstate
      cases hstate
      exact Tekmar482State.matches_of_infos hinfos

theorem Matching.run {actions : List ControllerAction} (hfresh : s.Fresh)
    (hempty : ∀ queue, (s.dispatcher.queues queue).items = [])
    (hrun : RunWhere (ControllerSystem.step options) InstallsPolled s actions t) : Matching t := by
  apply hrun.invariant
  · exact fun system action after hmatching hinstalls hstep => hmatching.step hinstalls hstep
  · refine ⟨hfresh.fitting hempty, fun state hstate => ?_⟩
    obtain ⟨-, -, -, hnone, -⟩ := hfresh
    rw [hnone] at hstate
    cases hstate

end ControllerSystem

/-! ## Writes -/

/-- The command of a request to the session. -/
def SessionRequest.command {κ : Type} : SessionRequest κ → TrpcCommand
  | .send command | .requestResponse command _ _ | .updateResponse command _ _
  | .coalescedUpdate command _ | .coalescedUpdateResponse command _ _ _ => command

/-- What a handle can write. -/
inductive HandleWrite where
  | heatSetpoint (celsius : ℚ) (setback : Int)
  | coolSetpoint (celsius : ℚ) (setback : Int)
  | slabSetpoint (celsius : ℚ) (setback : Int)
  | setpointDevice (celsius : ℚ) (setback : Int)
  | fanPercent (percent setback : Int)
  | mode (mode : Int)

namespace HandleWrite

/-- The value that is written. -/
def value : HandleWrite → DeviceValue
  | .heatSetpoint _ _ => .setpoints .heatSetpoints
  | .coolSetpoint _ _ => .setpoints .coolSetpoints
  | .slabSetpoint _ _ => .setpoints .slabSetpoints
  | .setpointDevice _ _ => .setpoints .setpointTargets
  | .fanPercent _ _ => .setpoints .fanPercent
  | .mode _ => .scalar .modeSetting

/-- The client's setter. -/
def request (address : Int) (confirm hasTimeout : Bool) :
    HandleWrite → Except PyException (SessionRequest (List Int))
  | .heatSetpoint celsius setback =>
      .ok (Client.setLatestHeatSetpointCelsius address setback hasTimeout celsius confirm)
  | .coolSetpoint celsius setback =>
      .ok (Client.setLatestCoolSetpointCelsius address setback hasTimeout celsius confirm)
  | .slabSetpoint celsius setback =>
      .ok (Client.setLatestSlabSetpointCelsius address setback hasTimeout celsius confirm)
  | .setpointDevice celsius setback =>
      .ok (Client.setLatestSetpointDeviceCelsius address setback hasTimeout celsius confirm)
  | .fanPercent percent setback =>
      Client.setLatestFanPercent address setback hasTimeout percent confirm
  | .mode raw => Client.setMode address raw confirm hasTimeout

end HandleWrite

namespace DeviceHandle

/-- The handle's setter. -/
def write (self : DeviceHandle) (confirm hasTimeout : Bool) :
    HandleWrite → Except PyException (SessionRequest (List Int))
  | .heatSetpoint celsius setback =>
      self.setHeatSetpointCelsius confirm hasTimeout celsius setback
  | .coolSetpoint celsius setback =>
      self.setCoolSetpointCelsius confirm hasTimeout celsius setback
  | .slabSetpoint celsius setback =>
      self.setSlabSetpointCelsius confirm hasTimeout celsius setback
  | .setpointDevice celsius setback =>
      self.setSetpointDeviceCelsius confirm hasTimeout celsius setback
  | .fanPercent percent setback => self.setFanPercent confirm hasTimeout percent setback
  | .mode raw => self.setMode confirm hasTimeout raw

/-- A setter of the handle is the client's after the check of the method. -/
theorem write_eq (self : DeviceHandle) (confirm hasTimeout : Bool) (write : HandleWrite) :
    self.write confirm hasTimeout write =
      self.supported write.value.method (write.request self.address confirm hasTimeout) := by
  cases write <;> rfl

end DeviceHandle

/-- The update of a setpoint of a device. -/
theorem command_coalescedSetbackPayload (method : TrpcMethod) (payload : SetbackPayload)
    (confirm hasTimeout : Bool) :
    (Client.coalescedSetbackPayload method payload confirm hasTimeout).command =
      .update method payload.asFields := by
  cases confirm <;> rfl

/-- An update of a device, sent to its address. -/
def TrpcCommand.UpdatesDevice (self : TrpcCommand) (method : TrpcMethod) (address : Int) : Prop :=
  ∃ fields, self = .update method fields ∧ fields.get? "address" = some address

theorem updatesDevice_setback {name : String} (hname : name ≠ "address" ∧ name ≠ "setback")
    (method : TrpcMethod) (address setback value : Int) (confirm hasTimeout : Bool) :
    (Client.coalescedSetbackPayload method ⟨address, setback, name, value⟩ confirm
      hasTimeout).command.UpdatesDevice method address := by
  refine ⟨_, command_coalescedSetbackPayload _ _ _ _, ?_⟩
  rw [OrderedDict.get?_eq_some_iff, SetbackPayload.entries_asFields _ hname]
  exact List.mem_cons_self

/-- The client sends one update of the written value to the device. -/
theorem HandleWrite.updatesDevice {write : HandleWrite} {address : Int} {confirm hasTimeout : Bool}
    {request : SessionRequest (List Int)}
    (h : write.request address confirm hasTimeout = .ok request) :
    request.command.UpdatesDevice write.value.method address := by
  cases write with
  | heatSetpoint celsius setback | coolSetpoint celsius setback | slabSetpoint celsius setback
  | setpointDevice celsius setback =>
      cases h
      exact updatesDevice_setback (by decide) _ _ _ _ _ _
  | fanPercent percent setback =>
      change (Client.validatePercent percent).map _ = .ok request at h
      cases hvalid : Client.validatePercent percent with
      | error err =>
          rw [hvalid] at h
          cases h
      | ok _ =>
          rw [hvalid] at h
          cases h
          exact updatesDevice_setback (by decide) _ _ _ _ _ _
  | mode raw =>
      change Client.setMode address raw confirm hasTimeout = .ok request at h
      unfold Client.setMode at h
      split at h
      · cases h
        refine ⟨modeSettingFields address raw, ?_, ?_⟩
        · cases confirm <;> rfl
        · have hentries : (modeSettingFields address raw).entries =
              [("address", address), ("mode", raw)] :=
            OrderedDict.entries_ofList (by simp)
          rw [OrderedDict.get?_eq_some_iff, hentries]
          exact List.mem_cons_self
      · cases h

namespace ControllerSystem

variable {options : ControllerOptions} {s t : ControllerSystem} {actions : List ControllerAction}

/-- A handle shows the runtime of the live state. -/
theorem runtime_eq {state : Tekmar482State} (hstate : t.state = some state) (address : Int) :
    (DeviceHandle.mk t address).runtime = state.runtime address := by
  simp only [DeviceHandle.runtime, hstate]

/-- What a handle checks before a write, on a state with the devices of its discovery. -/
theorem requireSupport_eq {state : Tekmar482State} (hmatches : state.Matches)
    (hstate : t.state = some state) (address : Int) (method : TrpcMethod) :
    (DeviceHandle.mk t address).requireSupport method =
      match (DeviceHandle.mk t address).runtime with
      | none => .error (unknownAddress address)
      | some runtime => requireDeviceSupport runtime.info method := by
  simp only [DeviceHandle.requireSupport, runtime_eq hstate, hstate,
    Tekmar482State.requireDeviceSupport, hmatches.device_eq]
  cases state.runtime address <;> rfl

/-- The live runtime of a device is the one of a snapshot that fits. -/
theorem fits_of_runtime (h : Fitting t) {state : Tekmar482State} (hstate : t.state = some state)
    {address : Int} {runtime : DeviceRuntime}
    (hruntime : (DeviceHandle.mk t address).runtime = some runtime) :
    runtime.info.address = address ∧
      ∀ value, runtime.info.offers state.data.gateway.info.protocolVersion value = true →
        value ∈ runtime.availableValues := by
  rw [runtime_eq hstate] at hruntime
  obtain ⟨snapshot, hget, rfl⟩ := Option.map_eq_some_iff.mp hruntime
  obtain ⟨hmem, haddress⟩ := AvailableInfo.mem_of_get?_snapshots hget
  exact ⟨haddress, (h.state state hstate snapshot hmem).offered⟩

end ControllerSystem

/-- What can be written does not depend on the protocol version. -/
theorem HandleWrite.offers_value (write : HandleWrite) (device : DiscoveredDevice)
    (protocolVersion : Option Int) :
    device.offers protocolVersion write.value = deviceSupportsMethod device write.value.method := by
  cases write <;> exact Bool.and_true _

namespace ControllerSystem

variable {options : ControllerOptions} {s t : ControllerSystem} {actions : List ControllerAction}

/-- The check of a handle passes exactly for a live device that supports the method. -/
theorem write_eq_of_matches {state : Tekmar482State} (hfitting : Fitting t)
    (hmatches : state.Matches) (hstate : t.state = some state) (address : Int)
    (confirm hasTimeout : Bool) (write : HandleWrite) :
    (DeviceHandle.mk t address).write confirm hasTimeout write =
      match (DeviceHandle.mk t address).runtime with
      | none => .error (unknownAddress address)
      | some runtime =>
          if deviceSupportsMethod runtime.info write.value.method then
            write.request address confirm hasTimeout
          else .error (unsupportedMethod address write.value.method) := by
  rw [DeviceHandle.write_eq, DeviceHandle.supported, requireSupport_eq hmatches hstate]
  cases hruntime : (DeviceHandle.mk t address).runtime with
  | none => rfl
  | some runtime =>
      have haddress := (fits_of_runtime hfitting hstate hruntime).1
      simp only
      rw [requireDeviceSupport, haddress]
      split <;> rfl

/-- In every run in which a poll only replaces the state of the discovery that it has polled, a
write of a handle fails for an address without a device in the live state and for a method that
the device does not support, and is otherwise the one of the client. A write that succeeds is one
update that is sent to a device of the live state, and of a value that its runtime has. -/
theorem handle_writes (hfresh : s.Fresh)
    (hempty : ∀ queue, (s.dispatcher.queues queue).items = [])
    (hrun : RunWhere (step options) InstallsPolled s actions t) {state : Tekmar482State}
    (hstate : t.state = some state) (address : Int) (confirm hasTimeout : Bool)
    (write : HandleWrite) :
    let handle : DeviceHandle := { controller := t, address }
    (handle.write confirm hasTimeout write =
      match handle.runtime with
      | none => .error (unknownAddress address)
      | some runtime =>
          if deviceSupportsMethod runtime.info write.value.method then
            write.request address confirm hasTimeout
          else .error (unsupportedMethod address write.value.method)) ∧
    ∀ request, handle.write confirm hasTimeout write = .ok request →
      request.command.UpdatesDevice write.value.method address ∧
        ∃ runtime, handle.runtime = some runtime ∧ runtime.info.address = address ∧
          deviceSupportsMethod runtime.info write.value.method = true ∧
          write.value ∈ runtime.availableValues := by
  intro handle
  have hmatching := Matching.run hfresh hempty hrun
  have hwrite := write_eq_of_matches hmatching.fitting (hmatching.state state hstate) hstate address
    confirm hasTimeout write
  refine ⟨hwrite, fun request hok => ?_⟩
  rw [hwrite] at hok
  cases hruntime : handle.runtime with
  | none =>
      rw [hruntime] at hok
      cases hok
  | some runtime =>
      obtain ⟨haddress, hoffered⟩ := fits_of_runtime hmatching.fitting hstate hruntime
      rw [hruntime] at hok
      change (if deviceSupportsMethod runtime.info write.value.method then _ else _) = _ at hok
      split at hok
      · rename_i hsupports
        refine ⟨HandleWrite.updatesDevice hok, runtime, rfl, haddress, hsupports, hoffered _ ?_⟩
        rw [write.offers_value]
        exact hsupports
      · cases hok

/-- A start that finds one device with a heat setpoint. -/
def heatActions : List ControllerAction :=
  [.call .start, .proceed (some 0), .resume (some 0) (.returned true)] ++
    unanswered 0 [0] ++ discoveredGateway ++ unanswered 0 [3, 4] ++
    answered 0 5
      { serviceId := TrpcService.responseRequest.value
        methodId := TrpcMethod.deviceAttributes.value
        body := .ofList
          [("address", 1011), ("attributes", DeviceAttributeBit.HEAT_SETPOINT)] } ++
    unanswered 0 [6] ++
    [.proceed (some 0), .proceed (some 0)] ++
    unanswered 0 [7, 8, 9, 10, 11, 12, 13, 14, 15] ++
    [.proceed (some 0)]

/-- A heat setpoint is written to the device that was found, which has no cool setpoint. -/
theorem handle_writes_sample : ∃ t state request runtime,
    RunWhere (step sampleOptions) InstallsPolled fresh heatActions t ∧ t.state = some state ∧
    (DeviceHandle.mk t 1011).write true false (.heatSetpoint 20 6) = .ok request ∧
    request.command.UpdatesDevice .heatSetpoint 1011 ∧
    (DeviceHandle.mk t 1011).runtime = some runtime ∧
    .setpoints .heatSetpoints ∈ runtime.availableValues ∧
    (DeviceHandle.mk t 1011).write true false (.coolSetpoint 20 6) =
      .error (unsupportedMethod 1011 .coolSetpoint) := by
  have hexec : ((execWhere (step sampleOptions) InstallsPolled fresh heatActions).bind fun t =>
      t.state.bind fun state => (DeviceHandle.mk t 1011).runtime).any (fun runtime =>
        deviceSupportsMethod runtime.info .heatSetpoint &&
          !deviceSupportsMethod runtime.info .coolSetpoint) = true := by
    decide +kernel
  obtain ⟨runtime, hfound, hsupports⟩ := (Option.any_eq_true _ _).mp hexec
  obtain ⟨t, ht, hlive⟩ := Option.bind_eq_some_iff.mp hfound
  obtain ⟨state, hstate, hruntime⟩ := Option.bind_eq_some_iff.mp hlive
  obtain ⟨hheat, hcool⟩ := Bool.and_eq_true_iff.mp hsupports
  replace hcool : ¬ deviceSupportsMethod runtime.info .coolSetpoint = true := by simpa using hcool
  have hrun := runWhere_of_execWhere ht
  have hwrites := handle_writes fresh_fresh (fun _ => rfl) hrun hstate 1011 true false
  have hwrite := (hwrites (.heatSetpoint 20 6)).1
  have hrefused := (hwrites (.coolSetpoint 20 6)).1
  rw [hruntime] at hwrite hrefused
  replace hwrite := hwrite.trans (if_pos hheat)
  obtain ⟨hupdates, found, hfound, -, -, havailable⟩ := (hwrites (.heatSetpoint 20 6)).2 _ hwrite
  exact ⟨t, state, _, found, hrun, hstate, hwrite, hupdates, hfound, havailable,
    hrefused.trans (if_neg hcool)⟩

end ControllerSystem

end Tekmar482
