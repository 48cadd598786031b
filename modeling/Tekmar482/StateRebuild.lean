import Tekmar482.StateStore

/-!
# The reducer on any snapshot

A snapshot may hold devices that were not discovered, or several of one address. The
first message that reaches a device rebuilds the snapshot from the discovery; from
then on it holds the discovered devices that it knew, in discovery order.
-/

namespace Tekmar482

/-- The addresses of the discovered devices. -/
def DiscoveryResult.addresses (self : DiscoveryResult) : List Int :=
  self.devices.map DiscoveredDevice.address

/-- A snapshot is found under its own address. -/
theorem AvailableInfo.address_of_get? {data : AvailableInfo} {address : Int}
    {snapshot : DeviceSnapshot} (h : data.snapshots.get? address = some snapshot) :
    snapshot.info.address = address := by
  obtain ⟨found, _, heq⟩ := List.mem_map.mp (OrderedDict.mem_of_get?_ofList h)
  obtain ⟨haddress, rfl⟩ := Prod.mk.inj heq
  exact haddress

/-- The devices that a lookup finds for the discovered addresses, in discovery order. -/
def rebuilt (discovery : DiscoveryResult) (find : Int → Option DeviceSnapshot) :
    List DeviceSnapshot :=
  discovery.devices.filterMap fun device => find device.address

section Rebuilt

variable {discovery : DiscoveryResult} {find : Int → Option DeviceSnapshot}

theorem mem_rebuilt (hfind : ∀ address snapshot, find address = some snapshot →
      snapshot.info.address = address) {snapshot : DeviceSnapshot}
    (h : snapshot ∈ rebuilt discovery find) :
    snapshot.info.address ∈ discovery.addresses ∧ find snapshot.info.address = some snapshot := by
  obtain ⟨device, hdevice, hfound⟩ := List.mem_filterMap.mp h
  rw [hfind device.address snapshot hfound]
  exact ⟨List.mem_map_of_mem hdevice, hfound⟩

/-- A rebuilt snapshot finds what the lookup found, for the discovered addresses. -/
theorem get?_rebuilt (hfind : ∀ address snapshot, find address = some snapshot →
      snapshot.info.address = address) (gateway : GatewaySnapshot) (address : Int) :
    ({ gateway, devices := rebuilt discovery find } : AvailableInfo).snapshots.get? address =
      if address ∈ discovery.addresses then find address else none := by
  have hfound (snapshot : DeviceSnapshot) (h : ({ gateway, devices := rebuilt discovery find } :
      AvailableInfo).snapshots.get? address = some snapshot) :
      address ∈ discovery.addresses ∧ find address = some snapshot := by
    obtain ⟨_, hmem, heq⟩ := List.mem_map.mp (OrderedDict.mem_of_get?_ofList h)
    obtain ⟨haddress, rfl⟩ := Prod.mk.inj heq
    rw [← haddress]
    exact mem_rebuilt hfind hmem
  by_cases hknown : address ∈ discovery.addresses
  · rw [if_pos hknown]
    cases hlookup : find address with
    | none =>
        by_contra hsome
        obtain ⟨snapshot, hsnapshot⟩ := Option.ne_none_iff_exists'.mp hsome
        rw [(hfound snapshot hsnapshot).2] at hlookup
        cases hlookup
    | some snapshot =>
        obtain ⟨device, hdevice, haddress⟩ := List.mem_map.mp hknown
        have hmem : snapshot ∈ rebuilt discovery find :=
          List.mem_filterMap.mpr ⟨device, hdevice, by rw [haddress, hlookup]⟩
        have hsome : ({ gateway, devices := rebuilt discovery find } :
            AvailableInfo).snapshots.get? address ≠ none := by
          rw [Ne, AvailableInfo.snapshots, OrderedDict.get?_ofList_eq_none_iff, not_not]
          refine List.mem_map.mpr ⟨(snapshot.info.address, snapshot),
            List.mem_map_of_mem (f := fun snapshot => (snapshot.info.address, snapshot)) hmem, ?_⟩
          exact hfind address snapshot hlookup
        obtain ⟨other, hother⟩ := Option.ne_none_iff_exists'.mp hsome
        have heq := (hfound other hother).2
        rw [hlookup] at heq
        rw [hother, heq]
  · rw [if_neg hknown]
    by_contra hsome
    obtain ⟨snapshot, hsnapshot⟩ := Option.ne_none_iff_exists'.mp hsome
    exact hknown (hfound snapshot hsnapshot).1

end Rebuilt

/-! ## Messages that reach a device -/

/-- Whether a message of a device method has a slot that its value is stored in. -/
def storable (method : TrpcMethod) (message : TrpcPacket) : Bool :=
  (scalarMethods method).isSome ||
    ((setpointMethods method).isSome && (setbackFromValue (message.get "setback")).isSome)

theorem isSome_applyRuntimeMessage_eq (runtime : DeviceRuntime) (method : TrpcMethod)
    (message : TrpcPacket) :
    (applyRuntimeMessage runtime method message).isSome = storable method message := by
  simp only [applyRuntimeMessage, applySetpointReport, storable]
  cases scalarMethods method with
  | some entry => rfl
  | none =>
      cases setpointMethods method with
      | none => rfl
      | some entry => cases setbackFromValue (message.get "setback") <;> rfl

/-- Whether a message carries a value for a device. -/
def carriesValue (message : TrpcPacket) : Bool :=
  isRuntimeMessage message &&
    match message.method with
    | none => false
    | some method => decide (method ∈ deviceValueMethods) && storable method message

/-- A message reaches a device that is discovered and known when it carries a value
for its address. -/
def Reaches (discovery : DiscoveryResult) (data : AvailableInfo) (message : TrpcPacket) : Prop :=
  carriesValue message = true ∧ ∃ address ∈ discovery.addresses,
    message.get "address" = some address ∧ (data.snapshots.get? address).isSome = true

/-- A message without a value for a device leaves the device alone. -/
theorem updatedRuntime_eq_self {runtime : DeviceRuntime} {message : TrpcPacket}
    (h : ¬ (carriesValue message = true ∧
      message.get "address" = some runtime.info.address)) :
    updatedRuntime runtime message = runtime := by
  simp only [updatedRuntime]
  cases hmethod : message.method with
  | none => rfl
  | some method =>
      simp only
      split
      · rename_i hall
        have hstorable : storable method message = false := by
          by_contra hstorable
          refine h ⟨?_, hall.2.2⟩
          simp only [carriesValue, hmethod, hall.1, hall.2.1, decide_true, Bool.true_and]
          exact Bool.not_eq_false _ |>.mp hstorable
        rw [← isSome_applyRuntimeMessage_eq runtime, Option.isSome_eq_false_iff,
          Option.isNone_iff_eq_none] at hstorable
        rw [hstorable, Option.getD_none]
      · rfl

/-! ## One message -/

/-- The snapshot after a message, or the old one when the message updates nothing. -/
def applyOrKeep (discovery : DiscoveryResult) (data : AvailableInfo) (message : TrpcPacket) :
    AvailableInfo :=
  (applyMessage discovery data message).getD data

/-- What a message makes of the devices of a snapshot. -/
def updatedSnapshots (data : AvailableInfo) (message : TrpcPacket) (address : Int) :
    Option DeviceSnapshot :=
  (data.snapshots.get? address).map fun snapshot => ⟨updatedRuntime snapshot.runtime message⟩

theorem address_of_updatedSnapshots {data : AvailableInfo} {message : TrpcPacket} (address : Int)
    (snapshot : DeviceSnapshot) (h : updatedSnapshots data message address = some snapshot) :
    snapshot.info.address = address := by
  obtain ⟨before, hbefore, rfl⟩ := Option.map_eq_some_iff.mp h
  rw [DeviceSnapshot.info, info_updatedRuntime]
  exact AvailableInfo.address_of_get? hbefore

theorem gateway_applyOrKeep (discovery : DiscoveryResult) (data : AvailableInfo)
    (message : TrpcPacket) :
    (applyOrKeep discovery data message).gateway = updatedGateway data.gateway message := by
  have hstate := Tekmar482State.gateway_applyMessage ⟨discovery, data⟩ message
  rw [Tekmar482State.data_applyMessage] at hstate
  exact hstate

section Reaches

variable {discovery : DiscoveryResult} {data : AvailableInfo} {message : TrpcPacket}

/-- A message that reaches a device rebuilds the devices with its value. -/
theorem devices_of_reaches (h : Reaches discovery data message) :
    (applyOrKeep discovery data message).devices =
      rebuilt discovery (updatedSnapshots data message) := by
  obtain ⟨hcarries, address, hknown, haddress, hfound⟩ := h
  obtain ⟨before, hbefore⟩ := Option.isSome_iff_exists.mp hfound
  simp only [carriesValue, Bool.and_eq_true] at hcarries
  obtain ⟨hruntime, hcarries⟩ := hcarries
  cases hmethod : message.method with
  | none =>
      rw [hmethod] at hcarries
      cases hcarries
  | some method =>
      simp only [hmethod, Bool.and_eq_true, decide_eq_true_eq] at hcarries
      obtain ⟨hvalue, hstorable⟩ := hcarries
      have hgateway : method ∉ gatewayMethods := fun hmem =>
        not_mem_deviceValueMethods hmem hvalue
      rw [← isSome_applyRuntimeMessage_eq before.runtime] at hstorable
      obtain ⟨after, hafter⟩ := Option.isSome_iff_exists.mp hstorable
      have happly : applyMessage discovery data message = some { data with
          devices := discovery.devices.filterMap fun device =>
            (data.snapshots.set address ⟨after⟩).get? device.address } := by
        simp only [applyMessage, if_pos hruntime, hmethod, if_neg hgateway, if_pos hvalue,
          haddress]
        rw [if_pos (show address ∈ discovery.devices.map DiscoveredDevice.address from hknown)]
        simp only [applyDeviceMessage, hbefore, hafter]
      rw [applyOrKeep, happly, Option.getD_some, rebuilt]
      apply List.filterMap_congr
      intro device _
      have hreport (snapshot : DeviceSnapshot)
          (hsnapshot : data.snapshots.get? device.address = some snapshot) :
          updatedRuntime snapshot.runtime message =
            if device.address = address then
              (applyRuntimeMessage snapshot.runtime method message).getD snapshot.runtime
            else snapshot.runtime := by
        have hsame : snapshot.runtime.info.address = device.address :=
          AvailableInfo.address_of_get? hsnapshot
        simp only [updatedRuntime, hmethod, hruntime, hvalue, true_and, haddress, hsame,
          Option.some.injEq, eq_comm]
      rw [OrderedDict.get?_set, updatedSnapshots]
      by_cases hdevice : device.address = address
      · rw [if_pos hdevice, hdevice, hbefore, Option.map_some,
          hreport before (by rw [hdevice, hbefore]), if_pos hdevice, hafter, Option.getD_some]
      · rw [if_neg hdevice]
        cases hsnapshot : data.snapshots.get? device.address with
        | none => rfl
        | some snapshot => rw [Option.map_some, hreport snapshot hsnapshot, if_neg hdevice]

/-- Any other message leaves the devices as they are. -/
theorem devices_of_not_reaches (h : ¬ Reaches discovery data message) :
    (applyOrKeep discovery data message).devices = data.devices := by
  rw [applyOrKeep]
  cases happly : applyMessage discovery data message with
  | none => rfl
  | some updated =>
      rw [Option.getD_some]
      simp only [applyMessage] at happly
      split at happly
      · rename_i hruntime
        split at happly
        · cases happly
        · rename_i method hmethod
          split at happly
          · exact devices_applyGatewayMessage happly
          · split at happly
            · rename_i hvalue
              split at happly
              · cases happly
              · rename_i address haddress
                split at happly
                · rename_i hknown
                  simp only [applyDeviceMessage] at happly
                  split at happly
                  · cases happly
                  · rename_i snapshot hsnapshot
                    split at happly
                    · cases happly
                    · rename_i after hafter
                      refine absurd ⟨?_, address, hknown, haddress, ?_⟩ h
                      · have hstorable := isSome_applyRuntimeMessage_eq snapshot.runtime method
                          message
                        rw [hafter, Option.isSome_some] at hstorable
                        simp [carriesValue, hruntime, hmethod, hvalue, ← hstorable]
                      · rw [hsnapshot, Option.isSome_some]
                · cases happly
            · cases happly
      · cases happly

/-- A discovered device is found after a message with its value, if it was before. -/
theorem get?_applyOrKeep {address : Int} (hknown : address ∈ discovery.addresses) :
    (applyOrKeep discovery data message).snapshots.get? address =
      updatedSnapshots data message address := by
  by_cases h : Reaches discovery data message
  · rw [show applyOrKeep discovery data message =
        { gateway := (applyOrKeep discovery data message).gateway,
          devices := rebuilt discovery (updatedSnapshots data message) } by
      rw [← devices_of_reaches h]]
    rw [get?_rebuilt address_of_updatedSnapshots, if_pos hknown]
  · rw [AvailableInfo.snapshots, devices_of_not_reaches h]
    change data.snapshots.get? address = _
    rw [updatedSnapshots]
    cases hsnapshot : data.snapshots.get? address with
    | none => rfl
    | some snapshot =>
        have hsame : updatedRuntime snapshot.runtime message = snapshot.runtime := by
          apply updatedRuntime_eq_self
          rintro ⟨hcarries, haddress⟩
          have hown : snapshot.runtime.info.address = address :=
            AvailableInfo.address_of_get? hsnapshot
          refine h ⟨hcarries, address, hknown, ?_, ?_⟩
          · rw [haddress, hown]
          · rw [hsnapshot, Option.isSome_some]
        rw [Option.map_some, hsame]

end Reaches

end Tekmar482
