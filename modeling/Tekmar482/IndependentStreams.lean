import Tekmar482.StateRebuild
import Tekmar482.StateRegisters
import Tekmar482.Library.Projection

/-!
# Independent message streams

The messages to one device form a stream, and so do the gateway messages of one
method. How the streams are interleaved does not show in the snapshot after a run.
-/

namespace Tekmar482

open Projection

/-! ## Runs on any snapshot -/

/-- What a run makes of the devices of a snapshot. -/
def runSnapshots (data : AvailableInfo) (messages : List TrpcPacket) (address : Int) :
    Option DeviceSnapshot :=
  (data.snapshots.get? address).map fun snapshot =>
    ⟨messages.foldl updatedRuntime snapshot.runtime⟩

/-- A run acts on every discovered device that the snapshot knows. -/
theorem get?_foldl_applyOrKeep {discovery : DiscoveryResult} {address : Int}
    (hknown : address ∈ discovery.addresses) (messages : List TrpcPacket) (data : AvailableInfo) :
    (messages.foldl (applyOrKeep discovery) data).snapshots.get? address =
      runSnapshots data messages address := by
  induction messages generalizing data with
  | nil =>
      rw [runSnapshots]
      exact Option.map_id'.symm
  | cons message rest ih =>
      rw [List.foldl_cons, ih, runSnapshots, get?_applyOrKeep hknown, updatedSnapshots,
        Option.map_map]
      rfl

/-- Which messages reach a device does not change in a run. -/
theorem reaches_foldl_iff (discovery : DiscoveryResult) (data : AvailableInfo)
    (messages : List TrpcPacket) (message : TrpcPacket) :
    Reaches discovery (messages.foldl (applyOrKeep discovery) data) message ↔
      Reaches discovery data message := by
  apply and_congr_right
  intro _
  apply exists_congr
  intro address
  apply and_congr_right
  intro hknown
  rw [get?_foldl_applyOrKeep hknown, runSnapshots, Option.isSome_map]

/-- A run in which no message reaches a device leaves the devices as they are. -/
theorem devices_foldl_of_not_reaches {discovery : DiscoveryResult} {data : AvailableInfo}
    {messages : List TrpcPacket} (h : ∀ m ∈ messages, ¬ Reaches discovery data m) :
    (messages.foldl (applyOrKeep discovery) data).devices = data.devices := by
  induction messages using List.reverseRecOn with
  | nil => rfl
  | append_singleton messages message ih =>
      have hlast := h message (List.mem_append_right _ List.mem_cons_self)
      rw [List.foldl_concat, devices_of_not_reaches (by rwa [reaches_foldl_iff])]
      exact ih fun m hm => h m (List.mem_append_left _ hm)

/-- A run in which some message reaches a device ends with the discovered devices. -/
theorem devices_foldl_of_reaches {discovery : DiscoveryResult} {data : AvailableInfo}
    {messages : List TrpcPacket} (h : ∃ m ∈ messages, Reaches discovery data m) :
    (messages.foldl (applyOrKeep discovery) data).devices =
      rebuilt discovery (runSnapshots data messages) := by
  induction messages using List.reverseRecOn with
  | nil =>
      obtain ⟨_, hmem, _⟩ := h
      exact absurd hmem List.not_mem_nil
  | append_singleton messages message ih =>
      have hfound (device : DiscoveredDevice) (hdevice : device ∈ discovery.devices) :=
        get?_foldl_applyOrKeep (List.mem_map_of_mem hdevice : _ ∈ discovery.addresses)
          (messages ++ [message]) data
      by_cases hlast : Reaches discovery data message
      · rw [List.foldl_concat, devices_of_reaches (by rwa [reaches_foldl_iff])]
        apply List.filterMap_congr
        intro device hdevice
        rw [← hfound device hdevice, List.foldl_concat]
        exact (get?_applyOrKeep (List.mem_map_of_mem hdevice)).symm
      · have hrest : ∃ m ∈ messages, Reaches discovery data m := by
          obtain ⟨m, hmem, hm⟩ := h
          rcases List.mem_append.mp hmem with hmem | hmem
          · exact ⟨m, hmem, hm⟩
          · rw [List.mem_singleton.mp hmem] at hm
            exact absurd hm hlast
        have hsame : (applyOrKeep discovery (messages.foldl (applyOrKeep discovery) data)
            message).devices = (messages.foldl (applyOrKeep discovery) data).devices :=
          devices_of_not_reaches (by rwa [reaches_foldl_iff])
        rw [List.foldl_concat, hsame, ih hrest]
        apply List.filterMap_congr
        intro device hdevice
        have hknown : device.address ∈ discovery.addresses := List.mem_map_of_mem hdevice
        rw [← hfound device hdevice, ← get?_foldl_applyOrKeep hknown, List.foldl_concat,
          AvailableInfo.snapshots, AvailableInfo.snapshots, hsame]

theorem gateway_foldl_applyOrKeep (discovery : DiscoveryResult) (messages : List TrpcPacket)
    (data : AvailableInfo) :
    (messages.foldl (applyOrKeep discovery) data).gateway =
      messages.foldl updatedGateway data.gateway := by
  induction messages generalizing data with
  | nil => rfl
  | cons message rest ih => rw [List.foldl_cons, ih, gateway_applyOrKeep, List.foldl_cons]

/-! ## The streams -/

/-- The messages that carry an address. -/
def addressedTo (address : Int) (message : TrpcPacket) : Bool :=
  message.get "address" == some address

/-- The messages of a method. -/
def ofMethod (method : TrpcMethod) (message : TrpcPacket) : Bool :=
  message.method == some method

/-- The runtime of a device follows the messages to its address. -/
theorem stream_updatedRuntime (address : Int) :
    Stream (fun runtime : DeviceRuntime => runtime.info.address = address) updatedRuntime id
      (addressedTo address) where
  keep runtime message h := by rw [info_updatedRuntime, h]
  skip runtime message h hother := by
    apply updatedRuntime_eq_self
    rintro ⟨_, haddress⟩
    rw [h] at haddress
    rw [addressedTo, beq_eq_false_iff_ne] at hother
    exact hother haddress
  act runtime other message _ _ _ h := congrArg (fun r => updatedRuntime r message) h

/-- A gateway cell that one method writes follows the messages of that method. -/
theorem stream_updatedGateway {β : Type*} {cell : GatewaySnapshot → β} {method : TrpcMethod}
    (hskip : ∀ gateway other message, other ≠ method →
      cell (gatewayAfter gateway other message) = cell gateway)
    (hact : ∀ gateway other message, cell gateway = cell other →
      cell (gatewayAfter gateway method message) = cell (gatewayAfter other method message)) :
    Stream (fun _ => True) updatedGateway cell (ofMethod method) where
  keep _ _ _ := trivial
  skip gateway message _ hother := by
    rw [ofMethod, beq_eq_false_iff_ne] at hother
    simp only [updatedGateway]
    split
    · rfl
    · rename_i actual hmethod
      split
      · exact hskip gateway actual message fun heq => hother (heq ▸ hmethod)
      · rfl
  act gateway other message _ _ hown h := by
    rw [ofMethod, beq_iff_eq] at hown
    simp only [updatedGateway, hown]
    split
    · exact hact gateway other message h
    · exact h

theorem info_updatedGateway (gateway : GatewaySnapshot) (message : TrpcPacket) :
    (updatedGateway gateway message).info = gateway.info := by
  simp only [updatedGateway, gatewayAfter, applyGatewayMessage]
  split
  · rfl
  · split
    · split
      all_goals try split
      all_goals rfl
    · rfl

/-- Two interleavings of the same messages that keep the order of the messages to
one device, and of the gateway messages of one method. -/
structure Interleaved (first second : List TrpcPacket) : Prop where
  same : first.Perm second
  device : ∀ address, first.filter (addressedTo address) = second.filter (addressedTo address)
  gateway : ∀ method ∈ gatewayMethods,
    first.filter (ofMethod method) = second.filter (ofMethod method)

variable {first second : List TrpcPacket}

/-- The gateway values end up equal, cell by cell. -/
theorem Interleaved.gateway_eq (h : Interleaved first second) (gateway : GatewaySnapshot) :
    first.foldl updatedGateway gateway = second.foldl updatedGateway gateway := by
  have hcell {β : Type} {cell : GatewaySnapshot → β} (method : TrpcMethod)
      (hmethod : method ∈ gatewayMethods)
      (hskip : ∀ gateway other message, other ≠ method →
        cell (gatewayAfter gateway other message) = cell gateway)
      (hact : ∀ gateway other message, cell gateway = cell other →
        cell (gatewayAfter gateway method message) = cell (gatewayAfter other method message)) :
      cell (first.foldl updatedGateway gateway) = cell (second.foldl updatedGateway gateway) :=
    (stream_updatedGateway hskip hact).foldl_congr (h.gateway method hmethod) trivial
  have hinfo (messages : List TrpcPacket) :
      (messages.foldl updatedGateway gateway).info = gateway.info :=
    LastValue.inv_foldl (fun after => after.info = gateway.info) (fun _ => True)
      (fun before message hbefore _ => (info_updatedGateway before message).trans hbefore)
      messages (fun _ _ => trivial) gateway rfl
  apply GatewaySnapshot.ext
  · rw [hinfo, hinfo]
  · exact hcell .outdoorTemp (by decide)
      (fun before other message => (gatewayFrame_gatewayAfter before other message).outdoorTemp)
      fun _ _ _ _ => rfl
  · exact hcell .networkError (by decide)
      (fun before other message => (gatewayFrame_gatewayAfter before other message).networkError)
      fun _ _ _ _ => rfl
  · apply hcell .dateTime (by decide)
      (fun before other message => (gatewayFrame_gatewayAfter before other message).dateTime)
    intro before other message hsame
    simp only [gatewayAfter, applyGatewayMessage]
    cases messageDatetime message with
    | none => exact hsame
    | some dateTime => rfl
  · exact hcell .reportingState (by decide)
      (fun before other message =>
        (gatewayFrame_gatewayAfter before other message).reportingEnabled)
      fun _ _ _ _ => rfl
  · exact hcell .setbackEnable (by decide)
      (fun before other message =>
        (gatewayFrame_gatewayAfter before other message).setbackEnabled)
      fun _ _ _ _ => rfl
  · apply hcell .setpointGroupEnable (by decide)
      (fun before other message =>
        (gatewayFrame_gatewayAfter before other message).setpointGroups)
    intro before other message hsame
    simp only [gatewayAfter, applyGatewayMessage]
    cases message.get "group_id" with
    | none => exact hsame
    | some groupId => simp only [hsame, Option.map_some, Option.getD_some]

/-- Every device of the snapshot ends up with the same runtime. -/
theorem Interleaved.runSnapshots_eq (h : Interleaved first second) (data : AvailableInfo) :
    runSnapshots data first = runSnapshots data second := by
  funext address
  rw [runSnapshots, runSnapshots]
  cases hsnapshot : data.snapshots.get? address with
  | none => rfl
  | some snapshot =>
      have haddress : snapshot.runtime.info.address = address :=
        AvailableInfo.address_of_get? hsnapshot
      have hruntime := (stream_updatedRuntime address).foldl_congr (h.device address) haddress
      rw [Option.map_some, Option.map_some]
      exact congrArg (fun runtime => some (⟨runtime⟩ : DeviceSnapshot)) hruntime

theorem Interleaved.devices_eq (h : Interleaved first second) (discovery : DiscoveryResult)
    (data : AvailableInfo) :
    (first.foldl (applyOrKeep discovery) data).devices =
      (second.foldl (applyOrKeep discovery) data).devices := by
  by_cases hreaches : ∃ m ∈ first, Reaches discovery data m
  · have hsecond : ∃ m ∈ second, Reaches discovery data m := by
      obtain ⟨m, hmem, hm⟩ := hreaches
      exact ⟨m, h.same.mem_iff.mp hmem, hm⟩
    rw [devices_foldl_of_reaches hreaches, devices_foldl_of_reaches hsecond, h.runSnapshots_eq]
  · have hfirst : ∀ m ∈ first, ¬ Reaches discovery data m := fun m hmem hm =>
      hreaches ⟨m, hmem, hm⟩
    rw [devices_foldl_of_not_reaches hfirst,
      devices_foldl_of_not_reaches fun m hmem => hfirst m (h.same.mem_iff.mpr hmem)]

/-- Independent message streams commute. Folding the messages in one interleaving
or the other ends in equal snapshots, whatever the discovery and the snapshot were. -/
theorem foldl_applyMessage_interleaved (discovery : DiscoveryResult) (data : AvailableInfo)
    (first second : List TrpcPacket) (h : Interleaved first second) :
    first.foldl (applyOrKeep discovery) data = second.foldl (applyOrKeep discovery) data := by
  apply AvailableInfo.ext
  · rw [gateway_foldl_applyOrKeep, gateway_foldl_applyOrKeep, h.gateway_eq]
  · exact h.devices_eq discovery data

/-- A device stream between the messages of a gateway stream, and after them. -/
theorem foldl_applyMessage_interleaved_sample :
    let outdoor (value : Int) : TrpcPacket :=
      { serviceId := 2, methodId := 0x117, body := .ofList [("temp", value)] }
    let device (value : Int) : TrpcPacket :=
      { serviceId := 2, methodId := 0x137, body := .ofList [("address", 1011), ("temp", value)] }
    [outdoor 1, device 2, outdoor 3, device 4].foldl
        (applyOrKeep { devices := [{ address := 1011 }] })
        { devices := [⟨{ info := { address := 1011 } }⟩, ⟨{ info := { address := 7 } }⟩] } =
      [outdoor 1, outdoor 3, device 2, device 4].foldl
        (applyOrKeep { devices := [{ address := 1011 }] })
        { devices := [⟨{ info := { address := 1011 } }⟩, ⟨{ info := { address := 7 } }⟩] } := by
  intro outdoor device
  apply foldl_applyMessage_interleaved
  constructor
  · exact .cons _ (.swap _ _ _)
  · intro address
    have houtdoor (value : Int) : addressedTo address (outdoor value) = false := rfl
    simp [List.filter_cons, houtdoor]
  · intro method hmethod
    have hdevice (value : Int) : ofMethod method (device value) = false := by
      have hown : (device value).method = some .currentTemperature := rfl
      rw [ofMethod, hown, beq_eq_false_iff_ne]
      rintro heq
      cases heq
      exact absurd hmethod (by decide)
    simp [List.filter_cons, hdevice]

end Tekmar482
