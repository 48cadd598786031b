import Tekmar482.ReportQueues
import Tekmar482.PolledValues
import Tekmar482.StateRegisters
import Mathlib.Data.Fintype.Basic

/-!
# The messages behind the state

The scalar values of the state are those that the messages report from which the
state was built: the replies of its poll, and the messages applied since.
-/

namespace Tekmar482

open LastValue

/-- The values that some arrivals report last. -/
def lastReported (arrivals : List Arrival) : ScalarCells := fun address value =>
  lastValue (fun arrival : Arrival => scalarReport address value arrival.message) arrivals none

/-- One more arrival is recorded. -/
theorem lastReported_concat (arrivals : List Arrival) (arrival : Arrival) :
    lastReported (arrivals ++ [arrival]) = (lastReported arrivals).record arrival.message := by
  funext address value
  exact lastValue_concat _ arrivals arrival none

/-- What is applied later decides alike after histories that report the same. -/
theorem lastReported_append_congr {first second : List Arrival} {address : Int}
    {value : ScalarValue}
    (h : lastReported first address value = lastReported second address value)
    (later : List Arrival) :
    lastReported (first ++ later) address value = lastReported (second ++ later) address value := by
  rw [lastReported, lastReported, lastValue_append, lastValue_append]
  exact congrArg (lastValue _ later) h

/-- A message that reports no scalar value can be left out. -/
theorem lastReported_middle {first second : List Arrival} {arrival : Arrival} {address : Int}
    {value : ScalarValue} (h : scalarReport address value arrival.message = none) :
    lastReported (first ++ arrival :: second) address value =
      lastReported (first ++ second) address value := by
  rw [lastReported, lastReported, lastValue_append, lastValue_append, lastValue_cons, h,
    Option.getD_none]

/-- A message of another method reports no scalar value. -/
theorem scalarReport_of_method {message : TrpcPacket} {method : TrpcMethod}
    (hmethod : message.methodId = method.value) (h : scalarMethods method = none) (address : Int)
    (value : ScalarValue) : scalarReport address value message = none := by
  apply if_neg
  rintro ⟨⟨-, hvalue⟩, -⟩
  have hsame : method = value.method := TrpcMethod.value_injective (hmethod.symm.trans hvalue)
  rw [(scalarMethods_eq_some_iff method value value.field).mpr ⟨hsame, rfl⟩] at h
  cases h

theorem scalarReport_topology {message : TrpcPacket} (h : isTopologyMessage message = true)
    (address : Int) (value : ScalarValue) : scalarReport address value message = none := by
  rw [isTopologyMessage, Bool.and_eq_true, beq_iff_eq] at h
  exact scalarReport_of_method ((method_eq_some_iff message _).mp h.2) rfl address value

/-- A state whose scalar values are those that some messages report last. -/
structure ShowsApplied (state : Tekmar482State) (applied : List Arrival) : Prop where
  aligned : state.Aligned
  scalar : ∀ snapshot ∈ state.data.devices, ∀ value,
    snapshot.runtime.scalar value = lastReported applied snapshot.info.address value

namespace ShowsApplied

variable {state : Tekmar482State} {applied : List Arrival}

/-- A polled snapshot shows the replies of its poll. -/
theorem of_shows {discovery : DiscoveryResult} {data : AvailableInfo} {read : List Arrival}
    (hdistinct : discovery.Distinct) (h : Client.Shows discovery data (lastReported read)) :
    ShowsApplied { discovery, data } read where
  aligned :=
    { order := by
        rw [← h.infos, List.map_map]
        rfl
      distinct := hdistinct }
  scalar := fun snapshot hsnapshot value => (h.scalar snapshot hsnapshot value).symm

/-- A message writes the scalar values that it reports. -/
theorem applyMessage (h : ShowsApplied state applied) {message : TrpcPacket}
    {after : List Arrival}
    (hafter : lastReported after = (lastReported applied).record message) :
    ShowsApplied (state.applyMessage message).2 after where
  aligned := h.aligned.applyMessage message
  scalar := by
    intro snapshot hsnapshot value
    rw [h.aligned.devices_applyMessage, List.mem_map] at hsnapshot
    obtain ⟨before, hbefore, rfl⟩ := hsnapshot
    have haddress : (⟨updatedRuntime before.runtime message⟩ : DeviceSnapshot).info.address =
        before.info.address :=
      congrArg DiscoveredDevice.address (info_updatedRuntime before.runtime message)
    rw [haddress, hafter, ScalarCells.record, ← h.scalar before hbefore value]
    exact scalar_updatedRuntime before.runtime message value

/-- Every discovered device has a runtime with the values reported last. -/
theorem runtime (h : ShowsApplied state applied) {device : DiscoveredDevice}
    (hdevice : device ∈ state.discovery.devices) :
    ∃ runtime, state.runtime device.address = some runtime ∧
      ∀ value, runtime.scalar value = lastReported applied device.address value := by
  have haddress : device.address ∈ state.discovery.devices.map DiscoveredDevice.address :=
    List.mem_map_of_mem hdevice
  rw [← h.aligned.order] at haddress
  obtain ⟨snapshot, hsnapshot, hsame⟩ := List.mem_map.mp haddress
  refine ⟨snapshot.runtime, ?_, ?_⟩
  · rw [h.aligned.runtime_eq_some_iff]
    exact ⟨hsnapshot, hsame⟩
  · intro value
    rw [← hsame]
    exact h.scalar snapshot hsnapshot value

end ShowsApplied

instance : Fintype ScalarValue where
  elems := {.currentTemperature, .currentFloorTemperature, .activeDemand, .setbackState,
    .modeSetting, .relativeHumidity, .humiditySetpointMin, .humiditySetpointMax}
  complete := by
    intro value
    cases value <;> decide

/-- Applying the queued messages leaves every scalar value of the discovered devices
as the counted messages report it last. -/
def Restores (discovery : DiscoveryResult) (applied queued counted : List Arrival) : Prop :=
  ∀ device ∈ discovery.devices, ∀ value,
    lastReported (applied ++ queued) device.address value =
      lastReported counted device.address value

instance (discovery : DiscoveryResult) (applied queued counted : List Arrival) :
    Decidable (Restores discovery applied queued counted) :=
  inferInstanceAs (Decidable (∀ device ∈ discovery.devices, ∀ _ : ScalarValue, _))

namespace Restores

variable {discovery : DiscoveryResult} {applied queued counted : List Arrival}

/-- A message that is queued when it is counted. -/
theorem concat (h : Restores discovery applied queued counted) (arrival : Arrival) :
    Restores discovery applied (queued ++ [arrival]) (counted ++ [arrival]) := by
  intro device hdevice value
  rw [← List.append_assoc]
  exact lastReported_append_congr (h device hdevice value) [arrival]

/-- The first queued message is applied. -/
theorem apply {arrival : Arrival} {rest : List Arrival}
    (h : Restores discovery applied (arrival :: rest) counted) :
    Restores discovery (applied ++ [arrival]) rest counted := by
  intro device hdevice value
  rw [List.append_assoc]
  exact h device hdevice value

/-- The first queued message reports no scalar value. -/
theorem skip {arrival : Arrival} {rest : List Arrival}
    (h : Restores discovery applied (arrival :: rest) counted)
    (hsilent : ∀ address value, scalarReport address value arrival.message = none) :
    Restores discovery applied rest counted := by
  intro device hdevice value
  rw [← lastReported_middle (hsilent device.address value)]
  exact h device hdevice value

end Restores

namespace ControllerSystem

/-- The arrivals that count for the state: those that were published to the report
subscribers, and the replies of some polls. -/
def counted (self : ControllerSystem) (polled : List Arrival) : List Arrival :=
  self.arrivals.filter fun arrival => arrival ∈ self.published ∨ arrival ∈ polled

/-- Once the report loop has consumed everything that was queued for it, every scalar
value of every discovered device is the one of the last counted arrival about it. -/
def Current (self : ControllerSystem) : Prop :=
  ∀ queue ∈ self.reading, (self.dispatcher.queues queue).items = [] →
    ∃ state ∈ self.state, ∀ device ∈ state.discovery.devices,
      ∃ runtime ∈ state.runtime device.address, ∀ value,
        runtime.scalar value = lastReported (self.counted self.polled) device.address value

instance (self : ControllerSystem) : Decidable self.Current :=
  inferInstanceAs (Decidable (∀ queue ∈ self.reading, _ → _))

/-- The call that a task is at. -/
def atCall (self : ControllerSystem) (id : Option Nat) : Option (Task × ControllerCall) :=
  (self.task? id).bind fun task =>
    match task.routine with
    | .call call _ => some (task, call)
    | _ => none

/-- The state that a step replays the backlog to: the report loop subscribes. -/
def replaying (self : ControllerSystem) : ControllerAction → Option Tekmar482State
  | .proceed id =>
      match self.atCall id, self.dispatcher.readerError with
      | some (_, .subscribe), none => self.state
      | _, _ => none
  | _ => none

/-- The task whose poll replaces the state in a step. -/
def installing (self : ControllerSystem) : ControllerAction → Option Task
  | .proceed id =>
      match self.atCall id with
      | some (task, .setState _) => some task
      | _ => none
  | _ => none

/-- When the report loop subscribes, the replay of the backlog ends with the message
that was counted last, for every scalar value of the discovered devices. -/
def ReplaysCurrent (self : ControllerSystem) (action : ControllerAction) : Prop :=
  ∀ state ∈ self.replaying action,
    Restores state.discovery self.applied self.dispatcher.messageBacklog
      (self.counted self.polled)

/-- When a poll replaces the state, the controller still has the discovery that was
polled; and, while the report loop reads a subscription, what waits in its queue ends
with the message that was counted last. -/
def InstallsCurrent (self : ControllerSystem) (action : ControllerAction) : Prop :=
  ∀ task ∈ self.installing action, self.discovery = task.discovery ∧
    ∀ queue ∈ self.reading, queue ∈ self.dispatcher.reportQueues →
      ∀ discovery ∈ self.discovery,
        Restores discovery task.read (self.dispatcher.messages queue)
          (self.counted (self.polled ++ task.matched))

instance (self : ControllerSystem) (action : ControllerAction) :
    Decidable (self.ReplaysCurrent action) :=
  inferInstanceAs (Decidable (∀ _ ∈ self.replaying action, _))

instance (self : ControllerSystem) (action : ControllerAction) :
    Decidable (self.InstallsCurrent action) :=
  inferInstanceAs (Decidable (∀ _ ∈ self.installing action, _ ∧ _))

end ControllerSystem

end Tekmar482
