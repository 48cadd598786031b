import Tekmar482.Client
import Tekmar482.StateStore
import Tekmar482.Library.Contract

/-!
# What a poll reads

A poll asks for every scalar value of a device at most once. Whatever replies it
is given, the snapshot that it returns holds, for each value of each device, the
field of the last reply that reports the value.
-/

namespace Tekmar482

/-- The value that a message writes to a scalar cell of a device. -/
def scalarReport (address : Int) (value : ScalarValue) (message : TrpcPacket) :
    Option (Option Int) :=
  deviceReport value.method address (fun m => m.get value.field) message

/-- The scalar cells of all device addresses. -/
abbrev ScalarCells := Int → ScalarValue → Option Int

namespace ScalarCells

/-- No cell has been reported. -/
def unread : ScalarCells := fun _ _ => none

/-- The cells after one more message. -/
def record (cells : ScalarCells) (message : TrpcPacket) : ScalarCells := fun address value =>
  (scalarReport address value message).getD (cells address value)

/-- One cell changed. -/
def set (cells : ScalarCells) (address : Int) (value : ScalarValue) (raw : Option Int) :
    ScalarCells := fun other cell =>
  if other = address ∧ cell = value then raw else cells other cell

@[simp] theorem set_self (cells : ScalarCells) (address : Int) (value : ScalarValue)
    (raw : Option Int) : cells.set address value raw address value = raw :=
  if_pos ⟨rfl, rfl⟩

theorem set_value {cells : ScalarCells} {value other : ScalarValue} (h : other ≠ value)
    (address : Int) (raw : Option Int) :
    cells.set address value raw address other = cells address other :=
  if_neg fun heq => h heq.2

theorem set_address {cells : ScalarCells} {address other : Int} (h : other ≠ address)
    (value : ScalarValue) (raw : Option Int) : cells.set address value raw other = cells other := by
  funext cell
  exact if_neg fun heq => h heq.1

/-- Writing what a cell holds changes nothing. -/
theorem set_eq_self {cells : ScalarCells} {address : Int} {value : ScalarValue} {raw : Option Int}
    (h : cells address value = raw) : cells.set address value raw = cells := by
  funext other cell
  unfold set
  split
  · rename_i heq
    rw [heq.1, heq.2, h]
  · rfl

/-- A message of no scalar method changes no cell. -/
theorem record_other {message : TrpcPacket} (cells : ScalarCells)
    (h : ∀ value : ScalarValue, message.methodId ≠ value.method.value) :
    cells.record message = cells := by
  funext address value
  have hnone : scalarReport address value message = none := if_neg fun hreport => h value hreport.1.2
  rw [record, hnone, Option.getD_none]

/-- A response to the request of a scalar value writes its cell. -/
theorem record_response {message : TrpcPacket} (cells : ScalarCells) {address : Int}
    {value : ScalarValue} (hservice : message.serviceId = TrpcService.responseRequest.value)
    (hmethod : message.methodId = value.method.value)
    (haddress : message.get "address" = some address) :
    cells.record message = cells.set address value (message.get value.field) := by
  have hreport : RuntimeReport value.method message := by
    refine ⟨?_, hmethod⟩
    rw [hservice]
    simp
  funext other cell
  rw [record, set]
  by_cases hsame : other = address ∧ cell = value
  · have hwrites : scalarReport other cell message = some (message.get value.field) := by
      rw [hsame.1, hsame.2]
      exact if_pos ⟨hreport, haddress⟩
    rw [if_pos hsame, hwrites, Option.getD_some]
  · have hsilent : scalarReport other cell message = none := by
      apply if_neg
      rintro ⟨hother, hread⟩
      apply hsame
      constructor
      · exact Option.some.inj (hread.symm.trans haddress)
      · exact ScalarValue.method_injective (hother.unique hreport)
    rw [if_neg hsame, hsilent, Option.getD_none]

end ScalarCells

/-- The contract of a poll. The ghost state has the cells as the replies so far
report them, and a reply is one that the match of its request accepts. -/
def pollContract : Routine.Contract SessionCall SessionReply PyException ScalarCells where
  requires _ _ := True
  answers cells op reply cells' :=
    match op, reply with
    | .requestResponse _ responseMatch, .ok (some message) =>
        responseMatch.accepts message = true ∧ cells' = cells.record message
    | .updateResponse _ responseMatch, .ok (some message) =>
        responseMatch.accepts message = true ∧ cells' = cells.record message
    | _, _ => cells' = cells

/-- The discovered devices have distinct addresses. -/
def DiscoveryResult.Distinct (self : DiscoveryResult) : Prop :=
  (self.devices.map DiscoveredDevice.address).Nodup

namespace Client

open Routine

/-- A routine that reads no scalar value of a device. -/
def Silent {α : Type} (routine : ClientRoutine α) : Prop :=
  ∀ cells, routine.Delivers pollContract (fun _ cells' => cells' = cells) cells

theorem Silent.pure {α : Type} (a : α) : Silent (Pure.pure a) := fun _ => Delivers.pure rfl

theorem Silent.ofExcept {α : Type} (value : Except PyException α) :
    Silent (Routine.ofExcept value) :=
  fun _ => Delivers.ofExcept fun _ _ => rfl

theorem Silent.bind {α β : Type} {routine : ClientRoutine α} {f : α → ClientRoutine β}
    (h : Silent routine) (hf : ∀ a, Silent (f a)) : Silent (routine >>= f) := by
  intro cells
  apply Delivers.bind (h cells)
  rintro a _ rfl
  exact hf a _

theorem Silent.runWhen {α : Type} {routine : ClientRoutine α} (h : Silent routine)
    (condition : Bool) (value : α) : Silent (Client.runWhen condition routine value) := by
  cases condition
  · exact Silent.pure value
  · exact h

/-- A request is answered with nothing, or with a message that its match accepts. -/
theorem delivers_requestResponse {method : TrpcMethod} {matchAddress : Option Int}
    {matchFields fields : OrderedDict String Int} {cells : ScalarCells}
    {P : Option TrpcPacket → ScalarCells → Prop} (hnone : P none cells)
    (hsome : ∀ message, message.serviceId = TrpcService.responseRequest.value →
      message.methodId = method.value →
      (∀ a, matchAddress = some a → message.get "address" = some a) →
      P (some message) (cells.record message)) :
    (requestResponse method matchAddress matchFields fields).Delivers pollContract P cells := by
  apply Delivers.perform trivial
  intro reply cells' hanswer
  cases reply with
  | none =>
      rw [show cells' = cells from hanswer]
      exact hnone
  | some message =>
      obtain ⟨haccepts, rfl⟩ := hanswer
      rw [ResponseMatch.accepts_request_iff] at haccepts
      exact hsome message haccepts.1 haccepts.2.1 haccepts.2.2.1

/-- A request of another method reads no scalar value. -/
theorem silent_requestResponse {method : TrpcMethod}
    (h : scalarMethods method = none) (matchAddress : Option Int)
    (matchFields fields : OrderedDict String Int) :
    Silent (requestResponse method matchAddress matchFields fields) := by
  intro cells
  apply delivers_requestResponse rfl
  intro message _ hmethod _
  apply ScalarCells.record_other
  intro value hvalue
  have hsame : method = value.method := TrpcMethod.value_injective (hmethod.symm.trans hvalue)
  rw [(scalarMethods_eq_some_iff method value value.field).mpr ⟨hsame, rfl⟩] at h
  exact nomatch h

/-! ## The gateway -/

theorem silent_requestGatewayField {method : TrpcMethod}
    (h : scalarMethods method = none) (name : String) :
    Silent (requestGatewayField method name) :=
  (silent_requestResponse h none .empty .empty).bind fun _ => .pure _

theorem silent_getDatetime : Silent getDatetime := by
  apply (silent_requestResponse rfl none .empty .empty).bind
  intro message
  cases message with
  | none => exact .pure none
  | some message =>
      iterate 6
        apply (Silent.ofExcept _).bind
        intro _
      exact .pure _

theorem silent_dumpSetpointGroups (ids : List Int)
    (groups : Finmap fun _ : Int => Option Bool) : Silent (dumpSetpointGroups ids groups) := by
  induction ids generalizing groups with
  | nil => exact .pure groups
  | cons groupId rest ih =>
      apply (silent_requestResponse rfl none _ _).bind
      intro message
      exact ih _

theorem silent_pollGateway (info : GatewayInfo) (includeDatetime includeSetpointGroups : Bool) :
    Silent (pollGateway info includeDatetime includeSetpointGroups) := by
  apply (silent_requestGatewayField rfl "state").bind
  intro reporting
  apply (silent_requestGatewayField rfl "enable").bind
  intro setback
  apply (silent_requestGatewayField rfl "temp").bind
  intro outdoorTemp
  apply (silent_requestGatewayField rfl "error").bind
  intro networkError
  apply (silent_getDatetime.runWhen includeDatetime none).bind
  intro dateTime
  have hgroups : Silent (some <$>
      dumpSetpointGroups ((List.range 12).map fun n => (n : Int) + 1) ∅) :=
    (silent_dumpSetpointGroups _ ∅).bind fun groups => .pure (some groups)
  apply (hgroups.runWhen includeSetpointGroups none).bind
  intro setpointGroups
  exact .pure _

/-! ## The devices -/

theorem silent_dumpSetpointsLoop {method : TrpcMethod}
    (h : scalarMethods method = none) (name : String) (address : Int)
    (slots : List ThaSetback) (values : ThaSetback → Option (Option Int))
    (observedActive currentObserved : Option ThaSetback) :
    Silent (dumpSetpointsLoop method name address slots values observedActive currentObserved) := by
  induction slots generalizing values observedActive currentObserved with
  | nil => exact .pure _
  | cons setback rest ih =>
      apply (silent_requestResponse h _ _ _).bind
      intro message
      cases message with
      | none => exact ih _ _ _
      | some reply =>
          simp only
          split
          · exact ih _ _ _
          · exact ih _ _ _

theorem silent_dumpSetpoints {method : TrpcMethod}
    (h : scalarMethods method = none) (name : String) (address : Int)
    (activeSetback : Option ThaSetback) (includeSetbacks : Bool) :
    Silent (dumpSetpoints method name address activeSetback includeSetbacks) :=
  silent_dumpSetpointsLoop h name address _ _ activeSetback none

/-- The request of a scalar value that was not read before. -/
theorem delivers_requestField {cells : ScalarCells} {address : Int} {value : ScalarValue}
    (h : cells address value = none) :
    (requestField address value.method value.field).Delivers pollContract
      (fun raw cells' => cells' = cells.set address value raw) cells := by
  have hrequest : (requestResponse value.method (some address) .empty
      (addressFields address)).Delivers pollContract
      (fun message cells' => cells' = cells.set address value (field message value.field))
      cells := by
    apply delivers_requestResponse
    · exact (ScalarCells.set_eq_self h).symm
    · intro message hservice hmethod haddress
      exact cells.record_response hservice hmethod (haddress address rfl)
  apply Delivers.bind hrequest
  intro message cells' hcells
  exact Delivers.pure hcells

/-- A request that is made on a condition only. -/
theorem delivers_runWhen_requestField {cells : ScalarCells} {address : Int} {value : ScalarValue}
    (h : cells address value = none) (condition : Bool) :
    (runWhen condition (requestField address value.method value.field) none).Delivers pollContract
      (fun raw cells' => cells' = cells.set address value raw) cells := by
  cases condition
  · exact Delivers.pure (ScalarCells.set_eq_self h).symm
  · exact delivers_requestField h

/-- A poll goes on after a routine that reads no scalar value. -/
theorem Silent.delivers_bind {α β : Type} {routine : ClientRoutine α} {f : α → ClientRoutine β}
    {R : β → ScalarCells → Prop} {cells : ScalarCells} (h : Silent routine)
    (hf : ∀ a, (f a).Delivers pollContract R cells) :
    (routine >>= f).Delivers pollContract R cells := by
  apply Delivers.bind (h cells)
  rintro a _ rfl
  exact hf a

/-- A poll goes on after the request of a scalar value. -/
theorem delivers_bind_field {β : Type} {routine : ClientRoutine (Option Int)}
    {f : Option Int → ClientRoutine β} {R : β → ScalarCells → Prop} {cells : ScalarCells}
    {address : Int} {value : ScalarValue}
    (h : routine.Delivers pollContract
      (fun raw cells' => cells' = cells.set address value raw) cells)
    (hf : ∀ raw, (f raw).Delivers pollContract R (cells.set address value raw)) :
    (routine >>= f).Delivers pollContract R cells := by
  apply Delivers.bind h
  rintro raw _ rfl
  exact hf raw

@[simp] theorem scalar_create (values : DeviceRuntime) (value : ScalarValue) :
    (DeviceRuntime.create values).scalar value = values.scalar value := by
  cases value <;> rfl

/-- The cells of a device hold the values of its snapshot. -/
structure ShowsDevice (device : DiscoveredDevice) (before : ScalarCells)
    (snapshot : DeviceSnapshot) (cells : ScalarCells) : Prop where
  info : snapshot.info = device
  scalar : ∀ value, cells device.address value = snapshot.runtime.scalar value
  others : ∀ address, address ≠ device.address → cells address = before address

/-- The poll of one device reads each of its scalar values at most once. -/
theorem delivers_dumpDeviceSnapshot (device : DiscoveredDevice) (protocolVersion : Option Int)
    (includeSetbacks : Bool) {cells : ScalarCells}
    (h : ∀ value, cells device.address value = none) :
    (dumpDeviceSnapshot device protocolVersion includeSetbacks).Delivers pollContract
      (ShowsDevice device cells) cells := by
  unfold dumpDeviceSnapshot
  apply delivers_bind_field (@delivers_requestField _ _ .currentTemperature (by simp [h]))
  intro currentTemperature
  apply delivers_bind_field (@delivers_requestField _ _ .activeDemand
    (by simp [ScalarCells.set_value, h]))
  intro activeDemand
  apply delivers_bind_field (@delivers_requestField _ _ .setbackState
    (by simp [ScalarCells.set_value, h]))
  intro setbackState
  apply delivers_bind_field (@delivers_runWhen_requestField _ _ .currentFloorTemperature
    (by simp [ScalarCells.set_value, h]) _)
  intro currentFloorTemperature
  apply delivers_bind_field (@delivers_runWhen_requestField _ _ .modeSetting
    (by simp [ScalarCells.set_value, h]) _)
  intro modeSetting
  have hsetpoints {method : TrpcMethod} (hmethod : scalarMethods method = none) (name : String)
      (condition : Bool) (value : SetpointValues) :
      Silent (runWhen condition (dumpSetpoints method name device.address
        (setbackFromValue setbackState) includeSetbacks) value) :=
    (silent_dumpSetpoints hmethod name _ _ _).runWhen condition value
  apply (hsetpoints rfl _ _ _).delivers_bind
  intro heatSetpoints
  apply (hsetpoints rfl _ _ _).delivers_bind
  intro coolSetpoints
  apply (hsetpoints rfl _ _ _).delivers_bind
  intro slabSetpoints
  apply (hsetpoints rfl _ _ _).delivers_bind
  intro fanPercent
  apply delivers_bind_field (@delivers_runWhen_requestField _ _ .relativeHumidity
    (by simp [ScalarCells.set_value, h]) _)
  intro relativeHumidity
  apply delivers_bind_field (@delivers_runWhen_requestField _ _ .humiditySetpointMin
    (by simp [ScalarCells.set_value, h]) _)
  intro humiditySetpointMin
  apply delivers_bind_field (@delivers_runWhen_requestField _ _ .humiditySetpointMax
    (by simp [ScalarCells.set_value, h]) _)
  intro humiditySetpointMax
  apply (hsetpoints rfl _ _ _).delivers_bind
  intro setpointTargets
  apply Delivers.pure
  constructor
  · rfl
  · intro value
    rw [scalar_create]
    cases value <;> simp [ScalarCells.set_value, DeviceRuntime.scalar]
  · intro address haddress
    simp only [ScalarCells.set_address haddress]

/-- The cells of the polled devices hold the values of their snapshots. -/
structure ShowsDevices (devices : List DiscoveredDevice) (before : ScalarCells)
    (snapshots : List DeviceSnapshot) (cells : ScalarCells) : Prop where
  infos : snapshots.map DeviceSnapshot.info = devices
  scalar : ∀ snapshot ∈ snapshots, ∀ value,
    cells snapshot.info.address value = snapshot.runtime.scalar value
  others : ∀ address, address ∉ devices.map DiscoveredDevice.address →
    cells address = before address

/-- The poll of the devices, by induction on the devices: the later polls do not
write the cells of the earlier ones. -/
theorem delivers_pollDevices (protocolVersion : Option Int) (includeSetbacks : Bool)
    (devices : List DiscoveredDevice) {cells : ScalarCells}
    (hdistinct : (devices.map DiscoveredDevice.address).Nodup)
    (h : ∀ device ∈ devices, ∀ value, cells device.address value = none) :
    (pollDevices protocolVersion includeSetbacks devices).Delivers pollContract
      (ShowsDevices devices cells) cells := by
  induction devices generalizing cells with
  | nil =>
      apply Delivers.pure
      constructor
      · rfl
      · exact fun _ hmem => absurd hmem List.not_mem_nil
      · exact fun _ _ => rfl
  | cons device rest ih =>
      obtain ⟨hfresh, hrest⟩ := List.nodup_cons.mp hdistinct
      apply Delivers.bind
        (delivers_dumpDeviceSnapshot device protocolVersion includeSetbacks (h device List.mem_cons_self))
      intro snapshot middle hsnapshot
      have hmiddle : ∀ other ∈ rest, ∀ value, middle other.address value = none := by
        intro other hother value
        have hne : other.address ≠ device.address := fun heq =>
          hfresh (heq ▸ List.mem_map_of_mem hother)
        rw [hsnapshot.others _ hne]
        exact h other (List.mem_cons_of_mem _ hother) value
      apply Delivers.bind (ih hrest hmiddle)
      intro snapshots final hsnapshots
      apply Delivers.pure
      constructor
      · rw [List.map_cons, hsnapshot.info, hsnapshots.infos]
      · intro shown hshown value
        rcases List.mem_cons.mp hshown with rfl | hlater
        · rw [hsnapshot.info, hsnapshots.others _ hfresh, hsnapshot.scalar]
        · exact hsnapshots.scalar shown hlater value
      · intro address haddress
        rw [List.map_cons, List.mem_cons, not_or] at haddress
        rw [hsnapshots.others _ haddress.2, hsnapshot.others _ haddress.1]

/-- A snapshot of a discovery that holds the values of the replies it was polled from. -/
structure Shows (discovery : DiscoveryResult) (data : AvailableInfo) (cells : ScalarCells) :
    Prop where
  infos : data.devices.map DeviceSnapshot.info = discovery.devices
  scalar : ∀ snapshot ∈ data.devices, ∀ value,
    cells snapshot.info.address value = snapshot.runtime.scalar value

/-- Whatever the replies, a poll returns the values that they report. -/
theorem delivers_pollRuntime (discovery : DiscoveryResult)
    (hdistinct : discovery.Distinct)
    (includeSetbacks includeDatetime includeSetpointGroups : Bool) :
    (pollRuntime discovery includeSetbacks includeDatetime includeSetpointGroups).Delivers
      pollContract (Shows discovery) .unread := by
  apply (silent_pollGateway _ _ _).delivers_bind
  intro gateway
  apply Delivers.bind (delivers_pollDevices _ includeSetbacks discovery.devices hdistinct
    fun _ _ _ => rfl)
  intro devices cells hdevices
  apply Delivers.pure
  constructor
  · exact hdevices.infos
  · exact hdevices.scalar

/-! ## Discovery -/

/-- What a routine returns, whatever cells it reads. -/
def Returns {α : Type} (P : α → Prop) (routine : ClientRoutine α) : Prop :=
  ∀ cells, routine.Delivers pollContract (fun a _ => P a) cells

theorem Returns.of_forall {α : Type} {P : α → Prop} (routine : ClientRoutine α) (h : ∀ a, P a) :
    Returns P routine :=
  Follows.of_forall routine (fun _ _ => trivial) fun _ _ a _ => h a

theorem Returns.pure {α : Type} {P : α → Prop} {a : α} (h : P a) : Returns P (Pure.pure a) :=
  fun _ => Delivers.pure h

theorem Returns.bind {α β : Type} {P : α → Prop} {R : β → Prop} {routine : ClientRoutine α}
    {f : α → ClientRoutine β} (h : Returns P routine) (hf : ∀ a, P a → Returns R (f a)) :
    Returns R (routine >>= f) := by
  intro cells
  apply Delivers.bind (h cells)
  exact fun a cells' ha => hf a ha cells'

/-- A routine whose result does not depend on what an earlier one returned. -/
theorem Returns.after {α β : Type} {R : β → Prop} (routine : ClientRoutine α)
    {f : α → ClientRoutine β} (hf : ∀ a, Returns R (f a)) : Returns R (routine >>= f) :=
  (Returns.of_forall routine fun _ => trivial).bind fun a (_ : True) => hf a

theorem Returns.tryFinally {α β : Type} {P : α → Prop} {body : ClientRoutine α}
    (h : Returns P body) (final : ClientRoutine β) : Returns P (body.tryFinally final) := by
  intro cells
  apply follows_tryFinally
  apply Follows.mono (h cells)
  intro cells' result hresult
  apply Follows.of_forall final (fun _ _ => trivial)
  intro cells'' finished
  cases finished with
  | ok _ => exact hresult
  | error e => exact fun _ h => nomatch h

/-- The inventory has no address twice. -/
theorem returns_inventoryLoop (fuel : Nat) {addresses : List Int} (h : addresses.Nodup) :
    Returns List.Nodup (inventoryLoop fuel addresses) := by
  induction fuel generalizing addresses with
  | zero => exact fun _ => trivial
  | succ fuel ih =>
      apply Returns.after
      intro expired
      cases expired with
      | true => exact .pure h
      | false =>
          apply Returns.after
          intro message
          cases message with
          | none => exact .pure h
          | some message =>
              apply Returns.after
              intro address
              change Returns List.Nodup (if _ then _ else _)
              split
              · exact .pure h
              · apply ih
                split
                · exact h
                · rename_i hnew
                  exact h.append (List.nodup_singleton address) (List.disjoint_singleton.mpr hnew)

theorem returns_getDeviceInfo (address : Int) :
    Returns (fun device => device.address = address) (getDeviceInfo address) := by
  unfold getDeviceInfo
  iterate 8
    apply Returns.after
    intro _
  exact .pure rfl

theorem returns_getDevices (addresses : List Int) :
    Returns (fun devices => devices.map DiscoveredDevice.address = addresses)
      (getDevices addresses) := by
  induction addresses with
  | nil => exact .pure rfl
  | cons address rest ih =>
      apply (returns_getDeviceInfo address).bind
      intro device hdevice
      apply ih.bind
      intro devices hdevices
      apply Returns.pure
      rw [List.map_cons, hdevice, hdevices]

theorem returns_discover (fuel : Nat) (manageReporting : Bool) (setbackEnable : Option Bool) :
    Returns DiscoveryResult.Distinct (discover fuel manageReporting setbackEnable) := by
  apply Returns.tryFinally
  have hdevices (gateway : GatewayInfo) : Returns DiscoveryResult.Distinct (do
      let addresses ← getInventoryAddresses fuel
      let devices ← getDevices addresses
      Pure.pure { gateway, devices }) := by
    have haddresses : Returns List.Nodup (getInventoryAddresses fuel) :=
      Returns.after _ fun _ => returns_inventoryLoop fuel List.nodup_nil
    apply haddresses.bind
    intro addresses hnodup
    apply (returns_getDevices addresses).bind
    intro devices hdevices
    apply Returns.pure
    rw [DiscoveryResult.Distinct, hdevices]
    exact hnodup
  cases setbackEnable with
  | none =>
      have hbody := Returns.after getGatewayInfo hdevices
      cases manageReporting with
      | false => exact hbody
      | true => exact Returns.after _ fun _ => hbody
  | some enabled =>
      have hbody := Returns.after getGatewayInfo fun gateway =>
        Returns.after (updateResponse .setbackEnable (enableFields enabled) (enableFields enabled))
          fun _ => hdevices gateway
      cases manageReporting with
      | false => exact hbody
      | true => exact Returns.after _ fun _ => hbody

end Client

end Tekmar482
