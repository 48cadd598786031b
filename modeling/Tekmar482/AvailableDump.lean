import Tekmar482.ClientCalls
import Tekmar482.FittingSnapshots
import Tekmar482.InventoryWalk

/-!
# The dump of all available information

The dump discovers the devices and polls them. It writes requests only, so it changes no
setting of the gateway, and its devices are those that the inventory responses name.
-/

namespace Tekmar482

namespace Client

open Routine

/-- Request a broad read-only snapshot of gateway and attached device data. -/
def dumpAvailableInfo (fuel : Nat) (includeSetbacks includeDatetime : Bool) :
    ClientRoutine AvailableInfo := do
  let discovery ← discover fuel false none
  pollRuntime discovery includeSetbacks includeDatetime true

theorem reads_dumpAvailableInfo (fuel : Nat) (includeSetbacks includeDatetime : Bool) :
    (dumpAvailableInfo fuel includeSetbacks includeDatetime).Asks Reads := by
  apply (reads_discover fuel).bind
  intro discovery
  exact (requests_pollRuntime discovery _ _ _).mono fun _ => Requests.reads

/-! ## Which devices are dumped -/

/-- The address of the message that a call has read. -/
def readAddress : (call : SessionCall) × Except PyException (SessionReply call) → List Int
  | ⟨.readUntil _, .ok (some message)⟩ => (message.get "address").toList
  | _ => []

/-- The contract that notes the addresses of the messages that are read. -/
def readContract : Contract SessionCall SessionReply PyException (List Int) where
  requires _ _ := True
  answers seen call reply seen' := seen' = seen ++ readAddress ⟨call, reply⟩

/-- A routine of requests reads no message from the backlog. -/
theorem delivers_requests {α : Type} {routine : ClientRoutine α} (h : routine.Asks Requests)
    (seen : List Int) : routine.Delivers readContract (fun _ seen' => seen' = seen) seen := by
  refine h.follows (fun g g' => g' = g) (fun _ _ _ => trivial) ?_ (fun _ _ hkept _ _ => hkept) rfl
  rintro _ call reply next hrequest rfl hanswer
  cases call with
  | requestResponse command responseMatch => exact hanswer.trans (List.append_nil _)
  | «open» | close | isOpen | send | updateResponse | readUntil | deadlineExpired =>
      exact hrequest.elim

theorem get_of_require {message : TrpcPacket} {field : String} {value : Int}
    (h : message.require field = .ok value) : message.get field = some value := by
  rw [TrpcPacket.require] at h
  split at h
  · rename_i found hfound
    rw [hfound, Except.ok.inj h]
  · cases h

theorem delivers_call (call : SessionCall) (seen : List Int) :
    (Routine.perform call : ClientRoutine (SessionReply call)).Delivers readContract
      (fun reply seen' => seen' = seen ++ readAddress ⟨call, .ok reply⟩) seen :=
  Delivers.perform trivial fun _ _ hanswer => hanswer

/-- The inventory loop collects the addresses that it reads up to the first terminator. -/
theorem delivers_inventoryLoop (fuel : Nat) (known seen : List Int) :
    (inventoryLoop fuel known).Delivers readContract
      (fun addresses seen' => ∃ later, seen' = seen ++ later ∧ addresses = collect known later)
      seen := by
  induction fuel generalizing known seen with
  | zero => trivial
  | succ fuel ih =>
      have hstop : ∃ later, seen = seen ++ later ∧ known = collect known later :=
        ⟨[], (List.append_nil seen).symm, (collect_nil known).symm⟩
      apply Delivers.bind (delivers_call .deadlineExpired seen)
      intro expired seen' hseen
      rw [hseen.trans (List.append_nil seen)]
      cases expired with
      | true => exact Delivers.pure hstop
      | false =>
          apply Delivers.bind (delivers_call (.readUntil isInventoryResponse) seen)
          intro reply seen'' hread
          rw [hread]
          cases reply with
          | none =>
              rw [show readAddress ⟨.readUntil isInventoryResponse, .ok none⟩ = [] from rfl,
                List.append_nil]
              exact Delivers.pure hstop
          | some message =>
              apply Delivers.bind (P := fun address seen' => message.get "address" = some address ∧
                seen' = seen ++ [address])
              · apply Delivers.ofExcept
                intro address hrequire
                have haddress := get_of_require hrequire
                exact ⟨haddress, by rw [readAddress, haddress, Option.toList_some]⟩
              · rintro address _ ⟨-, rfl⟩
                change Delivers _ _ (if address = 0 ∨ address = 0xFFFF then _ else _) _
                by_cases hend : address = 0 ∨ address = 0xFFFF
                · rw [if_pos hend]
                  exact Delivers.pure ⟨[address], rfl, (collect_end [] (decide_eq_true hend)).symm⟩
                · rw [if_neg hend]
                  apply (ih _ (seen ++ [address])).mono
                  intro seen' result hloop addresses hresult
                  obtain ⟨later, hlater, haddresses⟩ := hloop addresses hresult
                  refine ⟨address :: later, ?_, ?_⟩
                  · rw [hlater, List.append_assoc, List.singleton_append]
                  · rw [haddresses, collect_cons later (decide_eq_false hend)]

theorem delivers_getInventoryAddresses (fuel : Nat) (seen : List Int) :
    (getInventoryAddresses fuel).Delivers readContract
      (fun addresses seen' => ∃ later, seen' = seen ++ later ∧ addresses = collect [] later)
      seen := by
  apply Delivers.bind (delivers_call _ seen)
  intro request seen' hseen
  rw [hseen.trans (List.append_nil seen)]
  exact delivers_inventoryLoop fuel [] seen

theorem delivers_getDeviceInfo (address : Int) (seen : List Int) :
    (getDeviceInfo address).Delivers readContract (fun device _ => device.address = address)
      seen := by
  have hany {α : Type} (routine : ClientRoutine α) : Obeys readContract routine :=
    .of_forall routine fun _ _ => trivial
  unfold getDeviceInfo
  iterate 8
    refine (hany _).delivers_bind fun _ _ => ?_
  exact Delivers.pure rfl

theorem delivers_getDevices (addresses seen : List Int) :
    (getDevices addresses).Delivers readContract
      (fun devices _ => devices.map DiscoveredDevice.address = addresses) seen := by
  induction addresses generalizing seen with
  | nil => exact Delivers.pure rfl
  | cons address rest ih =>
      apply Delivers.bind (delivers_getDeviceInfo address seen)
      intro device seen' hdevice
      apply Delivers.bind (ih seen')
      intro devices _ hdevices
      exact Delivers.pure (List.map_cons ▸ hdevice ▸ hdevices ▸ rfl)

/-- Discovery that only reads finds the devices of the addresses that it reads. -/
theorem delivers_discover (fuel : Nat) (seen : List Int) :
    (discover fuel false none).Delivers readContract
      (fun discovery seen' => ∃ later, seen' = seen ++ later ∧
        discovery.devices.map DiscoveredDevice.address = collect [] later) seen := by
  apply follows_tryFinally
  have hbody : (do
      let gateway ← getGatewayInfo
      let addresses ← getInventoryAddresses fuel
      let devices ← getDevices addresses
      Pure.pure ({ gateway, devices } : DiscoveryResult) : ClientRoutine _).Delivers readContract
        (fun discovery seen' => ∃ later, seen' = seen ++ later ∧
          discovery.devices.map DiscoveredDevice.address = collect [] later) seen := by
    apply Delivers.bind (delivers_requests asks_getGatewayInfo seen)
    rintro gateway _ rfl
    apply Delivers.bind (delivers_getInventoryAddresses fuel _)
    rintro addresses _ ⟨later, rfl, rfl⟩
    apply Delivers.bind
      ((delivers_requests (asks_getDevices _) _).and (delivers_getDevices _ _))
    rintro devices _ ⟨rfl, hdevices⟩
    exact Delivers.pure ⟨later, rfl, hdevices⟩
  exact hbody

/-- What a dump gives, and what it does not do: it writes requests only, and leaves the session
open; the devices are those that the inventory responses name up to the first terminator, each
once and in this order; and each snapshot fits its device. -/
theorem dumpAvailableInfo_reads {fuel : Nat} {includeSetbacks includeDatetime : Bool}
    {trace : List ((call : SessionCall) × Except PyException (SessionReply call))}
    {result : Except PyException AvailableInfo}
    (hruns : Runs (dumpAvailableInfo fuel includeSetbacks includeDatetime) trace result) :
    (∀ item ∈ trace, Reads item.1) ∧
    ∀ data, result = .ok data →
      data.devices.map (fun snapshot => snapshot.info.address) =
        ((trace.flatMap readAddress).takeWhile fun address => !endsInventory address).eraseDups ∧
      data.Fits fun _ _ => False := by
  refine ⟨(reads_dumpAvailableInfo _ _ _).runs hruns, ?_⟩
  have hdelivers : (dumpAvailableInfo fuel includeSetbacks includeDatetime).Delivers readContract
      (fun data seen => data.devices.map (fun snapshot => snapshot.info.address) = collect [] seen ∧
        data.Fits fun _ _ => False) [] := by
    apply Delivers.bind (delivers_discover fuel [])
    rintro discovery seen ⟨later, hseen, haddresses⟩
    have hpoll := (delivers_requests (requests_pollRuntime discovery includeSetbacks includeDatetime
      true) seen).and (delivers_pollRuntime_fits (fun _ _ => trivial) discovery includeSetbacks
        includeDatetime true seen)
    apply hpoll.mono
    intro seen' result hresult data hdata
    obtain ⟨rfl, hinfos, hfits⟩ := hresult data hdata
    refine ⟨?_, hfits⟩
    rw [hseen, List.nil_append, ← haddresses, ← hinfos, List.map_map]
    rfl
  intro data hdata
  obtain ⟨haddresses, hfits⟩ := hdelivers.runs hruns (fun seen item => seen ++ readAddress item)
    (fun _ _ _ => rfl) data hdata
  refine ⟨haddresses.trans ?_, hfits⟩
  rw [← List.flatMap_eq_foldl, collect, List.nil_append]
  simp

/-- What a gateway answers about itself, within the deadline of the discovery. -/
def gatewayReply (command : TrpcCommand) : Option TrpcPacket :=
  let reply (fields : List (String × Int)) : Option TrpcPacket :=
    some { serviceId := TrpcService.responseRequest.value
           methodId := command.method
           body := .ofList fields }
  if command.method = TrpcMethod.firmwareRevision.value then reply [("revision", 104)]
  else if command.method = TrpcMethod.protocolVersion.value then reply [("version", 2)]
  else none

/-- A gateway that sends the inventory of one thermostat, twice, and answers no other request
than those about itself. -/
def inventoryOnly (count : Nat) :
    (call : SessionCall) → Except PyException (SessionReply call) × Nat
  | .readUntil _ =>
      (.ok (some
        { serviceId := TrpcService.responseRequest.value
          methodId := TrpcMethod.deviceInventory.value
          body := .ofList [("address", if count < 2 then 1011 else 0)] }), count + 1)
  | .open | .close => (.ok (), count)
  | .isOpen | .deadlineExpired => (.ok false, count)
  | .send command => (command.toMessage, count)
  | .requestResponse command _ => (.ok (gatewayReply command), count)
  | .updateResponse _ _ => (.ok none, count)

theorem dumpAvailableInfo_reads_sample : ∃ trace data,
    Runs (dumpAvailableInfo 5 true true) trace (.ok data) ∧ data.devices.length = 1 ∧
    (∀ item ∈ trace, Reads item.1) ∧
    data.devices.map (fun snapshot => snapshot.info.address) =
      ((trace.flatMap readAddress).takeWhile fun address => !endsInventory address).eraseDups ∧
    data.Fits fun _ _ => False := by
  have hreturned : (((dumpAvailableInfo 5 true true).outcome inventoryOnly 0).bind
      Except.toOption).any (fun data => data.devices.length == 1) = true := by
    decide +kernel
  obtain ⟨trace, data, hruns, hdevices⟩ := runs_of_returned hreturned
  obtain ⟨hreads, hdata⟩ := dumpAvailableInfo_reads hruns
  exact ⟨trace, data, hruns, beq_iff_eq.mp hdevices, hreads, hdata data rfl⟩

end Client

end Tekmar482
