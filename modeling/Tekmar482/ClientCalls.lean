import Tekmar482.Controller

/-!
# Which calls the client makes

Discovery without managed reporting and polling only send requests and read replies: they
neither open nor close the session, and they leave the reporting state alone.
-/

namespace Tekmar482

open Routine

/-- The state of a ReportingState update. -/
def TrpcCommand.reportingState (self : TrpcCommand) : Option Int :=
  if self.service = TrpcService.update.value ∧ self.method = TrpcMethod.reportingState.value then
    self.fields.get? "state"
  else
    none

theorem TrpcCommand.reportingState_eq_none {command : TrpcCommand}
    (h : command.service = TrpcService.request.value) : command.reportingState = none := by
  apply if_neg
  rintro ⟨hupdate, -⟩
  exact absurd (h.symm.trans hupdate) (by decide)

theorem TrpcCommand.reportingState_update (enabled : Bool) :
    (TrpcCommand.update .reportingState (reportingStateFields enabled)).reportingState =
      some (if enabled then 1 else 0) := by
  cases enabled <;> decide

/-- The state of the ReportingState update that a call writes. -/
def ControllerCall.reportingState : ControllerCall → Option Int
  | .session (.send command) => command.reportingState
  | .session (.requestResponse command _) => command.reportingState
  | .session (.updateResponse command _) => command.reportingState
  | _ => none

/-- The call that sets the reporting state. -/
abbrev reportingUpdate (enabled : Bool) : ControllerCall :=
  let command := TrpcCommand.update .reportingState (reportingStateFields enabled)
  .session (.updateResponse command (.forCommand command none (reportingStateFields enabled)))

namespace Client

/-- A session call that sends a request or reads a reply. -/
def Polls : SessionCall → Prop
  | .send command | .requestResponse command _ | .updateResponse command _ =>
      command.reportingState = none
  | .readUntil _ | .deadlineExpired => True
  | .open | .close | .isOpen => False

/-- A request that waits for its response. -/
def Requests : SessionCall → Prop
  | .requestResponse command _ => command.service = TrpcService.request.value
  | _ => False

/-- A call that writes no message but a request, and leaves the session open. -/
def Reads : SessionCall → Prop
  | .send command | .requestResponse command _ => command.service = TrpcService.request.value
  | .readUntil _ | .deadlineExpired => True
  | .updateResponse _ _ | .open | .close | .isOpen => False

theorem Requests.reads {call : SessionCall} (h : Requests call) : Reads call := by
  cases call with
  | requestResponse command responseMatch => exact h
  | «open» | close | isOpen | send | updateResponse | readUntil | deadlineExpired => exact h.elim

theorem Reads.polls {call : SessionCall} (h : Reads call) : Polls call := by
  cases call with
  | send command | requestResponse command responseMatch =>
      exact TrpcCommand.reportingState_eq_none h
  | readUntil | deadlineExpired => trivial
  | updateResponse | «open» | close | isOpen => exact h.elim

theorem asks_requestResponse (method : TrpcMethod) (matchAddress : Option Int)
    (matchFields fields : OrderedDict String Int) :
    (requestResponse method matchAddress matchFields fields).Asks Requests :=
  Asks.perform (show Requests (.requestResponse (TrpcCommand.request method fields) _) from rfl)

theorem asks_requireField (message : Option TrpcPacket) (field : String) :
    (requireField message field).Asks Requests := by
  cases message with
  | none => exact .pure _
  | some message => exact (Asks.ofExcept _).bind fun value => .pure _

theorem asks_getGatewayInfo : getGatewayInfo.Asks Requests := by
  apply (asks_requestResponse _ _ _ _).bind
  intro firmware
  apply (asks_requestResponse _ _ _ _).bind
  intro protocol
  apply (asks_requireField _ _).bind
  intro revision
  exact (asks_requireField _ _).bind fun version => .pure _

theorem asks_inventoryLoop (fuel : Nat) (addresses : List Int) :
    (inventoryLoop fuel addresses).Asks Reads := by
  induction fuel generalizing addresses with
  | zero => trivial
  | succ fuel ih =>
      have hexpired : Reads .deadlineExpired := trivial
      have hread : Reads (.readUntil isInventoryResponse) := trivial
      apply (Asks.perform hexpired).bind
      intro expired
      cases expired with
      | true => exact .pure _
      | false =>
          apply (Asks.perform hread).bind
          intro message
          cases message with
          | none => exact .pure _
          | some message =>
              apply (Asks.ofExcept _).bind
              intro address
              change Asks Reads (if _ then _ else _)
              split
              · exact .pure _
              · exact ih _

theorem asks_getInventoryAddresses (fuel : Nat) : (getInventoryAddresses fuel).Asks Reads := by
  have hsend : Reads (.send (TrpcCommand.request .deviceInventory (addressFields 0))) := rfl
  exact (Asks.perform hsend).bind fun _ => asks_inventoryLoop fuel []

theorem asks_getDeviceInfo (address : Int) : (getDeviceInfo address).Asks Requests := by
  unfold getDeviceInfo
  iterate 4
    apply (asks_requestResponse _ _ _ _).bind
    intro _
  iterate 4
    apply (asks_requireField _ _).bind
    intro _
  exact .pure _

theorem asks_getDevices (addresses : List Int) : (getDevices addresses).Asks Requests := by
  induction addresses with
  | nil => exact .pure _
  | cons address rest ih =>
      exact (asks_getDeviceInfo address).bind fun device => ih.bind fun devices => .pure _

/-- Discovery that does not manage reporting. -/
theorem reads_discover (fuel : Nat) : (discover fuel false none).Asks Reads := by
  have hbody : (do
      let gateway ← getGatewayInfo
      let addresses ← getInventoryAddresses fuel
      let devices ← getDevices addresses
      Pure.pure ({ gateway, devices } : DiscoveryResult) : ClientRoutine _).Asks Reads := by
    apply (asks_getGatewayInfo.mono fun _ => Requests.reads).bind
    intro gateway
    apply (asks_getInventoryAddresses fuel).bind
    intro addresses
    exact ((asks_getDevices addresses).mono fun _ => Requests.reads).bind fun devices => .pure _
  exact hbody.tryFinally (.pure _)

theorem asks_runWhen {α : Type} (condition : Bool) {routine : ClientRoutine α} (value : α)
    (h : routine.Asks Requests) : (runWhen condition routine value).Asks Requests := by
  cases condition with
  | true => exact h
  | false => exact .pure _

theorem asks_requestGatewayField (method : TrpcMethod) (name : String) :
    (requestGatewayField method name).Asks Requests :=
  (asks_requestResponse _ _ _ _).bind fun _ => .pure _

theorem asks_requestField (address : Int) (method : TrpcMethod) (name : String) :
    (requestField address method name).Asks Requests :=
  (asks_requestResponse _ _ _ _).bind fun _ => .pure _

theorem asks_getDatetime : getDatetime.Asks Requests := by
  apply (asks_requestResponse _ _ _ _).bind
  intro message
  cases message with
  | none => exact .pure _
  | some message =>
      iterate 6
        apply (Asks.ofExcept _).bind
        intro _
      exact .pure _

theorem asks_dumpSetpointGroups (groupIds : List Int) (groups : Finmap fun _ : Int => Option Bool) :
    (dumpSetpointGroups groupIds groups).Asks Requests := by
  induction groupIds generalizing groups with
  | nil => exact .pure _
  | cons groupId rest ih => exact (asks_requestResponse _ _ _ _).bind fun message => ih _

theorem asks_pollGateway (info : GatewayInfo) (includeDatetime includeSetpointGroups : Bool) :
    (pollGateway info includeDatetime includeSetpointGroups).Asks Requests := by
  unfold pollGateway
  iterate 4
    apply (asks_requestGatewayField _ _).bind
    intro _
  apply (asks_runWhen _ _ asks_getDatetime).bind
  intro dateTime
  apply (asks_runWhen _ _ ((asks_dumpSetpointGroups _ _).bind fun groups => .pure _)).bind
  exact fun groups => .pure _

theorem asks_dumpSetpointsLoop (method : TrpcMethod) (name : String) (address : Int)
    (slots : List ThaSetback) (values : ThaSetback → Option (Option Int))
    (active observed : Option ThaSetback) :
    (dumpSetpointsLoop method name address slots values active observed).Asks Requests := by
  induction slots generalizing values active observed with
  | nil => exact .pure _
  | cons slot rest ih =>
      apply (asks_requestResponse _ _ _ _).bind
      intro message
      cases message with
      | none => exact ih _ _ _
      | some reply =>
          by_cases hcurrent : slot = .current
          · simp only [if_pos hcurrent]
            exact ih _ _ _
          · simp only [if_neg hcurrent]
            exact ih _ _ _

theorem asks_dumpDeviceSnapshot (device : DiscoveredDevice) (protocolVersion : Option Int)
    (includeSetbacks : Bool) :
    (dumpDeviceSnapshot device protocolVersion includeSetbacks).Asks Requests := by
  unfold dumpDeviceSnapshot
  iterate 3
    apply (asks_requestField _ _ _).bind
    intro _
  iterate 2
    apply (asks_runWhen _ _ (asks_requestField _ _ _)).bind
    intro _
  iterate 4
    apply (asks_runWhen _ _ (asks_dumpSetpointsLoop _ _ _ _ _ _ _)).bind
    intro _
  iterate 3
    apply (asks_runWhen _ _ (asks_requestField _ _ _)).bind
    intro _
  apply (asks_runWhen _ _ (asks_dumpSetpointsLoop _ _ _ _ _ _ _)).bind
  exact fun targets => .pure _

theorem asks_pollDevices (protocolVersion : Option Int) (includeSetbacks : Bool)
    (devices : List DiscoveredDevice) :
    (pollDevices protocolVersion includeSetbacks devices).Asks Requests := by
  induction devices with
  | nil => exact .pure _
  | cons device rest ih =>
      apply (asks_dumpDeviceSnapshot _ _ _).bind
      intro snapshot
      exact ih.bind fun snapshots => .pure _

theorem requests_pollRuntime (discovery : DiscoveryResult)
    (includeSetbacks includeDatetime includeSetpointGroups : Bool) :
    (pollRuntime discovery includeSetbacks includeDatetime includeSetpointGroups).Asks Requests := by
  apply (asks_pollGateway _ _ _).bind
  intro gateway
  exact (asks_pollDevices _ _ _).bind fun devices => .pure _

theorem asks_discover (fuel : Nat) : (discover fuel false none).Asks Polls :=
  (reads_discover fuel).mono fun _ => Reads.polls

theorem asks_pollRuntime (discovery : DiscoveryResult)
    (includeSetbacks includeDatetime includeSetpointGroups : Bool) :
    (pollRuntime discovery includeSetbacks includeDatetime includeSetpointGroups).Asks Polls :=
  (requests_pollRuntime discovery includeSetbacks includeDatetime includeSetpointGroups).mono
    fun _ h => h.reads.polls

end Client

/-- A call of the controller that sends a request or reads a reply. -/
def ControllerCall.Polls : ControllerCall → Prop
  | .session asked => Client.Polls asked
  | _ => False

theorem Client.asks_polls {α : Type} {routine : ClientRoutine α} (h : routine.Asks Client.Polls) :
    (Controller.client routine).Asks ControllerCall.Polls :=
  h.lift fun _ hop => hop

namespace Controller

/-- Awaiting one session call is one call of the controller. -/
theorem client_perform (asked : SessionCall) :
    client (Routine.perform asked) = Routine.perform (ControllerCall.session asked) := by
  refine congrArg (Routine.call _) (funext fun reply => ?_)
  cases reply <;> rfl

theorem client_setReportingState (enabled : Bool) :
    client (Client.setReportingState enabled) = Routine.perform (reportingUpdate enabled) :=
  client_perform _

/-- What is left of an outcome without the exceptions of the gateway. -/
def suppressed {α : Type} : Except PyException α → Except PyException Unit
  | .ok _ => .ok ()
  | .error err => if err.isOsOrTekmarError then .ok () else .error err

/-- The rule of a program that is run without the exceptions of the gateway. -/
theorem follows_suppressed {γ α : Type}
    {contract : Contract ControllerCall ControllerReply PyException γ}
    {Q : γ → Except PyException Unit → Prop} {routine : ClientRoutine α} {g : γ}
    (h : (client routine).Follows contract (fun g' result => Q g' (suppressed result)) g) :
    (suppress routine).Follows contract Q g := by
  apply Follows.tryExcept
  apply follows_bind.mpr
  apply h.mono
  intro g' result hresult
  cases result with
  | ok a => exact hresult
  | error err =>
      change (if _ then _ else _ : ControllerRoutine Unit).Follows _ _ _
      rw [suppressed] at hresult
      split
      · rename_i hfamily
        rw [if_pos hfamily] at hresult
        exact hresult
      · rename_i hfamily
        rw [if_neg hfamily] at hresult
        exact hresult

end Controller

end Tekmar482
