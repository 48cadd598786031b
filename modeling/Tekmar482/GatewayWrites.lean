import Tekmar482.EchoedWrites
import Tekmar482.StateRegisters

/-!
# Writes of gateway settings

A gateway setting is written with an update whose confirmation repeats the payload. Applied
to a state, a confirmation that the client accepts shows the written setting and changes
nothing else, and the setting stays until the gateway reports another one.
-/

namespace Tekmar482

open LastValue

/-! ## Dates -/

/-- A date and time of day. -/
structure Datetime where
  year : Int
  month : Int
  day : Int
  isoweekday : Int
  hour : Int
  minute : Int
  year_bounds : 1 ≤ year ∧ year ≤ 9999
  month_bounds : 1 ≤ month ∧ month ≤ 12
  day_bounds : 1 ≤ day ∧ day ≤ 31
  isoweekday_bounds : 1 ≤ isoweekday ∧ isoweekday ≤ 7
  hour_bounds : 0 ≤ hour ∧ hour ≤ 23
  minute_bounds : 0 ≤ minute ∧ minute ≤ 59

/-- The fields of a date and time. -/
def DateTimeFields.fromDatetime (value : Datetime) : DateTimeFields where
  year := value.year
  month := value.month
  day := value.day
  weekday := value.isoweekday
  hour := value.hour
  minute := value.minute

/-- The date and time that the fields stand for. -/
def DateTimeFields.dateTime (self : DateTimeFields) : GatewayDateTime where
  year := self.year
  month := self.month
  day := self.day
  weekday := self.weekday
  hour := self.hour
  minute := self.minute

namespace ConfirmableWrite

/-- The bounds of a date are within those of the wire fields. -/
theorem fits_fromDatetime (value : Datetime) : (dateTime (.fromDatetime value)).Fits := by
  have hyear := value.year_bounds
  have hmonth := value.month_bounds
  have hday := value.day_bounds
  have hweekday := value.isoweekday_bounds
  have hhour := value.hour_bounds
  have hminute := value.minute_bounds
  intro item hitem written hwritten
  simp only [method, methodSpecs, List.mem_cons, List.not_mem_nil, or_false] at hitem
  rcases hitem with rfl | rfl | rfl | rfl | rfl | rfl <;> cases hwritten <;>
    simp only [DateTimeFields.fromDatetime] <;> omega

/-! ## Confirmations -/

/-- The gateway values with the written setting. -/
def written (gateway : GatewaySnapshot) : ConfirmableWrite → GatewaySnapshot
  | reportingState enabled => { gateway with reportingEnabled := some enabled }
  | setbackEnable enabled => { gateway with setbackEnabled := some enabled }
  | setpointGroupEnable groupId enabled =>
      { gateway with
        setpointGroups := some ((gateway.setpointGroups.getD ∅).insert groupId (some enabled)) }
  | dateTime fields => { gateway with dateTime := some fields.dateTime }
  | setpoint _ _ _ _ | modeSetting _ _ => gateway

/-- What an accepted confirmation says. -/
theorem report_of_accepts {write : ConfirmableWrite} {reply : TrpcPacket}
    (h : write.responseMatch.accepts reply = true) :
    RuntimeReport write.method reply ∧
      ∀ entry ∈ write.fields.entries, reply.get entry.1 = some entry.2 := by
  obtain ⟨hservice, hmethod, -, hfields⟩ := (ResponseMatch.accepts_forCommand_iff
    (show responseServiceFor write.command.service = some .responseUpdate from rfl)
    write.matchAddress write.fields reply).mp h
  refine ⟨⟨?_, hmethod⟩, hfields⟩
  rw [hservice]
  decide

theorem flag_ne_zero (enabled : Bool) : ((if enabled then 1 else 0 : Int) != 0) = enabled := by
  cases enabled <;> rfl

/-- An accepted confirmation of a gateway setting writes the setting. -/
theorem applyGatewayMessage_confirmation {write : ConfirmableWrite}
    (hgateway : write.matchAddress = none) {reply : TrpcPacket}
    (haccepts : write.responseMatch.accepts reply = true) (data : AvailableInfo) :
    applyGatewayMessage data write.method reply =
      some { data with gateway := write.written data.gateway } := by
  obtain ⟨-, hfields⟩ := report_of_accepts haccepts
  cases write with
  | setpoint map address value setback => cases hgateway
  | modeSetting address mode => cases hgateway
  | reportingState enabled =>
      have hstate : reply.get "state" = some (if enabled then 1 else 0) :=
        hfields ("state", _) List.mem_cons_self
      simp [applyGatewayMessage, method, hstate, written, flag_ne_zero]
  | setbackEnable enabled =>
      have henable : reply.get "enable" = some (if enabled then 1 else 0) :=
        hfields ("enable", _) List.mem_cons_self
      simp [applyGatewayMessage, method, henable, written, flag_ne_zero]
  | setpointGroupEnable groupId enabled =>
      have hgroup : reply.get "group_id" = some groupId :=
        hfields ("group_id", _) List.mem_cons_self
      have henable : reply.get "enable" = some (if enabled then 1 else 0) :=
        hfields ("enable", _) (List.mem_cons_of_mem _ List.mem_cons_self)
      simp [applyGatewayMessage, method, hgroup, henable, written, flag_ne_zero]
  | dateTime time =>
      have hentries : (dateTime time).fields.entries =
          [("year", time.year), ("month", time.month), ("day", time.day),
            ("weekday", time.weekday), ("hour", time.hour), ("minute", time.minute)] := rfl
      rw [hentries] at hfields
      simp only [List.forall_mem_cons] at hfields
      obtain ⟨hyear, hmonth, hday, hweekday, hhour, hminute, -⟩ := hfields
      simp only [applyGatewayMessage, method, messageDatetime, hyear, hmonth, hday, hweekday, hhour,
        hminute]
      rfl

theorem method_mem_gatewayMethods {write : ConfirmableWrite}
    (hgateway : write.matchAddress = none) : write.method ∈ gatewayMethods := by
  cases write with
  | setpoint map address value setback => cases hgateway
  | modeSetting address mode => cases hgateway
  | reportingState enabled => exact (by decide : TrpcMethod.reportingState ∈ gatewayMethods)
  | setbackEnable enabled => exact (by decide : TrpcMethod.setbackEnable ∈ gatewayMethods)
  | setpointGroupEnable groupId enabled =>
      exact (by decide : TrpcMethod.setpointGroupEnable ∈ gatewayMethods)
  | dateTime time => exact (by decide : TrpcMethod.dateTime ∈ gatewayMethods)

/-- Applied to a state, an accepted confirmation changes the written setting only. -/
theorem applyMessage_confirmation {write : ConfirmableWrite} (hgateway : write.matchAddress = none)
    {reply : TrpcPacket} (haccepts : write.responseMatch.accepts reply = true)
    (state : Tekmar482State) :
    (state.applyMessage reply).2 =
      { state with data :=
        { state.data with gateway := write.written state.data.gateway } } := by
  obtain ⟨hreport, -⟩ := report_of_accepts haccepts
  have happlied : Tekmar482.applyMessage state.discovery state.data reply =
      some { state.data with gateway := write.written state.data.gateway } := by
    rw [Tekmar482.applyMessage, if_pos ((isRuntimeMessage_iff _ _ hreport.method_eq).mpr hreport),
      hreport.method_eq]
    simp only
    rw [if_pos (method_mem_gatewayMethods hgateway),
      applyGatewayMessage_confirmation hgateway haccepts]
  rw [Tekmar482State.applyMessage, happlied]
  simp only
  split
  · rename_i hsame
    rw [hsame]
  · rfl

/-! ## Later reports -/

/-- The gateway values show the written setting. -/
def Shown (gateway : GatewaySnapshot) : ConfirmableWrite → Prop
  | reportingState enabled => gateway.reportingEnabled = some enabled
  | setbackEnable enabled => gateway.setbackEnabled = some enabled
  | setpointGroupEnable groupId enabled => gateway.group groupId = some (some enabled)
  | dateTime time => gateway.dateTime = some time.dateTime
  | setpoint _ _ _ _ | modeSetting _ _ => True

/-- A message that reports the setting of a write. -/
def Overwrites (message : TrpcPacket) : ConfirmableWrite → Prop
  | setpointGroupEnable groupId _ =>
      RuntimeReport .setpointGroupEnable message ∧ message.get "group_id" = some groupId
  | write => RuntimeReport write.method message

theorem shown_written (write : ConfirmableWrite) (gateway : GatewaySnapshot) :
    write.Shown (write.written gateway) := by
  cases write with
  | setpointGroupEnable groupId enabled => exact Finmap.lookup_insert _
  | setpoint | modeSetting => trivial
  | reportingState | setbackEnable | dateTime => rfl

end ConfirmableWrite

/-- A message of another method leaves a gateway cell alone. -/
theorem cell_updatedGateway_other {β : Type} {cell : GatewaySnapshot → β} {method : TrpcMethod}
    (hother : ∀ other gateway message, other ≠ method →
      cell (gatewayAfter gateway other message) = cell gateway) {message : TrpcPacket}
    (h : ¬ RuntimeReport method message) (gateway : GatewaySnapshot) :
    cell (updatedGateway gateway message) = cell gateway := by
  rw [updatedGateway]
  cases hmethod : message.method with
  | none => rfl
  | some actual =>
      simp only
      split
      · rename_i hruntime
        apply hother
        rintro rfl
        exact h ((isRuntimeMessage_iff message actual hmethod).mp hruntime)
      · rfl

namespace ConfirmableWrite

/-- A shown setting stays until it is reported. -/
theorem Shown.updated {write : ConfirmableWrite} {gateway : GatewaySnapshot}
    (h : write.Shown gateway) {message : TrpcPacket} (hkept : ¬ write.Overwrites message) :
    write.Shown (updatedGateway gateway message) := by
  cases write with
  | setpoint map address value setback => trivial
  | modeSetting address mode => trivial
  | reportingState enabled =>
      refine Eq.trans (cell_updatedGateway_other (fun other before sent => ?_) hkept gateway) h
      exact (gatewayFrame_gatewayAfter before other sent).reportingEnabled
  | setbackEnable enabled =>
      refine Eq.trans (cell_updatedGateway_other (fun other before sent => ?_) hkept gateway) h
      exact (gatewayFrame_gatewayAfter before other sent).setbackEnabled
  | dateTime time =>
      refine Eq.trans (cell_updatedGateway_other (fun other before sent => ?_) hkept gateway) h
      exact (gatewayFrame_gatewayAfter before other sent).dateTime
  | setpointGroupEnable groupId enabled =>
      have hsilent : groupReport groupId message = none := if_neg hkept
      refine (group_updatedGateway gateway groupId).trans ?_
      rw [hsilent, Option.getD_none]
      exact h

/-- What is decoded from a confirmation is an update response. -/
theorem serviceId_confirmation {data : List UInt8} {reply : TrpcPacket}
    (h : TrpcPacket.fromBytes (confirmation data) = .ok reply) :
    reply.serviceId = TrpcService.responseUpdate.value := by
  have hlen : 5 ≤ (confirmation data).length := by
    by_contra hshort
    rw [TrpcPacket.fromBytes, TrpcPacket.HEADER_SIZE, if_pos (Nat.lt_of_not_le hshort)] at h
    cases h
  obtain ⟨found, hfound, hservice, -⟩ := TrpcPacket.ids_fromBytes hlen
  rw [hfound] at h
  cases h
  rw [hservice]
  cases data with
  | nil => exact absurd hlen (by simp [confirmation])
  | cons first rest => rfl

/-- The update that repeats the bytes of a write is an accepted confirmation. -/
theorem accepts_confirmation {write : ConfirmableWrite} (hgateway : write.matchAddress = none)
    (hfits : write.Fits) :
    ∃ message data reply, write.command.toMessage = .ok message ∧ message.toBytes = .ok data ∧
      TrpcPacket.fromBytes (confirmation data) = .ok reply ∧
      write.responseMatch.accepts reply = true := by
  obtain ⟨message, data, reply, hmessage, hdata, hreply, hreport, hfields⟩ :=
    decode_confirmation write.canonical_fields
  refine ⟨message, data, reply, hmessage, hdata, hreply, ?_⟩
  apply (ResponseMatch.accepts_forCommand_iff
    (show responseServiceFor write.command.service = some .responseUpdate from rfl)
    write.matchAddress write.fields reply).mpr
  refine ⟨serviceId_confirmation hreply, hreport.2, fun address haddress => ?_,
    fun entry hentry => ?_⟩
  · rw [hgateway] at haddress
    cases haddress
  · obtain ⟨item, hitem, hname⟩ := write.canonical_fields entry.1 (List.mem_map_of_mem hentry)
    have hvalue : write.fields.get? item.name = some entry.2 := by
      rw [hname]
      exact (write.fields.get?_eq_some_iff _ _).mpr hentry
    obtain ⟨hlow, hhigh⟩ := hfits item hitem entry.2 hvalue
    rw [← hname, hfields item hitem, hvalue, Option.getD_some, Int.emod_eq_of_lt hlow hhigh]

/-- A confirmed write of a gateway setting is shown: the update that repeats its bytes is an
accepted confirmation; any accepted confirmation writes the setting into the state and changes
nothing else; and the setting is shown after all later messages, until one of them reports it. -/
theorem gateway_write_shown (write : ConfirmableWrite) (hgateway : write.matchAddress = none)
    (hfits : write.Fits) :
    (∃ message data reply, write.command.toMessage = .ok message ∧ message.toBytes = .ok data ∧
      TrpcPacket.fromBytes (confirmation data) = .ok reply ∧
      write.responseMatch.accepts reply = true) ∧
    ∀ reply, write.responseMatch.accepts reply = true → ∀ state : Tekmar482State,
      let confirmed := (state.applyMessage reply).2
      confirmed = { state with data :=
        { state.data with gateway := write.written state.data.gateway } } ∧
      ∀ messages, (∀ message ∈ messages, ¬ write.Overwrites message) →
        write.Shown (confirmed.applyMessages messages).data.gateway := by
  refine ⟨accepts_confirmation hgateway hfits, fun reply haccepts state => ?_⟩
  have hconfirmed := applyMessage_confirmation hgateway haccepts state
  refine ⟨hconfirmed, fun messages hkept => ?_⟩
  rw [Tekmar482State.gateway_applyMessages, hconfirmed]
  exact inv_foldl write.Shown (fun message => ¬ write.Overwrites message)
    (fun _ _ hshown hmessage => hshown.updated hmessage) messages hkept _
    (write.shown_written state.data.gateway)

/-- The setback support is switched off, and the gateway goes on with reports of other things. -/
theorem gateway_write_shown_setback :
    ∃ reply, (setbackEnable false).responseMatch.accepts reply = true ∧
      (((Tekmar482State.sampleState.applyMessage reply).2.applyMessages
        Tekmar482State.sampleMessages).data.gateway.setbackEnabled = some false) := by
  obtain ⟨⟨message, data, reply, -, -, -, haccepts⟩, hshown⟩ :=
    gateway_write_shown (setbackEnable false) rfl (by simp only [Fits]; decide)
  refine ⟨reply, haccepts,
    (hshown reply haccepts Tekmar482State.sampleState).2 Tekmar482State.sampleMessages ?_⟩
  intro message hmessage hoverwrites
  have hmethods : ∀ message ∈ Tekmar482State.sampleMessages,
      message.methodId ≠ TrpcMethod.setbackEnable.value := by decide
  exact hmethods message hmessage hoverwrites.2

end ConfirmableWrite

end Tekmar482
