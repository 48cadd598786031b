import Tekmar482.Client
import Tekmar482.StateRegisters

/-!
# Polling a truthful device

A device with a fixed active slot and a fixed slot table answers every poll
request truthfully and announces only what is true. Whether the shown current
setpoint is the active slot's value, and stays so, depends on what the reply to
the request for the current slot names as its slot.
-/

namespace Tekmar482

open Client Routine

section Truth

variable (active : ThaSetback) (table : ThaSetback → UInt8) (echo : ThaSetback)

/-- The byte of a slot, as a message field. -/
def slotByte (slot : ThaSetback) : Int := (table slot).toNat

/-- Replies of a truthful device. The request for the current slot is answered
with the value of the active slot, and names `echo` as its slot. -/
def Truthful : (op : SessionCall) → Except PyException (SessionReply op) → Prop
  | .requestResponse command responseMatch, reply =>
      ∃ message : Option TrpcPacket, reply = .ok message ∧
        (∀ m, message = some m → responseMatch.accepts m = true) ∧
        (command.method = TrpcMethod.setbackState.value →
          ∃ m, message = some m ∧ m.get "setback" = some active.value) ∧
        (command.method = TrpcMethod.heatSetpoint.value → ∀ slot : ThaSetback,
          command.fields.get? "setback" = some slot.value →
          ∃ m, message = some m ∧
            m.get "setback" = some (if slot = .current then echo else slot).value ∧
            m.get "setpoint" =
              some (slotByte table (if slot = .current then active else slot)))
  | _, _ => True

/-- Truthful announcements of a device: its active slot, a slot of its table, or
the value of the active slot as the current one. -/
def Announcement (address : Int) (message : TrpcPacket) : Prop :=
  message.get "address" = some address ∧
  ((RuntimeReport .setbackState message ∧ message.get "setback" = some active.value) ∨
    (RuntimeReport .heatSetpoint message ∧ ∃ slot : ThaSetback,
      message.get "setback" = some slot.value ∧
      message.get "setpoint" =
        some (slotByte table (if slot = .current then active else slot))))

/-- The stored map shows the value of the active slot and will go on doing so. -/
structure ShowsActive (values : SetpointValues) : Prop where
  slot : values.values active = some (some (slotByte table active))
  current : values.values .current = some (some (slotByte table active))
  activeSetback : values.activeSetback = some active ∨ values.activeSetback = some .current

end Truth

namespace ShowsActive

variable {active : ThaSetback} {table : ThaSetback → UInt8} {values : SetpointValues}

/-- The current value is the value of the active slot. -/
theorem current_eq (h : ShowsActive active table values) :
    values.current = some (slotByte table active) := by
  have hslot : values.lookup active = some (slotByte table active) := by
    rw [SetpointValues.lookup, h.slot]
    rfl
  have hcurrent : values.lookup .current = some (slotByte table active) := by
    rw [SetpointValues.lookup, h.current]
    rfl
  rw [SetpointValues.current]
  rcases h.activeSetback with hactive | hactive
  · rw [hactive]
    simp only [hslot, hcurrent, ite_self]
  · rw [hactive]
    exact hcurrent

theorem withActiveSetback (h : ShowsActive active table values) :
    ShowsActive active table (values.withActiveSetback (some active)) :=
  ⟨h.slot, h.current, .inl rfl⟩

/-- A truthful report of a slot keeps the map truthful. -/
theorem withValue (h : ShowsActive active table values) (slot : ThaSetback) :
    ShowsActive active table (values.withValue slot
      (some (slotByte table (if slot = .current then active else slot)))) := by
  by_cases hslot : slot = .current
  · subst hslot
    rw [if_pos rfl]
    have hupdate (s : ThaSetback) (v : ThaSetback → Option (Option Int))
        (hv : v active = some (some (slotByte table active)) ∧
          v .current = some (some (slotByte table active))) :
        Function.update v s (some (some (slotByte table active))) active =
            some (some (slotByte table active)) ∧
          Function.update v s (some (some (slotByte table active))) .current =
            some (some (slotByte table active)) := by
      simp only [Function.update_apply]
      exact ⟨by split <;> simp [hv.1], by split <;> simp [hv.2]⟩
    have hfirst := hupdate .current values.values ⟨h.slot, h.current⟩
    simp only [SetpointValues.withValue, if_pos]
    cases hobserved : observedSetback values.activeSetback with
    | none => exact ⟨hfirst.1, hfirst.2, h.activeSetback⟩
    | some observed =>
        have hsecond := hupdate observed _ hfirst
        exact ⟨hsecond.1, hsecond.2, h.activeSetback⟩
  · rw [if_neg hslot]
    simp only [SetpointValues.withValue, if_neg hslot]
    refine ⟨?_, ?_, h.activeSetback⟩
    · simp only [Function.update_apply]
      split
      · rename_i heq
        rw [heq]
      · exact h.slot
    · simp only [Function.update_apply, if_neg (Ne.symm hslot)]
      exact h.current

/-- A truthful announcement keeps the heat map of its device truthful. -/
theorem updatedRuntime {runtime : DeviceRuntime} {message : TrpcPacket}
    (h : ShowsActive active table runtime.heatSetpoints)
    (hmessage : Announcement active table runtime.info.address message) :
    ShowsActive active table (updatedRuntime runtime message).heatSetpoints := by
  obtain ⟨haddress, ⟨hreport, hsetback⟩ | ⟨hreport, slot, hslot, hvalue⟩⟩ := hmessage
  · rw [updatedRuntime_report hreport (by decide) haddress]
    simp only [applyRuntimeMessage, scalarMethods, Option.getD_some, hsetback]
    have hmap := runtime.setpoints_withScalar .setbackState (some active.value) .heatSetpoints
    simp only [DeviceRuntime.setpoints, if_pos, setbackFromValue,
      ThaSetback.ofValue?_value] at hmap
    rw [hmap]
    exact h.withActiveSetback
  · rw [updatedRuntime_report hreport (by decide) haddress]
    simp only [applyRuntimeMessage, scalarMethods, setpointMethods, applySetpointReport, hslot,
      setbackFromValue, ThaSetback.ofValue?_value, hvalue, Option.getD_some]
    have hmap := runtime.setpoints_withSetpoint .heatSetpoints .heatSetpoints slot
      (some (slotByte table (if slot = .current then active else slot)))
    simp only [DeviceRuntime.setpoints, if_pos] at hmap
    rw [hmap]
    exact h.withValue slot

/-- Any sequence of truthful announcements keeps it truthful. -/
theorem foldl_updatedRuntime {runtime : DeviceRuntime}
    (h : ShowsActive active table runtime.heatSetpoints) (messages : List TrpcPacket)
    (hmessages : ∀ m ∈ messages, Announcement active table runtime.info.address m) :
    ShowsActive active table (messages.foldl Tekmar482.updatedRuntime runtime).heatSetpoints := by
  refine (LastValue.inv_foldl
    (fun r => r.info = runtime.info ∧ ShowsActive active table r.heatSetpoints)
    (Announcement active table runtime.info.address) ?_ messages hmessages runtime ⟨rfl, h⟩).2
  rintro r m ⟨hinfo, hr⟩ hm
  exact ⟨(info_updatedRuntime r m).trans hinfo, hr.updatedRuntime (hinfo ▸ hm)⟩

end ShowsActive

/-! ## The slot loop -/

section Poll

variable {active : ThaSetback} {table : ThaSetback → UInt8} {echo : ThaSetback}

/-- The heat map polled from a truthful device. -/
def polledHeat (active : ThaSetback) (table : ThaSetback → UInt8) (echo : ThaSetback)
    (includeSetbacks : Bool) : SetpointValues where
  values slot :=
    if slot = .current ∨ slot = echo then some (some (slotByte table active))
    else if includeSetbacks then some (some (slotByte table slot)) else none
  activeSetback := some echo
  currentObservedSetback := some echo

/-- What a truthful reply to a heat request holds. -/
theorem Truthful.heat {address : Int} {slot : ThaSetback}
    {matchFields : OrderedDict String Int} {P : Option TrpcPacket → Prop}
    (h : ∀ m : TrpcPacket,
      m.get "setback" = some (if slot = .current then echo else slot).value →
      m.get "setpoint" = some (slotByte table (if slot = .current then active else slot)) →
      P (some m)) :
    (requestResponse .heatSetpoint (some address) matchFields
      (addressSetbackFields address slot.value)).Ensures (Truthful active table echo) P := by
  refine Ensures.perform ?_
  rintro reply ⟨message, hreply, -, -, hheat⟩
  injection hreply with hreply
  have hfield : (addressSetbackFields address slot.value).get? "setback" = some slot.value := rfl
  obtain ⟨m, rfl, hsetback, hsetpoint⟩ := hheat rfl slot hfield
  rw [hreply]
  exact h m hsetback hsetpoint

/-- The loop over concrete slots stores the table's values. -/
theorem ensures_concrete_slots {address : Int} {P : SetpointValues → Prop}
    (slots rest : List ThaSetback) (hslots : ∀ s ∈ slots, s ≠ .current)
    (values : ThaSetback → Option (Option Int)) (observedActive currentObserved : Option ThaSetback)
    (h : (dumpSetpointsLoop .heatSetpoint "setpoint" address rest
      (fun slot => if slot ∈ slots then some (some (slotByte table slot)) else values slot)
      observedActive currentObserved).Ensures (Truthful active table echo) P) :
    (dumpSetpointsLoop .heatSetpoint "setpoint" address (slots ++ rest) values observedActive
      currentObserved).Ensures (Truthful active table echo) P := by
  induction slots generalizing values with
  | nil => simpa using h
  | cons slot slots ih =>
      have hne := hslots slot List.mem_cons_self
      refine Ensures.bind (P := fun message => ∃ m : TrpcPacket, message = some m ∧
        m.get "setpoint" = some (slotByte table slot)) ?_ ?_
      · refine Truthful.heat fun m _ hm => ⟨m, rfl, ?_⟩
        rw [if_neg hne] at hm
        exact hm
      · rintro message ⟨m, rfl, hm⟩
        simp only [if_neg hne, field, Option.bind_some, hm]
        refine ih (fun s hs => hslots s (List.mem_cons_of_mem _ hs)) _ ?_
        convert h using 2
        funext s
        by_cases heq : s = slot
        · subst heq
          simp
        · simp [heq]

/-- The current slot comes last. -/
theorem members_eq : ThaSetback.members =
    [.wake4, .unocc4, .occ4, .sleep4, .occ2, .unocc2, .away] ++ [.current] := rfl

variable (hecho : echo = .current ∨ echo = active)
include hecho

/-- The slot named in the reply wins over the known active slot. -/
theorem slotOr_echo : slotOr (some echo) (some active) = some echo := by
  simp only [slotOr]
  split
  · rfl
  · rename_i hfalsy
    rcases hecho with rfl | rfl
    · exact absurd rfl hfalsy
    · rfl

/-- The request for the current slot stores its value in the slot it names. -/
theorem ensures_current_slot (address : Int) (values : ThaSetback → Option (Option Int)) :
    (dumpSetpointsLoop .heatSetpoint "setpoint" address [.current] values (some active)
      none).Ensures (Truthful active table echo) fun result => result =
        { values := fun slot => if slot = .current ∨ slot = echo then
            some (some (slotByte table active)) else values slot
          activeSetback := some echo
          currentObservedSetback := some echo } := by
  refine Ensures.bind (P := fun message => ∃ m : TrpcPacket, message = some m ∧
    m.get "setback" = some echo.value ∧
    m.get "setpoint" = some (slotByte table active)) ?_ ?_
  · exact Truthful.heat fun m hsetback hm => ⟨m, rfl, hsetback, hm⟩
  · rintro message ⟨m, rfl, hsetback, hm⟩
    simp only [if_pos, hsetback, setbackFromValue, ThaSetback.ofValue?_value, slotOr_echo hecho,
      field, Option.bind_some, hm, dumpSetpointsLoop]
    refine Ensures.pure ?_
    congr 1
    funext slot
    simp only [Function.update_apply]
    by_cases hcurrent : slot = .current
    · simp [hcurrent]
    · simp [hcurrent]

theorem ensures_dumpSetpoints {address : Int} (includeSetbacks : Bool) :
    (dumpSetpoints .heatSetpoint "setpoint" address (some active) includeSetbacks).Ensures
      (Truthful active table echo)
      fun result => result = polledHeat active table echo includeSetbacks := by
  cases includeSetbacks with
  | false => exact ensures_current_slot hecho address fun _ => none
  | true =>
      rw [dumpSetpoints, if_pos (rfl : true = true), members_eq]
      refine ensures_concrete_slots _ _ (by decide) _ _ _ ?_
      refine All.mono (ensures_current_slot hecho address _) ?_
      rintro result hresult values rfl
      rw [hresult values rfl, polledHeat]
      congr 1
      funext slot
      cases slot <;> simp

/-- The heat map in the polled snapshot of a truthful device. -/
theorem ensures_dumpDeviceSnapshot {device : DiscoveredDevice}
    (hheat : device.supportsHeatSetpoint = true) (protocolVersion : Option Int)
    (includeSetbacks : Bool) :
    (dumpDeviceSnapshot device protocolVersion includeSetbacks).Ensures
      (Truthful active table echo) fun snapshot => snapshot.runtime.info = device ∧
        snapshot.runtime.heatSetpoints = polledHeat active table echo includeSetbacks := by
  have hany {α β : Type} {P : β → Prop} (routine : ClientRoutine α) {f : α → ClientRoutine β}
      (hf : ∀ a, (f a).Ensures (Truthful active table echo) P) :
      (routine >>= f).Ensures (Truthful active table echo) P :=
    Ensures.bind (P := fun _ => True) (Ensures.of_forall routine fun _ => trivial) fun a _ => hf a
  rw [dumpDeviceSnapshot]
  refine hany _ fun currentTemperature => hany _ fun activeDemand => ?_
  refine Ensures.bind (P := fun value => value = some active.value) ?_ ?_
  · refine Ensures.bind (P := fun message => ∃ m : TrpcPacket, message = some m ∧
      m.get "setback" = some active.value) (Ensures.perform ?_) ?_
    · rintro reply ⟨message, hreply, -, hsetback, -⟩
      injection hreply with hreply
      rw [hreply]
      exact hsetback rfl
    · rintro message ⟨m, rfl, hm⟩
      exact Ensures.pure hm
  · rintro setbackState rfl
    simp only [setbackFromValue, ThaSetback.ofValue?_value]
    refine hany _ fun currentFloorTemperature => hany _ fun modeSetting => ?_
    refine Ensures.bind (P := fun values => values = polledHeat active table echo includeSetbacks)
      ?_ ?_
    · rw [hheat, runWhen, if_pos rfl]
      exact ensures_dumpSetpoints hecho includeSetbacks
    · rintro heatSetpoints rfl
      refine hany _ fun coolSetpoints => hany _ fun slabSetpoints => hany _ fun fanPercent =>
        hany _ fun relativeHumidity => hany _ fun humiditySetpointMin =>
        hany _ fun humiditySetpointMax => hany _ fun setpointTargets => ?_
      exact Ensures.pure ⟨rfl, rfl⟩

end Poll

/-! ## A truthful device can always be polled -/

section Answers

variable (active : ThaSetback) (table : ThaSetback → UInt8) (echo : ThaSetback)

def heatReply (address setback setpoint : Int) : TrpcPacket where
  serviceId := TrpcService.responseRequest.value
  methodId := TrpcMethod.heatSetpoint.value
  body := .ofList [("address", address), ("setback", setback), ("setpoint", setpoint)]

def setbackReply (address setback : Int) : TrpcPacket where
  serviceId := TrpcService.responseRequest.value
  methodId := TrpcMethod.setbackState.value
  body := .ofList [("address", address), ("setback", setback)]

/-- A request that asks for neither the active slot nor a heat setpoint may go
unanswered. -/
theorem canReturn_unanswered {method : TrpcMethod} (hsetback : method ≠ .setbackState)
    (hheat : method ≠ .heatSetpoint) (matchAddress : Option Int)
    (matchFields fields : OrderedDict String Int) :
    (requestResponse method matchAddress matchFields fields).CanReturn
      (Truthful active table echo) := by
  refine CanReturn.perform none ⟨none, rfl, ?_, ?_, ?_⟩
  · rintro m hm
    cases hm
  · intro hmethod
    exact absurd (TrpcMethod.value_injective hmethod) hsetback
  · intro hmethod
    exact absurd (TrpcMethod.value_injective hmethod) hheat

theorem canReturn_heat (address : Int) (slot : ThaSetback) :
    (requestResponse .heatSetpoint (some address)
      (if slot = .current then .empty else setbackMatchFields slot.value)
      (addressSetbackFields address slot.value)).CanReturn (Truthful active table echo) := by
  let reply := heatReply address (if slot = .current then echo else slot).value
    (slotByte table (if slot = .current then active else slot))
  have hsetback : reply.get "setback" = some (if slot = .current then echo else slot).value := rfl
  have hsetpoint : reply.get "setpoint" =
      some (slotByte table (if slot = .current then active else slot)) := rfl
  refine CanReturn.perform (some reply) ⟨some reply, rfl, ?_, ?_, ?_⟩
  · rintro m hm
    injection hm with hm
    subst hm
    refine (ResponseMatch.accepts_request_iff _ _ _ _ _).mpr ⟨rfl, rfl, ?_, ?_⟩
    · rintro a ha
      injection ha with ha
      subst ha
      rfl
    · by_cases hslot : slot = .current
      · rw [if_pos hslot]
        intro entry hentry
        cases hentry
      · rw [if_neg hslot] at hsetback ⊢
        intro entry hentry
        rw [List.mem_singleton.mp hentry]
        exact hsetback
  · intro hmethod
    have hvalue : TrpcMethod.heatSetpoint.value = TrpcMethod.setbackState.value := hmethod
    exact absurd hvalue (by decide)
  · intro _ requested hrequested
    have hsame : requested = slot :=
      ThaSetback.value_injective (Option.some.inj hrequested).symm
    rw [hsame]
    exact ⟨reply, rfl, hsetback, hsetpoint⟩

theorem canReturn_requestField (address : Int) (method : TrpcMethod) (name : String)
    (hheat : method ≠ .heatSetpoint) :
    (requestField address method name).CanReturn (Truthful active table echo) := by
  refine CanReturn.bind ?_ fun message => CanReturn.pure _
  by_cases hsetback : method = .setbackState
  · subst hsetback
    have haddress : (setbackReply address active.value).get "address" = some address := rfl
    refine CanReturn.perform (some (setbackReply address active.value))
      ⟨_, rfl, ?_, fun _ => ⟨_, rfl, rfl⟩, ?_⟩
    · rintro m hm
      injection hm with hm
      subst hm
      refine (ResponseMatch.accepts_request_iff _ _ _ _ _).mpr ⟨rfl, rfl, ?_, ?_⟩
      · rintro a ha
        injection ha with ha
        exact ha ▸ haddress
      · intro entry hentry
        cases hentry
    · intro hmethod
      have hvalue : TrpcMethod.setbackState.value = TrpcMethod.heatSetpoint.value := hmethod
      exact absurd hvalue (by decide)
  · exact canReturn_unanswered active table echo hsetback hheat _ _ _

theorem canReturn_dumpSetpointsLoop {method : TrpcMethod} (hmethod : method ≠ .setbackState)
    (name : String) (address : Int) (slots : List ThaSetback)
    (values : ThaSetback → Option (Option Int)) (observedActive currentObserved : Option ThaSetback) :
    (dumpSetpointsLoop method name address slots values observedActive
      currentObserved).CanReturn (Truthful active table echo) := by
  induction slots generalizing values observedActive currentObserved with
  | nil => exact CanReturn.pure _
  | cons slot rest ih =>
      refine CanReturn.bind ?_ fun message => ?_
      · by_cases hheat : method = .heatSetpoint
        · subst hheat
          exact canReturn_heat active table echo address slot
        · exact canReturn_unanswered active table echo hmethod hheat _ _ _
      · cases message with
        | none => exact ih _ _ _
        | some reply =>
            simp only
            split
            · exact ih _ _ _
            · exact ih _ _ _

theorem canReturn_runWhen {α : Type} (condition : Bool) {routine : ClientRoutine α} (value : α)
    (h : routine.CanReturn (Truthful active table echo)) :
    (runWhen condition routine value).CanReturn (Truthful active table echo) := by
  rw [runWhen]
  split
  · exact h
  · exact CanReturn.pure value

/-- Some truthful replies let the poll of a device return. -/
theorem canReturn_dumpDeviceSnapshot (device : DiscoveredDevice) (protocolVersion : Option Int)
    (includeSetbacks : Bool) :
    (dumpDeviceSnapshot device protocolVersion includeSetbacks).CanReturn
      (Truthful active table echo) := by
  have hfield (method : TrpcMethod) (name : String) (hheat : method ≠ .heatSetpoint) :=
    canReturn_requestField active table echo device.address method name hheat
  have hmap (method : TrpcMethod) (name : String) (observed : Option ThaSetback)
      (hmethod : method ≠ .setbackState) :
      (dumpSetpoints method name device.address observed includeSetbacks).CanReturn
        (Truthful active table echo) :=
    canReturn_dumpSetpointsLoop active table echo hmethod name device.address _ _ _ _
  rw [dumpDeviceSnapshot]
  refine CanReturn.bind (hfield _ _ (by decide)) fun _ => ?_
  refine CanReturn.bind (hfield _ _ (by decide)) fun _ => ?_
  refine CanReturn.bind (hfield _ _ (by decide)) fun _ => ?_
  refine CanReturn.bind (canReturn_runWhen _ _ _ _ _ (hfield _ _ (by decide))) fun _ => ?_
  refine CanReturn.bind (canReturn_runWhen _ _ _ _ _ (hfield _ _ (by decide))) fun _ => ?_
  refine CanReturn.bind (canReturn_runWhen _ _ _ _ _ (hmap _ _ _ (by decide))) fun _ => ?_
  refine CanReturn.bind (canReturn_runWhen _ _ _ _ _ (hmap _ _ _ (by decide))) fun _ => ?_
  refine CanReturn.bind (canReturn_runWhen _ _ _ _ _ (hmap _ _ _ (by decide))) fun _ => ?_
  refine CanReturn.bind (canReturn_runWhen _ _ _ _ _ (hmap _ _ _ (by decide))) fun _ => ?_
  refine CanReturn.bind (canReturn_runWhen _ _ _ _ _ (hfield _ _ (by decide))) fun _ => ?_
  refine CanReturn.bind (canReturn_runWhen _ _ _ _ _ (hfield _ _ (by decide))) fun _ => ?_
  refine CanReturn.bind (canReturn_runWhen _ _ _ _ _ (hfield _ _ (by decide))) fun _ => ?_
  refine CanReturn.bind (canReturn_runWhen _ _ _ _ _ (hmap _ _ _ (by decide))) fun _ => ?_
  exact CanReturn.pure _

end Answers

/-! ## When the shown value is right -/

/-- After a poll with truthful replies the current heat setpoint is the value of
the active slot, and truthful announcements keep it. -/
def ShownTruthfully (device : DiscoveredDevice) (protocolVersion : Option Int)
    (includeSetbacks : Bool) (active : ThaSetback) (table : ThaSetback → UInt8)
    (echo : ThaSetback) : Prop :=
  ∀ trace snapshot,
    Runs (dumpDeviceSnapshot device protocolVersion includeSetbacks) trace (.ok snapshot) →
    (∀ item ∈ trace, Truthful active table echo item.1 item.2) →
    snapshot.runtime.heatSetpoints.current = some (slotByte table active) ∧
    ∀ state : Tekmar482State, state.Aligned →
      state.runtime device.address = some snapshot.runtime →
      ∀ messages, (∀ m ∈ messages, Announcement active table device.address m) →
        ∃ after, (state.applyMessages messages).runtime device.address = some after ∧
          after.heatSetpoints.current = some (slotByte table active)

section Shown

variable {device : DiscoveredDevice} {protocolVersion : Option Int} {includeSetbacks : Bool}
  {active : ThaSetback} {table : ThaSetback → UInt8} {echo : ThaSetback}

/-- Where every slot is polled, or the reply names the active slot, the polled
map has the value of the active slot. -/
theorem showsActive_polledHeat (hecho : echo = .current ∨ echo = active)
    (h : includeSetbacks = true ∨ echo = active) :
    ShowsActive active table (polledHeat active table echo includeSetbacks) := by
  refine ⟨?_, ?_, ?_⟩
  · rcases h with rfl | rfl
    · simp [polledHeat]
    · simp [polledHeat]
  · simp [polledHeat]
  · rcases hecho with rfl | rfl
    · exact .inr rfl
    · exact .inl rfl

theorem shownTruthfully_of (hheat : device.supportsHeatSetpoint = true)
    (hecho : echo = .current ∨ echo = active) (h : includeSetbacks = true ∨ echo = active) :
    ShownTruthfully device protocolVersion includeSetbacks active table echo := by
  intro trace snapshot hruns htrace
  obtain ⟨hinfo, hmap⟩ :=
    (ensures_dumpDeviceSnapshot hecho hheat protocolVersion includeSetbacks).runs hruns htrace
  have hshows : ShowsActive active table snapshot.runtime.heatSetpoints := by
    rw [hmap]
    exact showsActive_polledHeat hecho h
  refine ⟨hshows.current_eq, ?_⟩
  intro state haligned hruntime messages hmessages
  have hknown := (haligned.runtime_eq_some_iff _ _).mp hruntime
  have haddress : device.address ∈ state.discovery.devices.map DiscoveredDevice.address := by
    rw [← haligned.order]
    exact List.mem_map.mpr ⟨_, hknown⟩
  obtain ⟨before, hbefore, -, hafter⟩ := haligned.runtime_applyMessages messages haddress
  rw [hruntime] at hbefore
  injection hbefore with hbefore
  subst hbefore
  exact ⟨_, hafter, (hshows.foldl_updatedRuntime messages (by rwa [hinfo])).current_eq⟩

/-- Where only the current slot is polled and the reply echoes it, the announced
active slot is one the map has no value for. -/
theorem not_shownTruthfully (hheat : device.supportsHeatSetpoint = true)
    (hactive : active ≠ .current) :
    ¬ ShownTruthfully device protocolVersion false active table .current := by
  intro hshown
  obtain ⟨trace, snapshot, hruns, htrace⟩ :=
    (canReturn_dumpDeviceSnapshot active table .current device protocolVersion false).runs
  obtain ⟨hinfo, hmap⟩ :=
    (ensures_dumpDeviceSnapshot (.inl rfl) hheat protocolVersion false).runs hruns htrace
  let state : Tekmar482State :=
    { discovery := { devices := [device] }, data := { devices := [snapshot] } }
  have haddress : snapshot.info.address = device.address := congrArg _ hinfo
  have haligned : state.Aligned := ⟨by simp [state, haddress], by simp [state]⟩
  have hruntime : state.runtime device.address = some snapshot.runtime :=
    (haligned.runtime_eq_some_iff _ _).mpr ⟨List.mem_singleton.mpr rfl, haddress⟩
  let announced := setbackReply device.address active.value
  have hreport : RuntimeReport .setbackState announced :=
    ⟨by simp [announced, setbackReply], rfl⟩
  have hget : announced.get "address" = some device.address := rfl
  have hslot : announced.get "setback" = some active.value := rfl
  obtain ⟨after, hafter, hcurrent⟩ := (hshown trace snapshot hruns htrace).2 state haligned hruntime
    [announced] (by
      intro m hm
      rw [List.mem_singleton.mp hm]
      exact ⟨hget, .inl ⟨hreport, hslot⟩⟩)
  have hmem : device.address ∈ state.discovery.devices.map DiscoveredDevice.address := by
    simp [state]
  obtain ⟨before, hbefore, -, hrun⟩ := haligned.runtime_applyMessages [announced] hmem
  rw [hruntime] at hbefore
  injection hbefore with hbefore
  subst hbefore
  rw [hrun] at hafter
  injection hafter with hafter
  rw [List.foldl_cons, List.foldl_nil, updatedRuntime_report hreport (by decide)
    (hget.trans (congrArg some haddress.symm))] at hafter
  simp only [applyRuntimeMessage, scalarMethods, Option.getD_some, hslot] at hafter
  have hset := snapshot.runtime.setpoints_withScalar .setbackState (some active.value)
    .heatSetpoints
  simp only [DeviceRuntime.setpoints, if_pos, setbackFromValue, ThaSetback.ofValue?_value,
    hafter, hmap] at hset
  rw [hset] at hcurrent
  simp [SetpointValues.current, SetpointValues.withActiveSetback, polledHeat,
    SetpointValues.lookup, hactive, Ne.symm hactive] at hcurrent

end Shown

/-- Polling a truthful device shows its active setpoint, and goes on showing it,
exactly when every slot is polled or the reply to the request for the current
slot names the active slot. -/
theorem shownTruthfully_iff (device : DiscoveredDevice)
    (hheat : device.supportsHeatSetpoint = true) (protocolVersion : Option Int)
    (includeSetbacks : Bool) (active : ThaSetback) (hactive : active ≠ .current)
    (table : ThaSetback → UInt8) (echo : ThaSetback)
    (hecho : echo = .current ∨ echo = active) :
    ShownTruthfully device protocolVersion includeSetbacks active table echo ↔
      includeSetbacks = true ∨ echo = active := by
  constructor
  · intro hshown
    by_contra hneither
    obtain ⟨hinclude, hne⟩ := not_or.mp hneither
    rw [Bool.eq_false_of_not_eq_true hinclude, hecho.resolve_right hne] at hshown
    exact not_shownTruthfully hheat hactive hshown
  · exact shownTruthfully_of hheat hecho

/-- A device whose attributes have the heat setpoint bit. -/
def heatDevice : DiscoveredDevice := { address := 1011, attributes := { raw := 1 } }

theorem shownTruthfully_iff_wake4 :
    ShownTruthfully heatDevice (some 3) false .wake4 (fun slot => UInt8.ofNat slot.value.toNat)
      .wake4 :=
  (shownTruthfully_iff heatDevice (by decide) (some 3) false .wake4 (by decide) _ .wake4
    (.inr rfl)).mpr (.inr rfl)

/-- With the default poll, a device that echoes the current slot loses its current
setpoint when it announces its active slot. -/
theorem not_shownTruthfully_occ4 :
    ¬ ShownTruthfully heatDevice none false .occ4 (fun _ => 40) .current :=
  not_shownTruthfully (by decide) (by decide)

end Tekmar482
