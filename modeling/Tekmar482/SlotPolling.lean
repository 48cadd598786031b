import Tekmar482.Client

/-!
# Polling the setback slots

A poll of a setpoint map asks for every concrete slot and then for the current
one. What it makes of the replies depends on the number of the slot that the reply
to the current request names.
-/

namespace Tekmar482

namespace Client

open Routine

/-- The request for one slot of a setpoint map. -/
def slotRequest (method : TrpcMethod) (address : Int) (slot : ThaSetback) : SessionCall :=
  let command := TrpcCommand.request method (addressSetbackFields address slot.value)
  SessionCall.requestResponse command (.forCommand command (some address)
    (if slot = .current then .empty else setbackMatchFields slot.value))

/-- The requests for some slots and their replies, a missing reply being a timeout. -/
def slotTrace (method : TrpcMethod) (address : Int) (replies : ThaSetback → Option TrpcPacket)
    (slots : List ThaSetback) : List ((op : SessionCall) × Except PyException (SessionReply op)) :=
  slots.map fun slot => ⟨slotRequest method address slot, .ok (replies slot)⟩

section

variable {method : TrpcMethod} {name : String} {address : Int}
  {replies : ThaSetback → Option TrpcPacket}

/-- The concrete slots are stored as they are answered. -/
theorem runs_concrete_slots {slots rest : List ThaSetback}
    {values : ThaSetback → Option (Option Int)} {active observed : Option ThaSetback}
    {trace : List ((op : SessionCall) × Except PyException (SessionReply op))}
    {result : Except PyException SetpointValues} (hslots : ∀ slot ∈ slots, slot ≠ .current)
    (h : Runs (dumpSetpointsLoop method name address rest
      (fun slot => if slot ∈ slots then some (field (replies slot) name) else values slot)
      active observed) trace result) :
    Runs (dumpSetpointsLoop method name address (slots ++ rest) values active observed)
      (slotTrace method address replies slots ++ trace) result := by
  induction slots generalizing values with
  | nil => simpa [slotTrace] using h
  | cons slot slots ih =>
      have hne := hslots slot List.mem_cons_self
      have hvalues : (fun s => if s ∈ slot :: slots then some (field (replies s) name)
          else values s) = fun s => if s ∈ slots then some (field (replies s) name)
            else Function.update values slot (some (field (replies slot) name)) s := by
        funext s
        by_cases heq : s = slot
        · rw [heq]
          simp
        · simp [heq]
      rw [hvalues] at h
      have htail := ih (fun s hs => hslots s (List.mem_cons_of_mem _ hs)) h
      apply Runs.call
      simp only [Routine.bind]
      cases hreply : replies slot with
      | none =>
          rw [hreply] at htail
          exact htail
      | some reply =>
          rw [hreply] at htail
          simp only [if_neg hne]
          exact htail

/-- The slot that the reply to the current request is stored for. -/
def observedSlot (active : Option ThaSetback) (reply : TrpcPacket) : Option ThaSetback :=
  slotOr (setbackFromValue (reply.get "setback")) active

/-- The map of a poll whose current request was answered. -/
def polledSlots (name : String) (active : Option ThaSetback)
    (replies : ThaSetback → Option TrpcPacket) (reply : TrpcPacket) : SetpointValues where
  values slot :=
    if slot = .current ∨ observedSlot active reply = some slot then some (reply.get name)
    else some (field (replies slot) name)
  activeSetback := slotOr (observedSlot active reply) active
  currentObservedSetback := observedSlot active reply

/-- The current request comes last, after the concrete slots. -/
theorem members_eq_concrete : ThaSetback.members =
    [.wake4, .unocc4, .occ4, .sleep4, .occ2, .unocc2, .away] ++ [.current] := rfl

/-- A poll asks for every slot once and returns the map of its replies. -/
theorem runs_dumpSetpoints (active : Option ThaSetback) {reply : TrpcPacket}
    (hreply : replies .current = some reply) :
    Runs (dumpSetpoints method name address active true)
      (slotTrace method address replies ThaSetback.members)
      (.ok (polledSlots name active replies reply)) := by
  have hcurrent (values : ThaSetback → Option (Option Int))
      (hvalues : ∀ slot, slot ≠ .current → values slot = some (field (replies slot) name)) :
      Runs (dumpSetpointsLoop method name address [.current] values active none)
        (slotTrace method address replies [.current])
        (.ok (polledSlots name active replies reply)) := by
    apply Runs.call
    simp only [Routine.bind, hreply, if_pos, dumpSetpointsLoop]
    convert Runs.pure (polledSlots name active replies reply) using 2
    · refine congrArg Routine.pure ?_
      rw [polledSlots, ← observedSlot, SetpointValues.mk.injEq]
      refine ⟨funext fun slot => ?_, rfl, rfl⟩
      by_cases hslot : slot = .current
      · rw [hslot, Function.update_self, if_pos (Or.inl rfl)]
        rfl
      · rw [Function.update_of_ne hslot]
        cases hobserved : observedSlot active reply with
        | none =>
            rw [if_neg (by simp [hslot])]
            exact hvalues slot hslot
        | some stored =>
            by_cases heq : stored = slot
            · rw [if_pos (Or.inr (congrArg some heq)), heq]
              exact Function.update_self slot _ values
            · rw [if_neg (by simp [hslot, heq]), ← hvalues slot hslot]
              exact Function.update_of_ne (Ne.symm heq) _ values
    · rfl
  rw [dumpSetpoints, if_pos rfl, members_eq_concrete, slotTrace, List.map_append]
  apply runs_concrete_slots
  · decide
  · apply hcurrent
    intro slot hslot
    cases slot <;> first | rfl | exact absurd rfl hslot

end

/-! ## Slots treated alike -/

/-- A poll whose reply to the current request names a concrete slot shows that
slot as the active and the observed one, stores the reply in it, and stores every
other slot's own reply. -/
structure SlotsAlike (name : String) (replies : ThaSetback → Option TrpcPacket)
    (reply : TrpcPacket) (slot : ThaSetback) (setpoints : SetpointValues) : Prop where
  active : setpoints.activeSetback = some slot
  observed : setpoints.currentObservedSetback = some slot
  named : setpoints.values slot = some (reply.get name)
  current : setpoints.values .current = some (reply.get name)
  others : ∀ other, other ≠ slot → other ≠ .current →
    setpoints.values other = some (field (replies other) name)

/-- A named slot counts unless it is the slot of value zero. -/
theorem slotOr_named {slot : ThaSetback} (active : Option ThaSetback) :
    slotOr (some slot) active = if slot = .wake4 then active else some slot := by
  cases slot <;> rfl

theorem slotOr_self (active : Option ThaSetback) : slotOr active active = active := by
  cases active with
  | none => rfl
  | some slot => exact ite_self _

/-- A reply that is stored for the slot it names is stored as a poll should. -/
theorem slotsAlike_of_observed {name : String} {active : Option ThaSetback}
    {replies : ThaSetback → Option TrpcPacket} {reply : TrpcPacket} {slot : ThaSetback}
    (h : observedSlot active reply = some slot) (hactive : slotOr (some slot) active = some slot) :
    SlotsAlike name replies reply slot (polledSlots name active replies reply) where
  active := by rw [polledSlots, h, hactive]
  observed := h
  named := if_pos (Or.inr h)
  current := by simp [polledSlots]
  others other hother hcurrent := by
    apply if_neg
    rw [h]
    rintro (heq | heq)
    · exact hcurrent heq
    · exact hother (Option.some.inj heq).symm

theorem slotsAlike_polledSlots_iff (name : String) (active : Option ThaSetback)
    (replies : ThaSetback → Option TrpcPacket) {reply : TrpcPacket} {slot : ThaSetback}
    (hslot : setbackFromValue (reply.get "setback") = some slot) :
    SlotsAlike name replies reply slot (polledSlots name active replies reply) ↔
      slot ≠ .wake4 ∨ active = some .wake4 := by
  have hobserved : observedSlot active reply = if slot = .wake4 then active else some slot := by
    rw [observedSlot, hslot, slotOr_named]
  by_cases hwake : slot = .wake4
  · rw [if_pos hwake] at hobserved
    constructor
    · intro h
      have hshown : observedSlot active reply = some slot := h.observed
      rw [hobserved, hwake] at hshown
      exact Or.inr hshown
    · rintro (hne | hactive)
      · exact absurd hwake hne
      · apply slotsAlike_of_observed
        · rw [hobserved, hactive, hwake]
        · rw [hwake, hactive, slotOr_self]
  · rw [if_neg hwake] at hobserved
    constructor
    · intro _
      exact Or.inl hwake
    · intro _
      apply slotsAlike_of_observed hobserved
      rw [slotOr_named, if_neg hwake]

/-- A poll treats the slot that the reply to the current request names like any
other exactly when it is not the slot of value zero, or that slot was known to be
active before. -/
theorem dumpSetpoints_slotsAlike_iff (method : TrpcMethod) (name : String) (address : Int)
    (active : Option ThaSetback) (replies : ThaSetback → Option TrpcPacket) (reply : TrpcPacket)
    (slot : ThaSetback) (hreply : replies .current = some reply)
    (hslot : setbackFromValue (reply.get "setback") = some slot) :
    ∃ setpoints, (∀ result, Runs (dumpSetpoints method name address active true)
        (slotTrace method address replies ThaSetback.members) result ↔ result = .ok setpoints) ∧
      (SlotsAlike name replies reply slot setpoints ↔ slot ≠ .wake4 ∨ active = some .wake4) := by
  refine ⟨polledSlots name active replies reply, fun result => ?_,
    slotsAlike_polledSlots_iff name active replies hslot⟩
  constructor
  · intro hruns
    exact hruns.unique (runs_dumpSetpoints active hreply)
  · rintro rfl
    exact runs_dumpSetpoints active hreply

/-- The heat setpoint replies of a device that reads 40 in every slot, and 42 in
the current one, which it names. -/
def sampleReply (named slot : ThaSetback) : TrpcPacket where
  serviceId := TrpcService.responseRequest.value
  methodId := TrpcMethod.heatSetpoint.value
  body := .ofList [("address", 1011),
    ("setback", if slot = .current then named.value else slot.value),
    ("setpoint", if slot = .current then 42 else 40)]

theorem dumpSetpoints_slotsAlike_unocc4 :
    ∃ setpoints, Runs (dumpSetpoints .heatSetpoint "setpoint" 1011 none true)
        (slotTrace .heatSetpoint 1011 (fun slot => some (sampleReply .unocc4 slot))
          ThaSetback.members) (.ok setpoints) ∧
      SlotsAlike "setpoint" (fun slot => some (sampleReply .unocc4 slot))
        (sampleReply .unocc4 .current) .unocc4 setpoints := by
  obtain ⟨setpoints, hruns, halike⟩ :=
    dumpSetpoints_slotsAlike_iff .heatSetpoint "setpoint" 1011 none
      (fun slot => some (sampleReply .unocc4 slot)) (sampleReply .unocc4 .current) .unocc4 rfl
      (by decide)
  exact ⟨setpoints, (hruns _).mpr rfl, halike.mpr (Or.inl (by decide))⟩

/-- Every reply matches its request, and the slot of value zero is lost. -/
theorem not_slotsAlike_wake4 :
    (∀ slot, ∃ command responseMatch,
      slotRequest .heatSetpoint 1011 slot = .requestResponse command responseMatch ∧
      responseMatch.accepts (sampleReply .wake4 slot) = true) ∧
    setbackFromValue ((sampleReply .wake4 .current).get "setback") = some .wake4 ∧
    ∃ setpoints, Runs (dumpSetpoints .heatSetpoint "setpoint" 1011 none true)
        (slotTrace .heatSetpoint 1011 (fun slot => some (sampleReply .wake4 slot))
          ThaSetback.members) (.ok setpoints) ∧
      ¬ SlotsAlike "setpoint" (fun slot => some (sampleReply .wake4 slot))
        (sampleReply .wake4 .current) .wake4 setpoints ∧
      setpoints.values .wake4 = some (some 40) := by
  refine ⟨fun slot => ⟨_, _, rfl, ?_⟩, by decide, _,
    runs_dumpSetpoints none rfl, ?_, by decide⟩
  · cases slot <;> decide
  · intro h
    have hobserved := h.observed
    revert hobserved
    decide

end Client

end Tekmar482
