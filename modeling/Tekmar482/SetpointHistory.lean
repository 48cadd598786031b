import Tekmar482.StateStore

/-!
# What `current` tells about the history of a setpoint map

The setback states and setpoint reports that a device has received are a list of
events. Every slot of a map shows the last report that was meant for it, where a
report of the current slot is meant for the slot that was active when it came.
-/

namespace Tekmar482

open LastValue

/-- An update of a device that concerns its setpoint maps. -/
inductive SetpointEvent where
  | setbackState (raw : Int)
  | report (map : SetpointMap) (setback : ThaSetback) (value : Int)
  deriving DecidableEq, Repr

/-- The runtime after one event. -/
def DeviceRuntime.applyEvent (self : DeviceRuntime) : SetpointEvent → DeviceRuntime
  | .setbackState raw => self.withScalar .setbackState (some raw)
  | .report map setback value => self.withSetpoint map setback (some value)

/-- The runtime after a sequence of events. -/
def DeviceRuntime.applyEvents (self : DeviceRuntime) (events : List SetpointEvent) :
    DeviceRuntime :=
  events.foldl DeviceRuntime.applyEvent self

/-- A setpoint report of a known slot is applied as an event. -/
theorem applyRuntimeMessage_report {method : TrpcMethod} {map : SetpointMap} {field : String}
    {message : TrpcPacket} {setback : ThaSetback} {value : Int}
    (hmethod : setpointMethods method = some (map, field))
    (hsetback : message.get "setback" = some setback.value)
    (hvalue : message.get field = some value) (runtime : DeviceRuntime) :
    applyRuntimeMessage runtime method message =
      some (runtime.applyEvent (.report map setback value)) := by
  have hscalar : scalarMethods method = none := by
    cases method <;> first | rfl | cases hmethod
  simp only [applyRuntimeMessage, hscalar, hmethod, applySetpointReport, hsetback,
    setbackFromValue, ThaSetback.ofValue?_value, hvalue, DeviceRuntime.applyEvent]

/-! ## The history -/

/-- The slot that a setback state names, for the events that set one. -/
def namedSetback : SetpointEvent → Option (Option ThaSetback)
  | .setbackState raw => some (ThaSetback.ofValue? raw)
  | .report _ _ _ => none

/-- The slot that the last setback state names. -/
def lastSetback (events : List SetpointEvent) : Option ThaSetback :=
  lastValue namedSetback events none

/-- The value of a report that is meant for a slot: it addresses the slot, or it
addresses the current slot while the slot is active. -/
def slotReport (map : SetpointMap) (slot : ThaSetback) :
    List SetpointEvent × SetpointEvent → Option (Option Int)
  | (_, .setbackState _) => none
  | (before, .report reported setback value) =>
      if reported = map ∧ (setback = slot ∨ setback = .current ∧ lastSetback before = some slot)
        then some (some value) else none

/-- The value of the last report that is meant for a slot. -/
def lastReport (map : SetpointMap) (slot : ThaSetback) (events : List SetpointEvent) :
    Option Int :=
  lastValue (slotReport map slot) (withHistory [] events) none

theorem lastSetback_concat (events : List SetpointEvent) (event : SetpointEvent) :
    lastSetback (events ++ [event]) = (namedSetback event).getD (lastSetback events) :=
  lastValue_concat namedSetback events event none

theorem lastReport_concat (map : SetpointMap) (slot : ThaSetback) (events : List SetpointEvent)
    (event : SetpointEvent) :
    lastReport map slot (events ++ [event]) =
      (slotReport map slot (events, event)).getD (lastReport map slot events) :=
  lastValue_withHistory_concat (slotReport map slot) events event none

/-- What the three fields of a setpoint map keep of the history. -/
structure SetpointValues.Tells (setpoints : SetpointValues) (map : SetpointMap)
    (events : List SetpointEvent) : Prop where
  active : setpoints.activeSetback = lastSetback events
  slots : ∀ slot, setpoints.lookup slot = lastReport map slot events
  observed : ∀ slot, setpoints.currentObservedSetback = some slot →
    slot ≠ .current ∧ (setpoints.lookup slot).isSome = true

/-! ## One event -/

/-- What a stored value does to the slots of a map. -/
theorem SetpointValues.lookup_withValue (self : SetpointValues) (setback slot : ThaSetback)
    (value : Int) :
    (self.withValue setback (some value)).lookup slot =
      if setback = slot ∨ setback = .current ∧ self.activeSetback = some slot then some value
      else self.lookup slot := by
  have hupdate (values : ThaSetback → Option (Option Int)) (key : ThaSetback) :
      (Function.update values key (some (some value)) slot).join =
        if key = slot then some value else (values slot).join := by
    by_cases h : key = slot
    · rw [h, Function.update_self, if_pos rfl, Option.join_some]
    · rw [Function.update_of_ne (Ne.symm h), if_neg h]
  simp only [withValue, lookup]
  by_cases hcurrent : setback = .current
  · rw [if_pos hcurrent]
    cases hactive : self.activeSetback with
    | none => simp [observedSetback, hupdate]
    | some active =>
        by_cases heq : active = .current
        · subst heq
          simp only [observedSetback, if_pos, hupdate, Option.some.injEq]
          rw [hcurrent]
          simp
        · simp only [observedSetback, if_neg heq, hupdate, Option.some.injEq, hcurrent, true_and]
          by_cases hslot : active = slot
          · rw [if_pos hslot, if_pos (Or.inr hslot)]
          · rw [if_neg hslot]
            simp only [hslot, or_false]
  · rw [if_neg hcurrent]
    simp only [hupdate, hcurrent, false_and, or_false]

namespace SetpointValues

variable {self : SetpointValues} {map : SetpointMap} {events : List SetpointEvent}

theorem Tells.empty (map : SetpointMap) : Tells {} map [] where
  active := rfl
  slots _ := rfl
  observed _ h := by cases h

/-- A setback state names the active slot and reports nothing. -/
theorem Tells.setbackState (h : self.Tells map events) (raw : Int) :
    (self.withActiveSetback (ThaSetback.ofValue? raw)).Tells map
      (events ++ [.setbackState raw]) where
  active := by rw [lastSetback_concat]; rfl
  slots slot := by
    rw [lastReport_concat]
    exact h.slots slot
  observed := h.observed

/-- A report of another map is not meant for any slot of this one. -/
theorem Tells.other (h : self.Tells map events) {reported : SetpointMap} (hne : reported ≠ map)
    (setback : ThaSetback) (value : Int) :
    self.Tells map (events ++ [.report reported setback value]) where
  active := by
    rw [lastSetback_concat]
    exact h.active
  slots slot := by
    rw [lastReport_concat, slotReport, if_neg fun hboth => hne hboth.1]
    exact h.slots slot
  observed := h.observed

/-- A report of this map is stored where it is meant for. -/
theorem Tells.report (h : self.Tells map events) (setback : ThaSetback) (value : Int) :
    (self.withValue setback (some value)).Tells map
      (events ++ [.report map setback value]) := by
  have hlookup (slot : ThaSetback) :=
    lookup_withValue self setback slot value
  constructor
  · rw [lastSetback_concat, withValue]
    split
    · exact h.active
    · exact h.active
  · intro slot
    rw [hlookup slot, lastReport_concat, slotReport, h.active, h.slots slot]
    simp only [true_and]
    split
    · rfl
    · rfl
  · intro slot hobserved
    rw [hlookup slot]
    by_cases hcurrent : setback = .current
    · have hactive : observedSetback self.activeSetback = some slot := by
        simpa only [withValue, if_pos hcurrent] using hobserved
      have hslot : self.activeSetback = some slot ∧ slot ≠ .current := by
        revert hactive
        cases self.activeSetback with
        | none => exact fun h => nomatch h
        | some active =>
            intro hactive
            simp only [observedSetback] at hactive
            split at hactive
            · cases hactive
            · rename_i hne
              injection hactive with hactive
              exact ⟨congrArg some hactive, hactive ▸ hne⟩
      rw [if_pos (Or.inr ⟨hcurrent, hslot.1⟩)]
      exact ⟨hslot.2, rfl⟩
    · have hbefore : self.currentObservedSetback = some slot := by
        simpa only [withValue, if_neg hcurrent] using hobserved
      refine ⟨(h.observed slot hbefore).1, ?_⟩
      split
      · rfl
      · exact (h.observed slot hbefore).2

/-- The current value is the active slot's while a concrete slot is active, and
otherwise the one stored for the current slot. -/
theorem Tells.current_eq (h : self.Tells map events) :
    self.current = lastReport map
      (match lastSetback events with
        | some slot => slot
        | none => .current) events := by
  have hobserved (active : ThaSetback) (heq : self.currentObservedSetback = some active) :
      ∃ value, self.lookup active = some value :=
    Option.isSome_iff_exists.mp (h.observed active heq).2
  simp only [current, h.active]
  cases hactive : lastSetback events with
  | none => exact h.slots .current
  | some active =>
      by_cases hcurrent : active = .current
      · rw [hcurrent]
        exact h.slots .current
      · simp only [if_neg hcurrent]
        split
        · rename_i heq
          obtain ⟨value, hvalue⟩ := hobserved active heq
          simp only [hvalue]
          rw [← h.slots active, hvalue]
        · exact h.slots active

end SetpointValues

/-! ## Runs of events -/

/-- One event keeps what the maps tell of the history. -/
theorem DeviceRuntime.tells_applyEvent {runtime : DeviceRuntime} {map : SetpointMap}
    {events : List SetpointEvent} (h : (runtime.setpoints map).Tells map events)
    (event : SetpointEvent) :
    ((runtime.applyEvent event).setpoints map).Tells map (events ++ [event]) := by
  cases event with
  | setbackState raw =>
      rw [applyEvent, setpoints_withScalar, if_pos rfl]
      exact h.setbackState raw
  | report reported setback value =>
      rw [applyEvent, setpoints_withSetpoint]
      by_cases heq : map = reported
      · rw [if_pos heq, ← heq]
        exact h.report setback value
      · rw [if_neg heq]
        exact h.other (Ne.symm heq) setback value

theorem DeviceRuntime.tells_applyEvents {runtime : DeviceRuntime} {map : SetpointMap}
    {before : List SetpointEvent} (h : (runtime.setpoints map).Tells map before)
    (events : List SetpointEvent) :
    ((runtime.applyEvents events).setpoints map).Tells map (before ++ events) := by
  induction events generalizing runtime before with
  | nil =>
      rw [List.append_nil]
      exact h
  | cons event rest ih =>
      rw [List.append_cons]
      exact ih (tells_applyEvent h event)

/-- The current value tells the history of the active slot. A map that starts
empty shows, after any setback states and reports, the last report meant for the
concrete slot that the last setback state names, and the last report of the
current slot when it names none; every other slot shows the last report meant
for it. -/
theorem DeviceRuntime.current_tells_history (runtime : DeviceRuntime) (map : SetpointMap)
    (hempty : runtime.setpoints map = {}) (events : List SetpointEvent) :
    let setpoints := (runtime.applyEvents events).setpoints map
    (∀ slot, slot ≠ .current → lastSetback events = some slot →
      setpoints.current = lastReport map slot events) ∧
    ((∀ slot, slot ≠ .current → lastSetback events ≠ some slot) →
      setpoints.current = lastReport map .current events) ∧
    ∀ slot, slot ≠ .current → setpoints.get slot = lastReport map slot events := by
  have hstart : (runtime.setpoints map).Tells map [] := by
    rw [hempty]
    exact SetpointValues.Tells.empty map
  have hfinal := tells_applyEvents hstart events
  rw [List.nil_append] at hfinal
  have hcurrent := hfinal.current_eq
  refine ⟨fun slot _ hlast => ?_, fun hnone => ?_, fun slot hslot => ?_⟩
  · rw [hlast] at hcurrent
    exact hcurrent
  · cases hlast : lastSetback events with
    | none =>
        rw [hlast] at hcurrent
        exact hcurrent
    | some slot =>
        have heq : slot = .current := by
          by_contra hne
          exact hnone slot hne hlast
        rw [hlast, heq] at hcurrent
        exact hcurrent
  · rw [SetpointValues.get, if_neg hslot]
    exact hfinal.slots slot

/-- The active slot changes away and back, with a report of the current slot in
both periods. -/
def sampleSetpointEvents : List SetpointEvent :=
  [.setbackState 2, .report .heatSetpoints .current 40, .setbackState 3,
    .report .heatSetpoints .current 36, .setbackState 2]

theorem DeviceRuntime.current_tells_history_sample :
    ((({ info := { address := 1011 } } : DeviceRuntime).applyEvents
      sampleSetpointEvents).setpoints .heatSetpoints).current = some 40 :=
  (DeviceRuntime.current_tells_history { info := { address := 1011 } } .heatSetpoints rfl
    sampleSetpointEvents).1 .occ4 (by decide) (by decide)

end Tekmar482
