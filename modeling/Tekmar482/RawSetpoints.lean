import Tekmar482.DecodedValues

/-!
# Raw setpoint maps

A setpoint map is exported with its current value in place of the stored one, and
without the slot that value was observed for. Reading the exported map guesses the slot
again from the active setback, and the guess shows the same values.
-/

namespace Tekmar482

/-! ## Slot names -/

/-- The upper case of a character. Of the characters outside ASCII only the long s has
an upper case that occurs in the name of a slot. -/
def upperChar (char : Char) : Char :=
  if char = 'ſ' then 'S' else char.toUpper

def upper (text : String) : String := String.ofList (text.toList.map upperChar)

/-- The name of the member, as the enum spells it. -/
def ThaSetback.memberName : ThaSetback → String
  | .wake4 => "WAKE_4"
  | .unocc4 => "UNOCC_4"
  | .occ4 => "OCC_4"
  | .sleep4 => "SLEEP_4"
  | .occ2 => "OCC_2"
  | .unocc2 => "UNOCC_2"
  | .away => "AWAY"
  | .current => "CURRENT"

def setbackFromKey (key : String) : Option ThaSetback :=
  let normalized := upper key
  if normalized = "CURRENT" then some .current
  else ThaSetback.members.find? fun setback => setback.memberName == normalized

theorem setbackFromKey_name (setback : ThaSetback) :
    setbackFromKey setback.name = some setback := by
  cases setback <;> decide

/-! ## Reading a raw map -/

/-- The integer that a raw value is, if it is one. -/
def rawInt (value : RawSnapshotValue) : Option Int := value.asInt

/-- Store the entries whose key names a slot, the last one of a slot last. -/
def rawSlots (values : ThaSetback → Option (Option Int)) (entries : List (String × Option Int)) :
    ThaSetback → Option (Option Int) :=
  entries.foldl (fun values entry =>
      match setbackFromKey entry.1 with
      | none => values
      | some setback => Function.update values setback (some (rawInt (.int entry.2)))) values

namespace SetpointValues

/-- Setpoint values from a setback-keyed mapping. -/
def fromMapping (values : ThaSetback → Option (Option Int))
    (activeSetback : Option ThaSetback := none)
    (currentObservedSetback : Option ThaSetback := none) : SetpointValues :=
  { values := values
    activeSetback := activeSetback
    currentObservedSetback :=
      if currentObservedSetback = none ∧ (values .current).isSome then
        observedSetback activeSetback
      else currentObservedSetback }

/-- Setpoint values from a legacy raw snapshot map. -/
def fromRaw (value : RawSnapshotValue) (activeSetback : Option ThaSetback := none) :
    SetpointValues :=
  match value with
  | .int _ =>
      { activeSetback := activeSetback
        currentObservedSetback := observedSetback activeSetback }
  | .map raw => fromMapping (rawSlots (fun _ => none) raw.entries) activeSetback

end SetpointValues

/-! ## Reading a shown map -/

/-- Reading entries under distinct slot names stores each under its slot. -/
theorem rawSlots_eq (entries : List (String × Option Int))
    (hnames : ∀ key ∈ entries.map Prod.fst, ∃ setback : ThaSetback, key = setback.name)
    (hnodup : (entries.map Prod.fst).Nodup) (values : ThaSetback → Option (Option Int))
    (slot : ThaSetback) :
    rawSlots values entries slot = (OrderedDict.find slot.name entries).or (values slot) := by
  induction entries generalizing values with
  | nil => rfl
  | cons entry rest ih =>
      obtain ⟨key, value⟩ := entry
      obtain ⟨setback, rfl⟩ := hnames key List.mem_cons_self
      simp only [List.map_cons, List.nodup_cons] at hnodup
      rw [rawSlots, List.foldl_cons, setbackFromKey_name]
      have hrest := ih (fun key hkey => hnames key (List.mem_cons_of_mem _ hkey)) hnodup.2
        (Function.update values setback (some value))
      refine Eq.trans hrest ?_
      by_cases hslot : slot = setback
      · subst hslot
        rw [OrderedDict.find_eq_none_iff.mpr hnodup.1, OrderedDict.find, if_pos rfl]
        simp
      · have hname : slot.name ≠ setback.name := fun h => hslot (ThaSetback.name_injective h)
        rw [OrderedDict.find, if_neg hname.symm, Function.update_of_ne hslot]

section SlotDict

variable {α : Type} (values : ThaSetback → Option (Option α)) (active : Option ThaSetback)
  (current : Option α)

theorem values_eq_none_of_not_shows {active : ThaSetback}
    (h : showsCurrent values (some active) = false) : values active = none := by
  simp only [showsCurrent, Bool.or_eq_false_iff, Option.isSome_eq_false_iff,
    Option.isNone_iff_eq_none] at h
  by_cases hslot : active = .current
  · rw [hslot, h.1]
  · simpa [hslot] using h.2

/-- A map whose current entry is there when the other shows one shows one as well. -/
theorem showsCurrent_congr {values others : ThaSetback → Option (Option α)}
    (hslots : ∀ slot, slot ≠ .current → others slot = values slot)
    (hcurrent : (others .current).isSome = showsCurrent values active) :
    showsCurrent others active = showsCurrent values active := by
  rw [showsCurrent.eq_def others, hcurrent]
  cases hshows : showsCurrent values active with
  | true => rfl
  | false =>
      cases active with
      | none => rfl
      | some slot =>
          by_cases hslot : slot = .current
          · simp [hslot]
          · simp [hslots slot hslot, values_eq_none_of_not_shows values hshows]

theorem addSlots_cons (head : ThaSetback) (rest : List ThaSetback)
    (dict : OrderedDict String (Option α)) :
    addSlots values (head :: rest) dict =
      addSlots values rest
        (if head = .current then dict else (values head).elim dict (dict.set head.name)) := by
  rw [addSlots, List.foldl_cons]
  cases hvalue : values head <;> cases head <;> simp_all [addSlots]

theorem get?_addSlots {slot : ThaSetback} (hslot : slot ≠ .current) (slots : List ThaSetback)
    (dict : OrderedDict String (Option α)) :
    (addSlots values slots dict).get? slot.name =
      if slot ∈ slots then (values slot).or (dict.get? slot.name) else dict.get? slot.name := by
  induction slots generalizing dict with
  | nil => rfl
  | cons head rest ih =>
      rw [addSlots_cons, ih]
      by_cases hhead : slot = head
      · subst hhead
        rw [if_neg hslot]
        cases values slot with
        | none => simp
        | some value => simp [OrderedDict.get?_set_self]
      · have hname : slot.name ≠ head.name := fun h => hhead (ThaSetback.name_injective h)
        have hkeep : (if head = .current then dict
            else (values head).elim dict (dict.set head.name)).get? slot.name =
              dict.get? slot.name := by
          split
          · rfl
          · cases values head with
            | none => rfl
            | some value => exact OrderedDict.get?_set_of_ne dict value hname
        simp only [hkeep, List.mem_cons, hhead, false_or]

/-- A shown map has every stored slot under its name. -/
theorem get?_slotDict {slot : ThaSetback} (hslot : slot ≠ .current) :
    (slotDict values active current).get? slot.name = values slot := by
  rw [slotDict, get?_addSlots values hslot, if_pos slot.mem_members]
  have hname : slot.name ≠ ThaSetback.current.name := fun h => hslot (ThaSetback.name_injective h)
  split
  · rw [OrderedDict.get?_set_of_ne _ _ hname, OrderedDict.get?_empty, Option.or_none]
  · rw [OrderedDict.get?_empty, Option.or_none]

theorem keys_addSlots (slots : List ThaSetback) (dict : OrderedDict String (Option α))
    (hdict : ∀ key ∈ dict.keys, ∃ setback : ThaSetback, key = setback.name) :
    ∀ key ∈ (addSlots values slots dict).keys, ∃ setback : ThaSetback, key = setback.name := by
  induction slots generalizing dict with
  | nil => exact hdict
  | cons head rest ih =>
      rw [addSlots_cons]
      apply ih
      split
      · exact hdict
      · cases values head with
        | none => exact hdict
        | some value =>
            intro key hkey
            rw [Option.elim_some, OrderedDict.keys_set] at hkey
            split at hkey
            · exact hdict key hkey
            · rcases List.mem_append.mp hkey with hold | hnew
              · exact hdict key hold
              · exact ⟨head, List.mem_singleton.mp hnew⟩

/-- The keys of a shown map are slot names. -/
theorem keys_slotDict :
    ∀ key ∈ (slotDict values active current).keys, ∃ setback : ThaSetback, key = setback.name := by
  apply keys_addSlots
  split
  · intro key hkey
    rw [OrderedDict.keys_set] at hkey
    exact ⟨.current, by simpa using hkey⟩
  · intro key hkey
    cases hkey

end SlotDict

namespace SetpointValues

variable (self : SetpointValues)

/-- Reading the exported map stores the slots again, and the shown value as the current one. -/
theorem values_fromRaw_asDict (slot : ThaSetback) :
    (fromRaw (.map self.asDict) self.activeSetback).values slot =
      if slot = .current then
        if showsCurrent self.values self.activeSetback then some self.current else none
      else self.values slot := by
  have hread : (fromRaw (.map self.asDict) self.activeSetback).values slot =
      self.asDict.get? slot.name := by
    refine (rawSlots_eq _ (keys_slotDict _ _ _) self.asDict.keys_nodup _ slot).trans ?_
    rw [Option.or_none]
    rfl
  rw [hread, asDict]
  split
  · rename_i hslot
    rw [hslot, get?_slotDict_current]
  · rename_i hslot
    exact get?_slotDict _ _ _ hslot

theorem observed_fromRaw_asDict :
    (fromRaw (.map self.asDict) self.activeSetback).currentObservedSetback =
      if showsCurrent self.values self.activeSetback then observedSetback self.activeSetback
      else none := by
  have hvalue := self.values_fromRaw_asDict .current
  rw [if_pos rfl] at hvalue
  change (if none = none ∧ ((fromRaw (.map self.asDict) self.activeSetback).values .current).isSome
    then _ else _) = _
  rw [hvalue]
  cases showsCurrent self.values self.activeSetback <;> simp

theorem lookup_fromRaw_asDict {slot : ThaSetback} (hslot : slot ≠ .current) :
    (fromRaw (.map self.asDict) self.activeSetback).lookup slot = self.lookup slot := by
  rw [lookup, values_fromRaw_asDict, if_neg hslot, lookup]

theorem lookup_current_fromRaw_asDict :
    (fromRaw (.map self.asDict) self.activeSetback).lookup .current =
      if showsCurrent self.values self.activeSetback then self.current else none := by
  rw [lookup, values_fromRaw_asDict, if_pos rfl]
  split <;> rfl

/-- A map without a current value to show has none. -/
theorem current_eq_none (h : showsCurrent self.values self.activeSetback = false) :
    self.current = none := by
  have hcurrent : self.values .current = none := by
    simp only [showsCurrent, Bool.or_eq_false_iff, Option.isSome_eq_false_iff,
      Option.isNone_iff_eq_none] at h
    exact h.1
  simp only [current, lookup, hcurrent, Option.join_none]
  cases hactive : self.activeSetback with
  | none => rfl
  | some active =>
      rw [hactive] at h
      simp [values_eq_none_of_not_shows self.values h]

/-- A value in the active slot is the current one. -/
theorem current_eq_lookup {active : ThaSetback} {value : Int}
    (hactive : self.activeSetback = some active) (hslot : active ≠ .current)
    (hvalue : self.lookup active = some value) : self.current = some value := by
  simp only [current, hactive, if_neg hslot, hvalue, ite_self]

theorem current_fromRaw_asDict :
    (fromRaw (.map self.asDict) self.activeSetback).current = self.current := by
  have hkeep : (fromRaw (.map self.asDict) self.activeSetback).activeSetback =
      self.activeSetback := rfl
  rw [current, hkeep, lookup_current_fromRaw_asDict, observed_fromRaw_asDict]
  cases hactive : self.activeSetback with
  | none =>
      cases hshows : showsCurrent self.values none with
      | true => rfl
      | false => exact (self.current_eq_none (by rw [hactive, hshows])).symm
  | some active =>
      by_cases hslot : active = .current
      · cases hshows : showsCurrent self.values (some active) with
        | true => simp [hslot]
        | false => simp [hslot, self.current_eq_none (by rw [hactive, hshows])]
      · have hlookup := self.lookup_fromRaw_asDict hslot
        rw [hactive] at hlookup
        simp only [if_neg hslot, hlookup, observedSetback]
        cases hshows : showsCurrent self.values (some active) with
        | true =>
            -- The guessed slot is the active one, which has the current value or none.
            rw [if_pos rfl, if_pos rfl]
            cases hvalue : self.lookup active with
            | none => rfl
            | some value => exact (self.current_eq_lookup hactive hslot hvalue).symm
        | false =>
            rw [self.current_eq_none (by rw [hactive, hshows]), lookup,
              values_eq_none_of_not_shows self.values hshows]
            simp

/-- Exporting a setpoint map and reading it back shows the same value in every slot, the
current one included, and exports the same map. -/
theorem fromRaw_asDict :
    (∀ setback, (fromRaw (.map self.asDict) self.activeSetback).get setback =
      self.get setback) ∧
    (fromRaw (.map self.asDict) self.activeSetback).asDict = self.asDict := by
  constructor
  · intro setback
    rw [get, get, current_fromRaw_asDict]
    split
    · rfl
    · rename_i hslot
      exact self.lookup_fromRaw_asDict hslot
  · have hslots {slots : List ThaSetback} {dict : RawSetpointMap} :
        addSlots (fromRaw (.map self.asDict) self.activeSetback).values slots dict =
          addSlots self.values slots dict := by
      induction slots generalizing dict with
      | nil => rfl
      | cons head rest ih =>
          rw [addSlots_cons, addSlots_cons, ih]
          congr 1
          split
          · rfl
          · rename_i hslot
            rw [values_fromRaw_asDict, if_neg hslot]
    have hshows : showsCurrent (fromRaw (.map self.asDict) self.activeSetback).values
        self.activeSetback = showsCurrent self.values self.activeSetback := by
      apply showsCurrent_congr
      · intro slot hslot
        rw [values_fromRaw_asDict, if_neg hslot]
      · rw [values_fromRaw_asDict, if_pos rfl]
        cases showsCurrent self.values self.activeSetback <;> rfl
    rw [asDict, slotDict, hslots, current_fromRaw_asDict]
    exact congrArg (fun shown : Bool => addSlots self.values ThaSetback.members
      (if shown then OrderedDict.empty.set ThaSetback.current.name self.current else .empty)) hshows

end SetpointValues

end Tekmar482
