import Tekmar482.Constants
import Mathlib.Data.Fintype.Pi

/-!
# Setpoint values by setback slot

A setpoint map keeps the value of every setback slot, the active slot, and the
slot that was active when the `current` value was last observed. The value shown
as current is computed from the three together.
-/

namespace Tekmar482

/-- A typed setback enum from a raw protocol value. -/
def setbackFromValue (value : Option Int) : Option ThaSetback :=
  match value with
  | none => none
  | some raw => ThaSetback.ofValue? raw

/-- The slot that an observed `current` value belongs to. -/
def observedSetback (activeSetback : Option ThaSetback) : Option ThaSetback :=
  match activeSetback with
  | none => none
  | some active => if active = .current then none else some active

/-- Enum-keyed values for setback-indexed setpoint-like reports. A slot is
absent, present without a value, or present with one. -/
structure SetpointValues where
  values : ThaSetback → Option (Option Int) := fun _ => none
  activeSetback : Option ThaSetback := none
  currentObservedSetback : Option ThaSetback := none
  deriving DecidableEq

namespace SetpointValues

/-- The stored value of a slot, if it is present and has one. -/
def lookup (self : SetpointValues) (setback : ThaSetback) : Option Int :=
  (self.values setback).join

/-- The active setpoint value. -/
def current (self : SetpointValues) : Option Int :=
  match self.activeSetback with
  | none => self.lookup .current
  | some active =>
      if active = .current then self.lookup .current
      else if self.currentObservedSetback = some active then
        match self.lookup active with
        | none => self.lookup .current
        | some activeValue => some activeValue
      else self.lookup active

/-- A value by setback enum. -/
def get (self : SetpointValues) (setback : ThaSetback) : Option Int :=
  if setback = .current then self.current else self.lookup setback

/-- A copy with one setback value updated. -/
def withValue (self : SetpointValues) (setback : ThaSetback) (value : Option Int) :
    SetpointValues :=
  let values := Function.update self.values setback (some value)
  if setback = .current then
    let observed := observedSetback self.activeSetback
    { self with
      values := match observed with
        | none => values
        | some slot => Function.update values slot (some value)
      currentObservedSetback := observed }
  else { self with values := values }

/-- A copy with a new active setback. -/
def withActiveSetback (self : SetpointValues) (activeSetback : Option ThaSetback) :
    SetpointValues :=
  { self with activeSetback := activeSetback }

end SetpointValues

end Tekmar482
