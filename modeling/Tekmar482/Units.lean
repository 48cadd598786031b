import Tekmar482.Constants
import Tekmar482.Library.HalfEven
import Mathlib.Tactic.Ring

/-!
# Units of encoded temperatures

A one-byte setpoint counts half degrees Celsius, and a two-byte temperature counts
tenths of a degree Fahrenheit from -85. Temperatures are exact rational numbers
here, and encoding rounds half to even.
-/

namespace Tekmar482

def celsiusToFahrenheit (value : ℚ) : ℚ := value * 9 / 5 + 32

def fahrenheitToCelsius (value : ℚ) : ℚ := (value - 32) / (9 / 5)

/-- Convert Celsius to tHA degE, used by one-byte setpoint values. -/
def celsiusToDege (value : ℚ) : Int := HalfEven.round (value * 2)

/-- Convert tHA degE to Celsius. -/
def degeToCelsius (value : Int) : Option ℚ :=
  if value = ThaValue.NA_8 then none else some (value / 2)

/-- Convert Fahrenheit to tHA degH. -/
def fahrenheitToDegh (value : ℚ) : Int := HalfEven.round (value * 10 + 850)

/-- Convert tHA degH to Fahrenheit. -/
def deghToFahrenheit (value : Int) : Option ℚ :=
  if value = ThaValue.NA_16 then none else some ((value - 850) / 10)

/-- Convert tHA degH to Celsius. -/
def deghToCelsius (value : Int) : Option ℚ := (deghToFahrenheit value).map fahrenheitToCelsius

/-- Convert Celsius to tHA degH. -/
def celsiusToDegh (value : ℚ) : Int := fahrenheitToDegh (celsiusToFahrenheit value)

/-- The encoded number of a degH temperature before it is rounded. -/
theorem celsiusToDegh_eq (value : ℚ) : celsiusToDegh value = HalfEven.round (value * 18 + 1170) := by
  rw [celsiusToDegh, fahrenheitToDegh, celsiusToFahrenheit]
  congr 1
  ring

theorem deghToCelsius_eq (value : Int) :
    deghToCelsius value = if value = ThaValue.NA_16 then none else
      some (((value : ℚ) - 1170) / 18) := by
  rw [deghToCelsius, deghToFahrenheit]
  split
  · rfl
  · rw [Option.map_some, fahrenheitToCelsius]
    congr 1
    ring

end Tekmar482
