import Mathlib.Data.Rat.Floor
import Mathlib.Algebra.Order.Floor.Ring
import Mathlib.Tactic.Linarith

/-!
# Rounding half to even

The integer nearest to a rational number, and the even one of the two when it lies
half-way between them. Bounds on the rounded number are stated for even integers,
where they carry over to the number itself with both half-way points.
-/

namespace HalfEven

/-- The nearest integer, ties to even. -/
def round (q : ℚ) : ℤ :=
  if q - ⌊q⌋ < 1 / 2 then ⌊q⌋
  else if 1 / 2 < q - ⌊q⌋ then ⌊q⌋ + 1
  else if ⌊q⌋ % 2 = 0 then ⌊q⌋ else ⌊q⌋ + 1

/-- The rounded number lies at most one half away. -/
theorem round_bounds (q : ℚ) : (round q : ℚ) - 1 / 2 ≤ q ∧ q ≤ round q + 1 / 2 := by
  have hfloor := Int.floor_le q
  have hnext := Int.lt_floor_add_one q
  simp only [round]
  split
  · constructor <;> linarith
  · split
    · push_cast
      constructor <;> linarith
    · split
      · constructor <;> linarith
      · push_cast
        constructor <;> linarith

theorem abs_round_sub_le (q : ℚ) : |(round q : ℚ) - q| ≤ 1 / 2 := by
  obtain ⟨hlow, hhigh⟩ := round_bounds q
  rw [abs_le]
  constructor <;> linarith

/-- A number half-way above an integer rounds to the even neighbour. -/
theorem round_add_half (n : ℤ) : round (n + 1 / 2) = if n % 2 = 0 then n else n + 1 := by
  have hfloor : ⌊(n : ℚ) + 1 / 2⌋ = n := by
    rw [Int.floor_eq_iff]
    constructor <;> linarith
  have hfraction : (n : ℚ) + 1 / 2 - n = 1 / 2 := by ring
  simp only [round, hfloor, hfraction, lt_irrefl, if_false]

/-- A number rounds up to an even integer from the half-way point below it on. -/
theorem le_round_iff {n : ℤ} (h : n % 2 = 0) (q : ℚ) : n ≤ round q ↔ (n : ℚ) - 1 / 2 ≤ q := by
  obtain ⟨hlow, hhigh⟩ := round_bounds q
  constructor
  · intro hle
    have hcast : (n : ℚ) ≤ round q := by exact_mod_cast hle
    linarith
  · intro hle
    by_contra hlt
    have hbelow : round q ≤ n - 1 := by omega
    have hcast : (round q : ℚ) ≤ n - 1 := by exact_mod_cast hbelow
    have htie : q = ((n - 1 : ℤ) : ℚ) + 1 / 2 := by
      push_cast
      linarith
    have hround := round_add_half (n - 1)
    rw [← htie, if_neg (by omega)] at hround
    omega

/-- A number rounds down to an even integer up to the half-way point above it. -/
theorem round_le_iff {n : ℤ} (h : n % 2 = 0) (q : ℚ) : round q ≤ n ↔ q ≤ (n : ℚ) + 1 / 2 := by
  obtain ⟨hlow, hhigh⟩ := round_bounds q
  constructor
  · intro hle
    have hcast : (round q : ℚ) ≤ n := by exact_mod_cast hle
    linarith
  · intro hle
    by_contra hlt
    have habove : n + 1 ≤ round q := by omega
    have hcast : (n : ℚ) + 1 ≤ round q := by exact_mod_cast habove
    have htie : q = (n : ℚ) + 1 / 2 := by linarith
    have hround := round_add_half n
    rw [← htie, if_pos h] at hround
    omega

end HalfEven
