import Mathlib.Tactic.Linarith
import Mathlib.Tactic.Ring
import VerifierBootstrap.Number.Binary64

/-!
What rounding to significant bits keeps and what it drops. The numbers that so many bits can hold
lie on a grid, whose spacing is that of the last bit. A value is never rounded past a point of its
grid, and of a whole and a part the whole is kept, so the part alone is rounded.
-/

namespace VerifierBootstrap.Rounding

-----------------------------------------------------------------------------------------
-- Quotients
-----------------------------------------------------------------------------------------

/-- A quotient is not rounded past an integer above it. -/
theorem nearest_le_of_le_mul {numerator denominator bound : Nat} (positive : 0 < denominator)
    (below : numerator ≤ bound * denominator)
    : nearest numerator denominator ≤ bound := by
  have split := Nat.div_add_mod' numerator denominator
  have reached : numerator / denominator ≤ bound := Nat.div_le_of_le_mul (by linarith)
  have strict : numerator % denominator ≠ 0 → numerator / denominator < bound := by
    intro remainder
    by_contra equal
    have same : numerator / denominator = bound := by omega
    rw [same] at split
    omega
  simp only [nearest]
  repeat' split
  all_goals omega

/-- A quotient is not rounded past an integer below it. -/
theorem le_nearest_of_mul_le {numerator denominator bound : Nat} (positive : 0 < denominator)
    (above : bound * denominator ≤ numerator)
    : bound ≤ nearest numerator denominator := by
  have reached : bound ≤ numerator / denominator := (Nat.le_div_iff_mul_le positive).mpr above
  simp only [nearest]
  repeat' split
  all_goals omega

/-- An even integer in front of a quotient stays in front of it. An odd one may change which way a
half goes, unless there are no halves.
-/
theorem nearest_mul_add {denominator count : Nat} (positive : 0 < denominator)
    (even : 2 ∣ count ∨ denominator = 1) (part : Nat)
    : nearest (count * denominator + part) denominator = count + nearest part denominator := by
  have quotient : (count * denominator + part) / denominator = count + part / denominator := by
    rw [Nat.add_comm, Nat.add_mul_div_right _ _ positive, Nat.add_comm]
  have remainder : (count * denominator + part) % denominator = part % denominator := by
    rw [Nat.add_comm, Nat.add_mul_mod_self_right]
  simp only [nearest, quotient, remainder]
  rcases even with even | rfl
  · have parity : (count + part / denominator) % 2 = part / denominator % 2 := by omega
    rw [parity]
    repeat' split
    all_goals omega
  · simp [Nat.mod_one]

/-- A quotient is rounded to zero exactly if it is not above a half. -/
theorem nearest_eq_zero_iff {numerator denominator : Nat} (positive : 0 < denominator)
    : nearest numerator denominator = 0 ↔ 2 * numerator ≤ denominator := by
  have split := Nat.div_add_mod' numerator denominator
  rcases Nat.lt_or_ge numerator denominator with small | large
  · have quotient : numerator / denominator = 0 := Nat.div_eq_of_lt small
    have remainder : numerator % denominator = numerator := Nat.mod_eq_of_lt small
    simp only [nearest, quotient, remainder, Nat.zero_mod, if_true]
    repeat' split
    all_goals omega
  · have reached : 1 ≤ nearest numerator denominator :=
      le_nearest_of_mul_le positive (by omega)
    omega

/-- The least integer above a quotient is above it. -/
theorem le_ceilDiv_mul (numerator : Nat) {denominator : Nat} (positive : 0 < denominator)
    : numerator ≤ ceilDiv numerator denominator * denominator := by
  have split := Nat.div_add_mod' (numerator + denominator - 1) denominator
  have below := Nat.mod_lt (numerator + denominator - 1) positive
  rw [ceilDiv]
  omega

/-- A whole and a part of it come to the whole, and to one more unless the part is none. -/
theorem ceilDiv_mul_add {denominator part : Nat} (positive : 0 < denominator)
    (within : part ≤ denominator) (count : Nat)
    : ceilDiv (count * denominator + part) denominator = count + if part = 0 then 0 else 1 := by
  have shift
      : (count * denominator + part + denominator - 1) / denominator
        = count + (part + denominator - 1) / denominator := by
    rw [show count * denominator + part + denominator - 1
        = part + denominator - 1 + count * denominator by omega,
      Nat.add_mul_div_right _ _ positive, Nat.add_comm]
  rw [ceilDiv, shift]
  by_cases none : part = 0
  · rw [if_pos none, none, Nat.zero_add, Nat.div_eq_of_lt (by omega)]
  · have once : (part + denominator - 1) / denominator = 1 :=
      Nat.div_eq_of_lt_le (by omega) (by omega)
    rw [if_neg none, once]

-----------------------------------------------------------------------------------------
-- Significant bits
-----------------------------------------------------------------------------------------

/-- How far apart the numbers are that so many bits can hold, as large as a value is. -/
def spacing (bits value : Nat) : Nat :=
  2 ^ (value.log2 + 1 - bits)

theorem spacing_pos (bits value : Nat) : 0 < spacing bits value := by
  rw [spacing]
  exact Nat.two_pow_pos _

/-- A value that the bits can hold is on a grid of all integers. -/
theorem spacing_eq_one {bits value : Nat} (held : value < 2 ^ bits) (some : 0 < bits)
    : spacing bits value = 1 := by
  have short : value.log2 < bits := by
    by_cases zero : value = 0
    · rw [zero, Nat.log2_zero]
      exact some
    · exact (Nat.log2_lt zero).mpr held
  rw [spacing, show value.log2 + 1 - bits = 0 by omega, Nat.pow_zero]

/-- A value is rounded to the nearest point of its grid. -/
theorem toSignificant_eq {bits : Nat} (some : 0 < bits) (value : Nat)
    : toSignificant bits value
      = nearest value (spacing bits value) * spacing bits value := by
  rw [toSignificant]
  split
  · rename_i held
    rw [spacing_eq_one held some]
    simp [nearest, Nat.mod_one]
  · rfl

/-- A value is not rounded past a point of its grid. -/
theorem le_toSignificant {bits value point : Nat} (some : 0 < bits)
    (onGrid : spacing bits value ∣ point) (below : point ≤ value)
    : point ≤ toSignificant bits value := by
  obtain ⟨count, rfl⟩ := onGrid
  rw [Nat.mul_comm] at below ⊢
  rw [toSignificant_eq some]
  exact Nat.mul_le_mul_right _ (le_nearest_of_mul_le (spacing_pos bits value) below)

/-- The leading bit of a value is kept. -/
theorem two_pow_log2_le_toSignificant {bits value : Nat} (some : 0 < bits) (filled : value ≠ 0)
    : 2 ^ value.log2 ≤ toSignificant bits value := by
  refine le_toSignificant some ?_ (Nat.log2_self_le filled)
  exact Nat.pow_dvd_pow 2 (by omega)

/-- A part of a value is not above half a unit of the last bit exactly if it is that much smaller
than the leading bit.
-/
theorem two_mul_le_spacing_iff {bits value part : Nat}
    : 2 * part ≤ spacing bits value ↔ 2 ^ bits * part ≤ 2 ^ value.log2 := by
  rcases Nat.lt_or_ge value.log2 bits with short | long
  · have grid : spacing bits value = 1 := by
      rw [spacing, show value.log2 + 1 - bits = 0 by omega, Nat.pow_zero]
    have less : 2 ^ value.log2 < 2 ^ bits := Nat.pow_lt_pow_right (by decide) short
    rw [grid]
    constructor
    · intro half
      obtain rfl : part = 0 := by omega
      exact Nat.zero_le _
    · intro small
      by_contra filled
      have whole : 2 ^ bits * 1 ≤ 2 ^ bits * part := Nat.mul_le_mul_left _ (by omega)
      omega
  · have scaled : 2 ^ bits * spacing bits value = 2 * 2 ^ value.log2 := by
      rw [spacing, ← Nat.pow_add, ← Nat.pow_succ']
      congr 1
      omega
    have positive : 0 < 2 ^ bits := Nat.two_pow_pos bits
    rw [← Nat.mul_le_mul_left_iff positive, scaled]
    constructor
    · intro bound
      linarith
    · intro bound
      linarith

variable {bits size count part : Nat}

/-- Of a number of wholes and a part, the wholes are kept and the part is rounded, if the wholes
lie on every second point of the grid.
-/
theorem toSignificant_mul_add (some : 0 < bits)
    (onGrid
      : 2 * spacing bits (count * size + part) ∣ size
        ∨ spacing bits (count * size + part) = 1)
    : toSignificant bits (count * size + part)
      = count * size
        + nearest part (spacing bits (count * size + part))
          * spacing bits (count * size + part) := by
  have positive := spacing_pos bits (count * size + part)
  rw [toSignificant_eq some]
  generalize spacing bits (count * size + part) = grid at onGrid positive
  rcases onGrid with ⟨steps, rfl⟩ | rfl
  · have wholes : count * (2 * grid * steps) = count * (2 * steps) * grid := by ring
    rw [wholes, nearest_mul_add positive (.inl ⟨count * steps, by ring⟩), Nat.add_mul]
  · have wholes : nearest (count * size * 1 + part) 1 = count * size + nearest part 1 :=
      nearest_mul_add positive (.inr rfl) part
    rw [Nat.mul_one] at wholes
    rw [wholes, Nat.add_mul, Nat.mul_one (count * size)]

/-- The wholes that hold a rounded value are those that hold the value, less the one that a part
needs which is rounded to nothing.
-/
theorem ceilDiv_toSignificant (some : 0 < bits) (within : part < size)
    (onGrid
      : 2 * spacing bits (count * size + part) ∣ size
        ∨ spacing bits (count * size + part) = 1)
    : ceilDiv (toSignificant bits (count * size + part)) size
      = count + if 2 ^ bits * part ≤ 2 ^ (count * size + part).log2 then 0 else 1 := by
  have positive := spacing_pos bits (count * size + part)
  simp only [toSignificant_mul_add some onGrid, ← two_mul_le_spacing_iff]
  generalize spacing bits (count * size + part) = grid at onGrid positive
  have bounded : nearest part grid * grid ≤ size := by
    have divides : grid ∣ size := by
      rcases onGrid with double | rfl
      · exact (Nat.dvd_mul_left grid 2).trans double
      · exact Nat.one_dvd size
    obtain ⟨steps, rfl⟩ := divides
    rw [Nat.mul_comm grid steps] at within ⊢
    exact Nat.mul_le_mul_right grid (nearest_le_of_le_mul positive within.le)
  rw [ceilDiv_mul_add (by omega) bounded]
  have dropped : nearest part grid * grid = 0 ↔ 2 * part ≤ grid := by
    rw [Nat.mul_eq_zero, or_iff_left positive.ne', nearest_eq_zero_iff positive]
  simp only [dropped]

end VerifierBootstrap.Rounding
