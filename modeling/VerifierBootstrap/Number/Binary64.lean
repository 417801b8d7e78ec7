/-!
Rounding of natural numbers, and floating-point numbers of 64 bits as exact values. A quotient is
rounded to the nearest integer, and a half goes to the even neighbour. A finite floating-point
number is a significand below `2 ^ 53` times a power of two; magnitudes from `2 ^ 1024` on are
infinite, and the exponent of the power is never below `-1074`.
-/

namespace VerifierBootstrap

namespace Rounding

/-- The integer nearest to `numerator / denominator`; a half goes to the even neighbour. -/
def nearest (numerator denominator : Nat) : Nat :=
  let quotient := numerator / denominator
  let twice := 2 * (numerator % denominator)
  if twice < denominator then quotient
  else if denominator < twice then quotient + 1
  else if quotient % 2 = 0 then quotient else quotient + 1

/-- The nearest number that `bits` significant bits can hold; a half goes to the even one. -/
def toSignificant (bits value : Nat) : Nat :=
  if value < Nat.pow 2 bits then value
  else
    let grid := Nat.pow 2 (value.log2 + 1 - bits)
    nearest value grid * grid

/-- The least integer that is not below `numerator / denominator`. -/
def ceilDiv (numerator denominator : Nat) : Nat :=
  (numerator + denominator - 1) / denominator

end Rounding

/-- A floating-point number; the two zeros differ. -/
inductive Binary64 where
  | nan
  | infinite (negative : Bool)
  /-- `significand * 2 ^ exponent` -/
  | finite (negative : Bool) (significand : Nat) (exponent : Int)
deriving Repr, DecidableEq

namespace Binary64

/-- The magnitude nearest to `numerator / denominator`, for a positive denominator. -/
def ofRatio (negative : Bool) (numerator denominator : Nat) : Binary64 :=
  if numerator = 0 then .finite negative 0 (-1074)
  else
    let estimate : Int := (numerator.log2 : Int) - denominator.log2 - 53
    let exponent := max estimate (-1074)
    let scaled (power : Int) : Nat × Nat :=
      (numerator * Nat.pow 2 (-power).toNat, denominator * Nat.pow 2 power.toNat)
    let floorAt (power : Int) := (scaled power).1 / (scaled power).2
    let fits := if floorAt exponent < Nat.pow 2 53 then exponent else exponent + 1
    let significand := Rounding.nearest (scaled fits).1 (scaled fits).2
    let (significand, power) :=
      if significand = Nat.pow 2 53 then (Nat.pow 2 52, fits + 1) else (significand, fits)
    if 971 < power then .infinite negative else .finite negative significand power

/-- The number nearest to `digits * 10 ^ scale`. A decimal with far too large or too small a
scale is settled by its order of magnitude, without writing out the power.
-/
def ofDecimal (negative : Bool) (digits : Nat) (scale : Int) : Binary64 :=
  let magnitude : Int := (Nat.toDigits 10 digits).length + scale
  if digits = 0 then .finite negative 0 (-1074)
  else if 310 < magnitude then .infinite negative
  else if magnitude < -330 then .finite negative 0 (-1074)
  else ofRatio negative (digits * Nat.pow 10 scale.toNat) (Nat.pow 10 (-scale).toNat)

end Binary64

end VerifierBootstrap
