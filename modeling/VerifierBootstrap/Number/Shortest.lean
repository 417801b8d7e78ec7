import VerifierBootstrap.Number.Binary64
import VerifierBootstrap.Text.Utf8

/-!
The shortest decimal that reads back as a given floating-point number, and its layout. The
numbers that round to a value form an interval; on each decimal grid, from coarse to fine, the
two neighbours of the value are tried until one lies in the interval.
-/

namespace VerifierBootstrap

/-- The decimal `digits * 10 ^ scale`. -/
structure Decimal where
  digits : Nat
  scale : Int
deriving Repr, DecidableEq

namespace Decimal

/-- Whether `a * 10 ^ i` is below, at or above `n * 2 ^ j`. -/
def compareBinary (a : Nat) (i : Int) (n : Nat) (j : Int) : Ordering :=
  compare (a * Nat.pow 10 i.toNat * Nat.pow 2 (-j).toNat)
    (n * Nat.pow 2 j.toNat * Nat.pow 10 (-i).toNat)

/-- Whether a decimal reads back as `significand * 2 ^ exponent`: it lies between the halfway
points to the two neighbours, which count as inside for an even significand. Below a power of
two the neighbour is half as far away.
-/
def readsBack (significand : Nat) (exponent : Int) (decimal : Decimal) : Bool :=
  let narrow := significand = Nat.pow 2 52 ∧ -1074 < exponent
  let low := if narrow then 4 * significand - 1 else 4 * significand - 2
  let high := 4 * significand + 2
  let inclusive := significand % 2 = 0
  let fromLow := compareBinary decimal.digits decimal.scale low (exponent - 2)
  let fromHigh := compareBinary decimal.digits decimal.scale high (exponent - 2)
  (fromLow = .gt ∨ (inclusive ∧ fromLow = .eq))
    ∧ (fromHigh = .lt ∨ (inclusive ∧ fromHigh = .eq))

/-- The least `k` with `significand * 2 ^ exponent < 10 ^ k`, searched upward from an
underestimate.
-/
def scaleOf (significand : Nat) (exponent : Int) : Nat → Int → Int
  | 0, guess => guess
  | fuel + 1, guess =>
      if compareBinary 1 guess significand exponent = .gt then guess
      else scaleOf significand exponent fuel (guess + 1)

/-- The neighbour of `significand * 2 ^ exponent` on the grid of `10 ^ scale` that reads back;
of two, the nearer, and at equal distance the even one.
-/
def onGrid? (significand : Nat) (exponent scale : Int) : Option Decimal :=
  let numerator := significand * Nat.pow 2 exponent.toNat * Nat.pow 10 (-scale).toNat
  let denominator := Nat.pow 2 (-exponent).toNat * Nat.pow 10 scale.toNat
  let below : Decimal := ⟨numerator / denominator, scale⟩
  let above : Decimal := ⟨numerator / denominator + 1, scale⟩
  let reads := readsBack significand exponent
  match reads below, reads above with
  | true, true => some ⟨Rounding.nearest numerator denominator, scale⟩
  | true, false => some below
  | false, true => some above
  | false, false => none

/-- The first grid from `count` digits on that holds a decimal which reads back. -/
def search (significand : Nat) (exponent top : Int) (fuel count : Nat) : Option Decimal :=
  match fuel with
  | 0 => none
  | fuel + 1 =>
      match onGrid? significand exponent (top - count) with
      | some decimal => some decimal
      | none => search significand exponent top fuel (count + 1)

/-- Moves the trailing zeros of the digits into the scale. -/
def strip : Nat → Decimal → Decimal
  | 0, decimal => decimal
  | fuel + 1, decimal =>
      if decimal.digits ≠ 0 ∧ decimal.digits % 10 = 0 then
        strip fuel ⟨decimal.digits / 10, decimal.scale + 1⟩
      else decimal

/-- The shortest decimal that reads back as a positive value. Seventeen digits always do. -/
def shortest (significand : Nat) (exponent : Int) : Decimal :=
  let estimate := ((significand.log2 : Int) + exponent) * 30103 / 100000 - 1
  let top := scaleOf significand exponent 8 estimate
  match search significand exponent top 18 1 with
  | some decimal => strip 20 decimal
  | none => ⟨significand * Nat.pow 2 exponent.toNat, 0⟩

end Decimal

/-- How a decimal is laid out. -/
structure DecimalLayout where
  /-- The least exponent of ten written positionally. -/
  leastPositional : Int
  /-- The first exponent of ten written with an exponent again. -/
  firstExponential : Int
  /-- What a whole number written positionally ends in. -/
  wholeEnding : Text
  /-- The least number of digits of an exponent. -/
  exponentDigits : Nat

namespace DecimalLayout

/-- The decimal digits of a number, at least `width` of them. -/
def padded (width value : Nat) : Text :=
  let digits := Nat.toDigits 10 value
  List.replicate (width - digits.length) '0' ++ digits

/-- Writes a decimal. -/
def render (layout : DecimalLayout) (decimal : Decimal) : Text :=
  let digits := Nat.toDigits 10 decimal.digits
  let exponent : Int := digits.length + decimal.scale - 1
  if layout.leastPositional ≤ exponent ∧ exponent < layout.firstExponential then
    if exponent < 0 then
      "0.".toList ++ List.replicate (-exponent - 1).toNat '0' ++ digits
    else if digits.length ≤ exponent.toNat + 1 then
      digits ++ List.replicate (exponent.toNat + 1 - digits.length) '0' ++ layout.wholeEnding
    else
      digits.take (exponent.toNat + 1) ++ '.' :: digits.drop (exponent.toNat + 1)
  else
    let mantissa :=
      match digits with
      | lead :: more => if more.isEmpty then [lead] else lead :: '.' :: more
      | [] => []
    let sign := if exponent < 0 then '-' else '+'
    mantissa ++ 'e' :: sign :: padded layout.exponentDigits exponent.natAbs

end DecimalLayout

namespace Binary64

/-- Numbers in messages have a point or an exponent; exponents from -4 to 15 are written
positionally, and others have a sign and at least two digits.
-/
def messageLayout : DecimalLayout :=
  ⟨-4, 16, ".0".toList, 2⟩

/-- A number as messages show it. -/
def describe : Binary64 → Text
  | .nan => "nan".toList
  | .infinite negative => if negative then "-inf".toList else "inf".toList
  | .finite negative significand exponent =>
      let sign := if negative then ['-'] else []
      if significand = 0 then sign ++ "0.0".toList
      else sign ++ messageLayout.render (Decimal.shortest significand exponent)

end Binary64

end VerifierBootstrap
