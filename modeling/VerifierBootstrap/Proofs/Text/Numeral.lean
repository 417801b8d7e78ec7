import Mathlib.Data.List.Basic
import VerifierBootstrap.Text.Digit

/-!
Numerals of natural numbers. Each number has one, which spells no other number.
-/

namespace VerifierBootstrap.Text

/-- Decimal digits spell a number, without a sign and without a leading zero. -/
structure IsNumeral (digits : Text) (value : Nat) : Prop where
  filled : digits ≠ []
  decimal : ∀ char ∈ digits, char.isDigit = true
  unpadded : digits.head? = some '0' → digits = ['0']
  spells : Nat.ofDigitChars 10 digits 0 = value

/-- A zero leads only the numeral of zero. By induction on the number, a digit less each time. -/
theorem ofNat_of_head?_zero {value : Nat} (zero : (ofNat value).head? = some '0')
    : ofNat value = ['0'] := by
  induction value using Nat.strongRecOn with
  | ind value ih =>
      rw [ofNat, Nat.toDigits_eq_if (by decide)] at zero ⊢
      split at zero
      · rename_i single
        rw [if_pos single]
        exact congrArg ([·]) (Option.some.inj zero)
      · rename_i long
        rw [List.head?_append_of_ne_nil _ Nat.toDigits_ne_nil] at zero
        have front : Nat.toDigits 10 (value / 10) = ['0'] := ih (value / 10) (by omega) zero
        have empty : Nat.ofDigitChars 10 (Nat.toDigits 10 (value / 10)) 0 = 0 := by
          rw [front]
          rfl
        rw [Nat.ofDigitChars_ten_toDigits] at empty
        omega

theorem isNumeral_ofNat (value : Nat) : IsNumeral (ofNat value) value :=
  ⟨Nat.toDigits_ne_nil, fun _ => Nat.isDigit_of_mem_toDigits (by decide) (by decide),
    ofNat_of_head?_zero, Nat.ofDigitChars_ten_toDigits⟩

end VerifierBootstrap.Text
