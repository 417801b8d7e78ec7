import VerifierBootstrap.Json.Printer

/-!
Printed values are on one line and in ASCII, whatever is in them: strings have their other
characters escaped, and numbers are written in digits, signs and letters.
-/

namespace VerifierBootstrap.Json

/-- All characters of a text are among the printable ones of ASCII. -/
def IsVisible (text : Text) : Prop :=
  ∀ char ∈ text, 0x20 ≤ char.toNat ∧ char.toNat ≤ 0x7E

instance (text : Text) : Decidable (IsVisible text) :=
  decidable_of_iff (text.all fun char => decide (0x20 ≤ char.toNat ∧ char.toNat ≤ 0x7E))
    (by simp [IsVisible])

namespace IsVisible

variable {first second text : Text}

theorem append (left : IsVisible first) (right : IsVisible second) : IsVisible (first ++ second) :=
  fun char member => (List.mem_append.mp member).elim (left char) (right char)

theorem cons {char : Char} (visible : 0x20 ≤ char.toNat ∧ char.toNat ≤ 0x7E)
    (rest : IsVisible text)
    : IsVisible (char :: text) :=
  List.forall_mem_cons.mpr ⟨visible, rest⟩

theorem of_subset (visible : IsVisible text) (part : first ⊆ text) : IsVisible first :=
  fun char member => visible char (part member)

theorem replicate {char : Char} (visible : 0x20 ≤ char.toNat ∧ char.toNat ≤ 0x7E) (count : Nat)
    : IsVisible (List.replicate count char) :=
  fun _ member => List.eq_of_mem_replicate member ▸ visible

end IsVisible

-----------------------------------------------------------------------------------------
-- Numbers
-----------------------------------------------------------------------------------------

theorem isVisible_toDigits (value : Nat) : IsVisible (Nat.toDigits 10 value) := by
  intro char member
  obtain ⟨above, below⟩ : 0x30 ≤ char.toNat ∧ char.toNat ≤ 0x39 :=
    Char.isDigit_iff_toNat.mp (Nat.isDigit_of_mem_toDigits (by decide) (by decide) member)
  exact ⟨by omega, by omega⟩

theorem isVisible_ofInt (value : Int) : IsVisible (Text.ofInt value) := by
  rw [Text.ofInt]
  split
  · exact .cons (by decide) (isVisible_toDigits _)
  · exact isVisible_toDigits _

/-- A decimal is laid out in digits, a point, and a sign behind a letter. -/
theorem isVisible_render {layout : DecimalLayout} (ending : IsVisible layout.wholeEnding)
    (decimal : Decimal)
    : IsVisible (layout.render decimal) := by
  have digits := isVisible_toDigits decimal.digits
  have zeros := @IsVisible.replicate '0' (by decide)
  have padded (width value : Nat) : IsVisible (DecimalLayout.padded width value) :=
    (zeros _).append (isVisible_toDigits value)
  rw [DecimalLayout.render]
  dsimp only
  split
  · split
    · exact (IsVisible.append (by decide) (zeros _)).append digits
    · split
      · exact (digits.append (zeros _)).append ending
      · exact (digits.of_subset (List.take_subset _ _)).append
          (.cons (by decide) (digits.of_subset (List.drop_subset _ _)))
  · refine .append ?_ (.cons (by decide) (.cons ?_ (padded _ _)))
    · cases written : Nat.toDigits 10 decimal.digits with
      | nil => exact fun _ => nofun
      | cons lead more =>
          rw [written] at digits
          obtain ⟨first, rest⟩ := List.forall_mem_cons.mp digits
          dsimp only
          split
          · exact .cons first fun _ => nofun
          · exact .cons first (.cons (by decide) rest)
    · split
      · decide
      · decide

theorem isVisible_printReal (value : Binary64) : IsVisible (printReal value) := by
  cases value with
  | nan => decide
  | infinite negative =>
      cases negative with
      | false => decide
      | true => decide
  | finite negative significand exponent =>
      have sign : IsVisible (if negative then ['-'] else []) := by
        cases negative with
        | false => decide
        | true => decide
      simp only [printReal, Binary64.describe]
      split
      · exact sign.append (by decide)
      · exact sign.append (isVisible_render (by decide) _)

-----------------------------------------------------------------------------------------
-- Strings
-----------------------------------------------------------------------------------------

theorem isVisible_hexDigits (width value : Nat) : IsVisible (Text.hexDigits width value) := by
  have digit : ∀ value < 16, 0x20 ≤ (Hex.digit value).toNat ∧ (Hex.digit value).toNat ≤ 0x7E := by
    decide
  induction width generalizing value with
  | zero => exact fun _ => nofun
  | succ width ih => exact (ih _).append (.cons (digit _ (Nat.mod_lt _ (by decide))) fun _ => nofun)

theorem isVisible_printPoint (point : Point) : IsVisible (printPoint point) := by
  have escape (unit : Nat) : IsVisible (unitEscape unit) :=
    .cons (by decide) (.cons (by decide) (isVisible_hexDigits 4 unit))
  cases point with
  | surrogate unit => exact escape unit
  | scalar char =>
      rw [printPoint]
      split
      · rename_i marked
        rcases marked with rfl | rfl
        · decide
        · decide
      iterate 5
        split
        · decide
      split
      · rename_i visible
        exact .cons visible fun _ => nofun
      · split
        · exact escape _
        · exact (escape _).append (escape _)

theorem isVisible_printPoints (points : Points) : IsVisible (printPoints points) := by
  refine .append (.cons (by decide) ?_) (by decide)
  intro char member
  obtain ⟨point, _, printed⟩ := List.mem_flatMap.mp member
  exact isVisible_printPoint point char printed

-----------------------------------------------------------------------------------------
-- Values
-----------------------------------------------------------------------------------------

mutual

/-- A value is printed on one line and in ASCII. By recursion on the value. -/
theorem isVisible_print : ∀ value : Json, IsVisible value.print
  | .null => by decide
  | .boolean true => by decide
  | .boolean false => by decide
  | .integer value => by
      rw [print]
      exact isVisible_ofInt value
  | .real value => by
      rw [print]
      exact isVisible_printReal value
  | .string points => by
      rw [print]
      exact isVisible_printPoints points
  | .array items => by
      rw [print]
      exact .append (.cons (by decide) (isVisible_printItems items)) (by decide)
  | .object fields => by
      rw [print]
      exact .append (.cons (by decide) (isVisible_printFields fields)) (by decide)

theorem isVisible_printItems : ∀ items : List Json, IsVisible (printItems items)
  | [] => by decide
  | [item] => by
      rw [printItems]
      exact isVisible_print item
  | item :: next :: rest => by
      rw [printItems]
      · exact (isVisible_print item).append
          (.cons (by decide) (.cons (by decide) (isVisible_printItems (next :: rest))))
      · simp

theorem isVisible_printFields : ∀ fields : List (Points × Json), IsVisible (printFields fields)
  | [] => by decide
  | [(key, value)] => by
      rw [printFields]
      exact (isVisible_printPoints key).append
        (.cons (by decide) (.cons (by decide) (isVisible_print value)))
  | (key, value) :: next :: rest => by
      have field : IsVisible (printPoints key ++ ':' :: ' ' :: print value) :=
        (isVisible_printPoints key).append
          (.cons (by decide) (.cons (by decide) (isVisible_print value)))
      rw [printFields]
      · exact field.append
          (.cons (by decide) (.cons (by decide) (isVisible_printFields (next :: rest))))
      · simp

end

end VerifierBootstrap.Json
