import VerifierBootstrap.Json.Printer
import VerifierBootstrap.Proofs.Json.Values

/-!
Printed values. The text of a value is written from lexemes, with a blank behind each comma and
each colon, so the value is read from it again. The strings here are those that are printed as
they are.
-/

namespace VerifierBootstrap.Json

/-- The text of a value is written from lexemes of the value, with no more than `height` arrays and
objects open at once.
-/
def Printed (height : Nat) (value : Json) : Prop :=
  ∃ lexemes, Writes height lexemes value ∧ Spaced lexemes value.print

variable {height : Nat}

/-- A character that is printed as it is. -/
def IsPrintable (char : Char) : Prop :=
  IsPlain char ∧ char.toNat ≤ 0x7E

instance (char : Char) : Decidable (IsPrintable char) :=
  inferInstanceAs (Decidable (_ ∧ _))

theorem blanks_space : Blanks [' '] := by
  intro char member
  exact List.mem_singleton.mp member ▸ List.mem_cons_self

theorem printPoint_of_isPrintable {char : Char} (printable : IsPrintable char)
    : printPoint (.scalar char) = [char] := by
  obtain ⟨⟨unquoted, unescaped, above⟩, below⟩ := printable
  have control {other : Char} (low : other.toNat < 0x20) : char ≠ other := by
    rintro rfl
    omega
  rw [printPoint, if_neg (not_or.mpr ⟨unquoted, unescaped⟩), if_neg (control (by decide)),
    if_neg (control (by decide)), if_neg (control (by decide)), if_neg (control (by decide)),
    if_neg (control (by decide)), if_pos ⟨above, below⟩]

/-- A string is printed as it is. By induction on the text. -/
theorem printPoints_ofText {text : Text} (printable : ∀ char ∈ text, IsPrintable char)
    : printPoints (.ofText text) = '\x22' :: (text ++ ['\x22']) := by
  have same : (Points.ofText text).flatMap printPoint = text := by
    induction text with
    | nil => rfl
    | cons char text ih =>
        have first := printPoint_of_isPrintable (printable char (by simp))
        have rest := ih fun other member => printable other (by simp [member])
        rw [Points.ofText, List.map_cons, List.flatMap_cons, first, List.singleton_append]
        exact congrArg _ rest
  rw [printPoints, same, List.cons_append]

theorem printed_ofText {text : Text} (printable : ∀ char ∈ text, IsPrintable char)
    : Printed 0 (.ofText text) := by
  refine ⟨_, writes_string fun char member => (printable char member).1, ?_⟩
  rw [ofText, print, printPoints_ofText printable]
  exact .single _

/-- Items are printed with a comma and a blank between any two. By induction on the items. -/
theorem spaced_printItems {items : List Json} (printed : ∀ item ∈ items, Printed height item)
    : ∃ lexemes,
        List.Forall₂ (Writes height) lexemes items
        ∧ Spaced (separated [','] lexemes) (printItems items) := by
  induction items with
  | nil => exact ⟨[], .nil, .nil Blanks.nil⟩
  | cons item rest ih =>
      obtain ⟨lexemes, written, spaced⟩ := printed item (by simp)
      obtain ⟨others, more, following⟩ := ih fun other member => printed other (by simp [member])
      refine ⟨lexemes :: others, .cons written more, ?_⟩
      cases more with
      | nil =>
          rw [printItems, separated, List.flatMap_nil, List.append_nil]
          exact spaced
      | @cons next _ lexemes others _ _ =>
          rw [printItems, separated, List.flatMap_cons]
          · have more := (Spaced.single [',']).append (following.blanks_append blanks_space)
            exact spaced.append more
          · simp

theorem printed_array {items : List Json} (printed : ∀ item ∈ items, Printed height item)
    : Printed (height + 1) (.array items) := by
  obtain ⟨lexemes, written, spaced⟩ := spaced_printItems printed
  refine ⟨_, writes_array written, ?_⟩
  rw [print]
  exact (Spaced.single ['[']).append (spaced.append (.single [']']))

theorem printed_field {key : Text} {value : Json}
    (printable : ∀ char ∈ key, IsPrintable char) (printed : Printed height value)
    : Printed (height + 1) (.object [(.ofText key, value)]) := by
  obtain ⟨lexemes, written, spaced⟩ := printed
  refine ⟨_, writes_field (fun char member => (printable char member).1) written, ?_⟩
  rw [print, printFields, printPoints_ofText printable]
  have inner := (Spaced.single [':']).append (spaced.blanks_append blanks_space)
  have keyed := (Spaced.single ('\x22' :: (key ++ ['\x22']))).append inner
  exact (Spaced.single ['\x7b']).append (keyed.append (.single ['\x7d']))

/-- A value is read from its text. -/
theorem parse_print {value : Json} (printed : Printed height value)
    : parse value.print = .ok value := by
  obtain ⟨lexemes, written, spaced⟩ := printed
  exact parse_of_spaced written spaced

end VerifierBootstrap.Json
