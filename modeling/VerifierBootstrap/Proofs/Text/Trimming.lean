import Mathlib.Data.List.TakeWhile
import VerifierBootstrap.Text.Blank

/-!
Trimming told by its result. The core of a text stands between blanks and neither begins nor ends
with one. Each text has one core, and trimming finds it.
-/

namespace VerifierBootstrap.Text

/-- A core is what stands between the blanks at both ends of a text. -/
structure IsCore (core text : Text) : Prop where
  surrounded
    : ∃ front back,
        text = front ++ core ++ back
        ∧ (∀ char ∈ front, isBlank char = true)
        ∧ (∀ char ∈ back, isBlank char = true)
  begins : ∀ char ∈ core.head?, isBlank char = false
  ends : ∀ char ∈ core.getLast?, isBlank char = false

/-- What does not begin with a blank is not shortened. -/
theorem dropWhile_isBlank_of_head? {text : Text}
    (begins : ∀ char ∈ text.head?, isBlank char = false)
    : text.dropWhile isBlank = text := by
  cases text with
  | nil => rfl
  | cons char rest => exact List.dropWhile_cons_of_neg (by simp [begins char rfl])

/-- What is left without the blanks in front does not begin with a blank. -/
theorem isBlank_head?_dropWhile (text : Text)
    : ∀ char ∈ (text.dropWhile isBlank).head?, isBlank char = false := by
  intro char member
  have first := List.head?_dropWhile_not isBlank text
  rw [Option.mem_def.mp member] at first
  exact first

/-- Trimming leaves a core. Witness: the blanks that are dropped at each end. -/
theorem isCore_trim (text : Text) : IsCore (trim text) text := by
  have split
      : text.dropWhile isBlank
        = trim text ++ ((text.dropWhile isBlank).reverse.takeWhile isBlank).reverse := by
    rw [trim, ← List.reverse_append, List.takeWhile_append_dropWhile, List.reverse_reverse]
  constructor
  case surrounded =>
    refine ⟨text.takeWhile isBlank, ((text.dropWhile isBlank).reverse.takeWhile isBlank).reverse,
      ?_, fun char => List.mem_takeWhile_imp,
      fun char member => List.mem_takeWhile_imp (List.mem_reverse.mp member)⟩
    rw [List.append_assoc, ← split, List.takeWhile_append_dropWhile]
  case begins =>
    intro char first
    apply isBlank_head?_dropWhile text
    rw [split, List.head?_append, Option.mem_def.mp first]
    rfl
  case ends =>
    rw [trim, List.getLast?_reverse]
    exact isBlank_head?_dropWhile _

/-- A text without blanks is its own core. -/
theorem isCore_self {text : Text} (filled : ∀ char ∈ text, isBlank char = false)
    : IsCore text text where
  surrounded := ⟨[], [], (List.append_nil _).symm, nofun, nofun⟩
  begins char first := filled char (List.mem_of_head? first)
  ends char last := filled char (List.mem_of_getLast? last)

/-- A core is what trimming leaves. By cases of an empty core, before which all are blanks. -/
theorem IsCore.eq_trim {core text : Text} (isCore : IsCore core text) : core = trim text := by
  obtain ⟨⟨front, back, rfl, inFront, inBack⟩, begins, ends⟩ := isCore
  cases core with
  | nil =>
      have all : ∀ char ∈ front ++ [] ++ back, isBlank char = true := by
        simpa [or_imp, forall_and] using ⟨inFront, inBack⟩
      rw [trim, List.dropWhile_eq_nil_iff.mpr all]
      rfl
  | cons first rest =>
      have behind
          : (front ++ first :: rest ++ back).dropWhile isBlank = first :: rest ++ back := by
        rw [List.append_assoc, List.dropWhile_append_of_pos inFront]
        exact dropWhile_isBlank_of_head? begins
      have fromBack : ∀ char ∈ (first :: rest).reverse.head?, isBlank char = false := by
        rwa [List.head?_reverse]
      rw [trim, behind, List.reverse_append,
        List.dropWhile_append_of_pos fun char member => inBack char (List.mem_reverse.mp member),
        dropWhile_isBlank_of_head? fromBack, List.reverse_reverse]

end VerifierBootstrap.Text
