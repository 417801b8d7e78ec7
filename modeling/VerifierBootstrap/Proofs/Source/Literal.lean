import VerifierBootstrap.Source.Declaration
import VerifierBootstrap.Proofs.Source.LiteralLookahead

/-!
Literals of constants. A dialect can write a value as a literal if it reads the literal back as
one lexeme with that value. Literals of numerals are indifferent to the scanners in front of them,
whether they are read back or not: they hold no sign that could open or close a comment, a string
or an escape, the quotes of their own dialect apart.
-/

namespace VerifierBootstrap

/-- Whether a dialect can write a value as a literal: a numeral, and where no quotes are around
it one that is read as a single number.
-/
def Writable (dialect : Dialect) (value : Text) : Prop :=
  match dialect with
  | .generic => False
  | .rust => Text.isNumeral value = true
  | .solidity =>
      Text.isNumeral value = true
      ∧ ∃ first rest,
          value = first :: rest
          ∧ Text.isDecimal first = true
          ∧ rest.all Lexeme.continuesNumber = true

/-- The kind of the literals of constants. -/
def literalKind : Dialect → LexemeKind
  | .rust => .string
  | .generic | .solidity => .number

namespace Text

/-- Ranges that lie apart have no character in common. -/
theorem inRanges_apart {left right : List (Nat × Nat)} {char : Char}
    (apart : ∀ range ∈ left, ∀ other ∈ right, range.2 < other.1 ∨ other.2 < range.1)
    (inLeft : inRanges left char = true)
    : inRanges right char = false := by
  simp only [inRanges, List.any_eq_true, Bool.and_eq_true, decide_eq_true_eq] at inLeft
  obtain ⟨range, member, low, high⟩ := inLeft
  simp only [inRanges, List.any_eq_false, Bool.and_eq_true, decide_eq_true_eq]
  intro other otherMember
  have := apart range member other otherMember
  omega

/-- No blank is a digit. -/
theorem isBlank_of_isDigit {char : Char} (digit : isDigit char = true) : isBlank char = false := by
  rw [isDigit, Bool.or_eq_true] at digit
  rcases digit with decimal | bare
  · exact inRanges_apart (by decide +kernel) decimal
  · exact inRanges_apart (by decide +kernel) bare

theorem isDigit_of_isDecimal {char : Char} (decimal : isDecimal char = true)
    : isDigit char = true := by
  rw [isDigit, decimal, Bool.true_or]

theorem isNumeral_iff {value : Text}
    : isNumeral value = true ↔ value ≠ [] ∧ ∀ char ∈ value, isDigit char = true := by
  simp [isNumeral]

/-- A digit is none of the characters that are no digits. -/
theorem not_mem_of_isNumeral {value : Text} {char : Char} (numeral : isNumeral value = true)
    (noDigit : isDigit char = false)
    : char ∉ value := by
  intro member
  have digit := (isNumeral_iff.mp numeral).2 char member
  simp [digit] at noDigit

/-- The literal of a numeral begins with a double quote or with a digit, so not with a blank. -/
theorem renderLiteral_eq_cons (dialect : Dialect) {value : Text}
    (numeral : isNumeral value = true)
    : ∃ head tail, renderLiteral dialect value = head :: tail ∧ isBlank head = false := by
  obtain ⟨present, digits⟩ := isNumeral_iff.mp numeral
  obtain ⟨head, tail, rfl⟩ := List.exists_cons_of_ne_nil present
  have plain : isBlank head = false := isBlank_of_isDigit (digits head List.mem_cons_self)
  cases dialect with
  | generic => exact ⟨head, tail, rfl, plain⟩
  | solidity => exact ⟨head, tail, rfl, plain⟩
  | rust => exact ⟨'\x22', head :: tail ++ ['\x22'], rfl, by decide⟩

/-- The literal of a numeral holds nothing but its digits, the quotes around it apart. -/
theorem not_mem_renderLiteral (dialect : Dialect) {value : Text} {char : Char}
    (numeral : isNumeral value = true) (noDigit : isDigit char = false) (noQuote : char ≠ '\x22')
    : char ∉ renderLiteral dialect value := by
  have absent := not_mem_of_isNumeral numeral noDigit
  cases dialect with
  | generic => exact absent
  | solidity => exact absent
  | rust => simp [renderLiteral, absent, noQuote]

end Text

namespace Writable

/-- A value that can be written is a numeral. -/
theorem isNumeral {dialect : Dialect} {value : Text} (writable : Writable dialect value)
    : Text.isNumeral value = true := by
  cases dialect with
  | generic => exact writable.elim
  | solidity => exact writable.1
  | rust => exact writable

end Writable

end VerifierBootstrap
