import VerifierBootstrap.Text.Utf8

/-! White space as Unicode counts it, and the trimming of a text by it. -/

namespace VerifierBootstrap

/-- Holds for the characters of a list of inclusive ranges of code points. -/
def inRanges (ranges : List (Nat × Nat)) (char : Char) : Bool :=
  ranges.any fun (low, high) => low ≤ char.toNat && char.toNat ≤ high

namespace Text

/-- The blanks: the bidirectional types of paragraph and segment separators and white space,
and the space separators.
-/
def blankRanges : List (Nat × Nat) :=
  [(0x09, 0x0D), (0x1C, 0x20), (0x85, 0x85), (0xA0, 0xA0), (0x1680, 0x1680),
   (0x2000, 0x200A), (0x2028, 0x2029), (0x202F, 0x202F), (0x205F, 0x205F),
   (0x3000, 0x3000)]

/-- A blank in the sense of Unicode. -/
def isBlank (char : Char) : Bool :=
  inRanges blankRanges char

/-- A blank of ASCII: the space and the five controls from tabulation to carriage return. -/
def isAsciiBlank (char : Char) : Bool :=
  char.toNat = 0x20 || (0x09 ≤ char.toNat && char.toNat ≤ 0x0D)

/-- Removes the blanks at both ends. -/
def trim (text : Text) : Text :=
  ((text.dropWhile isBlank).reverse.dropWhile isBlank).reverse

end Text

end VerifierBootstrap
