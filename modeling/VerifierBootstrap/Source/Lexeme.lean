import VerifierBootstrap.Text.Digit
import VerifierBootstrap.Bytes.Hex

/-!
The lexemes of verifier sources. A text is cut into lexemes without a gap: comments, blanks,
literals, names, numbers, and single characters for all else. Of the kinds that a text can
begin with, the first in a fixed order is taken, and a literal or comment without its end is
none. Each scanner gives the number of characters that a lexeme takes.
-/

namespace VerifierBootstrap

/-- The languages of the verifiers, and the tokens of their family alone. -/
inductive Dialect where
  /-- The tokens of the family, without declarations. -/
  | generic
  | solidity
  | rust
deriving Repr, DecidableEq

/-- The name of a dialect. -/
def Dialect.name : Dialect → String
  | generic => "generic"
  | solidity => "solidity"
  | rust => "rust"

/-- The kinds of lexeme. -/
inductive LexemeKind where
  | comment
  | rawString
  | string
  | character
  | number
  | identifier
  | space
  | punctuation
deriving Repr, DecidableEq

/-- A stretch of a text and its kind. -/
structure Lexeme where
  kind : LexemeKind
  text : Text
deriving Repr, DecidableEq

namespace Lexeme

/-- A letter of ASCII. -/
def isLetter (char : Char) : Bool :=
  ('a' ≤ char && char ≤ 'z') || ('A' ≤ char && char ≤ 'Z')

/-- A digit of ASCII. -/
def isAsciiDigit (char : Char) : Bool :=
  '0' ≤ char && char ≤ '9'

/-- A character that can begin a name. -/
def beginsName (char : Char) : Bool :=
  isLetter char || char = '_' || char = '$'

/-- A character that can go on a name. -/
def continuesName (char : Char) : Bool :=
  beginsName char || isAsciiDigit char

/-- A character that can go on a number. -/
def continuesNumber (char : Char) : Bool :=
  isLetter char || isAsciiDigit char || char = '_'

/-- The length of the longest stretch at the front whose characters pass. -/
def run (passes : Char → Bool) (text : Text) : Nat :=
  (text.takeWhile passes).length

/-- The number of characters up to and with the first occurrence of `needle`. -/
def through? (needle : Text) : Text → Option Nat
  | [] => if needle.isEmpty then some 0 else none
  | char :: rest =>
      if needle.isPrefixOf (char :: rest) then some needle.length
      else (through? needle rest).map (· + 1)

/-- A comment: from two slashes up to the end of the line, or from a slash and a star through
the first star and slash after them.
-/
def comment? : Text → Option Nat
  | '/' :: '/' :: rest => some (2 + run (· ≠ '\n') rest)
  | '/' :: '*' :: rest => (through? ['*', '/'] rest).map (2 + ·)
  | _ => none

/-- The characters of a string behind its opening quote, with the closing one. A backslash takes
the character behind it along.
-/
def closing? (quote : Char) : Text → Option Nat
  | [] => none
  | '\\' :: [] => none
  | '\\' :: _ :: rest => (closing? quote rest).map (2 + ·)
  | char :: rest => if char = quote then some 1 else (closing? quote rest).map (1 + ·)

/-- A string between two of the given quotes. -/
def string? (quotes : List Char) : Text → Option Nat
  | char :: rest => if char ∈ quotes then (closing? char rest).map (1 + ·) else none
  | [] => none

/-- A raw string behind its `r`: signs, a quote, and everything through the first quote that as
many signs follow.
-/
def rawBody? (text : Text) : Option Nat :=
  let signs := run (· = '#') text
  match text.drop signs with
  | '\x22' :: rest =>
      (through? ('\x22' :: List.replicate signs '#') rest).map (signs + 1 + ·)
  | _ => none

/-- A raw string, of characters or of bytes. -/
def rawString? : Text → Option Nat
  | 'b' :: 'r' :: rest => (rawBody? rest).map (2 + ·)
  | 'r' :: rest => (rawBody? rest).map (1 + ·)
  | _ => none

/-- One if the text begins with a single quote, and so ends the literal in front of it. -/
def closesCharacter : Text → Bool
  | '\x27' :: _ => true
  | _ => false

/-- An escape by code point behind its `u`: hexadecimal digits between braces. -/
def codePoint? : Text → Option Nat
  | '\x7b' :: rest =>
      let digits := run Hex.isDigit rest
      if 0 < digits ∧ (rest.drop digits).head? = some '\x7d' then some (digits + 2) else none
  | _ => none

/-- The lengths that the body of a character literal may have, in the order in which they are
tried.
-/
def characterBodies : Text → List Nat
  | '\\' :: 'u' :: rest => (codePoint? rest).toList.map (2 + ·) ++ [2]
  | '\\' :: 'x' :: a :: b :: _ => if Hex.isDigit a && Hex.isDigit b then [4, 2] else [2]
  | '\\' :: _ :: _ => [2]
  | char :: _ => if char = '\\' ∨ char = '\x27' ∨ char = '\n' then [] else [1]
  | [] => []

/-- A character literal behind its opening quote. -/
def characterBody? (text : Text) : Option Nat :=
  ((characterBodies text).find? fun length => closesCharacter (text.drop length)).map (· + 1)

/-- A character literal, of a character or of a byte. -/
def character? : Text → Option Nat
  | 'b' :: '\x27' :: rest => (characterBody? rest).map (2 + ·)
  | '\x27' :: rest => (characterBody? rest).map (1 + ·)
  | _ => none

/-- The literals of a dialect at the front of a text, in the order in which they are tried. -/
def literal? (dialect : Dialect) (text : Text) : Option (LexemeKind × Nat) :=
  match dialect with
  | .generic | .solidity => (string? ['\x22', '\x27'] text).map (LexemeKind.string, ·)
  | .rust =>
      match rawString? text with
      | some length => some (.rawString, length)
      | none =>
          match string? ['\x22'] text with
          | some length => some (.string, length)
          | none => (character? text).map (LexemeKind.character, ·)

/-- The lexeme that all dialects share at the front of `char :: rest`. -/
def common (char : Char) (rest : Text) : LexemeKind × Nat :=
  if Text.isDecimal char then (.number, 1 + run continuesNumber rest)
  else if beginsName char then (.identifier, 1 + run continuesName rest)
  else if Text.isBlank char then (.space, 1 + run Text.isBlank rest)
  else (.punctuation, 1)

/-- The kind and the length of the lexeme at the front of `char :: rest`. -/
def first (dialect : Dialect) (char : Char) (rest : Text) : LexemeKind × Nat :=
  match comment? (char :: rest) with
  | some length => (.comment, length)
  | none => (literal? dialect (char :: rest)).getD (common char rest)

end Lexeme

/-- Cuts a text into lexemes. -/
def lexemes (dialect : Dialect) : Text → List Lexeme
  | [] => []
  | char :: rest =>
      let (kind, length) := Lexeme.first dialect char rest
      ⟨kind, char :: rest.take (length - 1)⟩ :: lexemes dialect (rest.drop (length - 1))
termination_by text => text.length
decreasing_by simp only [List.length_cons, List.length_drop]; omega

end VerifierBootstrap
