import VerifierBootstrap.Number.Shortest
import VerifierBootstrap.Text.Digit
import VerifierBootstrap.Text.Quoted

/-!
JSON texts of values, on one line and in ASCII. A comma and a colon are followed by a space;
other characters than the printable ones of ASCII are escaped by their sixteen-bit units.
-/

namespace VerifierBootstrap.Json

/-- A unit as an escape. -/
def unitEscape (unit : Nat) : Text :=
  '\\' :: 'u' :: Text.hexDigits 4 unit

/-- A character between quotes. -/
def printPoint : Point → Text
  | .surrogate unit => unitEscape unit
  | .scalar char =>
      if char = '\x22' ∨ char = '\\' then ['\\', char]
      else if char = '\n' then ['\\', 'n']
      else if char = '\r' then ['\\', 'r']
      else if char = '\t' then ['\\', 't']
      else if char = '\x08' then ['\\', 'b']
      else if char = '\x0c' then ['\\', 'f']
      else if 0x20 ≤ char.toNat ∧ char.toNat ≤ 0x7E then [char]
      else if char.toNat < 0x10000 then unitEscape char.toNat
      else
        let offset := char.toNat - 0x10000
        unitEscape (0xD800 + offset / 0x400) ++ unitEscape (0xDC00 + offset % 0x400)

/-- A string between double quotes. -/
def printPoints (points : Points) : Text :=
  '\x22' :: points.flatMap printPoint ++ ['\x22']

/-- A number with a point or an exponent, or a word for what no numeral stands for. -/
def printReal : Binary64 → Text
  | .nan => "NaN".toList
  | .infinite negative => if negative then "-Infinity".toList else "Infinity".toList
  | value => value.describe

mutual

/-- The text of a value. -/
def print : Json → Text
  | .null => "null".toList
  | .boolean true => "true".toList
  | .boolean false => "false".toList
  | .integer value => Text.ofInt value
  | .real value => printReal value
  | .string points => printPoints points
  | .array items => '[' :: printItems items ++ [']']
  | .object fields => '\x7b' :: printFields fields ++ ['\x7d']

/-- Items with a comma and a space between them. -/
def printItems : List Json → Text
  | [] => []
  | [item] => print item
  | item :: rest => print item ++ ',' :: ' ' :: printItems rest

/-- Fields with a comma and a space between them. -/
def printFields : List (Points × Json) → Text
  | [] => []
  | [(key, value)] => printPoints key ++ ':' :: ' ' :: print value
  | (key, value) :: rest =>
      printPoints key ++ ':' :: ' ' :: print value ++ ',' :: ' ' :: printFields rest

end

/-- The text of a value as a string. -/
def text (value : Json) : String :=
  String.ofList value.print

end VerifierBootstrap.Json
