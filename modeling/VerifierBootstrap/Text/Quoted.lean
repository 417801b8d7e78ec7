import VerifierBootstrap.Json.Basic
import VerifierBootstrap.Bytes.Hex
import VerifierBootstrap.Text.Printable

/-!
Quoted strings in messages. A string stands between single quotes, or between double quotes if
it holds a single quote and no double one. What cannot be shown as itself is escaped.
-/

namespace VerifierBootstrap.Text

open Json (Point Points)

/-- The lowest `width` hexadecimal digits of a number. -/
def hexDigits : Nat → Nat → Text
  | 0, _ => []
  | width + 1, value => hexDigits width (value / 16) ++ [Hex.digit (value % 16)]

/-- An escape by number, as short as the number allows. -/
def numberedEscape (point : Nat) : Text :=
  if point < 0x100 then '\\' :: 'x' :: hexDigits 2 point
  else if point < 0x10000 then '\\' :: 'u' :: hexDigits 4 point
  else '\\' :: 'U' :: hexDigits 8 point

/-- A character between quotes. -/
def quotePoint (quote : Char) : Point → Text
  | .surrogate unit => numberedEscape unit
  | .scalar char =>
      if char = quote ∨ char = '\\' then ['\\', char]
      else if char = '\n' then ['\\', 'n']
      else if char = '\r' then ['\\', 'r']
      else if char = '\t' then ['\\', 't']
      else if isPrintable char then [char]
      else numberedEscape char.toNat

/-- The quote that a string is put between. -/
def quoteFor (points : Points) : Char :=
  if points.contains (.scalar '\x27') && !points.contains (.scalar '\x22') then '\x22'
  else '\x27'

/-- A string as messages quote it. -/
def quote (points : Points) : Text :=
  let mark := quoteFor points
  mark :: points.flatMap (quotePoint mark) ++ [mark]

/-- A string as messages quote it. -/
def quoted (value : String) : String :=
  String.ofList (quote (Points.ofText value.toList))

end VerifierBootstrap.Text
