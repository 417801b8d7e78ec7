import VerifierBootstrap.Text.Blank

/-!
Hexadecimal numerals of byte strings. `encode` writes two lowercase digits a byte; `decode?`
reads exactly such pairs in either case, and `decodeSpaced` also skips blanks between pairs and
says where a numeral is broken.
-/

namespace VerifierBootstrap.Hex

/-- The digit of a value below sixteen. -/
def digit (value : Nat) : Char :=
  if value < 10 then Char.ofNat (0x30 + value) else Char.ofNat (0x57 + value)

/-- The value of a digit, in either case. -/
def value? (char : Char) : Option Nat :=
  let point := char.toNat
  if 0x30 ≤ point ∧ point ≤ 0x39 then some (point - 0x30)
  else if 0x41 ≤ point ∧ point ≤ 0x46 then some (point - 0x37)
  else if 0x61 ≤ point ∧ point ≤ 0x66 then some (point - 0x57)
  else none

/-- A digit of either case. -/
def isDigit (char : Char) : Bool :=
  (value? char).isSome

/-- The byte of a high and a low half. -/
def byte (high low : Nat) : UInt8 :=
  UInt8.ofNat (16 * high + low)

/-- Two lowercase digits a byte, high half first. -/
def encode (bytes : Bytes) : Text :=
  bytes.flatMap fun b => [digit (b.toNat / 16), digit (b.toNat % 16)]

/-- The bytes of a text that consists of digit pairs. -/
def decode? : Text → Option Bytes
  | [] => some []
  | [_] => none
  | high :: low :: rest =>
      match value? high, value? low, decode? rest with
      | some h, some l, some bytes => some (byte h l :: bytes)
      | _, _, _ => none

/-- Reads digit pairs with blanks between them, from `position` on. Fails with the position of
the first character that is not the digit it should be; behind a last lone digit that is the
end of the text.
-/
def decodeSpacedFrom (position : Nat) : Text → Except Nat Bytes
  | [] => .ok []
  | [char] =>
      if Text.isAsciiBlank char then .ok []
      else if isDigit char then .error (position + 1)
      else .error position
  | high :: low :: rest =>
      if Text.isAsciiBlank high then
        decodeSpacedFrom (position + 1) (low :: rest)
      else
        match value? high with
        | none => .error position
        | some h =>
            match value? low with
            | none => .error (position + 1)
            | some l =>
                match decodeSpacedFrom (position + 2) rest with
                | .ok bytes => .ok (byte h l :: bytes)
                | .error place => .error place

/-- Reads digit pairs with blanks of ASCII before, between and after them. A character outside
ASCII is refused ahead of any other fault.
-/
def decodeSpaced (text : Text) : Except Nat Bytes :=
  match text.findIdx? fun char => 0x80 ≤ char.toNat with
  | some position => .error position
  | none => decodeSpacedFrom 0 text

/-- Removes one `0x` or `0X` from the front, if there is one. -/
def dropMark : Text → Text
  | '0' :: 'x' :: rest => rest
  | '0' :: 'X' :: rest => rest
  | text => text

end VerifierBootstrap.Hex
