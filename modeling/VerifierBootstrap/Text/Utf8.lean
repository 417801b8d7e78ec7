/-!
UTF-8: texts as bytes and bytes as texts. A reader refuses at the first byte that cannot begin
or continue a character, and says how many bytes of the character were still sound.
-/

namespace VerifierBootstrap

/-- A byte string, first byte first. -/
abbrev Bytes := List UInt8

/-- A text, as the sequence of its characters; positions in it count characters. -/
abbrev Text := List Char

namespace Utf8

/-- Writes each character with its one to four bytes. -/
def encode (text : Text) : Bytes :=
  text.flatMap String.utf8EncodeChar

/-- Why a byte sequence is no character. -/
inductive Cause where
  /-- The byte begins no character. -/
  | start
  /-- A byte in the middle is not one that may follow. -/
  | continuation
  /-- The bytes end inside a character. -/
  | truncated
deriving Repr, DecidableEq

/-- The bytes `first` to `last` of an input are no character; `byte` is the first of them. -/
structure Fault where
  first : Nat
  last : Nat
  byte : UInt8
  cause : Cause
deriving Repr, DecidableEq

/-- What a leading byte announces: how many bytes follow, its own share of the code point, and
the range of the byte right after it. The narrower ranges rule out overlong forms, surrogates
and code points past the last plane.
-/
structure Lead where
  following : Nat
  payload : Nat
  low : Nat
  high : Nat
deriving Repr, DecidableEq

/-- The announcement of a byte, if it may begin a character. -/
def Lead.ofByte? (byte : UInt8) : Option Lead :=
  let value := byte.toNat
  if value < 0x80 then some ⟨0, value, 0x80, 0xBF⟩
  else if value < 0xC2 then none
  else if value < 0xE0 then some ⟨1, value - 0xC0, 0x80, 0xBF⟩
  else if value = 0xE0 then some ⟨2, 0, 0xA0, 0xBF⟩
  else if value = 0xED then some ⟨2, 0xD, 0x80, 0x9F⟩
  else if value < 0xF0 then some ⟨2, value - 0xE0, 0x80, 0xBF⟩
  else if value = 0xF0 then some ⟨3, 0, 0x90, 0xBF⟩
  else if value < 0xF4 then some ⟨3, value - 0xF0, 0x80, 0xBF⟩
  else if value = 0xF4 then some ⟨3, 4, 0x80, 0x8F⟩
  else none

/-- Reads `count` further bytes onto the code point `point`. The first must lie between `low`
and `high`, the others may be any continuation. Fails with the cause and the number of bytes
that were sound.
-/
def continuePoint (point sound : Nat) (low high : Nat)
    : Nat → Bytes → Except (Cause × Nat) Nat
  | 0, _ => .ok point
  | _ + 1, [] => .error (.truncated, sound)
  | count + 1, byte :: rest =>
      if low ≤ byte.toNat ∧ byte.toNat ≤ high then
        continuePoint (point * 64 + (byte.toNat - 0x80)) (sound + 1) 0x80 0xBF count rest
      else
        .error (.continuation, sound)

/-- The character at the front of `byte :: rest`, with the number of bytes of `rest` it takes. -/
def first (byte : UInt8) (rest : Bytes) : Except (Cause × Nat) (Char × Nat) :=
  match Lead.ofByte? byte with
  | none => .error (.start, 0)
  | some lead =>
      match continuePoint lead.payload 0 lead.low lead.high lead.following rest with
      | .ok point => .ok (Char.ofNat point, lead.following)
      | .error fault => .error fault

/-- Reads bytes that begin at `position` of the whole input. -/
def decodeFrom (position : Nat) : Bytes → Except Fault Text
  | [] => .ok []
  | byte :: rest =>
      match first byte rest with
      | .error (cause, sound) => .error ⟨position, position + sound, byte, cause⟩
      | .ok (char, taken) =>
          match decodeFrom (position + 1 + taken) (rest.drop taken) with
          | .ok text => .ok (char :: text)
          | .error fault => .error fault
termination_by bytes => bytes.length
decreasing_by simp only [List.length_cons, List.length_drop]; omega

/-- The text that bytes spell, or the first place where they spell none. -/
def decode (bytes : Bytes) : Except Fault Text :=
  decodeFrom 0 bytes

/-- The reason of a fault in words. -/
def Cause.message : Cause → String
  | start => "invalid start byte"
  | continuation => "invalid continuation byte"
  | truncated => "unexpected end of data"

end Utf8

/-- The bytes of a label. -/
def Bytes.ofLabel (label : String) : Bytes :=
  Utf8.encode label.toList

namespace Text

/-- Ends every line with a line feed: a carriage return becomes one, together with the line
feed that may follow it.
-/
def unifyLines : Text → Text
  | [] => []
  | '\r' :: '\n' :: rest => '\n' :: unifyLines rest
  | '\r' :: rest => '\n' :: unifyLines rest
  | char :: rest => char :: unifyLines rest

/-- The pieces of a text between the separators, empty pieces included. -/
def splitAt (separator : Char) : Text → List Text
  | [] => [[]]
  | char :: rest =>
      if char = separator then
        [] :: splitAt separator rest
      else
        match splitAt separator rest with
        | [] => [[char]]
        | piece :: pieces => (char :: piece) :: pieces

end Text

end VerifierBootstrap
