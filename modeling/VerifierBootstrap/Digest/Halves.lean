import VerifierBootstrap.Digest.Basic

/-!
A digest as two numbers of 128 bits. The digest is read as one little-endian number; its high
and low halves are written as hexadecimal numerals of full width.
-/

namespace VerifierBootstrap.Digest

/-- The two halves of a digest, each with the mark `0x`. -/
structure Halves where
  high : Text
  low : Text
deriving Repr, DecidableEq

/-- Cuts a digest into its halves: the bytes are taken from the last to the first, and cut in
the middle.
-/
def split (digest : Digest) : Halves :=
  let descending := digest.bytes.reverse
  ⟨'0' :: 'x' :: Hex.encode (descending.take 16),
   '0' :: 'x' :: Hex.encode (descending.drop 16)⟩

/-- The bytes of one half. -/
def Halves.bytes (half : Text) : Except Fault Bytes :=
  match Hex.decodeSpaced (Hex.dropMark half) with
  | .error position => .error (.badDigit position)
  | .ok bytes => .ok bytes

/-- Puts the halves of a digest together again. -/
def join (halves : Halves) : Except Fault Digest := do
  let high ← Halves.bytes halves.high
  let low ← Halves.bytes halves.low
  if high.length ≠ low.length then throw .unevenHalves
  ofBytes (high ++ low).reverse

end VerifierBootstrap.Digest
