import VerifierBootstrap.Bytes.Hex
import VerifierBootstrap.Hash.Hasher

/-! Digests: the thirty-two bytes that stand for a content, an image or a claim. -/

namespace VerifierBootstrap

/-- A digest is thirty-two bytes, and the type holds nothing else. -/
structure Digest where
  bytes : Bytes
  length_bytes : bytes.length = 32
deriving DecidableEq

namespace Digest

/-- Why something is no digest. -/
inductive Fault where
  /-- The character at `position` is not the hexadecimal digit it should be. -/
  | badDigit (position : Nat)
  /-- There are `count` bytes, not thirty-two. -/
  | wrongSize (count : Nat)
  /-- The two halves of a split digest differ in length. -/
  | unevenHalves
  /-- The size of a read is negative and does not stand for everything. -/
  | negativeSize
  /-- The size of a read does not fit a signed word of 64 bits. -/
  | unindexableSize
  /-- No byte string can be so long as the size of a read. -/
  | unholdableSize
  /-- There is no memory for a read of the size. -/
  | noMemory
deriving Repr, DecidableEq

/-- The wording of a fault. -/
def Fault.message : Fault → String
  | badDigit position =>
      s!"non-hexadecimal number found in fromhex() arg at position {position}"
  | wrongSize count => s!"digest must be 32 bytes, got {count}"
  | unevenHalves => "digest halves must have equal length"
  | negativeSize => "read length must be non-negative or -1"
  | unindexableSize => "cannot fit 'int' into an index-sized integer"
  | unholdableSize => "byte string is too large"
  | noMemory => ""

/-- The digest with the given bytes, if they are thirty-two. -/
def ofBytes (bytes : Bytes) : Except Fault Digest :=
  if size : bytes.length = 32 then .ok ⟨bytes, size⟩ else .error (.wrongSize bytes.length)

/-- The SHA-256 digest of a content. -/
def ofContent (content : Bytes) : Digest :=
  ⟨Sha256.hash content, Sha256.length_hash content⟩

/-- The SHA-256 digest of parts, taken in one after the other. -/
def ofParts (parts : List Bytes) : Digest :=
  let hasher := parts.foldl Sha256.Hasher.update Sha256.Hasher.initial
  ⟨hasher.finish, hasher.length_finish⟩

/-- The digest of zeros. -/
def zero : Digest :=
  ⟨List.replicate 32 0, by simp⟩

/-- The sixty-four lowercase digits of a digest. -/
def toHex (digest : Digest) : Text :=
  Hex.encode digest.bytes

/-- The digits of a digest as a string. -/
def text (digest : Digest) : String :=
  String.ofList digest.toHex

/-- Reads a digest that a person wrote: blanks at the ends and a mark in front are dropped, and
the pairs of digits may be set apart.
-/
def parse (input : Text) : Except Fault Digest :=
  match Hex.decodeSpaced (Hex.dropMark (Text.trim input)) with
  | .error position => .error (.badDigit position)
  | .ok bytes => ofBytes bytes

/-- How much of a file one read returns. -/
inductive ReadSize where
  /-- Everything that is left. -/
  | all
  /-- At most so many bytes. -/
  | atMost (count : Nat)
deriving Repr, DecidableEq

/-- The greatest size of a byte string. Its header takes 33 bytes of a signed word's range. -/
def greatestSize : Int := 0x7FFFFFFFFFFFFFFF - 33

/-- The size that a number stands for. Minus one stands for everything. -/
def ReadSize.ofInt (size : Int) : Except Fault ReadSize :=
  if size < -0x8000000000000000 ∨ 0x7FFFFFFFFFFFFFFF < size then .error .unindexableSize
  else if size < -1 then .error .negativeSize
  else if size = -1 then .ok .all
  else if greatestSize < size then .error .unholdableSize
  else .ok (.atMost size.toNat)

/-- The bytes that are set aside for one read of a content. A read of a certain size needs all of
it, however little there is to read.
-/
def ReadSize.demand : ReadSize → Bytes → Nat
  | .all, content => content.length
  | .atMost count, _ => count

/-- The successive reads of a content, up to the first that returns nothing. A size of zero
returns nothing at once.
-/
def reads : ReadSize → Bytes → List Bytes
  | .all, content => if content.isEmpty then [] else [content]
  | .atMost 0, _ => []
  | .atMost _, [] => []
  | .atMost (size + 1), byte :: rest =>
      (byte :: rest.take size) :: reads (.atMost (size + 1)) (rest.drop size)
termination_by _ content => content.length
decreasing_by simp only [List.length_cons, List.length_drop]; omega

/-- The digest of a content that is read piece by piece, with memory for one piece. -/
def ofReads (memory : Nat) (size : Int) (content : Bytes) : Except Fault Digest := do
  let read ← ReadSize.ofInt size
  if memory < read.demand content then throw .noMemory
  return ofParts (reads read content)

end Digest

end VerifierBootstrap
