import VerifierBootstrap.Text.Utf8

/-!
SHA-256. A message is padded to blocks of sixteen words; each block is expanded to a schedule
of sixty-four words and folded into a state of eight words, which is the digest.
-/

namespace VerifierBootstrap.Sha256

/-- The eight working words. -/
structure State where
  a : UInt32
  b : UInt32
  c : UInt32
  d : UInt32
  e : UInt32
  f : UInt32
  g : UInt32
  h : UInt32
deriving Repr, DecidableEq

/-- The fractional parts of the square roots of the first eight primes. -/
def State.initial : State :=
  ⟨0x6a09e667, 0xbb67ae85, 0x3c6ef372, 0xa54ff53a,
   0x510e527f, 0x9b05688c, 0x1f83d9ab, 0x5be0cd19⟩

/-- The fractional parts of the cube roots of the first sixty-four primes. -/
def roundConstants : List UInt32 :=
  [0x428a2f98, 0x71374491, 0xb5c0fbcf, 0xe9b5dba5, 0x3956c25b, 0x59f111f1, 0x923f82a4,
   0xab1c5ed5, 0xd807aa98, 0x12835b01, 0x243185be, 0x550c7dc3, 0x72be5d74, 0x80deb1fe,
   0x9bdc06a7, 0xc19bf174, 0xe49b69c1, 0xefbe4786, 0x0fc19dc6, 0x240ca1cc, 0x2de92c6f,
   0x4a7484aa, 0x5cb0a9dc, 0x76f988da, 0x983e5152, 0xa831c66d, 0xb00327c8, 0xbf597fc7,
   0xc6e00bf3, 0xd5a79147, 0x06ca6351, 0x14292967, 0x27b70a85, 0x2e1b2138, 0x4d2c6dfc,
   0x53380d13, 0x650a7354, 0x766a0abb, 0x81c2c92e, 0x92722c85, 0xa2bfe8a1, 0xa81a664b,
   0xc24b8b70, 0xc76c51a3, 0xd192e819, 0xd6990624, 0xf40e3585, 0x106aa070, 0x19a4c116,
   0x1e376c08, 0x2748774c, 0x34b0bcb5, 0x391c0cb3, 0x4ed8aa4a, 0x5b9cca4f, 0x682e6ff3,
   0x748f82ee, 0x78a5636f, 0x84c87814, 0x8cc70208, 0x90befffa, 0xa4506ceb, 0xbef9a3f7,
   0xc67178f2]

/-- Turns a word to the right by `count` bits, for `0 < count < 32`. -/
@[inline] def rotateRight (word : UInt32) (count : UInt32) : UInt32 :=
  (word >>> count) ||| (word <<< (32 - count))

/-- One round with a round constant and a schedule word. -/
def State.round (state : State) (constant word : UInt32) : State :=
  let bigSigma1 := rotateRight state.e 6 ^^^ rotateRight state.e 11 ^^^ rotateRight state.e 25
  let choice := (state.e &&& state.f) ^^^ ((state.e ^^^ 0xffffffff) &&& state.g)
  let first := state.h + bigSigma1 + choice + constant + word
  let bigSigma0 := rotateRight state.a 2 ^^^ rotateRight state.a 13 ^^^ rotateRight state.a 22
  let majority := (state.a &&& state.b) ^^^ (state.a &&& state.c) ^^^ (state.b &&& state.c)
  let second := bigSigma0 + majority
  ⟨first + second, state.a, state.b, state.c, state.d + first, state.e, state.f, state.g⟩

/-- Adds the words of two states. -/
def State.add (left right : State) : State :=
  ⟨left.a + right.a, left.b + right.b, left.c + right.c, left.d + right.d,
   left.e + right.e, left.f + right.f, left.g + right.g, left.h + right.h⟩

/-- The word that follows sixteen schedule words. -/
def nextWord (window : Array UInt32) : UInt32 :=
  let size := window.size
  let early := window.getD (size - 15) 0
  let late := window.getD (size - 2) 0
  let sigma0 := rotateRight early 7 ^^^ rotateRight early 18 ^^^ (early >>> 3)
  let sigma1 := rotateRight late 17 ^^^ rotateRight late 19 ^^^ (late >>> 10)
  window.getD (size - 16) 0 + sigma0 + window.getD (size - 7) 0 + sigma1

/-- Appends `count` words to a schedule. -/
def extend : Nat → Array UInt32 → Array UInt32
  | 0, words => words
  | count + 1, words => extend count (words.push (nextWord words))

/-- The sixty-four words of a block of sixteen. -/
def schedule (block : List UInt32) : List UInt32 :=
  (extend 48 block.toArray).toList

/-- Folds a block into a state. -/
def State.absorb (state : State) (block : List UInt32) : State :=
  let rounds := roundConstants.zip (schedule block)
  state.add (rounds.foldl (fun current (constant, word) => current.round constant word) state)

/-- The word of four bytes, highest first. -/
def wordOf (a b c d : UInt8) : UInt32 :=
  (a.toUInt32 <<< 24) ||| (b.toUInt32 <<< 16) ||| (c.toUInt32 <<< 8) ||| d.toUInt32

/-- The four bytes of a word, highest first. -/
def bytesOf (word : UInt32) : Bytes :=
  [(word >>> 24).toUInt8, (word >>> 16).toUInt8, (word >>> 8).toUInt8, word.toUInt8]

/-- Reads bytes as words. A last group of fewer than four is left out. -/
def words : Bytes → List UInt32
  | a :: b :: c :: d :: rest => wordOf a b c d :: words rest
  | _ => []

/-- The bytes that complete a message of `length` bytes to whole blocks: a one bit, zeros, and
the length in bits.
-/
def padding (length : Nat) : Bytes :=
  let zeros := (119 - length % 64) % 64
  let bits := length * 8
  0x80 :: List.replicate zeros 0
    ++ (List.range 8).map fun i => UInt8.ofNat (bits / Nat.pow 256 (7 - i) % 256)

/-- Folds words into a state, sixteen at a time. -/
def absorbAll (state : State) (message : List UInt32) : State :=
  match message with
  | [] => state
  | word :: rest =>
      absorbAll (state.absorb (word :: rest.take 15)) (rest.drop 15)
termination_by message.length
decreasing_by simp only [List.length_cons, List.length_drop]; omega

/-- The thirty-two bytes of a state. -/
def State.toBytes (state : State) : Bytes :=
  [state.a, state.b, state.c, state.d, state.e, state.f, state.g, state.h].flatMap bytesOf

/-- The digest of a message. -/
def hash (message : Bytes) : Bytes :=
  (absorbAll State.initial (words (message ++ padding message.length))).toBytes

/-- A digest has thirty-two bytes, since a state has eight words. -/
@[simp] theorem length_hash (message : Bytes)
    : (hash message).length = 32 := by
  simp [hash, State.toBytes, bytesOf]

end VerifierBootstrap.Sha256
