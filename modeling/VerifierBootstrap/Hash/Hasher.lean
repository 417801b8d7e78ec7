import VerifierBootstrap.Hash.Sha256

/-!
SHA-256 of a message that comes in pieces. A hasher folds whole blocks into its state as soon as
they are complete, and keeps what is less than a block until the next piece.
-/

namespace VerifierBootstrap.Sha256

/-- The bytes of a block of sixteen words. -/
def blockSize : Nat := 64

/-- A hasher between two pieces. -/
structure Hasher where
  state : State
  /-- The bytes behind the last whole block. -/
  waiting : Bytes
  /-- The length of all pieces so far. -/
  length : Nat
  waiting_lt : waiting.length < blockSize
deriving Repr, DecidableEq

namespace Hasher

/-- A hasher that was given nothing. -/
def initial : Hasher :=
  ⟨State.initial, [], 0, by decide⟩

/-- Takes in the next piece. -/
def update (hasher : Hasher) (piece : Bytes) : Hasher :=
  let ready := hasher.waiting ++ piece
  let whole := ready.length / blockSize * blockSize
  { state := absorbAll hasher.state (words (ready.take whole))
    waiting := ready.drop whole
    length := hasher.length + piece.length
    waiting_lt := by simp only [ready, whole, List.length_drop, blockSize]; omega }

/-- The digest of the pieces so far. -/
def finish (hasher : Hasher) : Bytes :=
  (absorbAll hasher.state (words (hasher.waiting ++ padding hasher.length))).toBytes

/-- A digest has thirty-two bytes, of whatever pieces. -/
@[simp] theorem length_finish (hasher : Hasher)
    : hasher.finish.length = 32 := by
  simp [finish, State.toBytes, bytesOf]

end Hasher

end VerifierBootstrap.Sha256
