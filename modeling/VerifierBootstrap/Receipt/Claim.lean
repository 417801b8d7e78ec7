import VerifierBootstrap.Bytes.Words
import VerifierBootstrap.Failure

/-!
Claims: what a receipt proves. A claim ties the state before a computation to the state after
it, and its digest commits to every field; a number that its field cannot hold has no digest.
-/

namespace VerifierBootstrap

/-- The machine at one moment: the program counter and the root of the memory image. -/
structure SystemState where
  pc : Int
  merkleRoot : Digest
deriving DecidableEq

namespace SystemState

/-- The bytes that a state is hashed from. -/
def preimage (state : SystemState) : Except Failure Bytes :=
  match Words.field? 4 state.pc with
  | some counter => .ok (Bytes.ofLabel "risc0.SystemState" ++ counter ++ state.merkleRoot.bytes)
  | none => .error .fieldRange

/-- The digest of a state. -/
def digest (state : SystemState) : Except Failure Digest :=
  (preimage state).map Digest.ofContent

end SystemState

/-- The start, the end and the exit condition of a computation, with its input and output. The
exit condition is a pair of numbers; any other count of them has no digest.
-/
structure Claim where
  before : SystemState
  after : SystemState
  exitCode : List Int
  input : Digest
  output : Digest
deriving DecidableEq

namespace Claim

/-- The fields of an exit condition, one behind the other. -/
def exitFields : List Int → Except Failure Bytes
  | [system, user] =>
      match Words.field? 4 system, Words.field? 4 user with
      | some first, some second => .ok (first ++ second)
      | _, _ => .error .fieldRange
  | _ => .error .fieldRange

/-- The bytes that a claim is hashed from. -/
def preimage (claim : Claim) : Except Failure Bytes := do
  let before ← claim.before.digest
  let after ← claim.after.digest
  let exit ← exitFields claim.exitCode
  return Bytes.ofLabel "risc0.ReceiptClaim" ++ claim.input.bytes ++ before.bytes
    ++ after.bytes ++ claim.output.bytes ++ exit

/-- The digest of a claim. -/
def digest (claim : Claim) : Except Failure Digest :=
  claim.preimage.map Digest.ofContent

end Claim

end VerifierBootstrap
