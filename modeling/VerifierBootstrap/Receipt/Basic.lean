import VerifierBootstrap.Receipt.Claim
import VerifierBootstrap.Receipt.Groth16Seal

/-!
What the stages of proving pass on: the segments of an execution, the receipts of the single
stages, and the receipt that a verifier is given. They are made once and never change.
-/

namespace VerifierBootstrap

/-- A bounded stretch of an execution. -/
structure Segment where
  index : Int
  po2 : Int
  cycles : Int
  traceCommitment : Digest
deriving DecidableEq

/-- An execution: its segments, its public output and the cycles it took. -/
structure Session where
  segments : List Segment
  journal : Bytes
  cycles : Nat
deriving DecidableEq

/-- The proof of one segment. -/
structure SegmentReceipt where
  segmentIndex : Int
  claim : Claim
  sealBytes : Bytes
deriving DecidableEq

/-- A proof of one size, however long the execution was. -/
structure SuccinctReceipt where
  claim : Claim
  sealBytes : Bytes
  controlId : Digest
deriving DecidableEq

namespace SuccinctReceipt

/-- The bytes whose digest ties a claim to the program that checked it. -/
def preimage (controlId claimDigest : Digest) : Bytes :=
  Bytes.ofLabel "lift" ++ controlId.bytes ++ claimDigest.bytes

/-- The seal that a claim has under a control id. -/
def expectedSeal (receipt : SuccinctReceipt) : Except Failure Bytes := do
  let claimDigest ← receipt.claim.digest
  return (Digest.ofContent (preimage receipt.controlId claimDigest)).bytes

/-- Accepts a receipt whose seal begins with the one that its claim has under its control id. -/
def verifyIntegrity (receipt : SuccinctReceipt) : Except Failure Unit := do
  let expected ← receipt.expectedSeal
  if receipt.sealBytes.take expected.length ≠ expected then throw (.proof .foreignSeal)

end SuccinctReceipt

/-- A succinct receipt over the field of the outer proof. -/
structure IdentityReceipt where
  claim : Claim
  sealBytes : Bytes
deriving DecidableEq

/-- The receipt that a contract can verify. -/
structure Groth16Receipt where
  claim : Claim
  sealBytes : Bytes
deriving DecidableEq

/-- One of the proofs that a receipt can hold. -/
inductive Proof where
  | succinct (receipt : SuccinctReceipt)
  | identity (receipt : IdentityReceipt)
  | groth16 (receipt : Groth16Receipt)
deriving DecidableEq

/-- A public output and one proof. -/
structure Receipt where
  proof : Proof
  journal : Bytes
deriving DecidableEq

namespace Receipt

/-- What the receipt proves. -/
def claim (receipt : Receipt) : Claim :=
  match receipt.proof with
  | .succinct inner => inner.claim
  | .identity inner => inner.claim
  | .groth16 inner => inner.claim

/-- The proof that a contract can verify, if it is of that kind. -/
def groth16 (receipt : Receipt) : Except Failure Groth16Receipt :=
  match receipt.proof with
  | .succinct _ => .error (.proof (.notGroth16 .succinct))
  | .identity _ => .error (.proof (.notGroth16 .identity))
  | .groth16 inner => .ok inner

/-- The succinct proof, if it is of that kind. -/
def succinct? (receipt : Receipt) : Option SuccinctReceipt :=
  match receipt.proof with
  | .succinct inner => some inner
  | _ => none

end Receipt

end VerifierBootstrap
