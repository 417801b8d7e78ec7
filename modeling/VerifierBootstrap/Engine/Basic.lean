import VerifierBootstrap.Bytes.Words
import VerifierBootstrap.Receipt.Basic

/-!
What the pipeline asks of an execution engine and prover, and the input of the test guest: a tag and
the number of cycles to spin for. `encode` and `requestedCycles` are the two directions of the
input; bytes behind the twelve of it are left alone.
-/

namespace VerifierBootstrap

/-- An engine for one fixed guest program. -/
structure Engine where
  /-- Identifies the guest program. -/
  imageId : Digest
  /-- The root of the control ids that a lifted receipt may carry. -/
  controlRoot : Digest
  execute : Bytes → Except Failure Session
  proveSegment : Segment → Except Failure SegmentReceipt
  lift : SegmentReceipt → Except Failure SuccinctReceipt
  identity : SuccinctReceipt → Except Failure IdentityReceipt

namespace GuestInput

/-- The tag of the busy loop, the only program that the guest is asked for. -/
def busyLoopTag : Nat := 1

/-- The bytes that ask for a number of cycles. -/
def encode (cycles : Int) : Except Failure Bytes :=
  match Words.field? 8 cycles with
  | some field => .ok (Words.encode 4 busyLoopTag ++ field)
  | none => .error .fieldRange

/-- The number of cycles that an input asks for. -/
def requestedCycles (input : Bytes) : Except Failure Nat :=
  if input.length < 12 then .error (.proof (.shortInput input.length))
  else
    let tag := Words.decode (input.take 4)
    if tag ≠ busyLoopTag then .error (.proof (.unknownTag tag))
    else .ok (Words.decode ((input.drop 4).take 8))

end GuestInput

end VerifierBootstrap
