import VerifierBootstrap.Engine.Basic
import VerifierBootstrap.Number.Binary64

/-!
The development engine. It proves nothing: every object is a digest of the things it depends
on, so receipts are consistent with each other and equal for equal inputs.
-/

namespace VerifierBootstrap

/-- A guest program and the power of two that bounds the cycles of a segment. -/
structure DevMode where
  program : Bytes
  po2 : Nat
  po2_lt : po2 < 0x100000000

namespace DevMode

/-- The guest program if none is given. -/
def defaultProgram : Bytes :=
  Bytes.ofLabel "multi_test"

/-- The power of two if none is given. -/
def defaultPo2 : Nat := 20

/-- The cycles that every run takes besides the requested ones. -/
def baseCycles : Nat := 0x4000

/-- The number of words of an identity seal. -/
def identityWords : Nat := 64

/-- An engine for a program. A power of zero stands for the default, and the power has to fit a
field of four bytes.
-/
def ofProgram (program : Bytes) (po2 : Option Int) : Except Failure DevMode :=
  let chosen := po2.getD 0
  let power := if chosen = 0 then (defaultPo2 : Int) else chosen
  if _fits : 0 ≤ power ∧ power < 0x100000000 then
    .ok ⟨program, power.toNat, by omega⟩
  else .error .fieldRange

/-- The default engine. -/
def standard : DevMode :=
  ⟨defaultProgram, defaultPo2, by decide⟩

/-- A digest of a label and parts. -/
def commit (label : String) (parts : List Bytes) : Digest :=
  Digest.ofParts (Bytes.ofLabel label :: parts)

/-- The digest of the guest program. -/
def imageId (engine : DevMode) : Digest :=
  commit "image" [engine.program]

/-- The digest of the segment size. -/
def controlRoot (engine : DevMode) : Digest :=
  commit "allowed_ids_root" [Words.encode 4 engine.po2]

/-- The most cycles of a segment. Every execution has fewer than `2 ^ 65` cycles, so a larger
power bounds nothing more.
-/
def segmentSize (engine : DevMode) : Nat :=
  Nat.pow 2 (min engine.po2 65)

/-- The number of segments of an execution. The quotient of cycles and segment size is a
floating-point number of fifty-three significant bits, and is then rounded up.
-/
def segmentCount (engine : DevMode) (cycles : Nat) : Nat :=
  max 1 (Rounding.ceilDiv (Rounding.toSignificant 53 cycles) engine.segmentSize)

/-- The cycles of a segment: as many as fit, of those that earlier segments left. -/
def segmentCycles (engine : DevMode) (cycles index : Nat) : Nat :=
  min (cycles - index * engine.segmentSize) engine.segmentSize

/-- A segment by its number and its cycles, which are hashed from fields of four bytes. -/
def segmentOf (engine : DevMode) (image : Digest) (input : Bytes) (index taken : Nat)
    : Option Bytes → Option Bytes → Except Failure Segment
  | some place, some length =>
      .ok ⟨index, engine.po2, taken, commit "segment" [image.bytes, input, place, length]⟩
  | _, _ => .error .fieldRange

/-- A segment of an execution of an image. -/
def segment (engine : DevMode) (image : Digest) (input : Bytes) (cycles index : Nat)
    : Except Failure Segment :=
  let taken := engine.segmentCycles cycles index
  engine.segmentOf image input index taken (Words.field? 4 (index : Int))
    (Words.field? 4 (taken : Int))

/-- So many segments of an execution, from `index` on. The image is handed on, so that its digest
is made once for all of them.
-/
def segmentsFrom (engine : DevMode) (image : Digest) (input : Bytes) (cycles index : Nat)
    : Nat → Except Failure (List Segment)
  | 0 => .ok []
  | count + 1 => do
      let first ← engine.segment image input cycles index
      let rest ← segmentsFrom engine image input cycles (index + 1) count
      return first :: rest

/-- Runs the guest. -/
def execute (engine : DevMode) (input : Bytes) : Except Failure Session := do
  let requested ← GuestInput.requestedCycles input
  let cycles := baseCycles + requested
  let count := engine.segmentCount cycles
  let segments ← engine.segmentsFrom engine.imageId input cycles 0 count
  return ⟨segments, (commit "journal" [input]).bytes, cycles⟩

/-- The program counter at the start of every segment. -/
def entryPoint : Int := 0x200000

/-- What is claimed of a segment. -/
def segmentClaim (engine : DevMode) (segment : Segment) : Claim where
  before := ⟨entryPoint, engine.imageId⟩
  after := ⟨entryPoint + 4 * segment.cycles, commit "post" [segment.traceCommitment.bytes]⟩
  exitCode := [0, 0]
  input := Digest.zero
  output := commit "output" [segment.traceCommitment.bytes]

/-- Proves a segment. -/
def proveSegment (engine : DevMode) (segment : Segment) : Except Failure SegmentReceipt := do
  let claim := engine.segmentClaim segment
  let claimDigest ← claim.digest
  let stamp := commit "segment_seal" [segment.traceCommitment.bytes, claimDigest.bytes]
  return ⟨segment.index, claim, stamp.bytes⟩

/-- Turns the proof of a segment into a succinct one. -/
def lift (engine : DevMode) (receipt : SegmentReceipt) : Except Failure SuccinctReceipt := do
  if receipt.sealBytes.length ≠ 32 then
    throw (.proof (.malformedSeal receipt.segmentIndex))
  let claimDigest ← receipt.claim.digest
  let stamp := Digest.ofContent (SuccinctReceipt.preimage engine.controlRoot claimDigest)
  return ⟨receipt.claim, stamp.bytes, engine.controlRoot⟩

/-- The block of an identity seal with a number. -/
def identityBlock (stamp : Bytes) (counter : Nat) : Bytes :=
  (commit "identity_p254" [stamp, Words.encode 4 counter]).bytes

/-- Expands a seal to the words of an identity seal, eight to a block. -/
def identitySeal (stamp : Bytes) : Bytes :=
  (List.range (identityWords / 8)).flatMap (identityBlock stamp)

/-- Carries a succinct proof over to the field of the outer proof. -/
def identity (receipt : SuccinctReceipt) : IdentityReceipt :=
  ⟨receipt.claim, identitySeal receipt.sealBytes⟩

/-- The development engine as an engine. -/
def engine (devMode : DevMode) : Engine where
  imageId := devMode.imageId
  controlRoot := devMode.controlRoot
  execute := devMode.execute
  proveSegment := devMode.proveSegment
  lift := devMode.lift
  identity receipt := .ok (identity receipt)

end DevMode

end VerifierBootstrap
