import VerifierBootstrap.Engine.DevMode
import VerifierBootstrap.Proofs.Except

/-! The development engine gives receipts that pass the checks a run makes of them. -/

namespace VerifierBootstrap

/-- A receipt whose seal is the expected one is accepted. -/
theorem SuccinctReceipt.verifyIntegrity_of_expected {receipt : SuccinctReceipt}
    (expected : receipt.expectedSeal = .ok receipt.sealBytes)
    : receipt.verifyIntegrity = .ok () := by
  rw [verifyIntegrity, expected]
  simp only [bind, Except.bind, List.take_length, ne_eq, not_true, if_false]
  rfl

/-- What the development engine lifts is accepted. Witness: the seal is made of the same claim and
control id that the check makes it of.
-/
theorem DevMode.verifyIntegrity_lift {devMode : DevMode} {receipt : SegmentReceipt}
    {lifted : SuccinctReceipt} (run : devMode.lift receipt = .ok lifted)
    : lifted.verifyIntegrity = .ok () := by
  apply SuccinctReceipt.verifyIntegrity_of_expected
  rw [lift] at run
  by_cases malformed : receipt.sealBytes.length ≠ 32
  · rw [if_pos malformed] at run
    exact nomatch run
  · rw [if_neg malformed] at run
    cases digested : receipt.claim.digest with
    | error failure =>
        rw [digested] at run
        exact nomatch run
    | ok claimDigest =>
        rw [digested] at run
        obtain rfl := Except.ok.inj run
        rw [SuccinctReceipt.expectedSeal, digested]
        rfl

/-- A lifted receipt claims what the receipt of the segment does. -/
theorem DevMode.claim_lift {devMode : DevMode} {receipt : SegmentReceipt}
    {lifted : SuccinctReceipt} (run : devMode.lift receipt = .ok lifted)
    : lifted.claim = receipt.claim := by
  rw [lift] at run
  split at run
  · exact nomatch run
  · obtain ⟨claimDigest, _, run⟩ := ok_of_bind run
    obtain rfl := Except.ok.inj run
    rfl

/-- What was proved can be lifted. Witness: the seal is a digest, and the claim has been hashed
once already.
-/
theorem DevMode.exists_lift {devMode : DevMode} {segment : Segment} {proved : SegmentReceipt}
    (run : devMode.proveSegment segment = .ok proved)
    : ∃ lifted, devMode.lift proved = .ok lifted := by
  obtain ⟨claimDigest, digested, run⟩ := ok_of_bind run
  obtain rfl := Except.ok.inj run
  rw [lift, if_neg (Decidable.not_not.mpr (Digest.length_bytes _))]
  exact ⟨_, bind_of_ok digested _⟩

/-- An identity seal is eight digests long. -/
theorem DevMode.length_identitySeal (stamp : Bytes) : (identitySeal stamp).length = 256 := by
  have sized (counter : Nat) : (identityBlock stamp counter).length = 32 := Digest.length_bytes _
  rw [identitySeal, List.length_flatMap]
  simp only [sized]
  rfl

end VerifierBootstrap
