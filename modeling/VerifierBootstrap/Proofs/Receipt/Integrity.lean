import VerifierBootstrap.Receipt.Basic

/-!
What the integrity check ties down. A claim whose fields can be packed has one genuine seal
under a control id. The check compares no more of a seal than the genuine one is long: of the
seals up to that length it accepts the genuine one alone, and of the longer ones all that begin
with it.
-/

namespace VerifierBootstrap

/-- A number that a field of four bytes can hold. -/
def Words.IsWord (value : Int) : Prop :=
  0 ≤ value ∧ value < 0x100000000

theorem Words.field?_of_isWord {value : Int} (word : IsWord value)
    : field? 4 value = some (encode 4 value.toNat) :=
  if_pos word

/-- A claim whose numbers are words, with two of them for its exit condition. -/
structure Claim.Packs (claim : Claim) : Prop where
  before : Words.IsWord claim.before.pc
  after : Words.IsWord claim.after.pc
  exit
    : ∃ system user,
        claim.exitCode = [system, user] ∧ Words.IsWord system ∧ Words.IsWord user

theorem SystemState.exists_digest {state : SystemState} (word : Words.IsWord state.pc)
    : ∃ digest, state.digest = .ok digest := by
  rw [digest, preimage, Words.field?_of_isWord word]
  exact ⟨_, rfl⟩

theorem Claim.Packs.exists_digest {claim : Claim} (packs : claim.Packs)
    : ∃ digest, claim.digest = .ok digest := by
  obtain ⟨before, digestedBefore⟩ := SystemState.exists_digest packs.before
  obtain ⟨after, digestedAfter⟩ := SystemState.exists_digest packs.after
  obtain ⟨system, user, pair, systemWord, userWord⟩ := packs.exit
  have exit
      : Claim.exitFields claim.exitCode
        = .ok (Words.encode 4 system.toNat ++ Words.encode 4 user.toNat) := by
    rw [pair, exitFields, Words.field?_of_isWord systemWord, Words.field?_of_isWord userWord]
  rw [digest, preimage, digestedBefore, digestedAfter, exit]
  exact ⟨_, rfl⟩

namespace SuccinctReceipt

/-- The check is a comparison with as much of the seal as the genuine one is long. -/
theorem verifyIntegrity_eq {receipt : SuccinctReceipt} {claimDigest : Digest}
    (digested : receipt.claim.digest = .ok claimDigest)
    : receipt.verifyIntegrity
      = if Sha256.hash (preimage receipt.controlId claimDigest) <+: receipt.sealBytes then .ok ()
        else .error (.proof .foreignSeal) := by
  have expected
      : receipt.expectedSeal = .ok (Sha256.hash (preimage receipt.controlId claimDigest)) := by
    rw [expectedSeal, digested]
    rfl
  rw [verifyIntegrity, expected]
  simp only [bind, Except.bind]
  by_cases begins : Sha256.hash (preimage receipt.controlId claimDigest) <+: receipt.sealBytes
  · rw [if_pos begins, if_neg fun differs => differs (List.prefix_iff_eq_take.mp begins).symm]
    rfl
  · rw [if_neg begins, if_pos fun same => begins (List.prefix_iff_eq_take.mpr same.symm)]
    rfl

/-- A seal is accepted if it is the genuine one, or the genuine one with more bytes behind it,
and any other is refused as foreign. So a seal no longer than a digest is accepted exactly if it
is the genuine one. Witness: the comparison stops at the length of a digest.
-/
theorem verifyIntegrity_eq_ok_iff {receipt : SuccinctReceipt} (packs : receipt.claim.Packs)
    : ∃ claimDigest genuine,
        receipt.claim.digest = .ok claimDigest
        ∧ genuine
          = Sha256.hash (Bytes.ofLabel "lift" ++ receipt.controlId.bytes ++ claimDigest.bytes)
        ∧ genuine.length = 32
        ∧ (receipt.verifyIntegrity = .ok ()
            ↔ receipt.sealBytes = genuine
              ∨ ∃ extra, extra ≠ [] ∧ receipt.sealBytes = genuine ++ extra)
        ∧ (receipt.verifyIntegrity ≠ .ok ()
            → receipt.verifyIntegrity = .error (.proof .foreignSeal))
        ∧ (receipt.sealBytes.length ≤ 32
            → (receipt.verifyIntegrity = .ok () ↔ receipt.sealBytes = genuine)) := by
  obtain ⟨claimDigest, digested⟩ := packs.exists_digest
  have check := verifyIntegrity_eq digested
  rw [preimage] at check
  have size := Sha256.length_hash
    (Bytes.ofLabel "lift" ++ receipt.controlId.bytes ++ claimDigest.bytes)
  generalize made
    : Sha256.hash (Bytes.ofLabel "lift" ++ receipt.controlId.bytes ++ claimDigest.bytes) = genuine
    at check size
  have accepted : receipt.verifyIntegrity = .ok () ↔ genuine <+: receipt.sealBytes := by
    rw [check]
    split <;> simp [*]
  refine ⟨claimDigest, genuine, digested, made.symm, size, ?_, ?_, ?_⟩
  · rw [accepted]
    constructor
    · rintro ⟨extra, whole⟩
      by_cases none : extra = []
      · exact Or.inl (by rw [← whole, none, List.append_nil])
      · exact Or.inr ⟨extra, none, whole.symm⟩
    · rintro (same | ⟨extra, _, whole⟩)
      · exact ⟨[], by rw [same, List.append_nil]⟩
      · exact ⟨extra, whole.symm⟩
  · intro refused
    rw [check, if_neg (mt accepted.mpr refused)]
  · intro short
    rw [accepted]
    constructor
    · intro begins
      exact (begins.eq_of_length_le (by omega)).symm
    · rintro rfl
      exact List.prefix_rfl

/-- The genuine seal of a claim is accepted, and so is the same seal with a byte behind it; an
empty seal is refused.
-/
theorem verifyIntegrity_eq_ok_iff_extended
    : let claim : Claim := ⟨⟨0x200000, .zero⟩, ⟨0x200004, .zero⟩, [0, 0], .zero, .zero⟩
      ∃ genuine : Bytes,
        genuine.length = 32
        ∧ verifyIntegrity ⟨claim, genuine, .zero⟩ = .ok ()
        ∧ verifyIntegrity ⟨claim, genuine ++ [0], .zero⟩ = .ok ()
        ∧ verifyIntegrity ⟨claim, [], .zero⟩ = .error (.proof .foreignSeal) := by
  intro claim
  have packs : claim.Packs :=
    ⟨⟨by decide, by decide⟩, ⟨by decide, by decide⟩,
      0, 0, rfl, ⟨by decide, by decide⟩, ⟨by decide, by decide⟩⟩
  have check (sealBytes : Bytes) :=
    verifyIntegrity_eq_ok_iff (show (⟨claim, sealBytes, .zero⟩ : SuccinctReceipt).claim.Packs
      from packs)
  obtain ⟨claimDigest, genuine, digested, made, size, _⟩ := check []
  have same (sealBytes : Bytes)
      : (verifyIntegrity ⟨claim, sealBytes, .zero⟩ = .ok ()
            ↔ sealBytes = genuine ∨ ∃ extra, extra ≠ [] ∧ sealBytes = genuine ++ extra)
        ∧ (verifyIntegrity ⟨claim, sealBytes, .zero⟩ ≠ .ok ()
            → verifyIntegrity ⟨claim, sealBytes, .zero⟩ = .error (.proof .foreignSeal)) := by
    obtain ⟨again, other, digestedAgain, madeAgain, _, accepted, refused, _⟩ := check sealBytes
    obtain rfl := Except.ok.inj (digested.symm.trans digestedAgain)
    obtain rfl := made.trans madeAgain.symm
    exact ⟨accepted, refused⟩
  refine ⟨genuine, size, (same _).1.mpr (Or.inl rfl),
    (same _).1.mpr (Or.inr ⟨[0], by simp, rfl⟩), (same []).2 fun accepted => ?_⟩
  rcases (same []).1.mp accepted with rfl | ⟨extra, _, whole⟩
  · exact absurd size (by simp)
  · obtain ⟨rfl, _⟩ := List.append_eq_nil_iff.mp whole.symm
    exact absurd size (by simp)

end SuccinctReceipt

end VerifierBootstrap
