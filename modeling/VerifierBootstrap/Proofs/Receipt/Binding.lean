import VerifierBootstrap.Proofs.Bytes.Words
import VerifierBootstrap.Proofs.Digest.Spelling
import VerifierBootstrap.Proofs.Except
import VerifierBootstrap.Proofs.Receipt.Integrity

/-!
What a seal binds. Whatever a seal depends on is hashed in a field of its own width, so a content
that is hashed tells every field of it. Two receipts that are accepted, with seals that begin
alike, are therefore the same but for what is behind, or two of the contents that were hashed for
them have one hash.
-/

namespace VerifierBootstrap

/-- Contents that differ and have the same hash. -/
def Sha256.Collide (first second : Bytes) : Prop :=
  first ≠ second ∧ hash first = hash second

/-- Contents with the same hash are the same, or they collide. -/
theorem Sha256.eq_or_collide {first second : Bytes} (same : hash first = hash second)
    : first = second ∨ Collide first second := by
  by_cases equal : first = second
  · exact .inl equal
  · exact .inr ⟨equal, same⟩

/-- Digests at the front of bytes are told from them. -/
theorem Digest.append_inj {first second : Digest} {rest other : Bytes}
    (same : first.bytes ++ rest = second.bytes ++ other)
    : first = second ∧ rest = other := by
  have size := first.length_bytes.trans second.length_bytes.symm
  obtain ⟨bytes, behind⟩ := List.append_inj same size
  exact ⟨eq_of_bytes bytes, behind⟩

-----------------------------------------------------------------------------------------
-- What a content tells
-----------------------------------------------------------------------------------------

/-- A state has the digest of the content that it is hashed from. -/
theorem SystemState.digest_eq_ok {state : SystemState} {digest : Digest}
    (digested : state.digest = .ok digest)
    : ∃ content, state.preimage = .ok content ∧ Digest.ofContent content = digest :=
  ok_of_map digested

/-- The content that a state is hashed from tells the state. -/
theorem SystemState.preimage_inj {first second : SystemState} {content : Bytes}
    (hashed : first.preimage = .ok content) (otherHashed : second.preimage = .ok content)
    : first = second := by
  have fields {state : SystemState} (hashed : state.preimage = .ok content)
      : ∃ counter,
          Words.field? 4 state.pc = some counter
          ∧ content = Bytes.ofLabel "risc0.SystemState" ++ (counter ++ state.merkleRoot.bytes) := by
    rw [preimage] at hashed
    split at hashed
    · rename_i counter held
      exact ⟨counter, held, by rw [← Except.ok.inj hashed, List.append_assoc]⟩
    · cases hashed
  obtain ⟨counter, held, rfl⟩ := fields hashed
  obtain ⟨other, otherHeld, same⟩ := fields otherHashed
  have sizes := (Words.length_field? held).trans (Words.length_field? otherHeld).symm
  obtain ⟨rfl, roots⟩ := List.append_inj (List.append_cancel_left same) sizes
  cases first
  cases second
  exact congr (congrArg _ (Words.field?_inj held otherHeld)) (Digest.eq_of_bytes roots)

namespace Claim

theorem exitFields_eq_ok {exitCode : List Int} {fields : Bytes}
    (packed : exitFields exitCode = .ok fields)
    : ∃ system user first second,
        exitCode = [system, user]
        ∧ Words.field? 4 system = some first
        ∧ Words.field? 4 user = some second
        ∧ fields = first ++ second := by
  unfold exitFields at packed
  split at packed
  · rename_i system user
    split at packed
    · rename_i first second held otherHeld
      exact ⟨system, user, first, second, rfl, held, otherHeld, (Except.ok.inj packed).symm⟩
    · exact nomatch packed
  · exact nomatch packed

/-- The fields of an exit condition tell it. -/
theorem exitFields_inj {first second : List Int} {fields : Bytes}
    (packed : exitFields first = .ok fields) (otherPacked : exitFields second = .ok fields)
    : first = second := by
  obtain ⟨system, user, left, right, rfl, held, userHeld, rfl⟩ := exitFields_eq_ok packed
  obtain ⟨otherSystem, otherUser, otherLeft, otherRight, rfl, otherHeld, otherUserHeld, same⟩ :=
    exitFields_eq_ok otherPacked
  have sizes := (Words.length_field? held).trans (Words.length_field? otherHeld).symm
  obtain ⟨rfl, rfl⟩ := List.append_inj same sizes
  rw [Words.field?_inj held otherHeld, Words.field?_inj userHeld otherUserHeld]

/-- The content that a claim is hashed from, by its fields. -/
theorem preimage_eq_ok {claim : Claim} {content : Bytes} (hashed : claim.preimage = .ok content)
    : ∃ before after exit,
        claim.before.digest = .ok before
        ∧ claim.after.digest = .ok after
        ∧ exitFields claim.exitCode = .ok exit
        ∧ content
          = Bytes.ofLabel "risc0.ReceiptClaim"
            ++ (claim.input.bytes
              ++ (before.bytes ++ (after.bytes ++ (claim.output.bytes ++ exit)))) := by
  obtain ⟨before, beforeDigested, hashed⟩ := ok_of_bind hashed
  obtain ⟨after, afterDigested, hashed⟩ := ok_of_bind hashed
  obtain ⟨exit, packed, hashed⟩ := ok_of_bind hashed
  refine ⟨before, after, exit, beforeDigested, afterDigested, packed, ?_⟩
  rw [← Except.ok.inj hashed]
  simp only [List.append_assoc]

/-- The content that a claim is hashed from tells the fields of the claim, the states by their
digests.
-/
theorem preimage_inj {first second : Claim} {content : Bytes}
    (hashed : first.preimage = .ok content) (otherHashed : second.preimage = .ok content)
    : first.before.digest = second.before.digest
      ∧ first.after.digest = second.after.digest
      ∧ first.exitCode = second.exitCode
      ∧ first.input = second.input
      ∧ first.output = second.output := by
  obtain ⟨before, after, exit, beforeDigested, afterDigested, packed, rfl⟩ := preimage_eq_ok hashed
  obtain ⟨otherBefore, otherAfter, otherExit, otherBeforeDigested, otherAfterDigested, otherPacked,
    same⟩ := preimage_eq_ok otherHashed
  obtain ⟨input, same⟩ := Digest.append_inj (List.append_cancel_left same)
  obtain ⟨befores, same⟩ := Digest.append_inj same
  obtain ⟨afters, same⟩ := Digest.append_inj same
  obtain ⟨output, exits⟩ := Digest.append_inj same
  refine ⟨?_, ?_, ?_, input, output⟩
  · rw [beforeDigested, otherBeforeDigested, befores]
  · rw [afterDigested, otherAfterDigested, afters]
  · exact exitFields_inj packed (exits ▸ otherPacked)

end Claim

-----------------------------------------------------------------------------------------
-- Receipts whose seals begin alike
-----------------------------------------------------------------------------------------

namespace SuccinctReceipt

/-- The contents that are hashed for the seal of a receipt: its two states, its claim with the
digests of the states, and what it is lifted with, the control id and the digest of the claim.
-/
structure Hashes (receipt : SuccinctReceipt) (before after claim lift : Bytes) : Prop where
  beforeHashed : receipt.claim.before.preimage = .ok before
  afterHashed : receipt.claim.after.preimage = .ok after
  claimHashed : receipt.claim.preimage = .ok claim
  lifted : preimage receipt.controlId (Digest.ofContent claim) = lift

/-- A receipt that is accepted has a seal that begins with the hash of what it is lifted with. -/
theorem exists_hashes {receipt : SuccinctReceipt} (accepted : receipt.verifyIntegrity = .ok ())
    : ∃ before after claim lift,
        receipt.Hashes before after claim lift
        ∧ Sha256.hash lift = receipt.sealBytes.take 32 := by
  obtain ⟨_, expected, _⟩ := ok_of_bind accepted
  obtain ⟨claimDigest, digested, _⟩ := ok_of_bind expected
  obtain ⟨claim, claimHashed, rfl⟩ := ok_of_map digested
  obtain ⟨_, _, _, beforeDigested, afterDigested, _⟩ := Claim.preimage_eq_ok claimHashed
  obtain ⟨before, beforeHashed, _⟩ := SystemState.digest_eq_ok beforeDigested
  obtain ⟨after, afterHashed, _⟩ := SystemState.digest_eq_ok afterDigested
  refine ⟨before, after, claim, _, ⟨beforeHashed, afterHashed, claimHashed, rfl⟩, ?_⟩
  rw [verifyIntegrity_eq digested] at accepted
  split at accepted
  · rename_i begins
    rw [List.prefix_iff_eq_take, Sha256.length_hash] at begins
    exact begins
  · exact nomatch accepted

/-- What a receipt is lifted with tells its control id and the digest of its claim. -/
theorem preimage_inj {control otherControl claim otherClaim : Digest}
    (same : preimage control claim = preimage otherControl otherClaim)
    : control = otherControl ∧ claim = otherClaim := by
  simp only [preimage, List.append_assoc] at same
  obtain ⟨rfl, claims⟩ := Digest.append_inj (List.append_cancel_left same)
  exact ⟨rfl, Digest.eq_of_bytes claims⟩

end SuccinctReceipt

/-- States with the same digest are the same, or what they are hashed from collides. -/
theorem SystemState.eq_or_collide {first second : SystemState} {content other : Bytes}
    (hashed : first.preimage = .ok content) (otherHashed : second.preimage = .ok other)
    (same : first.digest = second.digest)
    : first = second ∨ Sha256.Collide content other := by
  rw [digest, digest, hashed, otherHashed] at same
  have hashes := congrArg Digest.bytes (Except.ok.inj same)
  refine (Sha256.eq_or_collide hashes).imp_left ?_
  rintro rfl
  exact preimage_inj hashed otherHashed

namespace SuccinctReceipt

/-- Two receipts that are accepted, and whose seals begin with the same digest, have the same
control id and the same claim, or two contents that were hashed for them collide. Witness: from the
seals inwards, contents with one hash are the same and tell their fields, or are the collision.
-/
theorem same_or_collide {first second : SuccinctReceipt}
    (accepted : first.verifyIntegrity = .ok ()) (otherAccepted : second.verifyIntegrity = .ok ())
    (alike : first.sealBytes.take 32 = second.sealBytes.take 32)
    : ∃ before after claim lift otherBefore otherAfter otherClaim otherLift,
        first.Hashes before after claim lift
        ∧ second.Hashes otherBefore otherAfter otherClaim otherLift
        ∧ ((first.controlId = second.controlId ∧ first.claim = second.claim)
          ∨ Sha256.Collide lift otherLift
          ∨ Sha256.Collide claim otherClaim
          ∨ Sha256.Collide before otherBefore
          ∨ Sha256.Collide after otherAfter) := by
  obtain ⟨before, after, claim, lift, hashes, stamp⟩ := exists_hashes accepted
  obtain ⟨otherBefore, otherAfter, otherClaim, otherLift, otherHashes, otherStamp⟩ :=
    exists_hashes otherAccepted
  refine ⟨before, after, claim, lift, otherBefore, otherAfter, otherClaim, otherLift, hashes,
    otherHashes, ?_⟩
  have lifts : Sha256.hash lift = Sha256.hash otherLift := by rw [stamp, otherStamp, alike]
  rcases Sha256.eq_or_collide lifts with sameLift | collide
  · rw [← hashes.lifted, ← otherHashes.lifted] at sameLift
    obtain ⟨control, digests⟩ := preimage_inj sameLift
    rcases Sha256.eq_or_collide (congrArg Digest.bytes digests) with rfl | collide
    · obtain ⟨befores, afters, exit, input, output⟩ :=
        Claim.preimage_inj hashes.claimHashed otherHashes.claimHashed
      rcases SystemState.eq_or_collide hashes.beforeHashed otherHashes.beforeHashed befores with
        sameBefore | collide
      · rcases SystemState.eq_or_collide hashes.afterHashed otherHashes.afterHashed afters with
          sameAfter | collide
        · refine .inl ⟨control, ?_⟩
          cases firstClaim : first.claim
          cases secondClaim : second.claim
          rw [firstClaim, secondClaim] at sameBefore sameAfter exit input output
          exact (Claim.mk.injEq ..).mpr ⟨sameBefore, sameAfter, exit, input, output⟩
        · exact .inr (.inr (.inr (.inr collide)))
      · exact .inr (.inr (.inr (.inl collide)))
    · exact .inr (.inr (.inl collide))
  · exact .inr (.inl collide)

/-- The genuine seal of a claim, and the same seal with a byte behind it: the receipts differ, and
the claim and the control id are the same.
-/
theorem same_or_collide_extended
    : let claim : Claim := ⟨⟨0x200000, .zero⟩, ⟨0x200004, .zero⟩, [0, 0], .zero, .zero⟩
      ∃ genuine : Bytes,
        let first : SuccinctReceipt := ⟨claim, genuine, .zero⟩
        let second : SuccinctReceipt := ⟨claim, genuine ++ [0], .zero⟩
        first ≠ second
        ∧ first.verifyIntegrity = .ok ()
        ∧ second.verifyIntegrity = .ok ()
        ∧ first.sealBytes.take 32 = second.sealBytes.take 32
        ∧ ∃ before after claimed lift otherBefore otherAfter otherClaimed otherLift,
            first.Hashes before after claimed lift
            ∧ second.Hashes otherBefore otherAfter otherClaimed otherLift
            ∧ ((first.controlId = second.controlId ∧ first.claim = second.claim)
              ∨ Sha256.Collide lift otherLift
              ∨ Sha256.Collide claimed otherClaimed
              ∨ Sha256.Collide before otherBefore
              ∨ Sha256.Collide after otherAfter) := by
  intro claim
  obtain ⟨claimDigest, digested⟩ : ∃ claimDigest, claim.digest = .ok claimDigest := ⟨_, rfl⟩
  let genuine := Sha256.hash (preimage .zero claimDigest)
  have size : genuine.length = 32 := Sha256.length_hash _
  have accepted (extra : Bytes) : verifyIntegrity ⟨claim, genuine ++ extra, .zero⟩ = .ok () := by
    rw [verifyIntegrity_eq digested]
    exact if_pos (List.prefix_append genuine extra)
  have first : verifyIntegrity ⟨claim, genuine, .zero⟩ = .ok () := by
    simpa using accepted []
  have alike : genuine.take 32 = (genuine ++ [0]).take 32 := by
    rw [List.take_append_of_le_length (by omega)]
  refine ⟨genuine, ?_, first, accepted [0], alike, same_or_collide first (accepted [0]) alike⟩
  intro same
  have longer := congrArg (List.length ∘ sealBytes) same
  simp at longer

end SuccinctReceipt

end VerifierBootstrap
