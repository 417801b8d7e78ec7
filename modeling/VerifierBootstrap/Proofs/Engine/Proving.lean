import VerifierBootstrap.Proofs.Bytes.Words
import VerifierBootstrap.Proofs.Digest.Reads
import VerifierBootstrap.Proofs.Engine.DevMode
import VerifierBootstrap.Proofs.Engine.Segments
import VerifierBootstrap.Proofs.Receipt.Integrity
import VerifierBootstrap.Witness.Exchange

/-!
Which segments of an execution can be proved, and what their receipts go through. A segment is
hashed from its cycles, and its claim from the program counter behind them. That is four times as
large, and its field is as wide: so an execution can have segments that no proof is made of. Where
the program counter fits, nothing on the way to the document of the identity seal fails.
-/

namespace VerifierBootstrap

/-- A state whose program counter is no word has no digest. -/
theorem SystemState.digest_of_not_isWord {state : SystemState} (beyond : ¬ Words.IsWord state.pc)
    : state.digest = .error .fieldRange := by
  have unheld : Words.field? 4 state.pc = none := if_neg beyond
  rw [digest, preimage, unheld]
  rfl

/-- Whole words are cut from four bytes each. -/
theorem Words.length_split32 {bytes : Bytes} (whole : bytes.length % 4 = 0)
    : 4 * (split32 bytes).length = bytes.length := by
  have together := congrArg List.length (flatMap_encode_split32 whole)
  rw [List.length_flatMap] at together
  simp only [length_encode, List.map_const', List.sum_replicate_nat] at together
  omega

/-- Of blocks of one size, one behind the other, each is found where the sizes of those before it
add up to. By induction on its number.
-/
theorem Bytes.take_drop_blocks {size count index : Nat} {block : Nat → Bytes}
    (sized : ∀ number, (block number).length = size) (inside : index < count)
    : (((List.range count).flatMap block).drop (size * index)).take size = block index := by
  induction index generalizing count block with
  | zero =>
      obtain ⟨more, rfl⟩ := Nat.exists_eq_add_of_le' inside
      rw [List.range_succ_eq_map, List.flatMap_cons, Nat.mul_zero, List.drop_zero,
        List.take_left' (sized 0)]
  | succ index ih =>
      obtain ⟨more, rfl⟩ := Nat.exists_eq_add_of_le' (Nat.one_le_of_lt inside)
      have behind := ih (fun number => sized (number + 1)) (Nat.lt_of_succ_lt_succ inside)
      have past : size * (index + 1) = (block 0).length + size * index := by
        rw [sized, Nat.mul_succ, Nat.add_comm]
      rw [List.range_succ_eq_map, List.flatMap_cons, List.flatMap_map, past, ← List.drop_drop,
        List.drop_left, behind]

namespace DevMode

variable {devMode : DevMode} {input : Bytes} {session : Session} {segment : Segment}

-----------------------------------------------------------------------------------------
-- Proving one segment
-----------------------------------------------------------------------------------------

theorem isWord_entryPoint : Words.IsWord entryPoint :=
  ⟨by decide, by decide⟩

theorem packs_segmentClaim (devMode : DevMode)
    (word : Words.IsWord (entryPoint + 4 * segment.cycles))
    : (devMode.segmentClaim segment).Packs :=
  ⟨isWord_entryPoint, word, 0, 0, rfl, ⟨by decide, by decide⟩, ⟨by decide, by decide⟩⟩

/-- A segment can be proved if the program counter behind it is a word. -/
theorem exists_proveSegment (devMode : DevMode)
    (word : Words.IsWord (entryPoint + 4 * segment.cycles))
    : ∃ claimDigest,
        (devMode.segmentClaim segment).digest = .ok claimDigest
        ∧ devMode.proveSegment segment
          = .ok
            ⟨segment.index, devMode.segmentClaim segment,
              (commit "segment_seal" [segment.traceCommitment.bytes, claimDigest.bytes]).bytes⟩
    := by
  obtain ⟨claimDigest, digested⟩ := (packs_segmentClaim devMode word).exists_digest
  exact ⟨claimDigest, digested, bind_of_ok digested _⟩

/-- Else its claim has no digest. -/
theorem proveSegment_of_not_isWord (beyond : ¬ Words.IsWord (entryPoint + 4 * segment.cycles))
    : devMode.proveSegment segment = .error .fieldRange := by
  obtain ⟨before, digestedBefore⟩
      : ∃ digest, (devMode.segmentClaim segment).before.digest = .ok digest :=
    SystemState.exists_digest isWord_entryPoint
  have undigested : (devMode.segmentClaim segment).digest = .error .fieldRange := by
    rw [Claim.digest, Claim.preimage, bind_of_ok digestedBefore,
      SystemState.digest_of_not_isWord beyond]
    rfl
  rw [proveSegment, undigested]
  rfl

-----------------------------------------------------------------------------------------
-- Proving the segments of an execution
-----------------------------------------------------------------------------------------

theorem exists_proveSegment_iff
    : (∃ proved, devMode.proveSegment segment = .ok proved)
      ↔ Words.IsWord (entryPoint + 4 * segment.cycles) := by
  constructor
  · rintro ⟨proved, run⟩
    by_contra beyond
    exact nomatch (proveSegment_of_not_isWord beyond).symm.trans run
  · intro word
    obtain ⟨_, _, run⟩ := exists_proveSegment devMode word
    exact ⟨_, run⟩

theorem isWord_behind_iff (counted : 0 ≤ segment.cycles)
    : Words.IsWord (entryPoint + 4 * segment.cycles)
      ↔ 0x200000 + 4 * segment.cycles < 2 ^ 32 := by
  rw [Words.IsWord, entryPoint]
  omega

theorem cycles_nonneg_of_execute (run : devMode.execute input = .ok session)
    : ∀ segment ∈ session.segments, 0 ≤ segment.cycles := by
  obtain ⟨requested, _, _, rfl⟩ := execute_eq_ok_iff.mp run
  intro segment member
  obtain ⟨index, _, rfl⟩ := List.mem_map.mp member
  exact Int.natCast_nonneg _

/-- An execution that fits one segment has that segment. -/
theorem execute_of_single {requested : Nat}
    (asked : GuestInput.requestedCycles input = .ok requested)
    (single : devMode.segmentCount (baseCycles + requested) = 1)
    (fits : devMode.Fits (baseCycles + requested) 0)
    : devMode.execute input
      = .ok ⟨[devMode.segmentAt input (baseCycles + requested) 0],
          (commit "journal" [input]).bytes, baseCycles + requested⟩ := by
  refine execute_eq_ok_iff.mpr ⟨requested, asked, fun index inside => ?_, by rw [single]; rfl⟩
  rw [single] at inside
  obtain rfl := Nat.lt_one_iff.mp inside
  exact fits

/-- The program counter behind every segment fits if segments are short or the execution is.
Witness: no segment takes more cycles than the first.
-/
theorem segmentCycles_fit_iff {total : Nat}
    : (∀ index < devMode.segmentCount total,
        0x200000 + 4 * devMode.segmentCycles total index < 2 ^ 32)
      ↔ devMode.po2 ≤ 29 ∨ total < 2 ^ 30 - 2 ^ 19 := by
  constructor
  · intro fit
    by_cases short : devMode.po2 ≤ 29
    · exact .inl short
    · have large : 2 ^ 30 ≤ devMode.segmentSize := by
        rw [segmentSize, Nat.pow_eq]
        exact Nat.pow_le_pow_right (by decide) (by omega)
      have first := fit 0 (Nat.lt_of_lt_of_le Nat.one_pos (Nat.le_max_left _ _))
      rw [segmentCycles] at first
      omega
  · rintro (short | few) index _
    · have small : devMode.segmentSize ≤ 2 ^ 29 := by
        rw [segmentSize, Nat.pow_eq]
        exact Nat.pow_le_pow_right (by decide) (by omega)
      rw [segmentCycles]
      omega
    · rw [segmentCycles]
      omega

/-- A segment of an execution can be proved exactly if the program counter behind it fits its
field, and fails for that field otherwise. All of them can be exactly if a segment holds `2 ^ 29`
cycles at most or all cycles together are fewer than `2 ^ 30 - 2 ^ 19`. So with longer segments
there are executions that no proof is made of. Witness: the program counter is the entry point and
four times the cycles, while the execution has only made sure that the cycles fit a field.
-/
theorem proveSegment_of_execute (run : devMode.execute input = .ok session)
    : (∀ segment ∈ session.segments,
        ((∃ proved, devMode.proveSegment segment = .ok proved)
            ↔ 0x200000 + 4 * segment.cycles < 2 ^ 32)
          ∧ ((¬ ∃ proved, devMode.proveSegment segment = .ok proved)
              → devMode.proveSegment segment = .error .fieldRange))
      ∧ ∃ requested,
          GuestInput.requestedCycles input = .ok requested
          ∧ ((∀ segment ∈ session.segments, ∃ proved, devMode.proveSegment segment = .ok proved)
              ↔ devMode.po2 ≤ 29 ∨ 2 ^ 14 + requested < 2 ^ 30 - 2 ^ 19) := by
  have each (segment : Segment) (member : segment ∈ session.segments)
      : (∃ proved, devMode.proveSegment segment = .ok proved)
        ↔ 0x200000 + 4 * segment.cycles < 2 ^ 32 :=
    exists_proveSegment_iff.trans (isWord_behind_iff (cycles_nonneg_of_execute run segment member))
  refine ⟨fun segment member => ⟨each segment member, fun unprovable => ?_⟩, ?_⟩
  · exact proveSegment_of_not_isWord (mt exists_proveSegment_iff.mpr unprovable)
  obtain ⟨requested, asked, _, rfl⟩ := execute_eq_ok_iff.mp run
  refine ⟨requested, asked, ?_⟩
  change _ ↔ devMode.po2 ≤ 29 ∨ baseCycles + requested < _
  rw [← segmentCycles_fit_iff, forall₂_congr each, List.forall_mem_map]
  simp only [List.mem_range, segmentAt_cycles]
  norm_cast

/-- With segments of `2 ^ 30` cycles, an execution of `2 ^ 30 - 2 ^ 19` cycles comes to one segment
that no proof is made of: the program counter behind it is `2 ^ 32`.
-/
theorem proveSegment_of_execute_beyond
    : let input : Bytes := [1, 0, 0, 0, 0, 0xC0, 0xF7, 0x3F, 0, 0, 0, 0]
      GuestInput.encode 1073201152 = .ok input
      ∧ ∃ devMode session segment,
          ofProgram defaultProgram (some 30) = .ok devMode
          ∧ devMode.execute input = .ok session
          ∧ session.segments = [segment]
          ∧ devMode.proveSegment segment = .error .fieldRange := by
  intro input
  let devMode : DevMode := ⟨defaultProgram, 30, by decide⟩
  have asked : GuestInput.requestedCycles input = .ok 1073201152 := by decide +kernel
  have taken : devMode.segmentCycles (baseCycles + 1073201152) 0 = 2 ^ 30 - 2 ^ 19 := by
    decide +kernel
  have run : devMode.execute input = .ok _ :=
    execute_of_single asked (by decide +kernel) ⟨by decide, by rw [taken]; decide⟩
  refine ⟨by decide +kernel, devMode, _, _, rfl, run, rfl, ?_⟩
  have first := (proveSegment_of_execute run).1 _ (List.mem_singleton.mpr rfl)
  refine first.2 fun provable => ?_
  have fit := first.1.mp provable
  rw [segmentAt_cycles, taken] at fit
  exact absurd fit (by decide)

-----------------------------------------------------------------------------------------
-- What a proof goes through
-----------------------------------------------------------------------------------------

/-- A block of an identity seal is the digest of a label, the seal that it expands and its number.
-/
theorem identityBlock_eq (stamp : Bytes) (counter : Nat)
    : identityBlock stamp counter
      = Sha256.hash (Bytes.ofLabel "identity_p254" ++ stamp ++ Words.encode 4 counter) := by
  rw [identityBlock, commit, Digest.ofParts_eq_ofContent, Digest.ofContent]
  simp only [List.flatten_cons, List.flatten_nil, List.append_nil, List.append_assoc]

/-- An identity seal holds its eight blocks in order. -/
theorem take_drop_identitySeal {counter : Nat} (stamp : Bytes) (inside : counter < 8)
    : ((identitySeal stamp).drop (32 * counter)).take 32
      = Sha256.hash (Bytes.ofLabel "identity_p254" ++ stamp ++ Words.encode 4 counter) := by
  rw [← identityBlock_eq, identitySeal]
  exact Bytes.take_drop_blocks (fun _ => Digest.length_bytes _) inside

/-- The document of an identity seal has sixty-four words. -/
theorem document_identitySeal (stamp : Bytes)
    : Witness.document (identitySeal stamp)
        = .ok (Json.ofFields
          [("iop", .array ((Witness.wordStrings (identitySeal stamp)).map Json.ofText))])
      ∧ (Witness.wordStrings (identitySeal stamp)).length = 64 := by
  have size := length_identitySeal stamp
  have whole : (identitySeal stamp).length % 4 = 0 := by rw [size]
  have words := Words.length_split32 whole
  rw [Witness.document, if_neg (Decidable.not_not.mpr whole), Witness.wordStrings, List.length_map]
  exact ⟨rfl, by omega⟩

/-- A segment of an execution goes through every stage if the program counter behind it fits its
field. It is proved, by a receipt with its own number and claim, which has a digest, and a digest of
both its cycles and its claim for a seal; the proof is lifted to a receipt that is accepted; that is
carried over with its claim to eight blocks, each the digest of the lifted seal and the number of
the block; and the document of those has sixty-four words. Witness: each stage gives what the next one asks for, a seal of whole words or a claim that has
been hashed already.
-/
theorem exists_receipts_of_execute (run : devMode.execute input = .ok session)
    (member : segment ∈ session.segments) (fits : 0x200000 + 4 * segment.cycles < 2 ^ 32)
    : ∃ proved claimDigest lifted,
        devMode.proveSegment segment = .ok proved
        ∧ proved.segmentIndex = segment.index
        ∧ proved.claim = devMode.segmentClaim segment
        ∧ proved.sealBytes
          = (commit "segment_seal" [segment.traceCommitment.bytes, claimDigest.bytes]).bytes
        ∧ proved.sealBytes.length = 32
        ∧ proved.claim.digest = .ok claimDigest
        ∧ devMode.lift proved = .ok lifted
        ∧ lifted.verifyIntegrity = .ok ()
        ∧ lifted.claim = proved.claim
        ∧ (identity lifted).claim = lifted.claim
        ∧ (identity lifted).sealBytes.length = 256
        ∧ (∀ counter < 8,
            ((identity lifted).sealBytes.drop (32 * counter)).take 32
              = Sha256.hash
                (Bytes.ofLabel "identity_p254" ++ lifted.sealBytes ++ Words.encode 4 counter))
        ∧ Witness.document (identity lifted).sealBytes
          = .ok (Json.ofFields
            [("iop",
              .array ((Witness.wordStrings (identity lifted).sealBytes).map Json.ofText))])
        ∧ (Witness.wordStrings (identity lifted).sealBytes).length = 64 := by
  have word := (isWord_behind_iff (cycles_nonneg_of_execute run segment member)).mpr fits
  obtain ⟨claimDigest, digested, proving⟩ := exists_proveSegment devMode word
  obtain ⟨lifted, lifting⟩ := exists_lift proving
  obtain ⟨written, count⟩ := document_identitySeal lifted.sealBytes
  exact ⟨_, claimDigest, lifted, proving, rfl, rfl, rfl, Digest.length_bytes _, digested, lifting,
    verifyIntegrity_lift lifting, claim_lift lifting, rfl, length_identitySeal _,
    fun counter inside => take_drop_identitySeal _ inside, written, count⟩

/-- The default program is executed, and its one segment goes through every stage. -/
theorem exists_receipts_of_execute_standard
    : let input : Bytes := [1, 0, 0, 0, 0, 0, 0, 0, 0, 0, 0, 0]
      ∃ session segment proved lifted,
        standard.execute input = .ok session
        ∧ session.segments = [segment]
        ∧ 0x200000 + 4 * segment.cycles < 2 ^ 32
        ∧ standard.proveSegment segment = .ok proved
        ∧ proved.claim = standard.segmentClaim segment
        ∧ standard.lift proved = .ok lifted
        ∧ lifted.verifyIntegrity = .ok ()
        ∧ (Witness.wordStrings (identity lifted).sealBytes).length = 64 := by
  intro input
  have asked : GuestInput.requestedCycles input = .ok 0 := by decide +kernel
  have taken : standard.segmentCycles (baseCycles + 0) 0 = 2 ^ 14 := by decide +kernel
  have run : standard.execute input = .ok _ :=
    execute_of_single asked (by decide +kernel) ⟨by decide, by rw [taken]; decide⟩
  have short : 0x200000 + 4 * (standard.segmentAt input (baseCycles + 0) 0).cycles < 2 ^ 32 := by
    rw [segmentAt_cycles, taken]
    decide
  obtain ⟨proved, _, lifted, proving, _, claimed, _, _, _, lifting, accepted, _, _, _, _, _,
    words⟩ := exists_receipts_of_execute run (List.mem_singleton.mpr rfl) short
  exact ⟨_, _, proved, lifted, run, rfl, short, proving, claimed, lifting, accepted, words⟩

end DevMode

end VerifierBootstrap
