import VerifierBootstrap.Failure
import VerifierBootstrap.Proofs.Digest.Spelling
import VerifierBootstrap.Proofs.Text.Trimming

/-!
The texts that are read as digests. When the blanks of Unicode at both ends and then one mark are
taken away, thirty-two pairs of digits are left, with blanks of ASCII around the pairs. All other
texts are refused.
-/

namespace VerifierBootstrap.Digest

/-- A text between blanks writes bytes with digits, behind one mark or none. -/
def Writes (input digits : Text) (bytes : Bytes) : Prop :=
  ∃ core, Text.IsCore core input ∧ Hex.Writes core digits bytes

variable {input digits : Text} {digest : Digest}

/-- Only two faults of a digest arise from reading one, and both are faults of a value. -/
theorem kind_of_parse_eq_error {fault : Fault} (refused : parse input = .error fault)
    : (Failure.digest fault).kind = "ValueError" := by
  unfold parse ofBytes at refused
  split at refused
  · obtain rfl := Except.error.inj refused
    rfl
  · split at refused
    · cases refused
    · obtain rfl := Except.error.inj refused
      rfl

/-- Texts that write a digest are read as it, and no others. -/
theorem parse_eq_ok_iff
    : parse input = .ok digest ↔ ∃ digits, Writes input digits digest.bytes := by
  rw [parse_eq_ok_iff_decodeSpaced, Hex.decodeSpaced_dropMark_eq_ok_iff]
  constructor
  · rintro ⟨digits, written⟩
    exact ⟨digits, _, Text.isCore_trim input, written⟩
  · rintro ⟨digits, core, isCore, written⟩
    exact ⟨digits, isCore.eq_trim ▸ written⟩

theorem Writes.encode {bytes : Bytes} (written : Writes input digits bytes)
    : Hex.encode bytes = digits.map Char.toLower := by
  obtain ⟨_, _, body⟩ := written
  exact body.encode

/-- A digest has sixty-four digits in each of its written forms. -/
theorem Writes.length_digits (written : Writes input digits digest.bytes)
    : digits.length = 64 := by
  have length := congrArg List.length written.encode
  rw [Hex.length_encode, digest.length_bytes, List.length_map] at length
  exact length.symm

/-- The digits of a digest write it, behind each mark. -/
theorem writes_toHex {mark : Text} (member : mark ∈ Hex.marks) (digest : Digest)
    : Writes (mark ++ digest.toHex) digest.toHex digest.bytes := by
  have spelled := Hex.spells_encode digest.bytes
  have known : ∀ char ∈ Hex.marks.flatten ++ Hex.lowercase, Text.isBlank char = false :=
    List.all_iff_forall_prop.mp (by decide)
  refine ⟨_, Text.isCore_self fun char inside => ?_, mark, member, digest.toHex, rfl,
    Hex.paired_of_spells spelled, spelled⟩
  apply known
  rcases List.mem_append.mp inside with inside | inside
  · exact List.mem_append_left _ (List.mem_flatten.mpr ⟨mark, member, inside⟩)
  · exact List.mem_append_right _ (Hex.mem_lowercase_of_mem_encode inside)

/-- Exactly the written forms of a digest are read as it, and what is read as none is refused with
a fault of a value. Among the written forms are its own digits with and without the mark. Forms
with the same digits up to case are forms of the same digest.
-/
theorem parse_accepts_written_forms
    : (∀ input digest,
        parse input = .ok digest
        ↔ ∃ digits, digits.length = 64 ∧ Writes input digits digest.bytes)
      ∧ (∀ input,
          (∃ digest, parse input = .ok digest)
          ∨ ∃ fault,
              parse input = .error fault ∧ (Failure.digest fault).kind = "ValueError")
      ∧ (∀ digest,
          parse digest.toHex = .ok digest
          ∧ parse ("0x".toList ++ digest.toHex) = .ok digest)
      ∧ ∀ first second digits others, ∀ digest other : Digest,
          Writes first digits digest.bytes
          → Writes second others other.bytes
          → digits.map Char.toLower = others.map Char.toLower
          → parse first = .ok digest ∧ parse second = .ok digest := by
  refine ⟨?_, ?_, ?_, ?_⟩
  · intro input digest
    rw [parse_eq_ok_iff]
    exact exists_congr fun digits =>
      ⟨fun written => ⟨written.length_digits, written⟩, fun held => held.2⟩
  · intro input
    cases read : parse input with
    | ok digest => exact .inl ⟨digest, rfl⟩
    | error fault => exact .inr ⟨fault, rfl, kind_of_parse_eq_error read⟩
  · intro digest
    have unmarked : [] ∈ Hex.marks := by decide
    exact ⟨parse_eq_ok_iff.mpr ⟨_, writes_toHex unmarked digest⟩,
      parse_eq_ok_iff.mpr ⟨_, writes_toHex (by decide) digest⟩⟩
  · intro first second digits others digest other written again same
    have readFirst := parse_eq_ok_iff.mpr ⟨_, written⟩
    have readSecond := parse_eq_ok_iff.mpr ⟨_, again⟩
    obtain rfl : digest = other := by
      apply eq_of_bytes
      apply Hex.encode_injective
      rw [written.encode, again.encode, same]
    exact ⟨readFirst, readSecond⟩

/-- Twice the same digest: its digits in both cases, with a mark and with blanks of both kinds around
and between the pairs, and its digits alone.
-/
theorem parse_accepts_written_forms_spaced
    : let digest : Digest := ⟨List.replicate 32 0xAB, by decide⟩
      let spaced := "\u00A0\t0X".toList ++ (List.replicate 32 "\n aB".toList).flatten ++ ['\u2003']
      ∃ digits,
        Writes spaced digits digest.bytes
        ∧ Writes digest.toHex digest.toHex digest.bytes
        ∧ digits.map Char.toLower = digest.toHex.map Char.toLower
        ∧ parse spaced = .ok digest
        ∧ parse digest.toHex = .ok digest := by
  intro digest spaced
  have read : parse spaced = .ok digest := by decide +kernel
  obtain ⟨accepted, _, _, same⟩ := parse_accepts_written_forms
  obtain ⟨digits, _, written⟩ := (accepted spaced digest).mp read
  have again : Writes digest.toHex digest.toHex digest.bytes :=
    writes_toHex (show [] ∈ Hex.marks by decide) digest
  have lower : digits.map Char.toLower = digest.toHex.map Char.toLower := by
    rw [← written.encode, again.encode]
  exact ⟨digits, written, again, lower, same _ _ _ _ _ _ written again lower⟩

end VerifierBootstrap.Digest
