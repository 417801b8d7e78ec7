import VerifierBootstrap.Digest.Basic
import VerifierBootstrap.Proofs.Bytes.SpacedHex

/-!
How a digest may be written, and how it is written back. Case, the mark in front and blanks are
lost: what is left of a written digest without them, in lowercase, is the digest's own spelling.
-/

namespace VerifierBootstrap.Digest

variable {input : Text} {digest : Digest}

theorem eq_of_bytes {first second : Digest} (same : first.bytes = second.bytes)
    : first = second := by
  cases first
  cases second
  exact (mk.injEq _ _ _ _).mpr same

theorem ofBytes_eq_ok_iff {bytes : Bytes}
    : ofBytes bytes = .ok digest ↔ bytes = digest.bytes := by
  unfold ofBytes
  constructor
  · intro made
    split at made
    · obtain rfl := Except.ok.inj made
      rfl
    · exact nomatch made
  · rintro rfl
    exact dif_pos digest.length_bytes

/-- A digest is read if its bytes are. -/
theorem parse_eq_ok_iff_decodeSpaced
    : parse input = .ok digest
      ↔ Hex.decodeSpaced (Hex.dropMark (Text.trim input)) = .ok digest.bytes := by
  rw [parse]
  cases Hex.decodeSpaced (Hex.dropMark (Text.trim input)) with
  | error position => exact ⟨nofun, nofun⟩
  | ok bytes =>
      rw [Except.ok.injEq]
      exact ofBytes_eq_ok_iff

/-- The digits of a digest: sixty-four, in lowercase, whatever the case, mark and blanks that the
digest was given with.
-/
theorem toHex_of_parse (parsed : parse input = .ok digest)
    : digest.toHex.length = 64
      ∧ (∀ char ∈ digest.toHex, char ∈ Hex.lowercase)
      ∧ digest.toHex
        = ((Hex.dropMark (Text.trim input)).filter fun char => !Text.isAsciiBlank char).map
            Char.toLower := by
  refine ⟨?_, fun char => Hex.mem_lowercase_of_mem_encode, ?_⟩
  · rw [toHex, Hex.length_encode, digest.length_bytes]
  · obtain ⟨digits, paired, spelled⟩ :=
      Hex.decodeSpaced_eq_ok_iff.mp (parse_eq_ok_iff_decodeSpaced.mp parsed)
    rw [toHex, Hex.encode_of_spells spelled, paired.filter_eq spelled]

end VerifierBootstrap.Digest
