import VerifierBootstrap.Digest.Halves
import VerifierBootstrap.Proofs.Bytes.Words
import VerifierBootstrap.Proofs.Digest.WrittenForms
import VerifierBootstrap.Proofs.Except

/-!
The halves of a digest. As numbers they make up the little-endian number of the digest. They are put
together to it in each of their written forms, and a digest that was put together has the digits of
its halves.
-/

namespace VerifierBootstrap

namespace Hex

/-- The number that digits stand for, the highest first. -/
def number (digits : Text) : Nat :=
  digits.foldl (fun value char => 16 * value + lowercase.idxOf char) 0

theorem idxOf_digit {value : Nat} (small : value < 16) : lowercase.idxOf (digit value) = value := by
  revert value
  decide

/-- The digits of bytes stand for the number of the bytes, the highest first. By induction on the
bytes, from any number that stands in front.
-/
theorem number_encode (bytes : Bytes) : number (encode bytes) = Words.decode bytes.reverse := by
  have onward (value : Nat)
      : (encode bytes).foldl (fun value char => 16 * value + lowercase.idxOf char) value
        = 256 ^ bytes.length * value + Words.decode bytes.reverse := by
    induction bytes generalizing value with
    | nil => simp [encode, Words.decode]
    | cons byte bytes ih =>
        have small := UInt8.toNat_lt byte
        have digits
            : encode (byte :: bytes)
              = digit (byte.toNat / 16) :: digit (byte.toNat % 16) :: encode bytes := by
          rfl
        have number : 16 * (16 * value + byte.toNat / 16) + byte.toNat % 16
            = 256 * value + byte.toNat := by
          omega
        rw [digits, List.foldl_cons, List.foldl_cons, idxOf_digit (by omega),
          idxOf_digit (by omega), number, ih, List.reverse_cons, Words.decode_append,
          List.length_reverse, List.length_cons, Words.decode, Words.decode]
        ring
  rw [number, onward 0, Nat.mul_zero, Nat.zero_add]

end Hex

namespace Digest

/-- Halves of thirty-two digits each that make up the little-endian number of a digest. -/
structure Halves.Represents (halves : Halves) (digest : Digest) (high low : Text) : Prop where
  marked : halves = ⟨'0' :: 'x' :: high, '0' :: 'x' :: low⟩
  width : high.length = 32 ∧ low.length = 32
  digits : ∀ char ∈ high ++ low, char ∈ Hex.lowercase
  number : Hex.number high * 2 ^ 128 + Hex.number low = Words.decode digest.bytes

variable {halves : Halves} {half : Text} {bytes : Bytes} {digest : Digest}

/-- The bytes of a half, the highest first. -/
theorem Halves.bytes_eq_ok_iff
    : Halves.bytes half = .ok bytes ↔ ∃ digits, Hex.Writes half digits bytes := by
  rw [← Hex.decodeSpaced_dropMark_eq_ok_iff, Halves.bytes]
  cases Hex.decodeSpaced (Hex.dropMark half) with
  | error position => exact ⟨nofun, nofun⟩
  | ok read => rw [Except.ok.injEq, Except.ok.injEq]

/-- Halves are put together to the digest that has their bytes, from the last to the first. -/
theorem join_eq_ok_iff
    : join halves = .ok digest
      ↔ Halves.bytes halves.high = .ok (digest.bytes.reverse.take 16)
        ∧ Halves.bytes halves.low = .ok (digest.bytes.reverse.drop 16) := by
  have length : digest.bytes.reverse.length = 32 := by
    rw [List.length_reverse, digest.length_bytes]
  constructor
  · intro joined
    obtain ⟨high, readHigh, rest⟩ := ok_of_bind joined
    obtain ⟨low, readLow, rest⟩ := ok_of_bind rest
    by_cases uneven : high.length ≠ low.length
    · rw [if_pos uneven] at rest
      exact nomatch rest
    · rw [if_neg uneven] at rest
      have bytes : (high ++ low).reverse = digest.bytes := ofBytes_eq_ok_iff.mp rest
      rw [← bytes, List.reverse_reverse] at length ⊢
      rw [List.length_append] at length
      have half : high.length = 16 := by omega
      rw [← half, List.take_left, List.drop_left]
      exact ⟨readHigh, readLow⟩
  · rintro ⟨readHigh, readLow⟩
    have even
        : ¬(digest.bytes.reverse.take 16).length ≠ (digest.bytes.reverse.drop 16).length := by
      rw [List.length_take, List.length_drop, length]
      decide
    have whole
        : (digest.bytes.reverse.take 16 ++ digest.bytes.reverse.drop 16).reverse
          = digest.bytes := by
      rw [List.take_append_drop, List.reverse_reverse]
    rw [join, bind_of_ok readHigh, bind_of_ok readLow]
    exact (if_neg even).trans (ofBytes_eq_ok_iff.mpr whole)

/-- A digest is cut into halves that represent it. Witness: the digits of its bytes from the last to
the first.
-/
theorem represents_split (digest : Digest)
    : ∃ high low, digest.split.Represents digest high low := by
  have length : digest.bytes.length = 32 := digest.length_bytes
  refine ⟨Hex.encode (digest.bytes.reverse.take 16), Hex.encode (digest.bytes.reverse.drop 16),
    rfl, ?_, ?_, ?_⟩
  · simp [Hex.length_encode, length]
  · intro char member
    rcases List.mem_append.mp member with member | member
    · exact Hex.mem_lowercase_of_mem_encode member
    · exact Hex.mem_lowercase_of_mem_encode member
  · rw [Hex.number_encode, Hex.number_encode]
    have lowest : (digest.bytes.reverse.drop 16).reverse = digest.bytes.take 16 := by
      simp [List.drop_reverse, length]
    have highest : (digest.bytes.reverse.take 16).reverse = digest.bytes.drop 16 := by
      simp [List.take_reverse, length]
    have width : (digest.bytes.take 16).length = 16 := by
      rw [List.length_take, length]
      rfl
    have whole := Words.decode_append (digest.bytes.take 16) (digest.bytes.drop 16)
    rw [List.take_append_drop, width] at whole
    rw [lowest, highest, whole]
    ring

theorem join_split (digest : Digest) : join digest.split = .ok digest := by
  have half (bytes : Bytes) : Halves.bytes ('0' :: 'x' :: Hex.encode bytes) = .ok bytes := by
    have spelled := Hex.spells_encode bytes
    exact Halves.bytes_eq_ok_iff.mpr
      ⟨_, "0x".toList, by decide, _, rfl, Hex.paired_of_spells spelled, spelled⟩
  exact join_eq_ok_iff.mpr ⟨half _, half _⟩

/-- Halves are put together to a digest if their digits in lowercase are those of the digest's own
halves, whatever their marks and blanks.
-/
theorem join_eq_ok_iff_split
    : join halves = .ok digest
      ↔ ∃ high low upper lower,
          Hex.Writes halves.high high upper
          ∧ Hex.Writes halves.low low lower
          ∧ digest.split
            = ⟨'0' :: 'x' :: high.map Char.toLower, '0' :: 'x' :: low.map Char.toLower⟩ := by
  rw [join_eq_ok_iff, Halves.bytes_eq_ok_iff, Halves.bytes_eq_ok_iff]
  constructor
  · rintro ⟨⟨high, writtenHigh⟩, low, writtenLow⟩
    refine ⟨high, low, _, _, writtenHigh, writtenLow, ?_⟩
    rw [split, writtenHigh.encode, writtenLow.encode]
  · rintro ⟨high, low, upper, lower, writtenHigh, writtenLow, same⟩
    rw [split, Halves.mk.injEq] at same
    obtain ⟨sameHigh, sameLow⟩ := same
    rw [← writtenHigh.encode] at sameHigh
    rw [← writtenLow.encode] at sameLow
    rw [Hex.encode_injective (List.cons.inj (List.cons.inj sameHigh).2).2,
      Hex.encode_injective (List.cons.inj (List.cons.inj sameLow).2).2]
    exact ⟨⟨high, writtenHigh⟩, low, writtenLow⟩

end Digest

end VerifierBootstrap
