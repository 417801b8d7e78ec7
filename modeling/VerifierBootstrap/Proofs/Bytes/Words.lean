import Mathlib.Tactic.Ring
import VerifierBootstrap.Bytes.Words

/-!
Words and their fields: what a field holds, and bytes that are cut into words and put together.
-/

namespace VerifierBootstrap.Words

/-- A natural number has a field if it is below the number of values that the field has. -/
theorem field?_natCast (width value : Nat)
    : field? width (value : Int)
      = if value < 256 ^ width then some (encode width value) else none := by
  have bound
      : (0 ≤ (value : Int) ∧ (value : Int) < (Nat.pow 256 width : Nat))
        ↔ value < 256 ^ width := by
    rw [Int.ofNat_lt, Nat.pow_eq]
    omega
  simp only [field?, bound, Int.toNat_natCast]

/-- So many bytes spell a number that so many bytes can hold. -/
theorem decode_lt (bytes : Bytes) : decode bytes < 256 ^ bytes.length := by
  induction bytes with
  | nil => decide
  | cons byte rest ih =>
      have small := byte.toNat_lt
      rw [decode, List.length_cons, Nat.pow_succ]
      omega

/-- Bytes behind others count for more. By induction on the first bytes. -/
theorem decode_append (bytes more : Bytes)
    : decode (bytes ++ more) = decode bytes + 256 ^ bytes.length * decode more := by
  induction bytes with
  | nil => simp [decode]
  | cons byte rest ih =>
      rw [List.cons_append, decode, decode, ih, List.length_cons, Nat.pow_succ]
      ring

/-- A number that bytes spell is written with those bytes. By induction on the bytes. -/
theorem encode_decode (bytes : Bytes) : encode bytes.length (decode bytes) = bytes := by
  induction bytes with
  | nil => rfl
  | cons byte rest ih =>
      have small := byte.toNat_lt
      have lowest : (byte.toNat + 256 * decode rest) % 256 = byte.toNat := by omega
      have others : (byte.toNat + 256 * decode rest) / 256 = decode rest := by omega
      rw [decode, List.length_cons, encode, lowest, others, UInt8.ofNat_toNat, ih]

/-- A field is as wide as it is made. -/
theorem length_encode (width value : Nat) : (encode width value).length = width := by
  induction width generalizing value with
  | zero => rfl
  | succ width ih => rw [encode, List.length_cons, ih]

/-- The bytes of a number that they can hold spell it. By induction on the width. -/
theorem decode_encode {width value : Nat} (small : value < 256 ^ width)
    : decode (encode width value) = value := by
  induction width generalizing value with
  | zero =>
      obtain rfl : value = 0 := by simpa using small
      rfl
  | succ width ih =>
      have smaller : value / 256 < 256 ^ width := by
        rw [Nat.pow_succ] at small
        omega
      have others := ih smaller
      rw [encode, decode, others, UInt8.toNat_ofNat']
      omega

theorem field?_eq_some {width : Nat} {value : Int} {bytes : Bytes}
    (found : field? width value = some bytes)
    : 0 ≤ value ∧ value.toNat < 256 ^ width ∧ bytes = encode width value.toNat := by
  rw [field?] at found
  split at found
  · rename_i fits
    rw [Nat.pow_eq] at fits
    exact ⟨fits.1, by omega, (Option.some.inj found).symm⟩
  · exact nomatch found

theorem length_field? {width : Nat} {value : Int} {bytes : Bytes}
    (found : field? width value = some bytes)
    : bytes.length = width := by
  obtain ⟨_, _, rfl⟩ := field?_eq_some found
  exact length_encode width value.toNat

/-- A field tells the integer that it holds. -/
theorem field?_inj {width : Nat} {first second : Int} {bytes : Bytes}
    (held : field? width first = some bytes) (otherHeld : field? width second = some bytes)
    : first = second := by
  obtain ⟨positive, small, rfl⟩ := field?_eq_some held
  obtain ⟨otherPositive, otherSmall, same⟩ := field?_eq_some otherHeld
  have numbers := congrArg decode same
  rw [decode_encode small, decode_encode otherSmall] at numbers
  omega

-----------------------------------------------------------------------------------------
-- Words of four bytes
-----------------------------------------------------------------------------------------

theorem lt_of_mem_split32 (bytes : Bytes) : ∀ word ∈ split32 bytes, word < 2 ^ 32 := by
  fun_induction split32 bytes with
  | case1 a b c d rest ih =>
      intro word member
      rcases List.mem_cons.mp member with rfl | member
      · have bound := decode_lt [a, b, c, d]
        simp only [List.length_cons, List.length_nil] at bound
        omega
      · exact ih word member
  | case2 => exact fun _ member => nomatch member

/-- Whole words are put together to the bytes that they were cut from. By recursion of the cutter.
-/
theorem flatMap_encode_split32 {bytes : Bytes} (whole : bytes.length % 4 = 0)
    : (split32 bytes).flatMap (encode 4) = bytes := by
  fun_induction split32 bytes with
  | case1 a b c d rest ih =>
      have first : encode 4 (decode [a, b, c, d]) = [a, b, c, d] := encode_decode [a, b, c, d]
      have more : rest.length % 4 = 0 := by
        simp only [List.length_cons] at whole
        omega
      rw [List.flatMap_cons, first, ih more]
      rfl
  | case2 bytes short =>
      match bytes, whole with
      | [], _ => rfl
      | a :: b :: c :: d :: rest, _ => exact absurd rfl (short a b c d rest)

end VerifierBootstrap.Words
