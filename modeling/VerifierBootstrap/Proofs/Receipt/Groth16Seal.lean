import Mathlib.Algebra.Group.Nat.Defs
import Mathlib.Data.List.Basic
import VerifierBootstrap.Receipt.Groth16Seal

/-!
Seals as bytes and bytes as seals. Eight elements of one size, one behind the other, are cut
into the same eight again, and eight times a size of bytes is cut into eight elements of that
size. Only the size tells where an element ends. Bytes of another number are refused.
-/

namespace VerifierBootstrap.Groth16Seal

/-- The groups of a proof: two elements, two pairs, and two elements again. -/
structure Shaped (proof : Groth16Seal) : Prop where
  a : proof.a.length = 2
  b : proof.b.length = 2
  pairs : ∀ pair ∈ proof.b, pair.length = 2
  c : proof.c.length = 2

/-- All elements have one size. -/
def Uniform (size : Nat) (proof : Groth16Seal) : Prop :=
  ∀ element ∈ proof.elements, element.length = size

/-- A proof in its groups is one of eight elements. -/
theorem Shaped.exists_eq {proof : Groth16Seal} (shaped : proof.Shaped)
    : ∃ a₀ a₁ b₀ b₁ b₂ b₃ c₀ c₁, proof = ⟨[a₀, a₁], [[b₀, b₁], [b₂, b₃]], [c₀, c₁]⟩ := by
  obtain ⟨a, b, c⟩ := proof
  obtain ⟨first, second, pairs, third⟩ := shaped
  dsimp only at first second pairs third
  obtain ⟨a₀, a₁, rfl⟩ := List.length_eq_two.mp first
  obtain ⟨left, right, rfl⟩ := List.length_eq_two.mp second
  obtain ⟨b₀, b₁, rfl⟩ := List.length_eq_two.mp (pairs left (by simp))
  obtain ⟨b₂, b₃, rfl⟩ := List.length_eq_two.mp (pairs right (by simp))
  obtain ⟨c₀, c₁, rfl⟩ := List.length_eq_two.mp third
  exact ⟨a₀, a₁, b₀, b₁, b₂, b₃, c₀, c₁, rfl⟩

-----------------------------------------------------------------------------------------
-- Pieces of one size
-----------------------------------------------------------------------------------------

theorem pieces_append {size : Nat} {piece : Bytes} (sized : piece.length = size)
    (positive : 0 < size) (rest : Bytes)
    : pieces size (piece ++ rest) = piece :: pieces size rest := by
  subst sized
  cases piece with
  | nil => exact absurd positive (by simp)
  | cons byte piece => simp [pieces]

/-- Elements of one size are found again. By induction on the elements. -/
theorem pieces_flatten {size : Nat} {elements : List Bytes} (positive : 0 < size)
    (sized : ∀ element ∈ elements, element.length = size)
    : pieces size elements.flatten = elements := by
  induction elements with
  | nil => simp [pieces]
  | cons element rest ih =>
      rw [List.flatten_cons, pieces_append (sized element (by simp)) positive,
        ih fun other member => sized other (List.mem_cons_of_mem _ member)]

/-- Bytes of a multiple of a size are cut without remainder. By induction on the number of
pieces.
-/
theorem pieces_of_length {size count : Nat} {bytes : Bytes} (positive : 0 < size)
    (whole : bytes.length = count * size)
    : (pieces size bytes).length = count
      ∧ (pieces size bytes).flatten = bytes
      ∧ ∀ piece ∈ pieces size bytes, piece.length = size := by
  induction count generalizing bytes with
  | zero =>
      obtain rfl := List.length_eq_zero_iff.mp (whole.trans (Nat.zero_mul size))
      simp [pieces]
  | succ count ih =>
      rw [Nat.succ_mul] at whole
      have front : (bytes.take size).length = size := by
        rw [List.length_take]
        omega
      have behind : (bytes.drop size).length = count * size := by
        rw [List.length_drop]
        omega
      obtain ⟨counted, flat, sized⟩ := ih behind
      have split := pieces_append front positive (bytes.drop size)
      rw [List.take_append_drop] at split
      refine ⟨?_, ?_, ?_⟩
      · rw [split, List.length_cons, counted]
      · rw [split, List.flatten_cons, flat, List.take_append_drop]
      · rw [split]
        rintro piece (_ | ⟨_, member⟩)
        · exact front
        · exact sized piece member

-----------------------------------------------------------------------------------------
-- Seals of elements of one size
-----------------------------------------------------------------------------------------

theorem length_toBytes {size : Nat} {proof : Groth16Seal} (shaped : proof.Shaped)
    (uniform : proof.Uniform size)
    : proof.toBytes.length = 8 * size := by
  obtain ⟨a₀, a₁, b₀, b₁, b₂, b₃, c₀, c₁, rfl⟩ := shaped.exists_eq
  simp only [Uniform, elements, List.flatten_cons, List.flatten_nil, List.cons_append,
    List.nil_append, List.append_nil, List.forall_mem_cons] at uniform
  simp only [toBytes, elements, List.flatten_cons, List.flatten_nil, List.cons_append,
    List.nil_append, List.append_nil, List.length_append]
  omega

/-- A seal of elements of one size is decoded into its groups. -/
theorem ofBytes_toBytes {size : Nat} {proof : Groth16Seal} (positive : 0 < size)
    (shaped : proof.Shaped) (uniform : proof.Uniform size)
    : ofBytes size proof.toBytes = .ok proof := by
  have whole := length_toBytes shaped uniform
  have cut : pieces size proof.toBytes = proof.elements := pieces_flatten positive uniform
  obtain ⟨a₀, a₁, b₀, b₁, b₂, b₃, c₀, c₁, rfl⟩ := shaped.exists_eq
  rw [ofBytes, if_neg fun differs => differs (by omega), if_neg (by omega), Int.toNat_natCast, cut]
  rfl

/-- Bytes of eight times a size are decoded into a proof with elements of that size, whose seal
they are.
-/
theorem exists_ofBytes {size : Nat} {bytes : Bytes} (positive : 0 < size)
    (whole : bytes.length = 8 * size)
    : ∃ proof,
        ofBytes size bytes = .ok proof
        ∧ proof.toBytes = bytes
        ∧ proof.Shaped
        ∧ proof.Uniform size := by
  obtain ⟨counted, flat, sized⟩ := pieces_of_length positive whole
  have decoded
      : ofBytes size bytes
        = .ok
            ⟨(pieces size bytes).take 2,
              [((pieces size bytes).drop 2).take 2, ((pieces size bytes).drop 4).take 2],
              ((pieces size bytes).drop 6).take 2⟩ := by
    rw [ofBytes, if_neg fun differs => differs (by omega), if_neg (by omega), Int.toNat_natCast]
  generalize pieces size bytes = cut at counted flat sized decoded
  match cut, counted with
  | [a₀, a₁, b₀, b₁, b₂, b₃, c₀, c₁], _ =>
      refine ⟨_, decoded, ?_, ⟨rfl, rfl, ?_, rfl⟩, sized⟩
      · exact flat
      · rintro pair (_ | ⟨_, _ | ⟨_, _ | _⟩⟩)
        · rfl
        · rfl

theorem ofBytes_error {size : Nat} {bytes : Bytes} (other : bytes.length ≠ 8 * size)
    : ofBytes size bytes = .error (sizeFailure size bytes) :=
  if_pos (by omega)

/-- What is cut into eight elements has eight times the size, and the size is positive. -/
theorem exists_size_of_ofBytes {size : Int} {bytes : Bytes} {proof : Groth16Seal}
    (decoded : ofBytes size bytes = .ok proof)
    : ∃ positive : Nat, 0 < positive ∧ size = positive ∧ bytes.length = 8 * positive := by
  rw [ofBytes] at decoded
  split at decoded
  · exact nomatch decoded
  · rename_i whole
    split at decoded
    · exact nomatch decoded
    · exact ⟨size.toNat, by omega, by omega, by omega⟩

/-- What is decoded with a size has elements of that size. -/
theorem uniform_of_ofBytes {size : Nat} {bytes : Bytes} {proof : Groth16Seal} (positive : 0 < size)
    (decoded : ofBytes size bytes = .ok proof)
    : proof.Uniform size := by
  obtain ⟨_, _, same, whole⟩ := exists_size_of_ofBytes decoded
  obtain rfl := Int.ofNat.inj same
  obtain ⟨found, again, _, _, uniform⟩ := exists_ofBytes positive whole
  obtain rfl := Except.ok.inj (decoded.symm.trans again)
  exact uniform

-----------------------------------------------------------------------------------------
-- Sizes of any kind
-----------------------------------------------------------------------------------------

section
variable {size : Int} {bytes : Bytes} {proof : Groth16Seal}

/-- Exactly a proof of elements of the size is decoded, and from the bytes of its elements. -/
theorem ofBytes_eq_ok_iff (filled : size ≠ 0)
    : ofBytes size bytes = .ok proof
      ↔ proof.Shaped
        ∧ (∀ element ∈ proof.elements, (element.length : Int) = size)
        ∧ proof.toBytes = bytes := by
  constructor
  · intro decoded
    obtain ⟨positive, above, rfl, whole⟩ := exists_size_of_ofBytes decoded
    obtain ⟨found, again, written, shaped, uniform⟩ := exists_ofBytes above whole
    obtain rfl := Except.ok.inj (decoded.symm.trans again)
    exact ⟨shaped, fun element member => congrArg _ (uniform element member), written⟩
  · rintro ⟨shaped, sized, rfl⟩
    obtain ⟨a₀, _, _, _, _, _, _, _, rfl⟩ := shaped.exists_eq
    obtain rfl : (a₀.length : Int) = size := sized a₀ (by simp [elements])
    exact ofBytes_toBytes (by omega) shaped fun element member =>
      Int.ofNat.inj (sized element member)

/-- Bytes are decoded if there are eight times the size of them. -/
theorem exists_ofBytes_iff (filled : size ≠ 0)
    : (∃ proof, ofBytes size bytes = .ok proof) ↔ (bytes.length : Int) = 8 * size := by
  constructor
  · rintro ⟨proof, decoded⟩
    obtain ⟨positive, _, rfl, whole⟩ := exists_size_of_ofBytes decoded
    omega
  · intro whole
    have named : ((size.toNat : Nat) : Int) = size := by omega
    have positive : 0 < size.toNat := by omega
    have eight : bytes.length = 8 * size.toNat := by omega
    obtain ⟨proof, decoded, _⟩ := exists_ofBytes positive eight
    rw [named] at decoded
    exact ⟨proof, decoded⟩

/-- Other bytes are refused, and for their number only. -/
theorem ofBytes_eq_error_iff (filled : size ≠ 0) {failure : Failure}
    : ofBytes size bytes = .error failure
      ↔ (bytes.length : Int) ≠ 8 * size ∧ sizeFailure size bytes = failure := by
  by_cases whole : (bytes.length : Int) = 8 * size
  · obtain ⟨proof, decoded⟩ := (exists_ofBytes_iff filled).mpr whole
    rw [decoded]
    exact iff_of_false nofun fun refused => refused.1 whole
  · rw [ofBytes, if_pos whole, Except.error.injEq, and_iff_right whole]

/-- The number is told if the one that there should be has no more digits than are written. -/
theorem sizeFailure_eq
    : sizeFailure size bytes
      = if (8 * size).natAbs < 10 ^ Failure.writtenDigits then
          .decode "seal" (.sealSize (8 * size) bytes.length)
        else .unwritableInteger := by
  simp only [sizeFailure, Failure.isWritable, Nat.pow_eq, decide_eq_true_eq]

theorem sizeFailure_eq_sealSize_iff
    : sizeFailure size bytes = .decode "seal" (.sealSize (8 * size) bytes.length)
      ↔ (8 * size).natAbs < 10 ^ Failure.writtenDigits := by
  rw [sizeFailure_eq]
  split
  · rename_i writable
    exact iff_of_true rfl writable
  · rename_i long
    exact iff_of_false nofun long

theorem sizeFailure_eq_unwritableInteger_iff
    : sizeFailure size bytes = .unwritableInteger
      ↔ 10 ^ Failure.writtenDigits ≤ (8 * size).natAbs := by
  rw [sizeFailure_eq]
  split
  · rename_i writable
    exact iff_of_false nofun (Nat.not_le.mpr writable)
  · rename_i long
    exact iff_of_true rfl (Nat.not_lt.mp long)

/-- Seals of elements of one size and bytes of eight times the size are inverse to each other.
Bytes of any other number are refused for it, as long as eight times the size can be written.
-/
theorem ofBytes_inverse (filled : size ≠ 0)
    : (∀ bytes proof,
        ofBytes size bytes = .ok proof
        ↔ proof.Shaped
          ∧ (∀ element ∈ proof.elements, (element.length : Int) = size)
          ∧ proof.toBytes = bytes)
      ∧ ∀ bytes : Bytes,
        ((∃ proof, ofBytes size bytes = .ok proof) ↔ (bytes.length : Int) = 8 * size)
        ∧ (ofBytes size bytes = .error (.decode "seal" (.sealSize (8 * size) bytes.length))
          ↔ (bytes.length : Int) ≠ 8 * size ∧ (8 * size).natAbs < 10 ^ Failure.writtenDigits)
        ∧ (ofBytes size bytes = .error .unwritableInteger
          ↔ (bytes.length : Int) ≠ 8 * size ∧ 10 ^ Failure.writtenDigits ≤ (8 * size).natAbs) := by
  refine ⟨fun _ _ => ofBytes_eq_ok_iff filled, fun bytes => ⟨exists_ofBytes_iff filled, ?_, ?_⟩⟩
  · rw [ofBytes_eq_error_iff filled, sizeFailure_eq_sealSize_iff]
  · rw [ofBytes_eq_error_iff filled, sizeFailure_eq_unwritableInteger_iff]

/-- Eight such elements would have a number of bytes with a digit more than are written. -/
theorem ofBytes_inverse_long_size
    : ofBytes (2 * 10 ^ 4299 : Nat) [] = .error .unwritableInteger := by
  have filled : ((2 * 10 ^ 4299 : Nat) : Int) ≠ 0 := by decide +kernel
  have refused := ((ofBytes_inverse filled).2 []).2.2
  exact refused.mpr ⟨by decide +kernel, by decide +kernel⟩

end

end VerifierBootstrap.Groth16Seal
