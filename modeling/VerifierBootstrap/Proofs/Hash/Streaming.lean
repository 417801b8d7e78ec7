import VerifierBootstrap.Hash.Hasher

/-!
Hashing does not depend on how a message is cut. Whole blocks that are folded in early leave the
state that they leave when they are folded in with all others, so a hasher is at every time in step
with the message so far: its state is that of the whole blocks, and the rest of the message waits.
-/

namespace VerifierBootstrap.Sha256

-----------------------------------------------------------------------------------------
-- Whole blocks in front
-----------------------------------------------------------------------------------------

/-- Bytes in front that make up whole words are read by themselves. By recursion of the reader. -/
theorem words_append {front : Bytes} (whole : front.length % 4 = 0) (rest : Bytes)
    : words (front ++ rest) = words front ++ words rest := by
  fun_induction words front with
  | case1 a b c d front ih =>
      have more : front.length % 4 = 0 := by
        simp only [List.length_cons] at whole
        omega
      simp only [List.cons_append, words, ih more]
  | case2 front short =>
      match front, whole with
      | [], _ => rfl
      | a :: b :: c :: d :: front, _ => exact absurd rfl (short a b c d front)

theorem length_words (bytes : Bytes) : (words bytes).length = bytes.length / 4 := by
  fun_induction words bytes with
  | case1 a b c d rest ih =>
      simp only [List.length_cons, ih]
      omega
  | case2 bytes short =>
      match bytes with
      | [] | [_] | [_, _] | [_, _, _] => simp
      | a :: b :: c :: d :: rest => exact absurd rfl (short a b c d rest)

/-- Words in front that make up whole blocks are folded in first. By recursion of the fold. -/
theorem absorbAll_append (state : State) {front : List UInt32} (whole : front.length % 16 = 0)
    (rest : List UInt32)
    : absorbAll state (front ++ rest) = absorbAll (absorbAll state front) rest := by
  fun_induction absorbAll state front with
  | case1 state => rfl
  | case2 state word front ih =>
      rw [List.length_cons] at whole
      have filled : 15 ≤ front.length := by omega
      rw [List.cons_append, absorbAll, List.take_append_of_le_length filled,
        List.drop_append_of_le_length filled]
      apply ih
      rw [List.length_drop]
      omega

/-- Bytes in front that make up whole blocks are folded in first. -/
theorem absorbAll_words_append (state : State) {front : Bytes}
    (whole : front.length % blockSize = 0) (rest : Bytes)
    : absorbAll state (words (front ++ rest))
      = absorbAll (absorbAll state (words front)) (words rest) := by
  rw [blockSize] at whole
  rw [words_append (by omega), absorbAll_append]
  rw [length_words]
  omega

-----------------------------------------------------------------------------------------
-- Hashers in step with a message
-----------------------------------------------------------------------------------------

namespace Hasher

/-- The state of a hasher is that of some whole blocks, which make up the message so far together
with the bytes that wait.
-/
structure InStep (hasher : Hasher) (message : Bytes) : Prop where
  blocks
    : ∃ folded,
        message = folded ++ hasher.waiting
        ∧ folded.length % blockSize = 0
        ∧ hasher.state = absorbAll State.initial (words folded)
  length : hasher.length = message.length

theorem inStep_initial : initial.InStep [] where
  blocks := ⟨[], rfl, rfl, by simp [initial, words, absorbAll]⟩
  length := rfl

/-- The next piece keeps a hasher in step. Witness: the blocks that are now complete. -/
theorem InStep.update {hasher : Hasher} {message : Bytes} (inStep : hasher.InStep message)
    (piece : Bytes)
    : (hasher.update piece).InStep (message ++ piece) := by
  obtain ⟨folded, together, whole, reached⟩ := inStep.blocks
  -- What waited is whole blocks now and what waits from here on
  let ready := hasher.waiting ++ piece
  let complete := ready.take (ready.length / blockSize * blockSize)
  refine ⟨⟨folded ++ complete, ?_, ?_, ?_⟩, ?_⟩
  · calc
      message ++ piece
      _ = folded ++ ready := by rw [together, List.append_assoc]
      _ = folded ++ (complete ++ (hasher.update piece).waiting) := by
        rw [Hasher.update, List.take_append_drop]
      _ = folded ++ complete ++ (hasher.update piece).waiting := by rw [List.append_assoc]
  · have fits := Nat.div_mul_le_self ready.length blockSize
    rw [List.length_append, List.length_take, Nat.min_eq_left fits, Nat.add_mul_mod_self_right]
    exact whole
  · rw [Hasher.update, reached, absorbAll_words_append State.initial whole]
  · have counted : (hasher.update piece).length = hasher.length + piece.length := rfl
    rw [counted, inStep.length, List.length_append]

/-- By induction on the pieces. -/
theorem InStep.foldl {hasher : Hasher} {message : Bytes} (inStep : hasher.InStep message)
    (pieces : List Bytes)
    : (pieces.foldl Hasher.update hasher).InStep (message ++ pieces.flatten) := by
  induction pieces generalizing hasher message with
  | nil => simpa using inStep
  | cons piece rest ih =>
      rw [List.foldl_cons, List.flatten_cons, ← List.append_assoc]
      exact ih (inStep.update piece)

/-- A hasher in step ends with the digest of the message. -/
theorem InStep.finish_eq {hasher : Hasher} {message : Bytes} (inStep : hasher.InStep message)
    : hasher.finish = hash message := by
  obtain ⟨folded, together, whole, reached⟩ := inStep.blocks
  have padded
      : message ++ padding message.length
        = folded ++ (hasher.waiting ++ padding hasher.length) := by
    rw [inStep.length, together, List.append_assoc]
  rw [finish, hash, padded, absorbAll_words_append State.initial whole, reached]

/-- Pieces have the digest of the message that they make up. -/
theorem finish_foldl (pieces : List Bytes)
    : (pieces.foldl Hasher.update initial).finish = hash pieces.flatten :=
  (inStep_initial.foldl pieces).finish_eq

end Hasher

end VerifierBootstrap.Sha256
