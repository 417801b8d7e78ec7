import Mathlib.Data.List.Forall2
import VerifierBootstrap.Proofs.Receipt.Groth16Seal
import VerifierBootstrap.Settings.Machine
import VerifierBootstrap.Witness.ProverOutput

/-!
The flat seal of an accepted output. Every output that is accepted gives a proof in its groups,
but its elements are as long as its tokens. The seal holds no boundaries: it can be taken apart
again exactly if every token has the length of a field element.
-/

namespace VerifierBootstrap.Witness

/-- Items that are all decoded are decoded one by one. By induction on the items. -/
theorem forall₂_of_mapM {α β : Type} {decode : α → Except Failure β} {items : List α}
    {values : List β} (decoded : items.mapM decode = .ok values)
    : List.Forall₂ (fun item value => decode item = .ok value) items values := by
  induction items generalizing values with
  | nil =>
      obtain rfl := Except.ok.inj decoded
      exact .nil
  | cons item rest ih =>
      rw [List.mapM_cons] at decoded
      cases first : decode item with
      | error failure =>
          rw [first] at decoded
          exact nomatch decoded
      | ok value =>
          cases others : rest.mapM decode with
          | error failure =>
              rw [first, others] at decoded
              exact nomatch decoded
          | ok more =>
              rw [first, others] at decoded
              obtain rfl := Except.ok.inj decoded
              exact .cons first (ih others)

/-- A pair is decoded from an array of two tokens. -/
theorem decodePair_eq_ok {group : String} {value : Json} {pair : List Bytes}
    (decoded : decodePair group value = .ok pair)
    : ∃ items,
        value = .array items
        ∧ items.length = 2
        ∧ List.Forall₂ (fun item element => decodeToken group item = .ok element) items pair := by
  cases value with
  | array items =>
      rw [decodePair] at decoded
      split at decoded
      · exact nomatch decoded
      · rename_i two
        exact ⟨items, rfl, Decidable.not_not.mp two, forall₂_of_mapM decoded⟩
  | _ => exact nomatch decoded

theorem length_decodePair {group : String} {value : Json} {pair : List Bytes}
    (decoded : decodePair group value = .ok pair)
    : pair.length = 2 := by
  obtain ⟨items, _, two, each⟩ := decodePair_eq_ok decoded
  exact each.length_eq.symm.trans two

/-- Pairs are decoded from an array of two. -/
theorem decodePairs_eq_ok {group : String} {value : Json} {pairs : List (List Bytes)}
    (decoded : decodePairs group value = .ok pairs)
    : ∃ first second left right,
        value = .array [first, second]
        ∧ pairs = [left, right]
        ∧ decodePair group first = .ok left
        ∧ decodePair group second = .ok right := by
  unfold decodePairs at decoded
  split at decoded
  · rename_i first second
    match pairs, forall₂_of_mapM decoded with
    | [left, right], .cons atFirst (.cons atSecond .nil) =>
        exact ⟨first, second, left, right, rfl, rfl, atFirst, atSecond⟩
  · exact nomatch decoded

/-- What is read as a proof has the groups of one. -/
theorem shaped_readProof {nesting : Nat} {output : Text} {proof : Groth16Seal}
    (accepted : readProof nesting output = .ok proof)
    : proof.Shaped := by
  rw [readProof, parse] at accepted
  split at accepted
  · exact nomatch accepted
  · rename_i first second third _ _
    split at accepted
    · exact nomatch accepted
    · rename_i a atFirst
      split at accepted
      · exact nomatch accepted
      · rename_i b atSecond
        cases atThird : decodePair "c" third with
        | error failure =>
            rw [atThird] at accepted
            exact nomatch accepted
        | ok c =>
            rw [atThird] at accepted
            obtain rfl := Except.ok.inj accepted
            obtain ⟨_, _, left, right, _, rfl, atLeft, atRight⟩ := decodePairs_eq_ok atSecond
            exact ⟨length_decodePair atFirst, rfl,
              by simp [length_decodePair atLeft, length_decodePair atRight],
              length_decodePair atThird⟩
  · exact nomatch accepted

/-- The seal of an accepted output is decoded into the groups of the output exactly if every
token has the length of a field element, and of the outputs with such tokens no two with
different groups have one seal. Of any other length than eight field elements the seal is
refused, and of that length it is decoded into field elements, whatever the boundaries of the
tokens were. Witness: the tokens stand one behind the other in the seal, and only the size that
is cut by tells them apart.
-/
theorem ofBytes_toBytes_readProof {nesting : Nat} {output : Text} {proof : Groth16Seal}
    (accepted : readProof nesting output = .ok proof)
    : (Groth16Seal.ofBytes Groth16Seal.elementSize proof.toBytes = .ok proof
          ↔ ∀ element ∈ proof.elements, element.length = 32)
      ∧ (∀ (otherOutput : Text) (other : Groth16Seal),
            readProof nesting otherOutput = .ok other
            → (∀ element ∈ proof.elements, element.length = 32)
            → (∀ element ∈ other.elements, element.length = 32)
            → other.toBytes = proof.toBytes
            → other = proof)
      ∧ (proof.toBytes.length ≠ 256
          → Groth16Seal.ofBytes Groth16Seal.elementSize proof.toBytes
            = .error (.decode "seal" (.sealSize 256 proof.toBytes.length)))
      ∧ (proof.toBytes.length = 256
          → ∃ decoded,
              Groth16Seal.ofBytes Groth16Seal.elementSize proof.toBytes = .ok decoded
              ∧ decoded.toBytes = proof.toBytes
              ∧ ∀ element ∈ decoded.elements, element.length = 32) := by
  have positive : 0 < Groth16Seal.elementSize := by decide
  have restored {output : Text} {proof : Groth16Seal}
      (accepted : readProof nesting output = .ok proof)
      (uniform : proof.Uniform Groth16Seal.elementSize)
      : Groth16Seal.ofBytes Groth16Seal.elementSize proof.toBytes = .ok proof :=
    Groth16Seal.ofBytes_toBytes positive (shaped_readProof accepted) uniform
  refine ⟨⟨Groth16Seal.uniform_of_ofBytes positive, restored accepted⟩, ?_, ?_, ?_⟩
  · intro otherOutput other otherAccepted uniform otherUniform same
    have again := restored otherAccepted otherUniform
    rw [same, restored accepted uniform] at again
    exact (Except.ok.inj again).symm
  · intro other
    rw [Groth16Seal.ofBytes_error other, Groth16Seal.sizeFailure, if_pos (by decide +kernel)]
    rfl
  · intro whole
    obtain ⟨decoded, run, flat, _, uniform⟩ := Groth16Seal.exists_ofBytes positive whole
    exact ⟨decoded, run, flat, uniform⟩

/-- Two outputs that differ in which of two tokens is empty have one seal, and it is refused. -/
theorem ofBytes_toBytes_readProof_empty_token
    : let nesting := Limits.usual.nesting
      let left : Groth16Seal := ⟨[[1], []], [[[], []], [[], []]], [[], []]⟩
      let right : Groth16Seal := ⟨[[], [1]], [[[], []], [[], []]], [[], []]⟩
      readProof nesting "[\"0x01\",\"\"],[[\"\",\"\"],[\"\",\"\"]],[\"\",\"\"]".toList = .ok left
      ∧ readProof nesting "[\"\",\"0x01\"],[[\"\",\"\"],[\"\",\"\"]],[\"\",\"\"]".toList = .ok right
      ∧ left ≠ right
      ∧ left.toBytes = right.toBytes
      ∧ Groth16Seal.ofBytes Groth16Seal.elementSize left.toBytes
        = .error (.decode "seal" (.sealSize 256 1))
      ∧ Groth16Seal.ofBytes Groth16Seal.elementSize left.toBytes ≠ .ok left := by
  intro nesting left right
  have accepted
      : readProof nesting "[\"0x01\",\"\"],[[\"\",\"\"],[\"\",\"\"]],[\"\",\"\"]".toList
        = .ok left := by
    decide +kernel
  obtain ⟨restored, _, refused, _⟩ := ofBytes_toBytes_readProof accepted
  refine ⟨accepted, by decide +kernel, by decide, rfl, refused (by decide), ?_⟩
  intro same
  exact absurd (restored.mp same [] (by decide)) (by decide)

end VerifierBootstrap.Witness
