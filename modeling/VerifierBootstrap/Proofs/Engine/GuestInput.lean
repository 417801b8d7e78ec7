import VerifierBootstrap.Engine.DevMode
import VerifierBootstrap.Proofs.Bytes.Words

/-!
The codec of guest inputs. Numbers of cycles are encoded as far as a field of eight bytes goes, and
an input asks for a number exactly if it begins with the encoding of that number. So both directions
undo each other, whatever follows, and an input that begins with no encoding asks for nothing.
-/

namespace VerifierBootstrap.GuestInput

/-- A field of eight bytes holds the natural numbers below `2 ^ 64`. -/
theorem field?_eq_some_iff {number : Nat} {field : Bytes}
    : Words.field? 8 (number : Int) = some field
      ↔ number < 2 ^ 64 ∧ field = Words.encode 8 number := by
  have width : 256 ^ 8 = 2 ^ 64 := by norm_num
  rw [Words.field?_natCast, width]
  split
  · rename_i small
    simp only [small, true_and, Option.some.injEq]
    exact eq_comm
  · rename_i large
    simp only [large, false_and, reduceCtorEq]

/-- Numbers are encoded as the tag and a field that holds them. -/
theorem encode_eq_ok_iff {number : Nat} {bytes : Bytes}
    : encode (number : Int) = .ok bytes
      ↔ number < 2 ^ 64 ∧ bytes = Words.encode 4 busyLoopTag ++ Words.encode 8 number := by
  rw [encode]
  cases held : Words.field? 8 (number : Int) with
  | some field =>
      obtain ⟨small, rfl⟩ := field?_eq_some_iff.mp held
      simp only [small, true_and, Except.ok.injEq]
      exact eq_comm
  | none =>
      have large : ¬ number < 2 ^ 64 := by
        intro small
        rw [field?_eq_some_iff.mpr ⟨small, rfl⟩] at held
        exact nomatch held
      simp only [large, false_and, reduceCtorEq]

/-- Numbers that no field holds have no encoding. -/
theorem encode_of_not_held {cycles : Int} (unheld : ¬ (0 ≤ cycles ∧ cycles < 2 ^ 64))
    : encode cycles = .error .fieldRange := by
  have none : Words.field? 8 cycles = none := by
    apply if_neg
    rw [Nat.pow_eq]
    exact unheld
  simp only [encode, none]

theorem length_of_encode {number : Nat} {bytes : Bytes}
    (encoded : encode (number : Int) = .ok bytes)
    : bytes.length = 12 := by
  obtain ⟨_, rfl⟩ := encode_eq_ok_iff.mp encoded
  rw [List.length_append, Words.length_encode, Words.length_encode]

/-- Long inputs with the tag ask for the number in the eight bytes behind it. -/
theorem requestedCycles_of_tagged {input : Bytes} (long : 12 ≤ input.length)
    (tagged : input.take 4 = Words.encode 4 busyLoopTag)
    : requestedCycles input = .ok (Words.decode ((input.drop 4).take 8)) := by
  have tag : Words.decode (input.take 4) = busyLoopTag := by
    rw [tagged, Words.decode_encode (by decide)]
  rw [requestedCycles, if_neg (by omega)]
  simp only [tag, ne_eq, not_true, if_false]

/-- All others ask for nothing, for their length or for their tag. -/
theorem requestedCycles_of_untagged {input : Bytes}
    (untagged : ¬ (12 ≤ input.length ∧ input.take 4 = Words.encode 4 busyLoopTag))
    : ∃ fault, requestedCycles input = .error (.proof fault) := by
  by_cases short : input.length < 12
  · exact ⟨.shortInput input.length, if_pos short⟩
  · have foreign : Words.decode (input.take 4) ≠ busyLoopTag := by
      intro same
      have width : (input.take 4).length = 4 := by
        rw [List.length_take]
        omega
      have written := Words.encode_decode (input.take 4)
      rw [width, same] at written
      exact untagged ⟨by omega, written.symm⟩
    refine ⟨.unknownTag (Words.decode (input.take 4)), ?_⟩
    rw [requestedCycles, if_neg short]
    simp only [ne_eq, foreign, not_false_iff, if_true]

/-- An input asks for a number exactly if it begins with the encoding of the number. -/
theorem requestedCycles_eq_ok_iff {input : Bytes} {requested : Nat}
    : requestedCycles input = .ok requested
      ↔ ∃ bytes trailing, encode requested = .ok bytes ∧ input = bytes ++ trailing := by
  constructor
  · intro asked
    by_cases tagged : 12 ≤ input.length ∧ input.take 4 = Words.encode 4 busyLoopTag
    · obtain rfl := Except.ok.inj ((requestedCycles_of_tagged tagged.1 tagged.2).symm.trans asked)
      have width : ((input.drop 4).take 8).length = 8 := by
        rw [List.length_take, List.length_drop]
        omega
      have small := Words.decode_lt ((input.drop 4).take 8)
      have written := Words.encode_decode ((input.drop 4).take 8)
      rw [width] at small written
      refine ⟨_, input.drop 12, encode_eq_ok_iff.mpr ⟨by omega, rfl⟩, ?_⟩
      calc
        input
        _ = input.take 4 ++ ((input.drop 4).take 8 ++ (input.drop 4).drop 8) := by
          rw [List.take_append_drop, List.take_append_drop]
        _ = _ := by
          rw [tagged.2, written, List.drop_drop, List.append_assoc]
    · obtain ⟨fault, refused⟩ := requestedCycles_of_untagged tagged
      exact nomatch refused.symm.trans asked
  · rintro ⟨bytes, trailing, encoded, rfl⟩
    obtain ⟨small, rfl⟩ := encode_eq_ok_iff.mp encoded
    have tag := Words.length_encode 4 busyLoopTag
    have field := Words.length_encode 8 requested
    have long
        : 12 ≤ (Words.encode 4 busyLoopTag ++ (Words.encode 8 requested ++ trailing)).length := by
      rw [List.length_append, List.length_append, tag, field]
      omega
    rw [List.append_assoc, requestedCycles_of_tagged long (List.take_left' tag),
      List.drop_left' tag, List.take_left' field, Words.decode_encode (by omega)]

/-- Exactly the numbers below `2 ^ 64` are encoded, and read back from their encoding whatever
follows it. Exactly the inputs of twelve bytes or more that begin with the little-endian tag are
read, and their first twelve bytes encode the number that is read. Any other input is a failure of
the proof, and the execution fails as the reading does.
-/
theorem encode_requestedCycles
    : (∀ cycles : Int,
        if 0 ≤ cycles ∧ cycles < 2 ^ 64 then
          ∃ bytes,
            encode cycles = .ok bytes
            ∧ ∀ trailing, requestedCycles (bytes ++ trailing) = .ok cycles.toNat
        else encode cycles = .error .fieldRange)
      ∧ ∀ input : Bytes,
          if 12 ≤ input.length ∧ input.take 4 = [1, 0, 0, 0] then
            ∃ requested,
              requestedCycles input = .ok requested
              ∧ encode requested = .ok (input.take 12)
          else
            ∃ fault,
              requestedCycles input = .error (.proof fault)
              ∧ ∀ devMode : DevMode, devMode.execute input = .error (.proof fault) := by
  constructor
  · intro cycles
    split
    · rename_i held
      obtain ⟨number, rfl⟩ := Int.eq_ofNat_of_zero_le held.1
      have small : number < 2 ^ 64 := by omega
      have encoded := encode_eq_ok_iff.mpr ⟨small, rfl⟩
      exact ⟨_, encoded, fun trailing =>
        requestedCycles_eq_ok_iff.mpr ⟨_, trailing, encoded, rfl⟩⟩
    · rename_i unheld
      exact encode_of_not_held unheld
  · intro input
    have tag : Words.encode 4 busyLoopTag = [1, 0, 0, 0] := by decide
    split
    · rename_i tagged
      rw [← tag] at tagged
      have asked := requestedCycles_of_tagged tagged.1 tagged.2
      obtain ⟨bytes, trailing, encoded, rfl⟩ := requestedCycles_eq_ok_iff.mp asked
      refine ⟨_, asked, ?_⟩
      rw [List.take_left' (length_of_encode encoded)]
      exact encoded
    · rename_i untagged
      rw [← tag] at untagged
      obtain ⟨fault, refused⟩ := requestedCycles_of_untagged untagged
      refine ⟨fault, refused, fun devMode => ?_⟩
      rw [DevMode.execute, refused]
      rfl

/-- The largest number fills its field, and what follows is not looked at. -/
example
    : encode (2 ^ 64 - 1) = .ok [1, 0, 0, 0, 255, 255, 255, 255, 255, 255, 255, 255]
      ∧ requestedCycles [1, 0, 0, 0, 255, 255, 255, 255, 255, 255, 255, 255, 7]
        = .ok (2 ^ 64 - 1) := by
  decide +kernel

end VerifierBootstrap.GuestInput
