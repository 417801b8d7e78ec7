import VerifierBootstrap.Proofs.Json.Appending
import VerifierBootstrap.Proofs.Witness.Handover

/-!
The public signals in the output of the prover. They stand behind the groups of the proof, and the
proof that is read is the same whatever they are, as long as the parser has room for them. Signals
that are nested deeper are refused, and there are such on every machine.
-/

namespace VerifierBootstrap

-----------------------------------------------------------------------------------------
-- Nested arrays
-----------------------------------------------------------------------------------------

/-- Arrays in one another, and nothing else in them. -/
def Json.nested : Nat → Text
  | 0 => []
  | height + 1 => '[' :: (nested height ++ [']'])

/-- At least one of them is a value. By induction on their number. -/
theorem Json.isElement_nested (height : Nat) : IsElement (nested (height + 1)) := by
  induction height with
  | zero => exact .emptyArray Blanks.nil
  | succ height ih =>
      have single : separated ',' [nested (height + 1)] = nested (height + 1) := List.append_nil _
      have each : ∀ item ∈ [nested (height + 1)], IsElement item := by simpa using ih
      have array := IsElement.array each
      rwa [single] at array

/-- Each opens one more and closes it. By induction on their number. -/
theorem Json.exists_lexed_nested (height : Nat)
    : ∃ kinds,
        Lexed (nested height) kinds
        ∧ (∀ opened, openAfter opened kinds = opened)
        ∧ ∀ opened, deepest opened kinds = opened + height := by
  induction height with
  | zero => exact ⟨[], .nil, fun _ => rfl, fun _ => rfl⟩
  | succ height ih =>
      obtain ⟨kinds, lexed, balanced, deep⟩ := ih
      refine ⟨_, lexed.enclosed rfl rfl (by decide), fun opened => ?_, fun opened => ?_⟩
      · change openAfter (opened + 1) (kinds ++ [.closeArray]) = opened
        rw [openAfter_append, balanced]
        rfl
      · rw [deepest]
        change max opened (deepest (opened + 1) (kinds ++ [.closeArray])) = _
        rw [deepest_append, balanced, deep, deepest, deepest, TokenKind.openBehind]
        omega

theorem Json.depth_nested (height : Nat)
    : depth ('[' :: nested height ++ [']']) = height + 1 := by
  obtain ⟨kinds, lexed, _, deep⟩ := exists_lexed_nested height
  rw [depth_of_lexed_bracketed lexed, deep, Nat.add_comm]

namespace Witness

-----------------------------------------------------------------------------------------
-- Signals behind a proof
-----------------------------------------------------------------------------------------

section
variable {nesting : Nat} {output signals : Text} {proof : Groth16Seal}
  (accepted : readProof nesting output = .ok proof) (sequence : Json.IsSequence signals)
include accepted sequence

/-- Signals that there is room for change nothing about the proof. Witness: the groups that were
there stay the first, and no group behind the third is looked at.
-/
theorem readProof_of_shallow_signals (fits : Json.depth ('[' :: signals ++ [']']) ≤ nesting)
    : readProof nesting (output ++ ',' :: signals) = .ok proof := by
  obtain ⟨items, parsed, room, isProof⟩ := exists_isProof_of_readProof accepted
  have filled : items ≠ [] := by
    rintro rfl
    cases isProof
  obtain ⟨others, again⟩ := Json.parse_append parsed filled sequence
  have deeper := Json.depth_append parsed filled sequence
  have whole := Json.parseWithin_eq_ok_iff.mpr ⟨again, deeper ▸ Nat.max_le.mpr ⟨room, fits⟩⟩
  refine (readProof_eq_ok_iff (groups_of_parse whole)).mpr ?_
  obtain ⟨atFirst, atSecond, atThird⟩ := isProof
  exact .intro atFirst atSecond atThird

/-- For signals that there is no room for the whole output is refused. -/
theorem exists_tooDeep_of_signals (deep : nesting < Json.depth ('[' :: signals ++ [']']))
    : ∃ enclosure, readProof nesting (output ++ ',' :: signals) = .error (.tooDeep enclosure) := by
  obtain ⟨items, parsed, _, isProof⟩ := exists_isProof_of_readProof accepted
  have filled : items ≠ [] := by
    rintro rfl
    cases isProof
  obtain ⟨others, again⟩ := Json.parse_append parsed filled sequence
  have deeper : nesting < Json.depth ('[' :: (output ++ ',' :: signals) ++ [']']) := by
    rw [Json.depth_append parsed filled sequence]
    exact Nat.lt_of_lt_of_le deep (Nat.le_max_right _ _)
  obtain ⟨enclosure, refused⟩ := Json.exists_tooDeep_of_parse again deeper
  refine ⟨enclosure, ?_⟩
  rw [readProof, parse, groups, refused]

end

/-- Values behind an accepted output change nothing about the proof in it, exactly as long as the
parser has room for them in the brackets around the output. There are values that it has no room
for, and for these the output is refused.
-/
theorem readProof_ignores_signals {nesting : Nat} {output : Text} {proof : Groth16Seal}
    (accepted : readProof nesting output = .ok proof)
    : (∀ signals,
          Json.IsSequence signals
          → if Json.depth ('[' :: signals ++ [']']) ≤ nesting then
              readProof nesting (output ++ ',' :: signals) = .ok proof
            else
              ∃ enclosure,
                readProof nesting (output ++ ',' :: signals) = .error (.tooDeep enclosure))
      ∧ ∃ signals,
          Json.IsSequence signals ∧ nesting < Json.depth ('[' :: signals ++ [']']) := by
  refine ⟨fun signals sequence => ?_, Json.nested (nesting + 1), ?_, ?_⟩
  · split
    · rename_i fits
      exact readProof_of_shallow_signals accepted sequence fits
    · rename_i deep
      exact exists_tooDeep_of_signals accepted sequence (Nat.not_le.mp deep)
  · refine ⟨[Json.nested (nesting + 1)], by simp, ?_, (List.append_nil _).symm⟩
    simpa using Json.isElement_nested nesting
  · rw [Json.depth_nested]
    omega

/-- Signals with brackets and commas in strings, an escaped quote in a key, and a value that is no
number.
-/
theorem readProof_ignores_signals_nested
    : let nesting := Limits.usual.nesting
      let output := "[\"0x01\",\"\"],[[\"\",\"fF\"],[\"0X\",\"\"]],[\"\",\"2c\"] ".toList
      let signals := "[-1.5e+9,\x7b\"k\\\"]\" : []\x7d, \"],[\\u005d\"] , NaN".toList
      let proof : Groth16Seal := ⟨[[1], []], [[[], [0xFF]], [[], []]], [[], [0x2C]]⟩
      readProof nesting output = .ok proof
      ∧ Json.IsSequence signals
      ∧ readProof nesting (output ++ ',' :: signals) = .ok proof := by
  intro nesting output signals proof
  have accepted : readProof nesting output = .ok proof := by decide +kernel
  have space : Json.Blanks [' '] := by simp [Json.Blanks]
  have digit {char : Char} (decimal : Json.isDigit char = true) : Json.IsDigits [char] :=
    ⟨List.cons_ne_nil _ _, by simpa using decimal⟩
  have number : Json.IsElement (['-'] ++ ['1'] ++ ".5".toList ++ "e+9".toList) :=
    .number <|
      .intro (by decide) (.inr ⟨digit (by decide), by decide⟩)
        (.inr ⟨['5'], digit (by decide), rfl⟩)
        (.inr ⟨'e', by decide, ['+'], by decide, ['9'], digit (by decide), rfl⟩) (by decide)
  have key : Json.IsKey "\"k\\\"]\" ".toList :=
    ⟨[], "k\\\"]".toList, [' '], Json.Blanks.nil,
      .plain (by decide) (.letter (by decide) (.plain (by decide) .nil)), space, rfl⟩
  have empty : Json.IsElement " []".toList :=
    .spaced space (.emptyArray Json.Blanks.nil) Json.Blanks.nil
  have object : Json.IsElement "\x7b\"k\\\"]\" : []\x7d".toList :=
    @Json.IsElement.object [("\"k\\\"]\" ".toList, " []".toList)]
      (by simpa using key) (by simpa using empty)
  have escape : Json.IsBody "\\u005d".toList :=
    .unit (List.all_iff_forall_prop.mp (by decide)) .nil
  have string : Json.IsElement " \"],[\\u005d\"".toList :=
    .spaced space
      (.string (.plain (by decide) (.plain (by decide) (.plain (by decide) escape))))
      Json.Blanks.nil
  have array : Json.IsElement "[-1.5e+9,\x7b\"k\\\"]\" : []\x7d, \"],[\\u005d\"] ".toList := by
    have items
        : ∀ item ∈
            ["-1.5e+9".toList, "\x7b\"k\\\"]\" : []\x7d".toList, " \"],[\\u005d\"".toList],
            Json.IsElement item := by
      simpa using ⟨number, object, string⟩
    exact .spaced Json.Blanks.nil (.array items) space
  have word : Json.IsElement " NaN".toList :=
    .spaced space (@Json.IsElement.word "NaN" (by simp)) Json.Blanks.nil
  have sequence : Json.IsSequence signals :=
    ⟨["[-1.5e+9,\x7b\"k\\\"]\" : []\x7d, \"],[\\u005d\"] ".toList, " NaN".toList], by simp,
      by simpa using ⟨array, word⟩, rfl⟩
  have room : Json.depth ('[' :: signals ++ [']']) ≤ nesting := by decide +kernel
  have ignored := (readProof_ignores_signals accepted).1 signals sequence
  rw [if_pos room] at ignored
  exact ⟨accepted, sequence, ignored⟩

end Witness

end VerifierBootstrap
