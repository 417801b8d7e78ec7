import VerifierBootstrap.Proofs.Json.Refusals
import VerifierBootstrap.Proofs.Witness.ProverOutput
import VerifierBootstrap.Settings.Machine

/-!
The texts that a prover may write for a proof. A token is digits in any mix of cases, behind one
mark or none, and blanks may stand between any two lexemes and around them. Whichever text is
written, the proof is read from it.
-/

namespace VerifierBootstrap.Witness

/-- A token in quotes: digits of bytes, behind one mark or none. -/
inductive WrittenToken : Bytes → List Text → Prop where
  | intro {bytes : Bytes} {mark digits : Text}
    (marked : mark ∈ Hex.marks) (spelled : Hex.Spells digits bytes)
    : WrittenToken bytes ['\x22' :: (mark ++ digits ++ ['\x22'])]

/-- Two items in brackets, with a comma between them. -/
inductive WrittenTwo {α : Type} (Written : α → List Text → Prop) : List α → List Text → Prop where
  | intro {left right : α} {first second : List Text}
    (atFirst : Written left first) (atSecond : Written right second)
    : WrittenTwo Written [left, right] (Json.bracketed [first, second])

/-- Two tokens in brackets. -/
def WrittenPair : List Bytes → List Text → Prop :=
  WrittenTwo WrittenToken

/-- Two pairs in brackets. -/
def WrittenPairs : List (List Bytes) → List Text → Prop :=
  WrittenTwo WrittenPair

/-- The groups of a proof, with commas between them and no brackets around them. -/
inductive WrittenProof : Groth16Seal → List Text → Prop where
  | intro {a c : List Bytes} {b : List (List Bytes)} {first second third : List Text}
    (atFirst : WrittenPair a first) (atSecond : WrittenPairs b second)
    (atThird : WrittenPair c third)
    : WrittenProof ⟨a, b, c⟩ (Json.separated [','] [first, second, third])

-----------------------------------------------------------------------------------------
-- What is written
-----------------------------------------------------------------------------------------

/-- A digit stands for itself between quotes. -/
theorem isPlain_of_isDigitOf {char : Char} {value : Nat} (digit : Hex.IsDigitOf char value)
    : Json.IsPlain char := by
  have letters : (Hex.lowercase ++ Hex.uppercase).all (decide <| Json.IsPlain ·) = true := by decide
  refine of_decide_eq_true (List.all_eq_true.mp letters char ?_)
  rcases digit with lower | upper
  · exact List.mem_append_left _ (List.mem_of_getElem? lower)
  · exact List.mem_append_right _ (List.mem_of_getElem? upper)

/-- Digits stand for themselves between quotes. By induction on the spelling. -/
theorem isPlain_of_spells {digits : Text} {bytes : Bytes} (spelled : Hex.Spells digits bytes)
    : ∀ char ∈ digits, Json.IsPlain char := by
  induction spelled with
  | nil => exact fun _ member => nomatch member
  | cons first second _ ih =>
      intro char member
      rcases List.mem_cons.mp member with rfl | member
      · exact isPlain_of_isDigitOf first
      · rcases List.mem_cons.mp member with rfl | member
        · exact isPlain_of_isDigitOf second
        · exact ih char member

theorem isPlain_of_mem_marks {mark : Text} (marked : mark ∈ Hex.marks)
    : ∀ char ∈ mark, Json.IsPlain char := by
  have letters : Hex.marks.flatten.all (decide <| Json.IsPlain ·) = true := by decide
  intro char member
  exact of_decide_eq_true
    (List.all_eq_true.mp letters char (List.mem_flatten.mpr ⟨mark, marked, member⟩))

variable {lexemes : List Text}

theorem WrittenToken.exists_value {bytes : Bytes} (written : WrittenToken bytes lexemes)
    : ∃ value, Json.Writes 0 lexemes value ∧ IsToken value bytes := by
  obtain ⟨marked, spelled⟩ := written
  refine ⟨_, Json.writes_string fun char member => ?_, _, marked, _, rfl, spelled⟩
  rcases List.mem_append.mp member with inside | inside
  · exact isPlain_of_mem_marks marked char inside
  · exact isPlain_of_spells spelled char inside

/-- Two items are written as the list of two values if each item is written as a value. -/
theorem WrittenTwo.exists_value {α : Type} {Written : α → List Text → Prop}
    {IsItem : Json → α → Prop} {items : List α} {height : Nat}
    (each
      : ∀ {item lexemes}, Written item lexemes
          → ∃ value, Json.Writes height lexemes value ∧ IsItem value item)
    (written : WrittenTwo Written items lexemes)
    : ∃ value, Json.Writes (height + 1) lexemes value ∧ IsTwo IsItem value items := by
  obtain ⟨atFirst, atSecond⟩ := written
  obtain ⟨first, firstWritten, atFirst⟩ := each atFirst
  obtain ⟨second, secondWritten, atSecond⟩ := each atSecond
  exact ⟨_, Json.writes_array (.cons firstWritten (.cons secondWritten .nil)),
    .intro atFirst atSecond⟩

theorem WrittenPair.exists_value {pair : List Bytes} (written : WrittenPair pair lexemes)
    : ∃ value, Json.Writes 1 lexemes value ∧ IsPair value pair :=
  WrittenTwo.exists_value WrittenToken.exists_value written

theorem WrittenPairs.exists_value {pairs : List (List Bytes)}
    (written : WrittenPairs pairs lexemes)
    : ∃ value, Json.Writes 2 lexemes value ∧ IsPairs value pairs :=
  WrittenTwo.exists_value WrittenPair.exists_value written

/-- A proof is read from every text of its lexemes on every machine, however its digits are written
and whatever blanks stand between the lexemes and around them. Witness: in brackets the text is a
JSON array of three levels, and its items are the groups of the proof.
-/
theorem readProof_of_written {proof : Groth16Seal} {output : Text}
    (written : WrittenProof proof lexemes) (spaced : Json.Spaced lexemes output) (limits : Limits)
    : readProof limits.nesting output = .ok proof := by
  obtain ⟨atFirst, atSecond, atThird⟩ := written
  obtain ⟨first, firstWritten, atFirst⟩ := atFirst.exists_value
  obtain ⟨second, secondWritten, atSecond⟩ := atSecond.exists_value
  obtain ⟨third, thirdWritten, atThird⟩ := atThird.exists_value
  have groups :=
    Json.writes_array
      (.cons (firstWritten.mono (by decide)) (.cons secondWritten
        (.cons (thirdWritten.mono (by decide)) .nil)))
  have enclosed := (Json.Spaced.single ['[']).append (spaced.append (.single [']']))
  have fits := Nat.le_trans (Json.depth_of_spaced groups enclosed) limits.three_le_nesting
  have parsed := Json.parseWithin_eq_ok_iff.mpr ⟨Json.parse_of_spaced groups enclosed, fits⟩
  exact (readProof_eq_ok_iff (groups_of_parse parsed)).mpr (.intro atFirst atSecond atThird)

/-- Tokens of a mark alone, of mixed cases and of zeros, with every blank between the groups. -/
theorem readProof_of_written_mixed
    : readProof Limits.usual.nesting
        " [\"0X\",\"0xaB\"]\n,[[\"00\",\"\"],[\"Ff\",\"0X0A\"]],\t[\"\",\"0x00\"]\r".toList
      = .ok ⟨[[], [0xAB]], [[[0x00], []], [[0xFF], [0x0A]]], [[], [0x00]]⟩ := by
  have token (mark digits : Text) {bytes : Bytes} (marked : mark ∈ Hex.marks)
      (read : Hex.decode? digits = some bytes)
      : WrittenToken bytes ['\x22' :: (mark ++ digits ++ ['\x22'])] :=
    .intro marked (Hex.spells_of_decode? read)
  have written :=
    WrittenProof.intro
      (.intro (token "0X".toList [] (by decide) rfl)
        (token "0x".toList "aB".toList (by decide) rfl))
      (.intro
        (.intro (token [] "00".toList (by decide) rfl) (token [] [] (by decide) rfl))
        (.intro (token [] "Ff".toList (by decide) rfl)
          (token "0X".toList "0A".toList (by decide) rfl)))
      (.intro (token [] [] (by decide) rfl) (token "0x".toList "00".toList (by decide) rfl))
  have blank (char : Char) (member : char ∈ [' ', '\t', '\n', '\r']) : Json.Blanks [char] := by
    intro other same
    rwa [List.mem_singleton.mp same]
  have spaced :=
    Json.Spaced.blanks_append (blank ' ' (by decide)) <|
      (Json.Spaced.flatten (Json.bracketed [["\"0X\"".toList], ["\"0xaB\"".toList]])).append <|
      Json.Spaced.blanks_append (blank '\n' (by decide)) <|
      (Json.Spaced.flatten
          ([','] :: Json.bracketed
            [Json.bracketed [["\"00\"".toList], ["\"\"".toList]],
              Json.bracketed [["\"Ff\"".toList], ["\"0X0A\"".toList]]])).append <|
      (Json.Spaced.single [',']).append <|
      Json.Spaced.blanks_append (blank '\t' (by decide)) <|
      (Json.Spaced.flatten (Json.bracketed [["\"\"".toList], ["\"0x00\"".toList]])).append <|
      .nil (blank '\r' (by decide))
  exact readProof_of_written written spaced .usual

end VerifierBootstrap.Witness
