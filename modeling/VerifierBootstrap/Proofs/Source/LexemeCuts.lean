import VerifierBootstrap.Proofs.Source.LexemeExchange

/-!
Lexemes that are cut out of their text. A scanner that finds something in the front of a text finds
something in the whole of it, so none that has failed on a text comes in first on a lexeme of it;
and the scanner that found the lexeme finds it again.
-/

namespace VerifierBootstrap

namespace Lexeme

/-- What a scanner finds in the front of a text is not lost when the text goes on, and what it finds
in a text it finds when the text is cut off behind it.
-/
structure Stable (scan : Text → Option Nat) : Prop where
  persists {front : Text} (rest : Text) : (scan front).isSome → (scan (front ++ rest)).isSome
  cut {text : Text} {length : Nat} : scan text = some length → scan (text.take length) = some length

/-- What a scanner does not find in a text it does not find in a front of the text. -/
theorem Stable.take_eq_none {scan : Text → Option Nat} (stable : Stable scan) {text : Text}
    (missing : scan text = none) (length : Nat)
    : scan (text.take length) = none := by
  by_contra found
  have whole := stable.persists (text.drop length) (Option.isSome_iff_ne_none.mpr found)
  rw [List.take_append_drop, missing] at whole
  cases whole

/-- What a scanner finds behind some characters that are passed, it finds there cut off as well. -/
theorem Stable.cut_map {scan : Text → Option Nat} (stable : Stable scan) {text : Text}
    {length : Nat} (passed : Nat) (found : (scan text).map (passed + ·) = some length)
    : ∃ inner, length = passed + inner ∧ scan (text.take inner) = some inner := by
  obtain ⟨inner, within, rfl⟩ := Option.map_eq_some_iff.mp found
  exact ⟨inner, rfl, stable.cut within⟩

-----------------------------------------------------------------------------------------
-- Comments
-----------------------------------------------------------------------------------------

theorem run_take (passes : Char → Bool) (text : Text)
    : run passes (text.take (run passes text)) = run passes text := by
  induction text with
  | nil => rfl
  | cons char rest ih =>
      rw [run_cons]
      split
      · rename_i goesOn
        rw [List.take_succ_cons, run_cons, if_pos goesOn, ih]
      · rfl

theorem takeWhile_append_drop_run (passes : Char → Bool) (text : Text)
    : text.takeWhile passes ++ text.drop (run passes text) = text := by
  induction text with
  | nil => rfl
  | cons char rest ih =>
      rw [run_cons, List.takeWhile_cons]
      split
      · rw [List.cons_append, List.drop_succ_cons, ih]
      · rfl

theorem stable_through? (needle : Text) : Stable (through? needle) where
  persists {front} rest found := by
    induction front with
    | nil =>
        cases needle with
        | nil => cases rest <;> simp [through?]
        | cons => simp [through?] at found
    | cons char front ih =>
        simp only [through?] at found
        simp only [List.cons_append, through?]
        split
        · rfl
        · rename_i later
          -- The front alone cannot begin with the needle, as the whole would too
          have noPrefix : ¬ needle.isPrefixOf (char :: front) = true := by
            intro begins
            have whole := List.isPrefixOf_iff_prefix.mp begins
            exact later (List.isPrefixOf_iff_prefix.mpr
              (whole.trans (List.prefix_append (char :: front) rest)))
          rw [if_neg noPrefix, Option.isSome_map] at found
          rw [Option.isSome_map]
          exact ih found
  cut {text length} found := by
    induction text generalizing length with
    | nil => simpa using found
    | cons char rest ih =>
        simp only [through?] at found
        split at found
        · rename_i begins
          obtain rfl := Option.some.inj found
          have whole := List.isPrefixOf_iff_prefix.mp begins
          rw [← List.prefix_iff_eq_take.mp whole]
          cases needle <;> simp [through?]
        · rename_i later
          obtain ⟨inner, within, rfl⟩ := Option.map_eq_some_iff.mp found
          have noPrefix : ¬ needle.isPrefixOf (char :: rest.take inner) = true := by
            intro begins
            have whole := List.isPrefixOf_iff_prefix.mp begins
            exact later (List.isPrefixOf_iff_prefix.mpr
              (whole.trans (List.take_prefix (inner + 1) (char :: rest))))
          rw [List.take_succ_cons, through?, if_neg noPrefix, ih within]
          rfl

theorem stable_comment? : Stable comment? where
  persists {front} rest found := by
    unfold comment? at found
    split at found
    · simp [comment?]
    · rename_i body
      rw [Option.isSome_map] at found
      simp only [List.cons_append, comment?, Option.isSome_map]
      exact (stable_through? _).persists rest found
    · cases found
  cut {text length} found := by
    unfold comment? at found
    split at found
    · rename_i body
      obtain rfl := Option.some.inj found
      rw [Nat.add_comm, List.take_succ_cons, List.take_succ_cons, comment?, run_take, Nat.add_comm]
    · rename_i body
      obtain ⟨inner, rfl, within⟩ := (stable_through? _).cut_map 2 found
      rw [Nat.add_comm, List.take_succ_cons, List.take_succ_cons, comment?, within, Option.map_some,
        Nat.add_comm]
    · cases found

-----------------------------------------------------------------------------------------
-- Strings
-----------------------------------------------------------------------------------------

theorem stable_closing? (quote : Char) : Stable (closing? quote) where
  persists {front} rest found := by
    induction front using closing?_induction quote with
    | nil => simp [closing?] at found
    | lone => simp [closing?] at found
    | escape char front ih =>
        simp only [closing?, Option.isSome_map] at found
        simp only [List.cons_append, closing?, Option.isSome_map]
        exact ih found
    | ends front noEscape =>
        rw [List.cons_append, closing?_cons _ noEscape, if_pos rfl]
        rfl
    | plain char front noEscape noQuote ih =>
        rw [closing?_cons _ noEscape, if_neg noQuote, Option.isSome_map] at found
        rw [List.cons_append, closing?_cons _ noEscape, if_neg noQuote, Option.isSome_map]
        exact ih found
  cut {text length} found := by
    induction text using closing?_induction quote generalizing length with
    | nil => simp [closing?] at found
    | lone => simp [closing?] at found
    | escape char rest ih =>
        simp only [closing?] at found
        obtain ⟨inner, within, rfl⟩ := Option.map_eq_some_iff.mp found
        rw [Nat.add_comm, List.take_succ_cons, List.take_succ_cons, closing?, ih within,
          Option.map_some, Nat.add_comm]
    | ends rest noEscape =>
        rw [closing?_cons _ noEscape, if_pos rfl] at found
        obtain rfl := Option.some.inj found
        rw [List.take_succ_cons, closing?_cons _ noEscape, if_pos rfl]
    | plain char rest noEscape noQuote ih =>
        rw [closing?_cons _ noEscape, if_neg noQuote] at found
        obtain ⟨inner, within, rfl⟩ := Option.map_eq_some_iff.mp found
        rw [Nat.add_comm, List.take_succ_cons, closing?_cons _ noEscape, if_neg noQuote, ih within,
          Option.map_some, Nat.add_comm]

theorem stable_string? (quotes : List Char) : Stable (string? quotes) where
  persists {front} rest found := by
    cases front with
    | nil => simp [string?] at found
    | cons char front =>
        simp only [string?] at found
        simp only [List.cons_append, string?]
        split at found
        · rename_i opens
          rw [Option.isSome_map] at found
          rw [if_pos opens, Option.isSome_map]
          exact (stable_closing? char).persists rest found
        · cases found
  cut {text length} found := by
    cases text with
    | nil => simp [string?] at found
    | cons char rest =>
        simp only [string?] at found
        split at found
        · rename_i opens
          obtain ⟨inner, rfl, within⟩ := (stable_closing? char).cut_map 1 found
          rw [Nat.add_comm, List.take_succ_cons, string?, if_pos opens, within, Option.map_some,
            Nat.add_comm]
        · cases found

-----------------------------------------------------------------------------------------
-- Raw strings
-----------------------------------------------------------------------------------------

theorem rawBody?_of_signs (signs : Nat) (rest : Text)
    : rawBody? (List.replicate signs '#' ++ '\x22' :: rest)
      = (through? ('\x22' :: List.replicate signs '#') rest).map (signs + 1 + ·) := by
  have all : (List.replicate signs '#').all (· = '#') = true := by simp
  have count : run (· = '#') (List.replicate signs '#' ++ '\x22' :: rest) = signs := by
    rw [run_append_of_all _ all]
    simp [run]
  exact rawBody?_of_quote count (List.drop_left' (by simp))

/-- A raw string behind its `r` begins with signs and a quote. -/
theorem exists_signs_of_rawBody? {text : Text} (found : (rawBody? text).isSome)
    : ∃ signs rest, text = List.replicate signs '#' ++ '\x22' :: rest := by
  have signs : text.takeWhile (· = '#') = List.replicate (run (· = '#') text) '#' :=
    List.eq_replicate_iff.mpr
      ⟨rfl, fun char member => by simpa using List.all_eq_true.mp List.all_takeWhile char member⟩
  have whole := takeWhile_append_drop_run (· = '#') text
  simp only [rawBody?] at found
  split at found
  · rename_i rest quote
    rw [signs, quote] at whole
    exact ⟨_, rest, whole.symm⟩
  · cases found

theorem stable_rawBody? : Stable rawBody? where
  persists {front} rest found := by
    obtain ⟨signs, body, rfl⟩ := exists_signs_of_rawBody? found
    rw [rawBody?_of_signs, Option.isSome_map] at found
    rw [List.append_assoc, List.cons_append, rawBody?_of_signs, Option.isSome_map]
    exact (stable_through? _).persists rest found
  cut {text length} found := by
    obtain ⟨signs, body, rfl⟩ := exists_signs_of_rawBody? (Option.isSome_of_mem found)
    rw [rawBody?_of_signs] at found
    obtain ⟨inner, rfl, within⟩ := (stable_through? _).cut_map (signs + 1) found
    have front
        : (List.replicate signs '#' ++ '\x22' :: body).take (signs + 1 + inner)
          = List.replicate signs '#' ++ '\x22' :: body.take inner := by
      rw [Nat.add_assoc, Nat.add_comm 1, List.take_append, List.take_of_length_le (by simp),
        List.length_replicate, Nat.add_sub_cancel_left, List.take_succ_cons]
    rw [front, rawBody?_of_signs, within, Option.map_some]

theorem stable_rawString? : Stable rawString? where
  persists {front} rest found := by
    unfold rawString? at found
    split at found
    · rw [Option.isSome_map] at found
      simp only [List.cons_append, rawString?, Option.isSome_map]
      exact stable_rawBody?.persists rest found
    · rw [Option.isSome_map] at found
      simp only [List.cons_append, rawString?, Option.isSome_map]
      exact stable_rawBody?.persists rest found
    · cases found
  cut {text length} found := by
    unfold rawString? at found
    split at found
    · obtain ⟨inner, rfl, within⟩ := stable_rawBody?.cut_map 2 found
      rw [Nat.add_comm, List.take_succ_cons, List.take_succ_cons, rawString?, within,
        Option.map_some, Nat.add_comm]
    · obtain ⟨inner, rfl, within⟩ := stable_rawBody?.cut_map 1 found
      rw [Nat.add_comm, List.take_succ_cons, rawString?, within, Option.map_some, Nat.add_comm]
    · cases found

-----------------------------------------------------------------------------------------
-- Character literals
-----------------------------------------------------------------------------------------

/-- The bodies of character literals: a character, an escaped one, or an escape of a byte or of a
code point.
-/
inductive CharacterBody : Text → Prop
  | plain {char : Char} (noEscape : char ≠ '\\') (noQuote : char ≠ '\x27') (noBreak : char ≠ '\n')
    : CharacterBody [char]
  | escape (char : Char) : CharacterBody ['\\', char]
  | byte {first second : Char} (firstDigit : Hex.isDigit first = true)
    (secondDigit : Hex.isDigit second = true)
    : CharacterBody ['\\', 'x', first, second]
  | codePoint {digits : Text} (present : digits ≠ []) (all : digits.all Hex.isDigit = true)
    : CharacterBody ('\\' :: 'u' :: '\x7b' :: (digits ++ ['\x7d']))

theorem codePoint?_of_digits {digits : Text} (present : digits ≠ [])
    (all : digits.all Hex.isDigit = true) (rest : Text)
    : codePoint? ('\x7b' :: (digits ++ '\x7d' :: rest)) = some (digits.length + 2) := by
  have count : run Hex.isDigit (digits ++ '\x7d' :: rest) = digits.length := by
    have stops : Hex.isDigit '\x7d' = false := by decide
    rw [run_append_of_all _ all, run_cons, stops]
    rfl
  have closed : (digits ++ '\x7d' :: rest).drop digits.length = '\x7d' :: rest := List.drop_left
  simp [codePoint?, count, closed, List.length_pos_iff.mpr present]

theorem exists_digits_of_codePoint? {text : Text} {length : Nat}
    (found : codePoint? text = some length)
    : ∃ digits rest,
        digits ≠ []
        ∧ digits.all Hex.isDigit = true
        ∧ text = '\x7b' :: (digits ++ '\x7d' :: rest) := by
  unfold codePoint? at found
  split at found
  · rename_i rest
    dsimp only at found
    split at found
    · rename_i closed
      obtain ⟨present, closed⟩ := closed
      obtain ⟨behind, cut⟩ := List.head?_eq_some_iff.mp closed
      refine ⟨rest.takeWhile Hex.isDigit, behind, List.length_pos_iff.mp present, by simp, ?_⟩
      have whole := takeWhile_append_drop_run Hex.isDigit rest
      rw [cut] at whole
      rw [whole]
    · cases found
  · cases found

/-- What is tried where no escape begins is the character that stands there. -/
theorem characterBody_of_mem_plain {first : Char} {rest : Text} {length : Nat}
    (noEscape : first ≠ '\\') (tried : length ∈ characterBodies (first :: rest))
    : ∃ body, CharacterBody body ∧ body <+: first :: rest ∧ body.length = length := by
  rw [characterBodies_plain _ noEscape] at tried
  split at tried
  · cases tried
  · rename_i plain
    obtain rfl := List.mem_singleton.mp tried
    exact ⟨[first], .plain noEscape (not_or.mp plain).1 (not_or.mp plain).2, ⟨rest, rfl⟩, rfl⟩

/-- What is tried behind a backslash and a `u` is the escape of a code point, or of the `u`. -/
theorem characterBody_of_mem_codePoint {rest : Text} {length : Nat}
    (tried : length ∈ characterBodies ('\\' :: 'u' :: rest))
    : ∃ body, CharacterBody body ∧ body <+: '\\' :: 'u' :: rest ∧ body.length = length := by
  simp only [characterBodies, List.mem_append, List.mem_map, Option.mem_toList,
    List.mem_singleton] at tried
  rcases tried with ⟨inner, found, rfl⟩ | rfl
  · obtain ⟨digits, behind, present, all, rfl⟩ := exists_digits_of_codePoint? found
    rw [codePoint?_of_digits present all] at found
    obtain rfl := Option.some.inj found
    exact ⟨_, .codePoint present all, ⟨behind, by simp⟩, by simp; omega⟩
  · exact ⟨_, .escape 'u', ⟨rest, rfl⟩, rfl⟩

/-- What is tried behind a backslash and an `x` is the escape of a byte, or of the `x`. -/
theorem characterBody_of_mem_byte {rest : Text} {length : Nat}
    (tried : length ∈ characterBodies ('\\' :: 'x' :: rest))
    : ∃ body, CharacterBody body ∧ body <+: '\\' :: 'x' :: rest ∧ body.length = length := by
  rw [characterBodies_byte] at tried
  split at tried
  · rename_i digits
    rcases rest with _ | ⟨first, _ | ⟨second, rest⟩⟩
    · simp at digits
    · simp at digits
    · simp only [List.take_succ_cons, List.take_zero, List.all_cons, List.all_nil, Bool.and_true,
        Bool.and_eq_true] at digits
      rcases List.mem_cons.mp tried with rfl | tried
      · exact ⟨_, .byte digits.2.1 digits.2.2, ⟨rest, rfl⟩, rfl⟩
      · obtain rfl := List.mem_singleton.mp tried
        exact ⟨_, .escape 'x', ⟨_, rfl⟩, rfl⟩
  · obtain rfl := List.mem_singleton.mp tried
    exact ⟨_, .escape 'x', ⟨rest, rfl⟩, rfl⟩

/-- The bodies that are tried are bodies of character literals. -/
theorem characterBody_of_mem {text : Text} {length : Nat} (tried : length ∈ characterBodies text)
    : ∃ body, CharacterBody body ∧ body <+: text ∧ body.length = length := by
  cases text with
  | nil => simp [characterBodies] at tried
  | cons first rest =>
      by_cases escape : first = '\\'
      · subst escape
        cases rest with
        | nil => simp [characterBodies] at tried
        | cons second rest =>
            by_cases code : second = 'u'
            · subst code
              exact characterBody_of_mem_codePoint tried
            · by_cases byte : second = 'x'
              · subst byte
                exact characterBody_of_mem_byte tried
              · rw [characterBodies_escape _ code byte] at tried
                obtain rfl := List.mem_singleton.mp tried
                exact ⟨_, .escape second, ⟨rest, rfl⟩, rfl⟩
      · exact characterBody_of_mem_plain escape tried

/-- A body in front of a single quote is the first that is tried. -/
theorem exists_characterBodies {body : Text} (isBody : CharacterBody body) (rest : Text)
    : ∃ others, characterBodies (body ++ '\x27' :: rest) = body.length :: others := by
  -- The quote behind the body is no digit, so no longer escape is tried before
  have noDigit : Hex.isDigit '\x27' = false := by decide
  cases isBody with
  | plain noEscape noQuote noBreak => exact ⟨[], by simp [characterBodies_plain, *]⟩
  | escape char =>
      by_cases code : char = 'u'
      · subst code
        exact ⟨[], by simp [characterBodies, codePoint?]⟩
      · by_cases byte : char = 'x'
        · subst byte
          refine ⟨[], ?_⟩
          rw [List.cons_append, List.cons_append, characterBodies_byte]
          cases rest <;> simp [noDigit]
        · exact ⟨[], characterBodies_escape _ code byte⟩
  | byte firstDigit secondDigit => exact ⟨[2], by simp [characterBodies_byte, *]⟩
  | codePoint present all =>
      have measured := codePoint?_of_digits present all ('\x27' :: rest)
      exact ⟨[2], by simp [characterBodies, measured]; omega⟩

theorem characterBody?_of_body {body : Text} (isBody : CharacterBody body) (rest : Text)
    : characterBody? (body ++ '\x27' :: rest) = some (body.length + 1) := by
  obtain ⟨others, bodies⟩ := exists_characterBodies isBody rest
  have closes : closesCharacter ((body ++ '\x27' :: rest).drop body.length) = true := by
    rw [List.drop_left]
    rfl
  simp only [characterBody?, bodies, List.find?_cons, closes, Option.map_some]

/-- A character literal behind its opening quote is a body and a quote. -/
theorem characterBody?_eq_some_iff {text : Text} {length : Nat}
    : characterBody? text = some length
      ↔ ∃ body rest,
          CharacterBody body ∧ text = body ++ '\x27' :: rest ∧ length = body.length + 1 := by
  constructor
  · intro found
    obtain ⟨inner, tried, rfl⟩ := Option.map_eq_some_iff.mp found
    obtain ⟨body, isBody, ⟨behind, rfl⟩, rfl⟩ :=
      characterBody_of_mem (List.mem_of_find?_eq_some tried)
    have closes := List.find?_some tried
    rw [closesCharacter_eq, List.drop_left, beq_iff_eq] at closes
    obtain ⟨rest, rfl⟩ := List.head?_eq_some_iff.mp closes
    exact ⟨body, rest, isBody, rfl, rfl⟩
  · rintro ⟨body, rest, isBody, rfl, rfl⟩
    exact characterBody?_of_body isBody rest

theorem stable_characterBody? : Stable characterBody? where
  persists {front} rest found := by
    obtain ⟨length, measured⟩ := Option.isSome_iff_exists.mp found
    obtain ⟨body, behind, isBody, rfl, _⟩ := characterBody?_eq_some_iff.mp measured
    rw [List.append_assoc, List.cons_append, characterBody?_of_body isBody]
    rfl
  cut {text length} found := by
    obtain ⟨body, rest, isBody, rfl, rfl⟩ := characterBody?_eq_some_iff.mp found
    rw [List.take_append, List.take_of_length_le (by omega), Nat.add_sub_cancel_left]
    exact characterBody?_of_body isBody []

theorem stable_character? : Stable character? where
  persists {front} rest found := by
    unfold character? at found
    split at found
    · rw [Option.isSome_map] at found
      simp only [List.cons_append, character?, Option.isSome_map]
      exact stable_characterBody?.persists rest found
    · rw [Option.isSome_map] at found
      simp only [List.cons_append, character?, Option.isSome_map]
      exact stable_characterBody?.persists rest found
    · cases found
  cut {text length} found := by
    unfold character? at found
    split at found
    · obtain ⟨inner, rfl, within⟩ := stable_characterBody?.cut_map 2 found
      rw [Nat.add_comm, List.take_succ_cons, List.take_succ_cons, character?, within,
        Option.map_some, Nat.add_comm]
    · obtain ⟨inner, rfl, within⟩ := stable_characterBody?.cut_map 1 found
      rw [Nat.add_comm, List.take_succ_cons, character?, within, Option.map_some, Nat.add_comm]
    · cases found

-----------------------------------------------------------------------------------------
-- First lexemes
-----------------------------------------------------------------------------------------

/-- A literal that is cut out is the same literal. What is tried before it is not found in it, as it
was not found in the text.
-/
theorem literal?_take {dialect : Dialect} {text : Text} {kind : LexemeKind} {length : Nat}
    (found : literal? dialect text = some (kind, length))
    : literal? dialect (text.take length) = some (kind, length) := by
  cases dialect with
  | generic | solidity =>
      simp only [literal?, Option.map_eq_some_iff, Prod.mk.injEq] at found
      obtain ⟨_, string, rfl, rfl⟩ := found
      simp only [literal?, (stable_string? _).cut string, Option.map_some]
  | rust =>
      simp only [literal?] at found
      split at found
      · rename_i raw
        obtain ⟨rfl, rfl⟩ := Prod.mk.inj (Option.some.inj found)
        simp only [literal?, stable_rawString?.cut raw]
      · rename_i noRaw
        split at found
        · rename_i string
          obtain ⟨rfl, rfl⟩ := Prod.mk.inj (Option.some.inj found)
          simp only [literal?, stable_rawString?.take_eq_none noRaw, (stable_string? _).cut string]
        · rename_i noString
          simp only [Option.map_eq_some_iff, Prod.mk.injEq] at found
          obtain ⟨_, character, rfl, rfl⟩ := found
          simp only [literal?, stable_rawString?.take_eq_none noRaw,
            (stable_string? _).take_eq_none noString, stable_character?.cut character,
            Option.map_some]

theorem literal?_take_eq_none {dialect : Dialect} {text : Text}
    (missing : literal? dialect text = none) (length : Nat)
    : literal? dialect (text.take length) = none := by
  cases dialect with
  | generic | solidity =>
      simp only [literal?, Option.map_eq_none_iff] at missing ⊢
      exact (stable_string? _).take_eq_none missing length
  | rust =>
      simp only [literal?] at missing
      split at missing
      · cases missing
      · rename_i noRaw
        split at missing
        · cases missing
        · rename_i noString
          rw [Option.map_eq_none_iff] at missing
          simp only [literal?, stable_rawString?.take_eq_none noRaw,
            (stable_string? _).take_eq_none noString, stable_character?.take_eq_none missing,
            Option.map_none]

theorem common_take {char : Char} {rest : Text} {kind : LexemeKind} {length : Nat}
    (found : common char rest = (kind, length))
    : common char (rest.take (length - 1)) = (kind, length) := by
  unfold common at found ⊢
  split at found
  · obtain ⟨rfl, rfl⟩ := Prod.mk.inj found
    rw [Nat.add_sub_cancel_left, run_take, if_pos ‹_›]
  · rw [if_neg ‹_›]
    split at found
    · obtain ⟨rfl, rfl⟩ := Prod.mk.inj found
      rw [Nat.add_sub_cancel_left, run_take, if_pos ‹_›]
    · rw [if_neg ‹_›]
      split at found
      · obtain ⟨rfl, rfl⟩ := Prod.mk.inj found
        rw [Nat.add_sub_cancel_left, run_take, if_pos ‹_›]
      · obtain ⟨rfl, rfl⟩ := Prod.mk.inj found
        rw [if_neg ‹_›]

theorem first_pos {dialect : Dialect} {char : Char} {rest : Text} {kind : LexemeKind}
    {length : Nat} (found : first dialect char rest = (kind, length))
    : 0 < length := by
  -- What has no length would be found in the empty text
  rcases first_cases found with ⟨_, comment⟩ | literal | shared
  · rcases Nat.eq_zero_or_pos length with rfl | positive
    · cases stable_comment?.cut comment
    · exact positive
  · rcases Nat.eq_zero_or_pos length with rfl | positive
    · have empty := literal?_take literal
      cases dialect <;> cases empty
    · exact positive
  · rcases common_cases shared with h | h | h | h <;> omega

/-- A first lexeme that is cut out is the same lexeme: neither can what is tried before it be found
in it, nor does it end sooner or later.
-/
theorem first_take {dialect : Dialect} {char : Char} {rest : Text} {kind : LexemeKind}
    {length : Nat} (found : first dialect char rest = (kind, length))
    : first dialect char (rest.take (length - 1)) = (kind, length) := by
  have positive : 0 < length := first_pos found
  have cut : char :: rest.take (length - 1) = (char :: rest).take length :=
    (List.take_cons positive).symm
  unfold first at found ⊢
  cases comment : comment? (char :: rest) with
  | some measured =>
      rw [comment] at found
      obtain ⟨rfl, rfl⟩ := Prod.mk.inj found
      rw [cut, stable_comment?.cut comment]
  | none =>
      rw [comment] at found
      cases literal : literal? dialect (char :: rest) with
      | some measured =>
          rw [literal, Option.getD_some] at found
          obtain rfl := found
          rw [cut, stable_comment?.take_eq_none comment, literal?_take literal, Option.getD_some]
      | none =>
          rw [literal, Option.getD_none] at found
          rw [cut, stable_comment?.take_eq_none comment, literal?_take_eq_none literal,
            Option.getD_none]
          exact common_take found

end Lexeme

/-- A lexeme is the only lexeme of its own text. -/
theorem lexemes_of_mem {dialect : Dialect} {text : Text} {lexeme : Lexeme}
    (member : lexeme ∈ lexemes dialect text)
    : lexemes dialect lexeme.text = [lexeme] := by
  obtain ⟨char, rest, length, found, cut⟩ := exists_first_of_mem member
  rw [cut, lexemes_of_first (Lexeme.first_take found), List.take_take, Nat.min_self,
    List.drop_eq_nil_of_le (List.length_take_le _ _), ← cut, lexemes]

end VerifierBootstrap
