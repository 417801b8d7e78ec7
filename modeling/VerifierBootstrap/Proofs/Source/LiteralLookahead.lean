import Mathlib.Data.List.Find
import VerifierBootstrap.Proofs.Source.Lookahead

/-!
Scanners of literals at a distance from a change. A string can be left open up to the change by a
backslash in front of it, a character literal looks at most two characters past the front, and a
raw string is searched for its end as a comment is.
-/

namespace VerifierBootstrap.Lexeme

-----------------------------------------------------------------------------------------
-- Strings
-----------------------------------------------------------------------------------------

theorem closing?_cons {quote char : Char} (rest : Text) (noEscape : char ≠ '\\')
    : closing? quote (char :: rest)
      = if char = quote then some 1 else (closing? quote rest).map (1 + ·) := by
  rw [closing?]
  · simp [noEscape]
  · simp [noEscape]

/-- A string goes on over characters that neither end it nor escape another. -/
theorem closing?_skip {quote : Char} {skipped : Text} (rest : Text)
    (apart : ∀ char ∈ skipped, char ≠ quote ∧ char ≠ '\\')
    : closing? quote (skipped ++ rest) = (closing? quote rest).map (skipped.length + ·) := by
  induction skipped with
  | nil => simp
  | cons char skipped ih =>
      have later := ih fun char member => apart char (List.mem_cons_of_mem _ member)
      obtain ⟨noQuote, noEscape⟩ := apart char (by simp)
      rw [List.cons_append, closing?_cons _ noEscape, if_neg noQuote, later, Option.map_map]
      congr 1
      funext length
      simp only [Function.comp, List.length_cons]
      omega

/-- The recursion of the scanner of strings as a principle of induction: an escape takes the next
character along, and a plain character is the quote or is passed over.
-/
theorem closing?_induction (quote : Char) {motive : Text → Prop} (nil : motive [])
    (lone : motive ['\\'])
    (escape : ∀ char rest, motive rest → motive ('\\' :: char :: rest))
    (ends : ∀ rest, quote ≠ '\\' → motive (quote :: rest))
    (plain : ∀ char rest, char ≠ '\\' → char ≠ quote → motive rest → motive (char :: rest))
    (text : Text)
    : motive text := by
  have noEscape {char : Char} {rest : Text} (alone : char = '\\' → rest = [] → False)
      (followed : ∀ next more, char = '\\' → rest = next :: more → False)
      : char ≠ '\\' := by
    rintro rfl
    cases rest with
    | nil => exact alone rfl rfl
    | cons next more => exact followed next more rfl rfl
  induction text using closing?.induct quote with
  | case1 => exact nil
  | case2 => exact lone
  | case3 char rest ih => exact escape char rest ih
  | case4 rest alone followed => exact ends rest (noEscape alone followed)
  | case5 char rest alone followed noQuote ih =>
      exact plain char rest (noEscape alone followed) noQuote ih

/-- Strings are alike in front of two changed parts, if they are when the front is used up and
when its last character escapes the first of the change.
-/
theorem closing?_alike {quote : Char} {old new : Text} (front : Text)
    (whole : Alike 0 (closing? quote old) (closing? quote new))
    (escaped : Alike 1 (closing? quote ('\\' :: old)) (closing? quote ('\\' :: new)))
    : Alike front.length (closing? quote (front ++ old)) (closing? quote (front ++ new)) := by
  induction front using closing?_induction quote with
  | nil => exact whole
  | lone => exact escaped
  | escape char rest ih =>
      simp only [List.cons_append, closing?]
      exact ih.map (by simp; omega)
  | ends rest noEscape =>
      simp only [List.cons_append, closing?_cons _ noEscape, if_true]
      exact .same _
  | plain char rest noEscape noQuote ih =>
      simp only [List.cons_append, closing?_cons _ noEscape, if_neg noQuote]
      exact ih.map (by simp; omega)

theorem string?_alike (quotes : List Char) {front old new : Text} (present : front ≠ [])
    (body
      : ∀ quote ∈ quotes, ∀ rest,
          Alike rest.length (closing? quote (rest ++ old)) (closing? quote (rest ++ new)))
    : Alike front.length (string? quotes (front ++ old)) (string? quotes (front ++ new)) := by
  obtain ⟨first, rest, rfl⟩ := List.exists_cons_of_ne_nil present
  simp only [List.cons_append, string?]
  by_cases opens : first ∈ quotes
  · simp only [opens, if_true]
    exact (body first opens rest).map (by simp; omega)
  · simp only [opens, if_false]
    exact .same none

-----------------------------------------------------------------------------------------
-- Raw strings
-----------------------------------------------------------------------------------------

theorem rawBody?_of_quote {text rest : Text} {signs : Nat} (count : run (· = '#') text = signs)
    (quote : text.drop signs = '\x22' :: rest)
    : rawBody? text
      = (through? ('\x22' :: List.replicate signs '#') rest).map (signs + 1 + ·) := by
  simp only [rawBody?, count, quote]

theorem rawBody?_of_ne_quote {text rest : Text} {signs : Nat} {char : Char}
    (count : run (· = '#') text = signs) (after : text.drop signs = char :: rest)
    (noQuote : char ≠ '\x22')
    : rawBody? text = none := by
  simp only [rawBody?, count, after]
  split
  · rename_i same
    exact absurd (List.cons.inj same).1 noQuote
  · rfl

/-- Raw strings behind their `r` are alike in front of two strings. The quote that opens them is
in the front, and its end is searched for; or it is the quote of the change, and then the end lies
behind it. `base` and `inside` are these two searches.
-/
theorem rawBody?_alike {old new : Text} (front : Text)
    (base
      : ∀ signs,
          Alike 0 (through? ('\x22' :: List.replicate signs '#') ('\x22' :: old))
            (through? ('\x22' :: List.replicate signs '#') ('\x22' :: new)))
    (inside
      : ∀ signs,
          Alike 0 (through? ('\x22' :: List.replicate signs '#') old)
            (through? ('\x22' :: List.replicate signs '#') new))
    : Alike front.length (rawBody? (front ++ '\x22' :: old))
        (rawBody? (front ++ '\x22' :: new)) := by
  have within := run_le (· = '#') front
  have count (rest : Text)
      : run (· = '#') (front ++ '\x22' :: rest) = run (· = '#') front :=
    run_append_stop front rest (by decide)
  have after (rest : Text)
      : (front ++ '\x22' :: rest).drop (run (· = '#') front)
        = front.drop (run (· = '#') front) ++ '\x22' :: rest :=
    List.drop_append_of_le_length within
  cases tail : front.drop (run (· = '#') front) with
  | nil =>
      -- The signs use up the front, so the quote of the change is the opening one
      have whole : run (· = '#') front = front.length := by
        have := congrArg List.length tail
        simp only [List.length_drop, List.length_nil] at this
        omega
      rw [rawBody?_of_quote (count old) (by rw [after, tail]; rfl),
        rawBody?_of_quote (count new) (by rw [after, tail]; rfl), whole]
      exact (inside front.length).map (by omega)
  | cons next rest =>
      have length : rest.length + run (· = '#') front + 1 = front.length := by
        have := congrArg List.length tail
        simp only [List.length_drop, List.length_cons] at this
        omega
      by_cases quote : next = '\x22'
      · subst quote
        -- The search begins in the front, and no sign of its needle begins the change
        rw [rawBody?_of_quote (count old) (by rw [after, tail]; rfl),
          rawBody?_of_quote (count new) (by rw [after, tail]; rfl)]
        have noSign (signs : Nat) : '\x22' ∉ ('\x22' :: List.replicate signs '#').tail := by
          simp
        exact (through?_alike rest (noSign _) (noSign _) (base _)).map (by omega)
      · rw [rawBody?_of_ne_quote (count old) (by rw [after, tail]; rfl) quote,
          rawBody?_of_ne_quote (count new) (by rw [after, tail]; rfl) quote]
        exact .same none

/-- A text is no raw string unless it begins with an `r`, or with a `b` and an `r`. -/
theorem rawString?_eq_none {first : Char} {rest : Text} (noRaw : first ≠ 'r')
    (noBytes : first = 'b' → rest.head? ≠ some 'r')
    : rawString? (first :: rest) = none := by
  rw [rawString?]
  · intro more same
    obtain ⟨rfl, rfl⟩ := List.cons.inj same
    exact noBytes rfl rfl
  · intro more same
    exact noRaw (List.cons.inj same).1

/-- Raw strings are alike in front of two strings, if their bodies are. -/
theorem rawString?_alike {front old new : Text} (present : front ≠ [])
    (body
      : ∀ rest : Text,
          Alike rest.length (rawBody? (rest ++ '\x22' :: old))
            (rawBody? (rest ++ '\x22' :: new)))
    : Alike front.length (rawString? (front ++ '\x22' :: old))
        (rawString? (front ++ '\x22' :: new)) := by
  obtain ⟨first, rest, rfl⟩ := List.exists_cons_of_ne_nil present
  by_cases raw : first = 'r'
  · subst raw
    simp only [List.cons_append, rawString?]
    exact (body rest).map (by simp; omega)
  · by_cases bytes : first = 'b' ∧ rest.head? = some 'r'
    · obtain ⟨rfl, head⟩ := bytes
      obtain ⟨more, rfl⟩ := List.head?_eq_some_iff.mp head
      simp only [List.cons_append, rawString?]
      exact (body more).map (by simp; omega)
    · have other (tail : Text) : rawString? (first :: rest ++ '\x22' :: tail) = none := by
        apply rawString?_eq_none raw
        rintro rfl
        cases rest with
        | nil => simp
        | cons second rest => simpa using bytes
      rw [other, other]
      exact .same none

-----------------------------------------------------------------------------------------
-- Character literals
-----------------------------------------------------------------------------------------

theorem closesCharacter_eq (text : Text)
    : closesCharacter text = (text.head? == some '\x27') := by
  cases text with
  | nil => simp [closesCharacter]
  | cons char rest =>
      by_cases quote : char = '\x27'
      · subst quote
        simp [closesCharacter]
      · rw [closesCharacter]
        · simp [quote]
        · simp [quote]

/-- An escape by code point ends in front of a double quote. -/
theorem codePoint?_append (front old new : Text)
    : codePoint? (front ++ '\x22' :: old) = codePoint? (front ++ '\x22' :: new) := by
  cases front with
  | nil => simp [codePoint?]
  | cons first front =>
      by_cases opens : first = '\x7b'
      · subst opens
        have within := run_le Hex.isDigit front
        have stops : Hex.isDigit '\x22' = false := by decide
        simp only [List.cons_append, codePoint?, run_append_stop front _ stops, List.head?_drop]
        rcases Nat.lt_or_eq_of_le within with shorter | whole
        · rw [List.getElem?_append_left shorter, List.getElem?_append_left shorter]
        · rw [List.getElem?_append_right (by omega), List.getElem?_append_right (by omega)]
          simp [whole]
      · rw [List.cons_append, List.cons_append, codePoint?, codePoint?]
        · simp [opens]
        · simp [opens]

/-- An escape by code point has its closing brace in front of a double quote. -/
theorem codePoint?_le {front rest : Text} {length : Nat}
    (found : codePoint? (front ++ '\x22' :: rest) = some length)
    : length ≤ front.length := by
  cases front with
  | nil => simp [codePoint?] at found
  | cons first front =>
      by_cases opens : first = '\x7b'
      · subst opens
        have within := run_le Hex.isDigit front
        have stops : Hex.isDigit '\x22' = false := by decide
        simp only [List.cons_append, codePoint?, run_append_stop front _ stops,
          List.head?_drop] at found
        split at found
        · rename_i closed
          rcases Nat.lt_or_eq_of_le within with shorter | whole
          · simp only [Option.some.injEq] at found
            rw [List.length_cons]
            omega
          · rw [List.getElem?_append_right (by omega)] at closed
            simp [whole] at closed
        · exact absurd found (by simp)
      · rw [List.cons_append, codePoint?] at found
        · exact absurd found (by simp)
        · simp [opens]

theorem characterBodies_plain {char : Char} (rest : Text) (noEscape : char ≠ '\\')
    : characterBodies (char :: rest) = if char = '\x27' ∨ char = '\n' then [] else [1] := by
  unfold characterBodies
  split <;> simp_all

theorem characterBodies_escape {char : Char} (rest : Text) (noCode : char ≠ 'u')
    (noByte : char ≠ 'x')
    : characterBodies ('\\' :: char :: rest) = [2] := by
  rw [characterBodies]
  · simp [noCode]
  · simp [noByte]

theorem characterBodies_byte (rest : Text)
    : characterBodies ('\\' :: 'x' :: rest)
      = if (rest.take 2).length = 2 ∧ (rest.take 2).all Hex.isDigit then [4, 2] else [2] := by
  match rest with
  | [] => simp [characterBodies]
  | [_] => simp [characterBodies]
  | first :: second :: _ => simp [characterBodies]

theorem characterBodies_append (front : Text) (oldHead newHead : Char) (old new : Text)
    : characterBodies (front ++ '\x22' :: oldHead :: old)
      = characterBodies (front ++ '\x22' :: newHead :: new) := by
  match front with
  | [] => simp [characterBodies_plain]
  | [first] =>
      by_cases escape : first = '\\'
      · subst escape
        simp [characterBodies_escape]
      · simp [characterBodies_plain _ escape]
  | first :: second :: rest =>
      by_cases escape : first = '\\'
      · subst escape
        by_cases code : second = 'u'
        · subst code
          simp only [List.cons_append, characterBodies,
            codePoint?_append rest (oldHead :: old) (newHead :: new)]
        · by_cases byte : second = 'x'
          · subst byte
            simp only [List.cons_append, characterBodies_byte]
            have noDigit : Hex.isDigit '\x22' = false := by decide
            match rest with
            | [] => simp [noDigit]
            | [_] => simp
            | _ :: _ :: _ => simp
          · simp [characterBodies_escape _ code byte]
      · simp [characterBodies_plain _ escape]

/-- The body of a character literal ends at most one character behind a double quote. -/
theorem characterBodies_le {front rest : Text} {head : Char} {length : Nat}
    (body : length ∈ characterBodies (front ++ '\x22' :: head :: rest))
    : length ≤ front.length + 1 := by
  have noDigit : Hex.isDigit '\x22' = false := by decide
  match front with
  | [] => simp_all [characterBodies_plain]
  | [first] =>
      by_cases escape : first = '\\'
      · subst escape
        simp_all [characterBodies_escape]
      · rw [List.cons_append, characterBodies_plain _ escape] at body
        split at body <;> simp_all
  | first :: second :: more =>
      by_cases escape : first = '\\'
      · subst escape
        by_cases code : second = 'u'
        · subst code
          simp only [List.cons_append, characterBodies, List.mem_append, List.mem_map,
            Option.mem_toList, List.mem_singleton] at body
          rcases body with ⟨inner, found, rfl⟩ | rfl
          · have within := codePoint?_le found
            simp only [List.length_cons]
            omega
          · simp
        · by_cases byte : second = 'x'
          · subst byte
            simp only [List.cons_append, characterBodies_byte] at body
            split at body
            · match more with
              | [] => simp_all
              | [_] => simp_all
              | _ :: _ :: _ =>
                  simp only [List.mem_cons, List.not_mem_nil, or_false] at body
                  simp only [List.length_cons]
                  omega
            · simp_all
          · simp_all [characterBodies_escape _ code byte]
      · rw [List.cons_append, characterBodies_plain _ escape] at body
        split at body <;> simp_all

/-- A character literal does not depend on a string behind it, unless that begins with a single
quote: its body is the same, and its closing quote is in front of the string or not at all.
-/
theorem characterBody?_append {oldHead newHead : Char} (front old new : Text)
    (oldPlain : oldHead ≠ '\x27') (newPlain : newHead ≠ '\x27')
    : characterBody? (front ++ '\x22' :: oldHead :: old)
      = characterBody? (front ++ '\x22' :: newHead :: new) := by
  have closes {length : Nat} (within : length ≤ front.length + 1)
      : closesCharacter ((front ++ '\x22' :: oldHead :: old).drop length)
        = closesCharacter ((front ++ '\x22' :: newHead :: new).drop length) := by
    simp only [closesCharacter_eq, List.head?_drop]
    rcases Nat.lt_or_ge length front.length with inFront | behind
    · rw [List.getElem?_append_left inFront, List.getElem?_append_left inFront]
    · rw [List.getElem?_append_right behind, List.getElem?_append_right behind]
      obtain first | second : length - front.length = 0 ∨ length - front.length = 1 := by omega
      · simp [first]
      · simp [second, beq_eq_false_iff_ne.mpr oldPlain, beq_eq_false_iff_ne.mpr newPlain]
  unfold characterBody?
  rw [characterBodies_append front newHead oldHead new old]
  congr 1
  exact List.find?_congr fun length body => closes (characterBodies_le body)

/-- A text is no character literal unless it begins with a single quote, or with one behind a
`b`.
-/
theorem character?_eq_none {first : Char} {rest : Text} (noQuote : first ≠ '\x27')
    (noBytes : first = 'b' → rest.head? ≠ some '\x27')
    : character? (first :: rest) = none := by
  rw [character?]
  · intro more same
    obtain ⟨rfl, rfl⟩ := List.cons.inj same
    exact noBytes rfl rfl
  · intro more same
    exact noQuote (List.cons.inj same).1

/-- Character literals in front of a string do not depend on it. -/
theorem character?_append {front : Text} {oldHead newHead : Char} (old new : Text)
    (present : front ≠ []) (oldPlain : oldHead ≠ '\x27') (newPlain : newHead ≠ '\x27')
    : character? (front ++ '\x22' :: oldHead :: old)
      = character? (front ++ '\x22' :: newHead :: new) := by
  obtain ⟨first, rest, rfl⟩ := List.exists_cons_of_ne_nil present
  by_cases quote : first = '\x27'
  · subst quote
    simp only [List.cons_append, character?,
      characterBody?_append rest old new oldPlain newPlain]
  · by_cases bytes : first = 'b' ∧ rest.head? = some '\x27'
    · obtain ⟨rfl, head⟩ := bytes
      obtain ⟨more, rfl⟩ := List.head?_eq_some_iff.mp head
      simp only [List.cons_append, character?,
        characterBody?_append more old new oldPlain newPlain]
    · have other (tail : Text) : character? (first :: rest ++ '\x22' :: tail) = none := by
        apply character?_eq_none quote
        rintro rfl
        cases rest with
        | nil => simp
        | cons second rest => simpa using bytes
      rw [other, other]

end VerifierBootstrap.Lexeme
