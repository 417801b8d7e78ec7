import VerifierBootstrap.Proofs.Source.LiteralExchange

/-!
The shapes of lexemes. The first lexeme of a text tells by its kind which scanner found it, and so
how it begins, how it ends and how far it goes; and the literal of a value is read back as one
lexeme.
-/

namespace VerifierBootstrap

-----------------------------------------------------------------------------------------
-- What the first lexeme can be
-----------------------------------------------------------------------------------------

namespace Lexeme

/-- The quotes of the strings of a dialect. -/
def stringQuotes : Dialect → List Char
  | .rust => ['\x22']
  | .generic | .solidity => ['\x22', '\x27']

/-- A literal is a raw string, a string or a character, as its scanner finds it. -/
theorem literal?_cases {dialect : Dialect} {text : Text} {kind : LexemeKind} {length : Nat}
    (found : literal? dialect text = some (kind, length))
    : (kind = .rawString ∧ rawString? text = some length)
      ∨ (kind = .string ∧ string? (stringQuotes dialect) text = some length)
      ∨ (kind = .character ∧ character? text = some length) := by
  cases dialect with
  | generic | solidity =>
      simp only [literal?, Option.map_eq_some_iff, Prod.mk.injEq] at found
      obtain ⟨_, string, rfl, rfl⟩ := found
      exact Or.inr (Or.inl ⟨rfl, string⟩)
  | rust =>
      simp only [literal?] at found
      split at found
      · rename_i raw
        obtain ⟨rfl, rfl⟩ := Prod.mk.inj (Option.some.inj found)
        exact Or.inl ⟨rfl, raw⟩
      · split at found
        · rename_i string
          obtain ⟨rfl, rfl⟩ := Prod.mk.inj (Option.some.inj found)
          exact Or.inr (Or.inl ⟨rfl, string⟩)
        · simp only [Option.map_eq_some_iff, Prod.mk.injEq] at found
          obtain ⟨_, character, rfl, rfl⟩ := found
          exact Or.inr (Or.inr ⟨rfl, character⟩)

/-- A lexeme that all dialects share is told by its first character, and goes on as far as it
can.
-/
theorem common_cases {char : Char} {rest : Text} {kind : LexemeKind} {length : Nat}
    (found : common char rest = (kind, length))
    : (kind = .number ∧ Text.isDecimal char = true ∧ length = 1 + run continuesNumber rest)
      ∨ (kind = .identifier ∧ beginsName char = true ∧ length = 1 + run continuesName rest)
      ∨ (kind = .space ∧ Text.isBlank char = true ∧ length = 1 + run Text.isBlank rest)
      ∨ (kind = .punctuation ∧ length = 1) := by
  unfold common at found
  split at found
  · rename_i decimal
    obtain ⟨rfl, rfl⟩ := Prod.mk.inj found
    exact Or.inl ⟨rfl, decimal, rfl⟩
  · split at found
    · rename_i name
      obtain ⟨rfl, rfl⟩ := Prod.mk.inj found
      exact Or.inr (Or.inl ⟨rfl, name, rfl⟩)
    · split at found
      · rename_i blank
        obtain ⟨rfl, rfl⟩ := Prod.mk.inj found
        exact Or.inr (Or.inr (Or.inl ⟨rfl, blank, rfl⟩))
      · obtain ⟨rfl, rfl⟩ := Prod.mk.inj found
        exact Or.inr (Or.inr (Or.inr ⟨rfl, rfl⟩))

/-- The first lexeme is a comment, else a literal of the dialect, else one that all dialects
share.
-/
theorem first_cases {dialect : Dialect} {char : Char} {rest : Text} {kind : LexemeKind}
    {length : Nat} (found : first dialect char rest = (kind, length))
    : (kind = .comment ∧ comment? (char :: rest) = some length)
      ∨ literal? dialect (char :: rest) = some (kind, length)
      ∨ common char rest = (kind, length) := by
  unfold first at found
  split at found
  · rename_i comment
    obtain ⟨rfl, rfl⟩ := Prod.mk.inj found
    exact Or.inl ⟨rfl, comment⟩
  · cases literal : literal? dialect (char :: rest) with
    | some measured =>
        rw [literal, Option.getD_some] at found
        exact Or.inr (Or.inl (congrArg some found))
    | none =>
        rw [literal, Option.getD_none] at found
        exact Or.inr (Or.inr found)

/-- A first lexeme that is a number begins with a decimal digit, and goes on as far as it can. -/
theorem first_number {dialect : Dialect} {char : Char} {rest : Text} {length : Nat}
    (found : first dialect char rest = (.number, length))
    : Text.isDecimal char = true ∧ length = 1 + run continuesNumber rest := by
  rcases first_cases found with ⟨other, _⟩ | literal | shared
  · exact absurd other (by decide)
  · simpa using literal?_cases literal
  · simpa using common_cases shared

/-- A first lexeme that is a name begins as names do. -/
theorem first_identifier {dialect : Dialect} {char : Char} {rest : Text} {length : Nat}
    (found : first dialect char rest = (.identifier, length))
    : beginsName char = true := by
  rcases first_cases found with ⟨other, _⟩ | literal | shared
  · exact absurd other (by decide)
  · simpa using literal?_cases literal
  · have cases := common_cases shared
    simp only [reduceCtorEq, false_and, true_and, or_false, false_or] at cases
    exact cases.1

/-- A first lexeme that is a string is what the scanner of strings finds. -/
theorem first_string {dialect : Dialect} {char : Char} {rest : Text} {length : Nat}
    (found : first dialect char rest = (.string, length))
    : string? (stringQuotes dialect) (char :: rest) = some length := by
  rcases first_cases found with ⟨other, _⟩ | literal | shared
  · exact absurd other (by decide)
  · simpa using literal?_cases literal
  · simpa using common_cases shared

/-- A string ends in the quote that opened it. -/
theorem closing?_ends {quote : Char} {text : Text} {length : Nat}
    (found : closing? quote text = some length)
    : ∃ body, text.take length = body ++ [quote] := by
  induction text using closing?_induction quote generalizing length with
  | nil => simp [closing?] at found
  | lone => simp [closing?] at found
  | escape char rest ih =>
      simp only [closing?, Option.map_eq_some_iff] at found
      obtain ⟨inner, closed, rfl⟩ := found
      obtain ⟨body, ends⟩ := ih closed
      refine ⟨'\\' :: char :: body, ?_⟩
      rw [Nat.add_comm, List.take_succ_cons, List.take_succ_cons, ends]
      rfl
  | ends rest noEscape =>
      rw [closing?_cons _ noEscape, if_pos rfl] at found
      obtain rfl := Option.some.inj found
      exact ⟨[], rfl⟩
  | plain char rest noEscape noQuote ih =>
      rw [closing?_cons _ noEscape, if_neg noQuote, Option.map_eq_some_iff] at found
      obtain ⟨inner, closed, rfl⟩ := found
      obtain ⟨body, ends⟩ := ih closed
      refine ⟨char :: body, ?_⟩
      rw [Nat.add_comm, List.take_succ_cons, ends]
      rfl

/-- A string of Rust is a text between two double quotes. -/
theorem string?_ends {text : Text} {length : Nat}
    (found : string? ['\x22'] text = some length)
    : ∃ body, text.take length = '\x22' :: body ++ ['\x22'] := by
  cases text with
  | nil => simp [string?] at found
  | cons char rest =>
      simp only [string?, List.mem_singleton] at found
      split at found
      · rename_i opens
        subst opens
        simp only [Option.map_eq_some_iff] at found
        obtain ⟨inner, closed, rfl⟩ := found
        obtain ⟨body, ends⟩ := closing?_ends closed
        refine ⟨body, ?_⟩
        rw [Nat.add_comm, List.take_succ_cons, ends]
        rfl
      · exact absurd found (by simp)

/-- A run is over where it ends. -/
theorem run_drop_run (passes : Char → Bool) (text : Text)
    : run passes (text.drop (run passes text)) = 0 := by
  induction text with
  | nil => simp [run]
  | cons char rest ih =>
      rw [run_cons]
      split
      · simpa using ih
      · rename_i stops
        simp [run_cons, stops]

-----------------------------------------------------------------------------------------
-- Literals as lexemes
-----------------------------------------------------------------------------------------

/-- A literal is read back as one lexeme, if a number is not followed by what would go on it. -/
theorem first_renderLiteral {dialect : Dialect} {value : Text} {head : Char} {tail : Text}
    (writable : Writable dialect value) (rendered : renderLiteral dialect value = head :: tail)
    (post : Text) (ends : dialect = .solidity → run continuesNumber post = 0)
    : first dialect head (tail ++ post) = (literalKind dialect, tail.length + 1) := by
  cases dialect with
  | generic => exact writable.elim
  | solidity =>
      obtain ⟨_, first, rest, rfl, decimal, continues⟩ := writable
      obtain ⟨rfl, rfl⟩ := List.cons.inj rendered
      have notSign {char : Char} (member : char ∈ ['/', '\x22', '\x27']) : first ≠ char := by
        rintro rfl
        simp only [List.mem_cons, List.not_mem_nil, or_false] at member
        rcases member with rfl | rfl | rfl <;> exact absurd decimal (by decide)
      have noComment : comment? (first :: (rest ++ post)) = none :=
        comment?_eq_none fun opens => absurd opens (notSign (by simp))
      have noString : string? ['\x22', '\x27'] (first :: (rest ++ post)) = none := by
        simp [string?, notSign]
      simp only [Lexeme.first, noComment, literal?, noString, Option.map_none, Option.getD_none,
        common, decimal, if_true, run_append_of_all post continues, ends rfl, literalKind]
      rw [Nat.add_zero, Nat.add_comm]
  | rust =>
      simp only [renderLiteral, List.cons_append, List.cons.injEq] at rendered
      obtain ⟨rfl, rfl⟩ := rendered
      have noComment : comment? ('\x22' :: (value ++ ['\x22'] ++ post)) = none :=
        comment?_eq_none fun opens => absurd opens (by decide)
      have noRaw : rawString? ('\x22' :: (value ++ ['\x22'] ++ post)) = none :=
        rawString?_eq_none (by decide) fun opens => absurd opens (by decide)
      have closes : closing? '\x22' (value ++ ['\x22'] ++ post) = some (value.length + 1) := by
        rw [List.append_assoc]
        exact closing?_of_isNumeral post writable
      simp only [Lexeme.first, noComment, literal?, noRaw, string?, closes, List.mem_singleton,
        if_true, Option.map_some, Option.getD_some, literalKind, List.length_append,
        List.length_singleton]
      rw [Nat.add_comm]

end Lexeme

end VerifierBootstrap
