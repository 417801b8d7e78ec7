import VerifierBootstrap.Proofs.Source.LexemeShape

/-!
Lexemes of a whole text when a literal in it is exchanged. Cutting a text into lexemes loses
nothing, and writing another value into a literal exchanges its lexeme and leaves all others as
they were.
-/

namespace VerifierBootstrap

open Lexeme

/-- The text that lexemes make up. -/
def Lexeme.concat (lexemes : List Lexeme) : Text :=
  lexemes.flatMap Lexeme.text

namespace Lexeme

@[simp] theorem concat_nil : concat [] = [] := rfl

@[simp] theorem concat_cons (lexeme : Lexeme) (rest : List Lexeme)
    : concat (lexeme :: rest) = lexeme.text ++ concat rest := by
  simp [concat]

@[simp] theorem concat_append (left right : List Lexeme)
    : concat (left ++ right) = concat left ++ concat right := by
  simp [concat]

end Lexeme

/-- A text that is not used up has a first lexeme, and the lexemes behind it. -/
theorem lexemes_of_first {dialect : Dialect} {char : Char} {rest : Text} {kind : LexemeKind}
    {length : Nat} (found : first dialect char rest = (kind, length))
    : lexemes dialect (char :: rest)
      = ⟨kind, char :: rest.take (length - 1)⟩ :: lexemes dialect (rest.drop (length - 1)) := by
  rw [lexemes, found]

/-- Where lexemes begin with a given one, it is the first lexeme of the text, and the others are
those of what is behind it.
-/
theorem lexemes_eq_cons {dialect : Dialect} {text : Text} {lexeme : Lexeme} {more : List Lexeme}
    (cut : lexemes dialect text = lexeme :: more)
    : ∃ char rest kind length,
        text = char :: rest
        ∧ first dialect char rest = (kind, length)
        ∧ lexeme = ⟨kind, char :: rest.take (length - 1)⟩
        ∧ lexemes dialect (rest.drop (length - 1)) = more := by
  cases text with
  | nil => simp [lexemes] at cut
  | cons char rest =>
      have found
          : first dialect char rest
            = ((first dialect char rest).1, (first dialect char rest).2) := rfl
      rw [lexemes_of_first found] at cut
      obtain ⟨rfl, rfl⟩ := List.cons.inj cut
      exact ⟨char, rest, _, _, rfl, found, rfl, rfl⟩

/-- Every lexeme was at some place the first of what was left of the text. -/
theorem exists_first_of_mem {dialect : Dialect} {text : Text} {lexeme : Lexeme}
    (member : lexeme ∈ lexemes dialect text)
    : ∃ char rest length,
        first dialect char rest = (lexeme.kind, length)
        ∧ lexeme.text = char :: rest.take (length - 1) := by
  fun_induction lexemes dialect text with
  | case1 => simp at member
  | case2 char rest kind length found ih =>
      rcases List.mem_cons.mp member with rfl | later
      · exact ⟨char, rest, length, found, rfl⟩
      · exact ih later

/-- Cutting a text into lexemes loses nothing. -/
theorem concat_lexemes (dialect : Dialect) (text : Text)
    : concat (lexemes dialect text) = text := by
  fun_induction lexemes dialect text with
  | case1 => rfl
  | case2 char rest kind length found ih => simp [ih]

/-- Only the empty list of lexemes of a text makes up the empty text. -/
theorem eq_nil_of_concat {dialect : Dialect} {text : Text} {pieces : List Lexeme}
    (inside : ∀ lexeme ∈ pieces, lexeme ∈ lexemes dialect text) (empty : concat pieces = [])
    : pieces = [] := by
  cases pieces with
  | nil => rfl
  | cons lexeme more =>
      obtain ⟨_, _, _, _, filled⟩ := exists_first_of_mem (inside lexeme (by simp))
      simp [filled] at empty

/-- A literal in front of a text is cut off as one lexeme, if the text does not go on with it. -/
theorem lexemes_renderLiteral {dialect : Dialect} {value : Text}
    (writable : Writable dialect value) (text : Text)
    (ends : dialect = .solidity → run continuesNumber text = 0)
    : lexemes dialect (renderLiteral dialect value ++ text)
      = ⟨literalKind dialect, renderLiteral dialect value⟩ :: lexemes dialect text := by
  obtain ⟨head, tail, rendered, _⟩ := Text.renderLiteral_eq_cons dialect writable.isNumeral
  have read := first_renderLiteral writable rendered text ends
  rw [rendered, List.cons_append, lexemes_of_first read, Nat.add_sub_cancel, List.take_left,
    List.drop_left]

/-- What lexemes make up behind a cut is cut into the same lexemes. By induction on the lexemes in
front of the cut.
-/
theorem lexemes_behind {dialect : Dialect} {text : Text} {before after : List Lexeme}
    (cut : lexemes dialect text = before ++ after)
    : lexemes dialect (concat after) = after := by
  induction before generalizing text with
  | nil =>
      rw [List.nil_append] at cut
      rw [← cut, concat_lexemes]
  | cons lexeme before ih =>
      obtain ⟨_, _, _, _, _, _, _, behind⟩ := lexemes_eq_cons cut
      exact ih behind

/-- What follows the lexeme of a literal is cut as it was behind it, and does not go on with it. -/
theorem lexemes_behind_literal {dialect : Dialect} {text old : Text} {after : List Lexeme}
    (cut
      : lexemes dialect text = ⟨literalKind dialect, renderLiteral dialect old⟩ :: after)
    : lexemes dialect (concat after) = after
      ∧ (dialect = .solidity → run continuesNumber (concat after) = 0) := by
  obtain ⟨char, rest, kind, length, rfl, found, same, behind⟩ := lexemes_eq_cons cut
  have remainder : concat after = rest.drop (length - 1) := by
    rw [← behind, concat_lexemes]
  refine ⟨by rw [remainder, behind], ?_⟩
  rintro rfl
  obtain rfl : literalKind .solidity = kind := congrArg Lexeme.kind same
  rw [remainder, (first_number found).2, Nat.add_sub_cancel_left]
  exact run_drop_run continuesNumber rest

/-- Another numeral in a literal leaves the lexemes in front of it as they were. By induction on
those: each is found again, since its scanners treat both literals alike. A name or number right in
front of a literal is excluded, as a number that is written with other digits could go on with it.
-/
theorem lexemes_front {dialect : Dialect} {text old new : Text} {before after : List Lexeme}
    (oldNumeral : Text.isNumeral old = true) (newNumeral : Text.isNumeral new = true)
    (cut
      : lexemes dialect text
        = before ++ ⟨literalKind dialect, renderLiteral dialect old⟩ :: after)
    (apart
      : ∀ lexeme, before.getLast? = some lexeme
          → lexeme.kind ≠ .identifier ∧ lexeme.kind ≠ .number)
    : lexemes dialect (concat before ++ (renderLiteral dialect new ++ concat after))
      = before ++ lexemes dialect (renderLiteral dialect new ++ concat after) := by
  induction before generalizing text with
  | nil => rfl
  | cons lexeme before ih =>
      obtain ⟨char, rest, kind, length, rfl, found, rfl, behind⟩ := lexemes_eq_cons cut
      obtain ⟨oldHead, oldTail, rendered, _⟩ := Text.renderLiteral_eq_cons dialect oldNumeral
      have remainder
          : rest.drop (length - 1)
            = concat before ++ (renderLiteral dialect old ++ concat after) := by
        rw [← concat_lexemes dialect (rest.drop (length - 1)), behind]
        simp
      -- The literal is still to come behind this lexeme, so the text was not cut short
      have short : (rest.take (length - 1)).length = length - 1 := by
        have longer := congrArg List.length remainder
        simp only [rendered, List.length_drop, List.length_append, List.length_cons] at longer
        rw [List.length_take]
        omega
      have split
          : rest
            = (rest.take (length - 1) ++ concat before)
              ++ (renderLiteral dialect old ++ concat after) := by
        rw [List.append_assoc, ← remainder, List.take_append_drop]
      have inside : ∀ lexeme ∈ before, lexeme ∈ lexemes dialect (rest.drop (length - 1)) := by
        intro lexeme member
        simp [behind, member]
      rw [split] at found
      have exchanged := first_exchange dialect oldNumeral newNumeral (concat after) found
        (by rw [List.length_append, short]; omega)
        (by
          intro whole
          rw [List.length_append, short] at whole
          obtain rfl := eq_nil_of_concat inside (List.length_eq_zero_iff.mp (by omega))
          exact apart _ rfl)
      have later := ih behind fun other final => apart other (by
        cases before with
        | nil => simp at final
        | cons next more => simpa using final)
      simp only [concat_cons, List.cons_append, List.append_assoc] at exchanged ⊢
      rw [lexemes_of_first exchanged, List.take_left' short, List.drop_left' short, later]

/-- Another value in a literal exchanges its lexeme and leaves all others as they were. -/
theorem lexemes_exchange {dialect : Dialect} {text old new : Text} {before after : List Lexeme}
    (oldWritable : Writable dialect old) (newWritable : Writable dialect new)
    (cut
      : lexemes dialect text
        = before ++ ⟨literalKind dialect, renderLiteral dialect old⟩ :: after)
    (apart
      : ∀ lexeme, before.getLast? = some lexeme
          → lexeme.kind ≠ .identifier ∧ lexeme.kind ≠ .number)
    : lexemes dialect (concat before ++ (renderLiteral dialect new ++ concat after))
      = before ++ ⟨literalKind dialect, renderLiteral dialect new⟩ :: after := by
  obtain ⟨behind, ends⟩ := lexemes_behind_literal (lexemes_behind cut)
  rw [lexemes_front oldWritable.isNumeral newWritable.isNumeral cut apart,
    lexemes_renderLiteral newWritable _ ends, behind]

end VerifierBootstrap
