import VerifierBootstrap.Proofs.Source.DeclarationShape

/-!
Places of declarations. The literal of a declaration is a lexeme of the text, at the places that
the declaration gives, and is exactly the literal that its value is written as.
-/

namespace VerifierBootstrap

open Lexeme

/-- Where a declaration has its literal among the lexemes of a text. -/
structure Declaration.Placed (dialect : Dialect) (text : Text) (declaration : Declaration)
    (left right : List Lexeme)
    : Prop where
  cut
    : lexemes dialect text
      = left ++ ⟨literalKind dialect, renderLiteral dialect declaration.value⟩ :: right
  writable : Writable dialect declaration.value
  start : declaration.start = (concat left).length
  stop
    : declaration.stop
      = declaration.start + (renderLiteral dialect declaration.value).length
  apart
    : ∀ lexeme, left.getLast? = some lexeme
        → lexeme.kind ≠ .identifier ∧ lexeme.kind ≠ .number

namespace Declaration

/-- A numeral that is cut off as a number can be written by Solidity. -/
theorem writable_of_number {dialect : Dialect} {text : Text} {lexeme : Lexeme}
    (member : lexeme ∈ lexemes dialect text) (number : lexeme.kind = .number)
    (numeral : Text.isNumeral lexeme.text = true)
    : Writable .solidity lexeme.text := by
  obtain ⟨char, rest, length, found, shape⟩ := exists_first_of_mem member
  rw [number] at found
  obtain ⟨decimal, rfl⟩ := first_number found
  have goesOn : (rest.take (run continuesNumber rest)).all continuesNumber = true := by
    rw [run, ← List.prefix_iff_eq_take.mp (List.takeWhile_prefix _)]
    exact List.all_takeWhile
  rw [Nat.add_sub_cancel_left] at shape
  exact ⟨numeral, char, _, shape, decimal, goesOn⟩

/-- A literal that is read as a value is the literal that the value is written as. Witness: a
number of Solidity is decimal and whole, and a string of Rust is its inner text between quotes.
-/
theorem Reads.renderLiteral {dialect : Dialect} {text : Text} {literal : Token}
    {declaration : Declaration} (reads : Reads dialect literal declaration)
    (member : ⟨literal.kind, literal.text⟩ ∈ lexemes dialect text)
    : Writable dialect declaration.value
      ∧ literal.text = VerifierBootstrap.renderLiteral dialect declaration.value := by
  have value := reads.value
  cases dialect with
  | generic => exact absurd rfl reads.declares
  | solidity =>
      simp only [literalValue] at value
      have numeral := reads.numeral
      rw [value] at numeral ⊢
      exact ⟨writable_of_number member reads.kind numeral, rfl⟩
  | rust =>
      simp only [literalValue] at value
      obtain ⟨char, rest, length, found, shape⟩ := exists_first_of_mem member
      dsimp only at found shape
      rw [reads.kind] at found
      obtain ⟨body, ends⟩ := string?_ends (first_string found)
      have between : literal.text = '\x22' :: body ++ ['\x22'] := by
        rw [shape, ← ends]
        cases length with
        | zero => simp at ends
        | succ length => rfl
      have same : declaration.value = body := by
        rw [value, between]
        simp [inner]
      exact ⟨reads.numeral, by rw [between, same]; rfl⟩

/-- The lexeme in front of tokens that end in an equals sign is the sign, a blank or a comment. -/
theorem getLast?_of_equals {dialect : Dialect} {text : Text} {left right : List Lexeme}
    {before : List Token} {equals : Token} (cut : lexemes dialect text = left ++ right)
    (tokens : Token.ofLexemes 0 left = before ++ [equals]) (spelled : spells equals "=" = true)
    {lexeme : Lexeme} (last : left.getLast? = some lexeme)
    : lexeme.kind ≠ .identifier ∧ lexeme.kind ≠ .number := by
  obtain ⟨front, rfl⟩ := List.getLast?_eq_some_iff.mp last
  rw [Token.ofLexemes_append] at tokens
  cases trivia : Token.isTrivia lexeme.kind with
  | true =>
      constructor
      · intro kind
        simp [kind, Token.isTrivia] at trivia
      · intro kind
        simp [kind, Token.isTrivia] at trivia
  | false =>
      simp only [Token.ofLexemes, trivia, Bool.false_eq_true, if_false] at tokens
      obtain ⟨_, same⟩ := List.append_inj' tokens rfl
      obtain rfl := List.singleton_inj.mp same
      simp only [spells, decide_eq_true_eq] at spelled
      have member : lexeme ∈ lexemes dialect text := by simp [cut]
      obtain ⟨char, rest, length, found, shape⟩ := exists_first_of_mem member
      obtain rfl : char = '=' := by
        rw [shape] at spelled
        exact (List.cons.inj spelled).1
      constructor
      · intro kind
        rw [kind] at found
        exact absurd (first_identifier found) (by decide)
      · intro kind
        rw [kind] at found
        exact absurd (first_number found).1 (by decide)

/-- A literal behind an equals sign cuts the lexemes of a text where it cuts its tokens. -/
theorem Reads.exists_placed {dialect : Dialect} {text : Text} {declaration : Declaration}
    {before after : List Token} {equals literal : Token} (reads : Reads dialect literal declaration)
    (spelled : spells equals "=" = true)
    (tokens : tokenize dialect text = before ++ equals :: literal :: after)
    : ∃ left right,
        Placed dialect text declaration left right
        ∧ Token.ofLexemes 0 left = before ++ [equals]
        ∧ Token.ofLexemes declaration.stop right = after := by
  have cut
      : Token.ofLexemes 0 (lexemes dialect text) = (before ++ [equals]) ++ literal :: after := by
    rw [← tokenize, tokens]
    simp
  obtain ⟨left, right, split, front, _, starts, stops, back⟩ := Token.ofLexemes_eq_append_cons cut
  have member : ⟨literal.kind, literal.text⟩ ∈ lexemes dialect text := by simp [split]
  obtain ⟨writable, rendered⟩ := reads.renderLiteral member
  refine ⟨left, right, ⟨?_, writable, ?_, ?_, ?_⟩, front, by rw [reads.stop, back]⟩
  · rw [split, rendered, reads.kind]
  · rw [reads.start, starts, Nat.zero_add]
  · rw [reads.stop, stops, reads.start, rendered]
  · exact fun lexeme last => getLast?_of_equals split front spelled last

/-- Every declaration of a text has its literal among the lexemes. -/
theorem exists_placed {dialect : Dialect} {text : Text} {declaration : Declaration}
    (member : declaration ∈ declarations dialect text)
    : ∃ left right, Placed dialect text declaration left right := by
  obtain ⟨passed, matched, tokens, found⟩ := exists_match?_of_mem member
  obtain ⟨before, equals, literal, after, rfl, spelled, reads, _⟩ := ofTokens_of_match? found
  rw [← List.append_assoc] at tokens
  obtain ⟨left, right, placed, _⟩ := reads.exists_placed spelled tokens
  exact ⟨left, right, placed⟩

/-- The places of a declaration are those of its literal, as it is written. -/
theorem slice_of_mem {dialect : Dialect} {text : Text} {declaration : Declaration}
    (member : declaration ∈ declarations dialect text)
    : (text.take declaration.stop).drop declaration.start
      = VerifierBootstrap.renderLiteral dialect declaration.value := by
  obtain ⟨left, right, placed⟩ := exists_placed member
  have whole := concat_lexemes dialect text
  rw [placed.cut, concat_append, concat_cons, ← List.append_assoc] at whole
  have stop
      : declaration.stop
        = (concat left ++ VerifierBootstrap.renderLiteral dialect declaration.value).length := by
    rw [placed.stop, placed.start, List.length_append]
  rw [← whole, stop, List.take_left, placed.start, List.drop_left]

end Declaration

end VerifierBootstrap
