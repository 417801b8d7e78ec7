import VerifierBootstrap.Proofs.Source.LexemeExchange

/-!
Blanks and comments between the lexemes of a text. Whatever stands in a comment, it is passed over
together with the blanks around it, and the lexemes that mean something are those behind it.
-/

namespace VerifierBootstrap

open Lexeme

/-- Blanks and comments, in any order. A comment of a line is ended by a line feed, and one between
signs by the first star and slash in it.
-/
inductive Trivia : Text → Prop where
  | nil : Trivia []
  | blank {char : Char} {rest : Text} (isBlank : Text.isBlank char = true) (more : Trivia rest)
    : Trivia (char :: rest)
  | line {body rest : Text} (within : '\n' ∉ body) (more : Trivia rest)
    : Trivia ('/' :: '/' :: (body ++ '\n' :: rest))
  | block {body rest : Text} (within : ¬ ['*', '/'] <:+: body) (more : Trivia rest)
    : Trivia ('/' :: '*' :: (body ++ '*' :: '/' :: rest))

/-- The lexeme of a token, wherever it stands. -/
def Token.lexeme (token : Token) : Lexeme :=
  ⟨token.kind, token.text⟩

/-- The lexemes of a text that mean something. -/
def significant (dialect : Dialect) (text : Text) : List Lexeme :=
  (lexemes dialect text).filter fun lexeme => !Token.isTrivia lexeme.kind

theorem lexeme_ofLexemes (start : Nat) (lexemes : List Lexeme)
    : (Token.ofLexemes start lexemes).map Token.lexeme
      = lexemes.filter fun lexeme => !Token.isTrivia lexeme.kind := by
  induction lexemes generalizing start with
  | nil => rfl
  | cons lexeme rest ih =>
      cases trivia : Token.isTrivia lexeme.kind with
      | true => simp [Token.ofLexemes, trivia, ih]
      | false => simp [Token.ofLexemes, Token.lexeme, trivia, ih]

/-- The tokens of a text are its lexemes that mean something, with their places. -/
theorem lexeme_tokenize (dialect : Dialect) (text : Text)
    : (tokenize dialect text).map Token.lexeme = significant dialect text :=
  lexeme_ofLexemes 0 (lexemes dialect text)

-----------------------------------------------------------------------------------------
-- Characters of names
-----------------------------------------------------------------------------------------

namespace Lexeme

/-- The characters that can begin a name, by their code points. -/
theorem inRanges_of_beginsName {char : Char} (begins : beginsName char = true)
    : inRanges [(0x24, 0x24), (0x41, 0x5A), (0x5F, 0x5F), (0x61, 0x7A)] char = true := by
  simp only [beginsName, isLetter, Bool.or_eq_true, Bool.and_eq_true, decide_eq_true_eq,
    Char.le_def, UInt32.le_iff_toNat_le] at begins
  simp only [inRanges, List.any_cons, List.any_nil, Bool.or_eq_true, Bool.and_eq_true,
    decide_eq_true_eq, Char.toNat]
  rcases begins with ((letter | letter) | rfl) | rfl
  · change 0x61 ≤ char.val.toNat ∧ char.val.toNat ≤ 0x7A at letter
    omega
  · change 0x41 ≤ char.val.toNat ∧ char.val.toNat ≤ 0x5A at letter
    omega
  · decide
  · decide

theorem isDecimal_of_isAsciiDigit {char : Char} (digit : isAsciiDigit char = true)
    : Text.isDecimal char = true := by
  simp only [isAsciiDigit, Bool.and_eq_true, decide_eq_true_eq, Char.le_def,
    UInt32.le_iff_toNat_le] at digit
  change 0x30 ≤ char.val.toNat ∧ char.val.toNat ≤ 0x39 at digit
  simp only [Text.isDecimal, inRanges, Text.decimalRanges, List.any_cons, Bool.or_eq_true,
    Bool.and_eq_true, decide_eq_true_eq, Char.toNat]
  exact Or.inl digit

/-- No digit of any script begins a name. -/
theorem isDigit_of_beginsName {char : Char} (begins : beginsName char = true)
    : Text.isDigit char = false := by
  rw [Text.isDigit, Bool.or_eq_false_iff]
  exact ⟨Text.inRanges_apart (by decide) (inRanges_of_beginsName begins),
    Text.inRanges_apart (by decide) (inRanges_of_beginsName begins)⟩

theorem isDecimal_of_beginsName {char : Char} (begins : beginsName char = true)
    : Text.isDecimal char = false :=
  (Bool.or_eq_false_iff.mp (isDigit_of_beginsName begins)).1

theorem isBlank_of_continuesName {char : Char} (continues : continuesName char = true)
    : Text.isBlank char = false := by
  rw [continuesName, Bool.or_eq_true] at continues
  rcases continues with begins | digit
  · exact Text.inRanges_apart (by decide) (inRanges_of_beginsName begins)
  · exact Text.isBlank_of_isDigit (Text.isDigit_of_isDecimal (isDecimal_of_isAsciiDigit digit))

theorem continuesName_of_beginsName {char : Char} (begins : beginsName char = true)
    : continuesName char = true := by
  rw [continuesName, begins, Bool.true_or]

/-- What goes on a number goes on a name. -/
theorem continuesName_of_continuesNumber {char : Char} (continues : continuesNumber char = true)
    : continuesName char = true := by
  simp only [continuesNumber, continuesName, beginsName, Bool.or_eq_true] at continues ⊢
  rcases continues with (letter | digit) | underscore
  · exact Or.inl (Or.inl (Or.inl letter))
  · exact Or.inr digit
  · exact Or.inl (Or.inl (Or.inr underscore))

-----------------------------------------------------------------------------------------
-- First lexemes
-----------------------------------------------------------------------------------------

/-- What begins with no quote, and with no prefix of one, is no literal. -/
theorem literal?_eq_none {dialect : Dialect} {char : Char} {rest : Text}
    (noQuote : char ≠ '\x22' ∧ char ≠ '\x27') (noRaw : rawString? (char :: rest) = none)
    (noCharacter : character? (char :: rest) = none)
    : literal? dialect (char :: rest) = none := by
  cases dialect with
  | generic | solidity => simp [literal?, string?, noQuote]
  | rust => simp [literal?, noRaw, string?, noQuote, noCharacter]

/-- What begins neither a comment nor a literal is cut off by its first character. -/
theorem first_eq_common {dialect : Dialect} {char : Char} {rest : Text}
    (noComment : comment? (char :: rest) = none) (noLiteral : literal? dialect (char :: rest) = none)
    : first dialect char rest = common char rest := by
  rw [first, noComment, noLiteral]
  rfl

/-- A character that could begin neither a comment nor a literal nor a name is told from what it is
alone.
-/
theorem first_of_not_mem {dialect : Dialect} {char : Char} (rest : Text)
    (plain : char ∉ ['/', '\x22', '\x27', 'r', 'b'])
    : first dialect char rest = common char rest := by
  simp only [List.mem_cons, List.not_mem_nil, or_false, not_or] at plain
  obtain ⟨noSlash, noQuote, noSingle, noR, noB⟩ := plain
  exact first_eq_common (comment?_eq_none fun opens => absurd opens noSlash)
    (literal?_eq_none ⟨noQuote, noSingle⟩ (rawString?_eq_none noR fun opens => absurd opens noB)
      (character?_eq_none noSingle fun opens => absurd opens noB))

theorem first_blank {dialect : Dialect} {char : Char} (blank : Text.isBlank char = true)
    (rest : Text)
    : first dialect char rest = (.space, 1 + run Text.isBlank rest) := by
  have plain : char ∉ ['/', '\x22', '\x27', 'r', 'b'] := by
    intro member
    simp only [List.mem_cons, List.not_mem_nil, or_false] at member
    rcases member with rfl | rfl | rfl | rfl | rfl <;> exact absurd blank (by decide)
  have noDecimal : Text.isDecimal char = false := Text.inRanges_apart (by decide +kernel) blank
  have noName : beginsName char = false := by
    by_contra begins
    have filled :=
      isBlank_of_continuesName (continuesName_of_beginsName (eq_true_of_ne_false begins))
    exact nomatch blank.symm.trans filled
  rw [first_of_not_mem rest plain, common]
  simp [noDecimal, noName, blank]

theorem first_line {dialect : Dialect} {body : Text} (within : '\n' ∉ body) (rest : Text)
    : first dialect '/' (('/' :: body) ++ '\n' :: rest)
      = (.comment, ('/' :: body).length + 1) := by
  have all : body.all (· ≠ '\n') = true := by
    rw [List.all_eq_true]
    intro char member
    exact decide_eq_true fun same => within (same ▸ member)
  have measured : run (· ≠ '\n') (body ++ '\n' :: rest) = body.length := by
    rw [run_append_of_all _ all]
    simp [run]
  rw [first, List.cons_append, comment?, measured, List.length_cons, Nat.add_comm]

/-- The first star and slash behind a body without them are those that follow it. By induction on the
body: a star at its end is followed by a star.
-/
theorem through?_of_body {body : Text} (within : ¬ ['*', '/'] <:+: body) (rest : Text)
    : through? ['*', '/'] (body ++ '*' :: '/' :: rest) = some (body.length + 2) := by
  induction body with
  | nil => rfl
  | cons char body ih =>
      have later := ih fun inside => within (inside.trans (List.suffix_cons char body).isInfix)
      have noEnd : ['*', '/'].isPrefixOf (char :: (body ++ '*' :: '/' :: rest)) = false := by
        by_contra ends
        obtain ⟨more, same⟩ := List.isPrefixOf_iff_prefix.mp (eq_true_of_ne_false ends)
        cases body with
        | nil => simp at same
        | cons next body =>
            simp only [List.cons_append, List.nil_append, List.cons.injEq] at same
            obtain ⟨rfl, rfl, _⟩ := same
            exact within ⟨[], body, rfl⟩
      rw [List.cons_append, through?, noEnd, later]
      rfl

theorem first_block {dialect : Dialect} {body : Text} (within : ¬ ['*', '/'] <:+: body)
    (rest : Text)
    : first dialect '/' (('*' :: (body ++ ['*', '/'])) ++ rest)
      = (.comment, ('*' :: (body ++ ['*', '/'])).length + 1) := by
  have measured := through?_of_body within rest
  have regrouped : body ++ ['*', '/'] ++ rest = body ++ '*' :: '/' :: rest := by simp
  rw [first, List.cons_append, comment?, regrouped, measured]
  simp only [Option.map_some, List.length_cons, List.length_append, List.length_nil, Prod.mk.injEq,
    true_and]
  omega

end Lexeme

-----------------------------------------------------------------------------------------
-- Trivia in front
-----------------------------------------------------------------------------------------

variable {dialect : Dialect}

/-- A text whose first lexeme is known is that lexeme and the lexemes behind it. -/
theorem lexemes_cons {char : Char} {body rest : Text} {kind : LexemeKind}
    (found : first dialect char (body ++ rest) = (kind, body.length + 1))
    : lexemes dialect (char :: (body ++ rest)) = ⟨kind, char :: body⟩ :: lexemes dialect rest := by
  rw [lexemes_of_first found, Nat.add_sub_cancel, List.take_left, List.drop_left]

theorem significant_of_trivia {char : Char} {body rest : Text} {kind : LexemeKind}
    (found : first dialect char (body ++ rest) = (kind, body.length + 1))
    (trivia : Token.isTrivia kind = true)
    : significant dialect (char :: (body ++ rest)) = significant dialect rest := by
  rw [significant, lexemes_cons found]
  simp [significant, trivia]

theorem significant_of_token {char : Char} {body rest : Text} {kind : LexemeKind}
    (found : first dialect char (body ++ rest) = (kind, body.length + 1))
    (meaning : Token.isTrivia kind = false)
    : significant dialect (char :: (body ++ rest))
      = ⟨kind, char :: body⟩ :: significant dialect rest := by
  rw [significant, lexemes_cons found]
  simp [significant, meaning]

theorem significant_of_single {char : Char} {rest : Text} {kind : LexemeKind}
    (found : first dialect char rest = (kind, 1)) (meaning : Token.isTrivia kind = false)
    : significant dialect (char :: rest) = ⟨kind, [char]⟩ :: significant dialect rest :=
  @significant_of_token dialect char [] rest kind found meaning

theorem significant_cons_drop {char : Char} (blank : Text.isBlank char = true) (rest : Text)
    : significant dialect (char :: rest)
      = significant dialect (rest.drop (run Text.isBlank rest)) := by
  have trivia : Token.isTrivia .space = true := rfl
  rw [significant, lexemes_of_first (first_blank blank rest), Nat.add_sub_cancel_left]
  simp [significant, trivia]

/-- A blank in front means nothing, whether more blanks follow it or not. -/
theorem significant_blank {char : Char} (blank : Text.isBlank char = true) (rest : Text)
    : significant dialect (char :: rest) = significant dialect rest := by
  rw [significant_cons_drop blank]
  cases rest with
  | nil => rfl
  | cons next rest =>
      cases more : Text.isBlank next with
      | true =>
          rw [significant_cons_drop more, run_cons, if_pos more]
          rfl
      | false => simp [run_cons, more]

/-- Trivia in front means nothing. By induction on the trivia. -/
theorem significant_trivia {gap : Text} (trivia : Trivia gap) (rest : Text)
    : significant dialect (gap ++ rest) = significant dialect rest := by
  induction trivia with
  | nil => rfl
  | blank isBlank _ ih => rw [List.cons_append, significant_blank isBlank, ih]
  | @line body more within _ ih =>
      have cut := significant_of_trivia (@first_line dialect body within (more ++ rest)) rfl
      simp only [List.cons_append, List.append_assoc] at cut ⊢
      rw [cut, significant_blank (by decide), ih]
  | @block body more within _ ih =>
      have cut := significant_of_trivia (@first_block dialect body within (more ++ rest)) rfl
      simp only [List.cons_append, List.append_assoc, List.nil_append] at cut ⊢
      rw [cut, ih]

end VerifierBootstrap
