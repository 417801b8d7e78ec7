import Mathlib.Data.List.Forall2
import VerifierBootstrap.Proofs.Source.DeclarationPlaces
import VerifierBootstrap.Source.Sync

/-!
Declarations when the literal of one of them is exchanged. All tokens keep their meaning and the
ones behind the literal move, so the text has the same declarations in the same order, of which
one has another value and the later ones have moved.
-/

namespace VerifierBootstrap

open Lexeme

theorem Sync.splice_append (left old right inserted : Text)
    : splice (left ++ (old ++ right)) left.length (left.length + old.length) inserted
      = left ++ (inserted ++ right) := by
  rw [splice, List.take_left, ← List.drop_drop, List.drop_left, List.drop_left,
    List.append_assoc]

namespace Declaration

/-- The words and signs that declarations are made of. -/
def words : List String :=
  ["uint256", "public", "private", "internal", "constant", "const", "str", "=", ";", ":", "&",
    "'"]

/-- A token that can stand for another one in declarations, which a change makes of those with the
other: it is the same word or name, or a literal as well.
-/
structure Counterpart (dialect : Dialect) (change : Declaration → Declaration)
    (token other : Token)
    : Prop where
  kind : other.kind = token.kind
  spelling : ∀ word ∈ words, spells other word = spells token word
  name : token.kind = .identifier → other.text = token.text
  numeral
    : token.kind = literalKind dialect
      → Text.isNumeral (literalValue dialect other.text)
        = Text.isNumeral (literalValue dialect token.text)
  literal
    : token.kind = literalKind dialect
      → Text.isNumeral (literalValue dialect token.text) = true
      → ∀ name,
          change ⟨name, literalValue dialect token.text, token.start, token.stop⟩
          = ⟨name, literalValue dialect other.text, other.start, other.stop⟩

section Counterparts

variable {dialect : Dialect} {change : Declaration → Declaration} {tokens others : List Token}

theorem Counterpart.isVisibility {token other : Token}
    (counterpart : Counterpart dialect change token other)
    : isVisibility other = isVisibility token := by
  simp only [Declaration.isVisibility, counterpart.spelling "public" (by decide),
    counterpart.spelling "private" (by decide), counterpart.spelling "internal" (by decide)]

theorem counterparts_dropWhile
    (counterparts : List.Forall₂ (Counterpart dialect change) tokens others)
    : List.Forall₂ (Counterpart dialect change) (tokens.dropWhile isVisibility)
        (others.dropWhile isVisibility) := by
  induction counterparts with
  | nil => exact .nil
  | @cons token other tokens others first rest ih =>
      rw [List.dropWhile_cons, List.dropWhile_cons, first.isVisibility]
      split
      · exact ih
      · exact .cons first rest

theorem solidityRest?_counterparts
    (counterparts : List.Forall₂ (Counterpart .solidity change) tokens others)
    : solidityRest? others = (solidityRest? tokens).map change := by
  match counterparts with
  | .nil => rfl
  | .cons _ .nil => rfl
  | .cons _ (.cons _ .nil) => rfl
  | .cons _ (.cons _ (.cons _ .nil)) => rfl
  | .cons _ (.cons _ (.cons _ (.cons _ .nil))) => rfl
  | .cons word (.cons (a := nameToken) name (.cons equals
      (.cons (a := token) literal (.cons semicolon _)))) =>
      simp only [solidityRest?, word.spelling "constant" (by decide), name.kind,
        equals.spelling "=" (by decide), semicolon.spelling ";" (by decide), literal.kind]
      by_cases kind : token.kind = .number
      · have numerals := literal.numeral kind
        simp only [literalValue] at numerals
        rw [numerals]
        split
        · rename_i matched
          simp only [Bool.and_eq_true, decide_eq_true_eq] at matched
          obtain ⟨⟨⟨⟨⟨_, named⟩, _⟩, _⟩, _⟩, numeral⟩ := matched
          rw [Option.map_some, name.name named]
          exact congrArg some (literal.literal kind numeral _).symm
        · rfl
      · simp [kind]

theorem dropLifetime_counterparts
    (counterparts : List.Forall₂ (Counterpart dialect change) tokens others)
    : List.Forall₂ (Counterpart dialect change) (dropLifetime tokens) (dropLifetime others) := by
  match counterparts with
  | .nil => exact .nil
  | .cons first .nil => exact .cons first .nil
  | .cons quote (.cons name rest) =>
      simp only [dropLifetime, quote.spelling "'" (by decide), name.kind]
      split
      · exact rest
      · exact .cons quote (.cons name rest)

theorem rustRest?_counterparts {name otherName : Token} (same : otherName.text = name.text)
    (counterparts : List.Forall₂ (Counterpart .rust change) tokens others)
    : rustRest? otherName others = (rustRest? name tokens).map change := by
  match counterparts with
  | .nil => rfl
  | .cons _ .nil => rfl
  | .cons _ (.cons _ .nil) => rfl
  | .cons _ (.cons _ (.cons _ .nil)) => rfl
  | .cons word (.cons equals (.cons (a := token) literal (.cons semicolon _))) =>
      simp only [rustRest?, word.spelling "str" (by decide),
        equals.spelling "=" (by decide), semicolon.spelling ";" (by decide), literal.kind]
      by_cases kind : token.kind = .string
      · have numerals := literal.numeral kind
        simp only [literalValue] at numerals
        rw [numerals]
        split
        · rename_i matched
          simp only [Bool.and_eq_true, decide_eq_true_eq] at matched
          obtain ⟨_, numeral⟩ := matched
          rw [Option.map_some, same]
          exact congrArg some (literal.literal kind numeral _).symm
        · rfl
      · simp [kind]

theorem solidity?_counterparts
    (counterparts : List.Forall₂ (Counterpart .solidity change) tokens others)
    : solidity? others = (solidity? tokens).map change := by
  cases counterparts with
  | nil => rfl
  | cons word rest =>
      simp only [solidity?, word.spelling "uint256" (by decide)]
      split
      · exact solidityRest?_counterparts (counterparts_dropWhile rest)
      · rfl

theorem rust?_counterparts
    (counterparts : List.Forall₂ (Counterpart .rust change) tokens others)
    : rust? others = (rust? tokens).map change := by
  match counterparts with
  | .nil => rfl
  | .cons _ .nil => rfl
  | .cons _ (.cons _ .nil) => rfl
  | .cons _ (.cons _ (.cons _ .nil)) => rfl
  | .cons word (.cons name (.cons colon (.cons ampersand rest))) =>
      simp only [rust?, word.spelling "const" (by decide), name.kind,
        colon.spelling ":" (by decide), ampersand.spelling "&" (by decide)]
      split
      · rename_i matched
        simp only [Bool.and_eq_true, decide_eq_true_eq] at matched
        obtain ⟨⟨⟨_, named⟩, _⟩, _⟩ := matched
        exact rustRest?_counterparts (name.name named) (dropLifetime_counterparts rest)
      · rfl

/-- What a declaration is read from has counterparts that the same declaration is read from, up to
the change.
-/
theorem match?_counterparts
    (counterparts : List.Forall₂ (Counterpart dialect change) tokens others)
    : match? dialect others = (match? dialect tokens).map change := by
  cases dialect with
  | generic => rfl
  | solidity => exact solidity?_counterparts counterparts
  | rust => exact rust?_counterparts counterparts

/-- Tokens and their counterparts have the same declarations up to the change. -/
theorem ofTokens_counterparts
    (counterparts : List.Forall₂ (Counterpart dialect change) tokens others)
    : ofTokens dialect others = (ofTokens dialect tokens).map change := by
  induction counterparts with
  | nil => rfl
  | cons first rest ih =>
      rw [ofTokens, ofTokens, match?_counterparts (.cons first rest), ih, List.map_append]
      cases match? dialect _ <;> rfl

end Counterparts

/-- A declaration with so many characters more in front of it. -/
def shift (places : Nat) (declaration : Declaration) : Declaration :=
  {
    declaration with
    start := declaration.start + places
    stop := declaration.stop + places
  }

/-- The same lexemes at another place have the same declarations, carried there. -/
theorem ofTokens_ofLexemes (dialect : Dialect) (place : Nat) (lexemes : List Lexeme)
    : ofTokens dialect (Token.ofLexemes place lexemes)
      = (ofTokens dialect (Token.ofLexemes 0 lexemes)).map (shift place) := by
  apply ofTokens_counterparts
  rw [Token.ofLexemes_shift 0 place, List.forall₂_map_right_iff, List.forall₂_same]
  exact fun token _ => ⟨rfl, fun _ _ => rfl, fun _ => rfl, fun _ => rfl, fun _ _ _ => rfl⟩

-----------------------------------------------------------------------------------------
-- Another value in the literal of a declaration
-----------------------------------------------------------------------------------------

/-- A declaration after another value was written into the literal of `changed`: the changed one
has the value, and the later ones have moved.
-/
def exchange (dialect : Dialect) (changed : Declaration) (value : Text)
    (declaration : Declaration)
    : Declaration :=
  let stop := changed.start + (renderLiteral dialect value).length
  if declaration.start < changed.start then declaration
  else if declaration.start = changed.start then
    { declaration with value := value, stop := stop }
  else
    { declaration with
      start := declaration.start - changed.stop + stop
      stop := declaration.stop - changed.stop + stop }

theorem literalValue_renderLiteral {dialect : Dialect} {value : Text}
    (writable : Writable dialect value)
    : literalValue dialect (renderLiteral dialect value) = value := by
  cases dialect with
  | generic => exact writable.elim
  | solidity => rfl
  | rust => simp [literalValue, renderLiteral, inner]

/-- A numeral is none of the words of declarations. -/
theorem spells_of_isNumeral {token : Token} {word : String}
    (numeral : Text.isNumeral token.text = true) (member : word ∈ words)
    : spells token word = false := by
  simp only [spells, decide_eq_false_iff_not]
  intro same
  have signs : words.all (fun word => word.toList.any fun char => !Text.isDigit char) = true := by
    decide +kernel
  have sign := List.all_eq_true.mp signs word member
  simp only [List.any_eq_true, Bool.not_eq_true'] at sign
  obtain ⟨char, inside, noDigit⟩ := sign
  rw [← same] at inside
  exact Text.not_mem_of_isNumeral numeral noDigit inside

/-- A literal is none of the words of declarations. -/
theorem spells_renderLiteral {dialect : Dialect} {value : Text} {token : Token} {word : String}
    (writable : Writable dialect value) (rendered : token.text = renderLiteral dialect value)
    (member : word ∈ words)
    : spells token word = false := by
  cases dialect with
  | generic => exact writable.elim
  | solidity => exact spells_of_isNumeral (by rw [rendered]; exact writable.isNumeral) member
  | rust =>
      simp only [spells, rendered, decide_eq_false_iff_not]
      intro same
      have unquoted : words.all (fun word => word.toList.head? ≠ some '\x22') = true := by
        decide
      have noQuote := List.all_eq_true.mp unquoted word member
      rw [← same] at noQuote
      exact of_decide_eq_true noQuote rfl

section Exchange

variable {dialect : Dialect} {text value : Text} {changed : Declaration}
  {left right : List Lexeme} (placed : Placed dialect text changed left right)
include placed

/-- Tokens in front of the literal stay. -/
theorem Placed.counterparts_left
    : List.Forall₂ (Counterpart dialect (exchange dialect changed value))
        (Token.ofLexemes 0 left) (Token.ofLexemes 0 left) := by
  rw [List.forall₂_same]
  intro token member
  have filled : ∀ lexeme ∈ left, lexeme.text ≠ [] := by
    intro lexeme inside
    have member : lexeme ∈ lexemes dialect text := by simp [placed.cut, inside]
    obtain ⟨_, _, _, _, shape⟩ := exists_first_of_mem member
    simp [shape]
  have before := Token.start_lt_of_mem filled member
  refine ⟨rfl, fun _ _ => rfl, fun _ => rfl, fun _ => rfl, ?_⟩
  intro _ _ name
  refine if_pos ?_
  rw [placed.start]
  simpa using before

/-- The literal is exchanged for one that is neither a word nor another value. -/
theorem Placed.counterpart_literal (writable : Writable dialect value)
    : Counterpart dialect (exchange dialect changed value)
        ⟨literalKind dialect, renderLiteral dialect changed.value, changed.start, changed.stop⟩
        ⟨literalKind dialect, renderLiteral dialect value, changed.start,
          changed.start + (renderLiteral dialect value).length⟩ where
  kind := rfl
  spelling word member := by
    rw [spells_renderLiteral writable rfl member, spells_renderLiteral placed.writable rfl member]
  name kind := by cases dialect <;> simp [literalKind] at kind
  numeral _ := by
    rw [literalValue_renderLiteral writable, literalValue_renderLiteral placed.writable,
      writable.isNumeral, placed.writable.isNumeral]
  literal _ _ name := by
    simp [exchange, literalValue_renderLiteral writable]

/-- Tokens behind the literal move. -/
theorem Placed.counterparts_right
    : List.Forall₂ (Counterpart dialect (exchange dialect changed value))
        (Token.ofLexemes changed.stop right)
        (Token.ofLexemes (changed.start + (renderLiteral dialect value).length) right) := by
  rw [Token.ofLexemes_shift changed.stop (changed.start + _), List.forall₂_map_right_iff,
    List.forall₂_same]
  intro token member
  have behind := Token.start_le_of_mem member
  obtain ⟨head, tail, rendered, _⟩ := Text.renderLiteral_eq_cons dialect placed.writable.isNumeral
  have longer : changed.start < changed.stop := by
    rw [placed.stop, rendered]
    simp
  refine ⟨rfl, fun _ _ => rfl, fun _ => rfl, fun _ => rfl, ?_⟩
  intro _ _ name
  unfold exchange
  rw [if_neg (by dsimp only; omega), if_neg (by dsimp only; omega)]
  rfl

theorem Placed.splice (inserted : Text)
    : Sync.splice text changed.start changed.stop inserted
      = concat left ++ (inserted ++ concat right) := by
  have whole
      : text
        = concat left ++ (renderLiteral dialect changed.value ++ concat right) := by
    rw [← concat_lexemes dialect text, placed.cut]
    simp
  rw [placed.stop, placed.start, whole, Sync.splice_append]

end Exchange

/-- The literal of a declaration written over itself changes nothing. -/
theorem splice_renderLiteral {dialect : Dialect} {text : Text} {declaration : Declaration}
    (member : declaration ∈ declarations dialect text)
    : Sync.splice text declaration.start declaration.stop (renderLiteral dialect declaration.value)
      = text := by
  obtain ⟨left, right, placed⟩ := exists_placed member
  rw [placed.splice, ← concat_lexemes dialect text, placed.cut]
  simp

end Declaration

/-- Writing another value into the literal of a declaration changes the value of that declaration
alone.
-/
theorem declarations_splice {dialect : Dialect} {text value : Text} {changed : Declaration}
    (member : changed ∈ declarations dialect text) (writable : Writable dialect value)
    : declarations dialect
        (Sync.splice text changed.start changed.stop (renderLiteral dialect value))
      = (declarations dialect text).map (changed.exchange dialect value) := by
  obtain ⟨left, right, placed⟩ := Declaration.exists_placed member
  have meaning : Token.isTrivia (literalKind dialect) = false := by
    cases dialect <;> rfl
  have tokens (literal : Text)
      : Token.ofLexemes 0 (left ++ ⟨literalKind dialect, literal⟩ :: right)
        = Token.ofLexemes 0 left
          ++ ⟨literalKind dialect, literal, changed.start, changed.start + literal.length⟩
          :: Token.ofLexemes (changed.start + literal.length) right := by
    rw [Token.ofLexemes_append, Nat.zero_add, ← placed.start]
    simp [Token.ofLexemes, meaning]
  rw [declarations, declarations, tokenize, tokenize, placed.splice,
    lexemes_exchange placed.writable writable placed.cut placed.apart, placed.cut, tokens, tokens,
    ← placed.stop]
  apply Declaration.ofTokens_counterparts
  exact List.rel_append placed.counterparts_left
    (.cons (placed.counterpart_literal writable) placed.counterparts_right)

end VerifierBootstrap
