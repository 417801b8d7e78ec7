import VerifierBootstrap.Proofs.Source.DeclarationExchange
import VerifierBootstrap.Proofs.Source.Trivia

/-!
Numerals that Solidity does not read as one number. Written over the literal of a declaration, such
a numeral is cut into signs and shorter numbers, and the declaration is none any more. All others
stay: none of them reaches over the lost one, and none begins in it.
-/

namespace VerifierBootstrap

open Lexeme Declaration

-----------------------------------------------------------------------------------------
-- Digits as lexemes
-----------------------------------------------------------------------------------------

/-- A digit is cut off alone or with the digits behind it, but with none of a text that it could
not go on with.
-/
theorem Lexeme.first_digit (dialect : Dialect) {char : Char} (rest : Text) {text : Text}
    (digit : Text.isDigit char = true) (ends : run continuesNumber text = 0)
    : ∃ kind length,
        first dialect char (rest ++ text) = (kind, length + 1)
        ∧ length ≤ rest.length
        ∧ Token.isTrivia kind = false := by
  have plain : char ∉ ['/', '\x22', '\x27', 'r', 'b'] := by
    intro sign
    have noDigit : ['/', '\x22', '\x27', 'r', 'b'].all (!Text.isDigit ·) = true := by
      decide +kernel
    have other := List.all_eq_true.mp noDigit char sign
    simp [digit] at other
  rw [first_of_not_mem _ plain, common]
  by_cases decimal : Text.isDecimal char = true
  · refine ⟨.number, run continuesNumber (rest ++ text), ?_, ?_, rfl⟩
    · rw [if_pos decimal, Nat.add_comm]
    · cases inside : rest.all continuesNumber with
      | true => rw [run_append_of_all text inside, ends, Nat.add_zero]
      | false =>
          obtain ⟨same, short⟩ := run_append_of_not_all text inside
          rw [same]
          exact short.le
  · have noName : ¬ beginsName char = true := fun begins => by
      simp [isDigit_of_beginsName begins] at digit
    refine ⟨.punctuation, 0, ?_, Nat.zero_le _, rfl⟩
    rw [if_neg decimal, if_neg noName, if_neg (by simp [Text.isBlank_of_isDigit digit])]

/-- Digits are cut into lexemes that mean something, and those behind them are those of the text
that follows, if that could not go on a number. By induction on the digits.
-/
theorem exists_lexemes_digits (dialect : Dialect) {digits text : Text}
    (each : ∀ char ∈ digits, Text.isDigit char = true) (ends : run continuesNumber text = 0)
    : ∃ pieces,
        lexemes dialect (digits ++ text) = pieces ++ lexemes dialect text
        ∧ concat pieces = digits
        ∧ ∀ piece ∈ pieces, Token.isTrivia piece.kind = false := by
  match digits with
  | [] => exact ⟨[], rfl, rfl, nofun⟩
  | char :: rest =>
      obtain ⟨kind, length, found, within, meaning⟩ :=
        first_digit dialect rest (each char List.mem_cons_self) ends
      have others : ∀ char ∈ rest.drop length, Text.isDigit char = true := fun other member =>
        each other (List.mem_cons_of_mem _ (List.mem_of_mem_drop member))
      obtain ⟨pieces, cut, whole, kinds⟩ := exists_lexemes_digits dialect others ends
      refine ⟨⟨kind, char :: rest.take length⟩ :: pieces, ?_, ?_, ?_⟩
      · rw [List.cons_append, lexemes_of_first found, Nat.add_sub_cancel,
          List.take_append_of_le_length within, List.drop_append_of_le_length within, cut]
        rfl
      · simp [whole]
      · exact List.forall_mem_cons.mpr ⟨meaning, kinds⟩
termination_by digits.length
decreasing_by simp only [List.length_cons, List.length_drop]; omega

-----------------------------------------------------------------------------------------
-- Digits among the tokens of declarations
-----------------------------------------------------------------------------------------

namespace Declaration

/-- Tokens that no declaration has for its literal: numerals, of which there are several, or one
that is no number.
-/
structure Unread (digits : List Token) : Prop where
  present : digits ≠ []
  numeral : ∀ token ∈ digits, Text.isNumeral token.text = true
  kind : ∀ token, digits = [token] → token.kind ≠ .number

/-- Where they stand for the literal, there is no declaration. -/
theorem Unread.solidityRest? {digits : List Token} (unread : Unread digits)
    (constant name equals : Token) (after : List Token)
    : solidityRest? (constant :: name :: equals :: (digits ++ after)) = none := by
  refine Option.eq_none_iff_forall_ne_some.mpr fun declaration found => ?_
  obtain ⟨_, _, _, literal, semicolon, _, same, _, _, semicolonSpelled, reads⟩ :=
    solidityRest?_eq_some found
  simp only [List.cons.injEq] at same
  obtain ⟨_, _, _, same⟩ := same
  match digits, unread, same with
  | [], unread, _ => exact unread.present rfl
  | [only], unread, same =>
      obtain ⟨rfl, _⟩ := List.cons.inj same
      exact unread.kind only rfl reads.kind
  | _ :: second :: _, unread, same =>
      obtain ⟨_, same⟩ := List.cons.inj same
      obtain ⟨rfl, _⟩ := List.cons.inj same
      rw [spells_of_isNumeral (unread.numeral second (by simp)) (by decide)] at semicolonSpelled
      exact nomatch semicolonSpelled

/-- Of the tokens up to them none begins a declaration, and neither does one of them. -/
theorem Unread.ofTokens {type constant name equals : Token} {visibilities digits : List Token}
    (unread : Unread digits) (after : List Token)
    (visible : ∀ token ∈ visibilities, isVisibility token = true)
    (constantSpelled : spells constant "constant" = true)
    (equalsSpelled : spells equals "=" = true)
    : ofTokens .solidity (type :: (visibilities ++ constant :: name :: equals :: (digits ++ after)))
      = ofTokens .solidity after := by
  have noVisibility : isVisibility constant = false :=
    isVisibility_of_spells constantSpelled (by decide)
  have unmatched
      : match? .solidity
          (type :: (visibilities ++ constant :: name :: equals :: (digits ++ after)))
        = none := by
    rw [match?, solidity?, List.dropWhile_append_of_pos visible,
      List.dropWhile_cons_of_neg (by simp [noVisibility]), unread.solidityRest?, ite_self]
  have noType : ∀ token ∈ digits, spells token "uint256" = false := fun token member =>
    spells_of_isNumeral (unread.numeral token member) (by decide)
  rw [ofTokens_cons_of_none unmatched, ofTokens_head _ visible constantSpelled equalsSpelled,
    ofTokens_of_not_spells _ noType]

/-- Five tokens are read behind the type and the visibilities of a declaration. -/
theorem solidityRest?_take (tokens : List Token)
    : solidityRest? (tokens.take 5) = solidityRest? tokens := by
  rcases tokens with _ | ⟨_, _ | ⟨_, _ | ⟨_, _ | ⟨_, _ | _⟩⟩⟩⟩ <;> rfl

/-- What follows the type and the visibilities of a declaration cannot reach over another type: that
would have to be its name, and an equals sign would follow it.
-/
theorem exists_solidityRest?_front {type next : Token} (seen : List Token)
    (typeSpelled : spells type "uint256" = true) (noSign : spells next "=" = false)
    : ∃ found, ∀ rest, solidityRest? (seen ++ type :: next :: rest) = found := by
  have other {word : String} (different : "uint256" ≠ word) : spells type word = false :=
    spells_of_ne typeSpelled different
  have unmatched (rest : List Token) (short : seen.length < 5)
      : solidityRest? (seen ++ type :: next :: rest) = none := by
    refine Option.eq_none_iff_forall_ne_some.mpr fun declaration found => ?_
    obtain ⟨_, _, _, _, _, _, same, constantSpelled, equalsSpelled, semicolonSpelled, reads⟩ :=
      solidityRest?_eq_some found
    -- The type stands where the declaration has another word, its name or its literal
    rcases seen with _ | ⟨_, _ | ⟨_, _ | ⟨_, _ | ⟨_, _ | _⟩⟩⟩⟩
    · obtain ⟨rfl, _⟩ := List.cons.inj same
      simp [other] at constantSpelled
    · simp only [List.cons_append, List.nil_append, List.cons.injEq] at same
      obtain ⟨_, _, rfl, _⟩ := same
      simp [noSign] at equalsSpelled
    · simp only [List.cons_append, List.nil_append, List.cons.injEq] at same
      obtain ⟨_, _, rfl, _⟩ := same
      simp [other] at equalsSpelled
    · simp only [List.cons_append, List.nil_append, List.cons.injEq] at same
      obtain ⟨_, _, _, rfl, _⟩ := same
      have noType : spells type "uint256" = false :=
        reads.not_spells (by simp [literalValue] : 'u' ∈ _) (by decide)
      simp [typeSpelled] at noType
    · simp only [List.cons_append, List.nil_append, List.cons.injEq] at same
      obtain ⟨_, _, _, _, rfl, _⟩ := same
      simp [other] at semicolonSpelled
    · simp only [List.length_cons] at short
      omega
  by_cases short : seen.length < 5
  · exact ⟨none, fun rest => unmatched rest short⟩
  · refine ⟨solidityRest? (seen.take 5), fun rest => ?_⟩
    rw [← solidityRest?_take, List.take_append_of_le_length (by omega)]

/-- The declarations that begin in front of a type do not depend on what follows it, if the token
behind it is no equals sign. By induction on the tokens in front.
-/
theorem exists_ofTokens_front {type next : Token} (passed : List Token)
    (typeSpelled : spells type "uint256" = true) (noSign : spells next "=" = false)
    : ∃ front, ∀ rest,
        ofTokens .solidity (passed ++ type :: next :: rest)
        = front ++ ofTokens .solidity (type :: next :: rest) := by
  induction passed with
  | nil => exact ⟨[], fun _ => rfl⟩
  | cons token passed ih =>
      obtain ⟨front, same⟩ := ih
      obtain ⟨found, here⟩ :=
        exists_solidityRest?_front (passed.dropWhile isVisibility) typeSpelled noSign
      have matched (rest : List Token)
          : match? .solidity (token :: (passed ++ type :: next :: rest))
            = if spells token "uint256" then found else none := by
        have noVisibility : isVisibility type = false :=
          isVisibility_of_spells typeSpelled (by decide)
        have dropped
            : (passed ++ type :: next :: rest).dropWhile isVisibility
              = passed.dropWhile isVisibility ++ type :: next :: rest := by
          rw [List.dropWhile_append]
          split
          · rename_i none
            rw [List.isEmpty_iff.mp none, List.nil_append,
              List.dropWhile_cons_of_neg (by simp [noVisibility])]
          · rfl
        rw [match?, solidity?, dropped, here]
      refine ⟨(if spells token "uint256" then found else none).toList ++ front, fun rest => ?_⟩
      rw [List.cons_append, ofTokens, matched, same, List.append_assoc]

-----------------------------------------------------------------------------------------
-- The declarations of the text
-----------------------------------------------------------------------------------------

-----------------------------------------------------------------------------------------
-- The declarations of the text
-----------------------------------------------------------------------------------------

/-- A numeral that Solidity cannot write is unread as it is cut. -/
theorem unread_ofLexemes {value rest : Text} {pieces after : List Lexeme} (start : Nat)
    (numeral : Text.isNumeral value = true) (unwritable : ¬ Writable .solidity value)
    (cut : lexemes .solidity (value ++ rest) = pieces ++ after) (whole : concat pieces = value)
    (meaning : ∀ piece ∈ pieces, Token.isTrivia piece.kind = false)
    : Unread (Token.ofLexemes start pieces) := by
  have same : (Token.ofLexemes start pieces).map Token.lexeme = pieces := by
    rw [lexeme_ofLexemes, List.filter_eq_self]
    exact fun piece member => by simp [meaning piece member]
  have inside : ∀ token ∈ Token.ofLexemes start pieces, token.lexeme ∈ pieces := by
    intro token member
    rw [← same]
    exact List.mem_map_of_mem member
  obtain ⟨present, digits⟩ := Text.isNumeral_iff.mp numeral
  have numerals : ∀ piece ∈ pieces, Text.isNumeral piece.text = true := by
    intro piece member
    have among : piece ∈ lexemes .solidity (value ++ rest) := by simp [cut, member]
    obtain ⟨_, _, _, _, filled⟩ := exists_first_of_mem among
    refine Text.isNumeral_iff.mpr ⟨by simp [filled], fun char within => digits char ?_⟩
    rw [← whole]
    exact List.mem_flatMap.mpr ⟨piece, member, within⟩
  constructor
  · intro none
    rw [none, List.map_nil] at same
    exact present (by rw [← whole, ← same]; rfl)
  · exact fun token member => numerals token.lexeme (inside token member)
  · intro token only number
    rw [only, List.map_singleton] at same
    have text : token.text = value := by
      rw [← whole, ← same]
      simp [Token.lexeme]
    have member : token.lexeme ∈ lexemes .solidity (value ++ rest) := by simp [cut, ← same]
    have written := writable_of_number member number (numerals token.lexeme (by simp [← same]))
    exact unwritable (text ▸ written)

end Declaration

/-- Where a numeral that Solidity cannot write is written over the literal of a declaration, that
declaration is lost. The ones in front of it stay, and the ones behind it move.
-/
theorem declarations_splice_unread {text value : Text} {lost : Declaration}
    (member : lost ∈ declarations .solidity text) (numeral : Text.isNumeral value = true)
    (unwritable : ¬ Writable .solidity value)
    : ∃ front back : List Declaration,
        declarations .solidity text = front ++ lost :: back.map (Declaration.shift lost.stop)
        ∧ declarations .solidity (Sync.splice text lost.start lost.stop value)
          = front ++ back.map (Declaration.shift (lost.start + value.length)) := by
  obtain ⟨passed, matched, tokens, found⟩ := exists_match?_of_mem member
  obtain ⟨type, visibilities, constant, name, equals, literal, semicolon, after, rfl, typeSpelled,
    visible, constantSpelled, equalsSpelled, _, reads⟩ := solidity?_eq_some found
  have cutTokens
      : tokenize .solidity text
        = (passed ++ type :: (visibilities ++ [constant, name]))
          ++ equals :: literal :: semicolon :: after := by
    rw [tokens]
    simp
  obtain ⟨left, right, placed, before, behind⟩ := reads.exists_placed equalsSpelled cutTokens
  obtain ⟨back, ends⟩ := lexemes_behind_literal (lexemes_behind placed.cut)
  obtain ⟨pieces, cut, whole, meaning⟩ :=
    exists_lexemes_digits .solidity (Text.isNumeral_iff.mp numeral).2 (ends rfl)
  have unread := unread_ofLexemes lost.start numeral unwritable cut whole meaning
  have recut
      : lexemes .solidity (Sync.splice text lost.start lost.stop value)
        = left ++ (pieces ++ right) := by
    have exchanged := lexemes_front placed.writable.isNumeral numeral placed.cut placed.apart
    simp only [renderLiteral] at exchanged
    rw [placed.splice, exchanged, cut, back]
  have retokenized
      : tokenize .solidity (Sync.splice text lost.start lost.stop value)
        = passed ++ type :: (visibilities ++ constant :: name :: equals
          :: (Token.ofLexemes lost.start pieces
            ++ Token.ofLexemes (lost.start + value.length) right)) := by
    rw [tokenize, recut, Token.ofLexemes_append, Token.ofLexemes_append, before, whole,
      Nat.zero_add, ← placed.start]
    simp
  -- The token behind the type is the word that makes it a constant, or one that may stand before it
  obtain ⟨next, more, head, noSign⟩
      : ∃ next more,
          (∀ rest, visibilities ++ constant :: rest = next :: (more ++ rest))
          ∧ spells next "=" = false := by
    cases visibilities with
    | nil => exact ⟨constant, [], fun _ => rfl, spells_of_ne constantSpelled (by decide)⟩
    | cons next others =>
        exact ⟨next, others ++ [constant], fun _ => by simp,
          spells_of_isVisibility (visible next (by simp)) (by decide)⟩
  obtain ⟨front, passes⟩ := exists_ofTokens_front passed typeSpelled noSign
  have noType : spells literal "uint256" = false :=
    reads.not_spells (by simp [literalValue] : 'u' ∈ _) (by decide)
  refine ⟨front, ofTokens .solidity (Token.ofLexemes 0 right), ?_, ?_⟩
  · rw [declarations, tokens, head, passes, ← head,
      ofTokens_solidity found visible constantSpelled equalsSpelled noType, ← behind,
      ofTokens_ofLexemes]
  · rw [declarations, retokenized, head, passes, ← head,
      unread.ofTokens _ visible constantSpelled equalsSpelled, ofTokens_ofLexemes]

end VerifierBootstrap
