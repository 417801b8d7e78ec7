import Mathlib.Data.List.Chain
import VerifierBootstrap.Proofs.Source.Trivia

/-!
Texts that are written from pieces, with trivia around them. The lexemes of such a text that mean
something are those of its pieces: a piece is followed by trivia, or by a sign that does not go on
with it, so no scanner runs past its end.
-/

namespace VerifierBootstrap

open Lexeme

/-- A name of either language, whether it is a keyword or not. -/
def IsName : Text → Prop
  | [] => False
  | first :: rest => beginsName first = true ∧ rest.all continuesName = true

instance : DecidablePred IsName
  | [] => isFalse id
  | first :: rest =>
      inferInstanceAs (Decidable (beginsName first = true ∧ rest.all continuesName = true))

theorem IsName.exists_cons {text : Text} (isName : IsName text)
    : ∃ first rest,
        text = first :: rest ∧ beginsName first = true ∧ rest.all continuesName = true := by
  cases text with
  | nil => exact isName.elim
  | cons first rest => exact ⟨first, rest, rfl, isName⟩

/-- The signs of declarations, quotes apart. -/
def signs : List Char :=
  ['=', ';', ':', '&']

/-- What declarations are written from. -/
inductive Piece where
  | word (text : Text)
  | sign (char : Char)
  | literal (value : Text)
  /-- A quote with a name, and nothing in between. -/
  | lifetime (label : Text)
deriving Repr, DecidableEq

namespace Piece

/-- A piece as it is written. -/
def text (dialect : Dialect) : Piece → Text
  | word text => text
  | sign char => [char]
  | literal value => renderLiteral dialect value
  | lifetime label => '\x27' :: label

/-- The lexemes of a piece. -/
def lexemes (dialect : Dialect) : Piece → List Lexeme
  | word text => [⟨.identifier, text⟩]
  | sign char => [⟨.punctuation, [char]⟩]
  | literal value => [⟨literalKind dialect, renderLiteral dialect value⟩]
  | lifetime label => [⟨.punctuation, ['\x27']⟩, ⟨.identifier, label⟩]

/-- Whether a piece is a sign, so that it can stand next to a word. -/
def isSign : Piece → Bool
  | sign _ => true
  | _ => false

/-- What a piece of a dialect has to be. -/
def Proper (dialect : Dialect) : Piece → Prop
  | word text => IsName text
  | sign char => char ∈ signs
  | literal value => Writable dialect value
  | lifetime label => dialect = .rust ∧ IsName label

/-- The text of pieces, each with what stands behind it. -/
def concat (dialect : Dialect) (pieces : List (Piece × Text)) : Text :=
  pieces.flatMap fun (piece, gap) => piece.text dialect ++ gap

@[simp] theorem concat_nil (dialect : Dialect) : concat dialect [] = [] := rfl

@[simp] theorem concat_cons (dialect : Dialect) (piece : Piece) (gap : Text)
    (rest : List (Piece × Text))
    : concat dialect ((piece, gap) :: rest) = piece.text dialect ++ (gap ++ concat dialect rest) := by
  rw [concat, List.flatMap_cons, List.append_assoc, concat]

/-- What stands behind each piece is trivia, and not nothing between two pieces of which neither is
a sign.
-/
structure Spaced (pieces : List (Piece × Text)) : Prop where
  trivia : ∀ piece ∈ pieces, Trivia piece.2
  apart
    : pieces.IsChain fun piece next =>
        piece.1.isSign = false → next.1.isSign = false → piece.2 ≠ []

theorem Spaced.of_cons {piece : Piece × Text} {rest : List (Piece × Text)}
    (spaced : Spaced (piece :: rest))
    : Spaced rest :=
  ⟨fun next member => spaced.trivia next (List.mem_cons_of_mem _ member), spaced.apart.of_cons⟩

end Piece

/-- A text delimits what is in front of it: it begins with a blank, a slash or a sign, or is empty. -/
def Delimits (text : Text) : Prop :=
  ∀ char ∈ text.head?, Text.isBlank char = true ∨ char ∈ '/' :: signs

-----------------------------------------------------------------------------------------
-- Where pieces end
-----------------------------------------------------------------------------------------

theorem Trivia.delimits_append {gap : Text} (trivia : Trivia gap) (filled : gap ≠ []) (rest : Text)
    : Delimits (gap ++ rest) := by
  intro char first
  cases trivia with
  | nil => exact absurd rfl filled
  | blank isBlank _ =>
      obtain rfl := Option.some.inj first
      exact Or.inl isBlank
  | line _ _ =>
      obtain rfl := Option.some.inj first
      exact Or.inr (by simp)
  | block _ _ =>
      obtain rfl := Option.some.inj first
      exact Or.inr (by simp)

/-- Behind a piece that is no sign comes what ends it: trivia, a sign, or nothing. -/
theorem Piece.Spaced.delimits {dialect : Dialect} {piece : Piece} {gap : Text}
    {rest : List (Piece × Text)} (spaced : Spaced ((piece, gap) :: rest))
    (proper : ∀ next ∈ rest, next.1.Proper dialect) (noSign : piece.isSign = false)
    : Delimits (gap ++ concat dialect rest) := by
  by_cases filled : gap = []
  · subst filled
    cases rest with
    | nil => exact fun char first => nomatch first
    | cons entry rest =>
        obtain ⟨next, behind⟩ := entry
        have isProper := proper _ List.mem_cons_self
        have apart := (List.isChain_cons_cons.mp spaced.apart).1
        cases next with
        | sign mark =>
            intro char first
            obtain rfl : mark = char := Option.some.inj first
            exact Or.inr (List.mem_cons_of_mem _ isProper)
        | word _ | literal _ | lifetime _ => exact absurd rfl (apart noSign rfl)
  · exact (spaced.trivia _ List.mem_cons_self).delimits_append filled _

section Delimits

variable {rest : Text}

theorem Delimits.not_continuesName (ends : Delimits rest) {char : Char} (first : rest.head? = some char)
    : continuesName char = false := by
  by_contra continues
  have continues := eq_true_of_ne_false continues
  rcases ends char first with blank | sign
  · exact nomatch blank.symm.trans (isBlank_of_continuesName continues)
  · simp only [signs, List.mem_cons, List.not_mem_nil, or_false] at sign
    rcases sign with rfl | rfl | rfl | rfl | rfl <;> exact absurd continues (by decide)

theorem Delimits.ne_of_head? (ends : Delimits rest) {char : Char} (first : rest.head? = some char)
    : char ≠ '#' ∧ char ≠ '\x22' ∧ char ≠ '\x27' := by
  refine ⟨?_, ?_, ?_⟩
  all_goals
    rintro rfl
    exact absurd (ends _ first) (by decide)

theorem Delimits.run_eq_zero (ends : Delimits rest) {passes : Char → Bool}
    (within : ∀ char, passes char = true → continuesName char = true)
    : run passes rest = 0 := by
  cases rest with
  | nil => rfl
  | cons char rest =>
      have stops : passes char = false := by
        by_contra goesOn
        have continues := within char (eq_true_of_ne_false goesOn)
        exact nomatch continues.symm.trans (ends.not_continuesName rfl)
      simp [run_cons, stops]

end Delimits

-----------------------------------------------------------------------------------------
-- Words
-----------------------------------------------------------------------------------------

namespace Lexeme

theorem ne_of_beginsName {first char : Char} (begins : beginsName first = true)
    (noName : beginsName char = false)
    : first ≠ char := by
  rintro rfl
  exact nomatch begins.symm.trans noName

theorem rawBody?_eq_none {text : Text}
    (plain : ∀ char ∈ text.head?, char ≠ '#' ∧ char ≠ '\x22')
    : rawBody? text = none := by
  cases text with
  | nil => rfl
  | cons char rest =>
      obtain ⟨noSign, noQuote⟩ := plain char rfl
      have count : run (· = '#') (char :: rest) = 0 := by simp [run_cons, noSign]
      exact rawBody?_of_ne_quote count rfl noQuote

/-- The character behind a part of a name goes on the name or ends it, and is no sign of a literal. -/
theorem ne_of_head?_append {front rest : Text} (all : front.all continuesName = true)
    (ends : Delimits rest) {char : Char} (first : (front ++ rest).head? = some char)
    : char ≠ '#' ∧ char ≠ '\x22' ∧ char ≠ '\x27' := by
  cases front with
  | nil => exact ends.ne_of_head? first
  | cons next front =>
      obtain rfl := Option.some.inj first
      simp only [List.all_cons, Bool.and_eq_true] at all
      refine ⟨?_, ?_, ?_⟩
      all_goals
        rintro rfl
        exact absurd all.1 (by decide)

/-- No raw string begins with a name, though its prefix is one: no sign or quote follows. -/
theorem rawString?_of_name {first : Char} {name rest : Text}
    (all : name.all continuesName = true) (ends : Delimits rest)
    : rawString? (first :: (name ++ rest)) = none := by
  have noBody {front : Text} (all : front.all continuesName = true)
      : rawBody? (front ++ rest) = none :=
    rawBody?_eq_none fun char head =>
      ⟨(ne_of_head?_append all ends head).1, (ne_of_head?_append all ends head).2.1⟩
  by_cases raw : first = 'r'
  · subst raw
    rw [rawString?, noBody all, Option.map_none]
  · by_cases bytes : first = 'b' ∧ (name ++ rest).head? = some 'r'
    · obtain ⟨rfl, head⟩ := bytes
      cases name with
      | nil => exact absurd (ends.not_continuesName head) (by decide)
      | cons next name =>
          obtain rfl : next = 'r' := Option.some.inj head
          rw [List.all_cons, Bool.and_eq_true] at all
          rw [List.cons_append, rawString?, noBody all.2, Option.map_none]
    · exact rawString?_eq_none raw fun opens head => bytes ⟨opens, head⟩

theorem first_name {dialect : Dialect} {first : Char} {name rest : Text}
    (begins : beginsName first = true) (all : name.all continuesName = true) (ends : Delimits rest)
    : Lexeme.first dialect first (name ++ rest) = (.identifier, name.length + 1) := by
  have noComment : comment? (first :: (name ++ rest)) = none :=
    comment?_eq_none fun opens => absurd opens (ne_of_beginsName begins (by decide))
  have noCharacter : character? (first :: (name ++ rest)) = none :=
    character?_eq_none (ne_of_beginsName begins (by decide)) fun _ quote =>
      (ne_of_head?_append all ends quote).2.2 rfl
  have noLiteral : literal? dialect (first :: (name ++ rest)) = none :=
    literal?_eq_none
      ⟨ne_of_beginsName begins (by decide), ne_of_beginsName begins (by decide)⟩
      (rawString?_of_name all ends) noCharacter
  rw [first_eq_common noComment noLiteral, common, isDecimal_of_beginsName begins, begins,
    run_append_of_all rest all, ends.run_eq_zero fun _ continues => continues]
  simp [Nat.add_comm]

-----------------------------------------------------------------------------------------
-- Signs
-----------------------------------------------------------------------------------------

theorem first_sign {dialect : Dialect} {char : Char} (sign : char ∈ signs)
    (rest : Text)
    : first dialect char rest = (.punctuation, 1) := by
  have plain : char ∉ ['/', '\x22', '\x27', 'r', 'b'] := by
    simp only [signs, List.mem_cons, List.not_mem_nil, or_false] at sign
    rcases sign with rfl | rfl | rfl | rfl <;> decide
  have noWord : Text.isDecimal char = false ∧ beginsName char = false
      ∧ Text.isBlank char = false := by
    simp only [signs, List.mem_cons, List.not_mem_nil, or_false] at sign
    rcases sign with rfl | rfl | rfl | rfl <;> decide
  rw [first_of_not_mem rest plain, common]
  simp [noWord]

/-- The quote of a lifetime is no literal: behind the first character of the label comes no other
quote.
-/
theorem first_lifetime {label rest : Text} (name : IsName label) (ends : Delimits rest)
    : first .rust '\x27' (label ++ rest) = (.punctuation, 1) := by
  obtain ⟨initial, label, rfl, begins, all⟩ := name.exists_cons
  have bodies : characterBodies (initial :: (label ++ rest)) = [1] := by
    have noQuote : initial ≠ '\x27' := ne_of_beginsName begins (by decide)
    have noBreak : initial ≠ '\n' := ne_of_beginsName begins (by decide)
    rw [characterBodies_plain _ (ne_of_beginsName begins (by decide))]
    simp [noQuote, noBreak]
  have noEnd : closesCharacter (label ++ rest) = false := by
    rw [closesCharacter_eq, beq_eq_false_iff_ne]
    exact fun quote => (ne_of_head?_append all ends quote).2.2 rfl
  have noCharacter : character? ('\x27' :: initial :: (label ++ rest)) = none := by
    rw [character?, characterBody?, bodies]
    simp [noEnd]
  have noComment : comment? ('\x27' :: initial :: (label ++ rest)) = none :=
    comment?_eq_none fun opens => absurd opens (by decide)
  have noRaw : rawString? ('\x27' :: initial :: (label ++ rest)) = none :=
    rawString?_eq_none (by decide) fun opens => absurd opens (by decide)
  have noLiteral : literal? .rust ('\x27' :: initial :: (label ++ rest)) = none := by
    simp [literal?, noRaw, string?, noCharacter]
  rw [List.cons_append, first_eq_common noComment noLiteral]
  rfl

end Lexeme

-----------------------------------------------------------------------------------------
-- Pieces
-----------------------------------------------------------------------------------------

theorem significant_name {dialect : Dialect} {name rest : Text} (isName : IsName name)
    (ends : Delimits rest)
    : significant dialect (name ++ rest) = ⟨.identifier, name⟩ :: significant dialect rest := by
  obtain ⟨first, more, rfl, begins, all⟩ := isName.exists_cons
  exact significant_of_token (first_name begins all ends) rfl

/-- A piece in front of a text that does not go on with it gives its own lexemes. -/
theorem significant_piece {dialect : Dialect} {piece : Piece} {rest : Text}
    (proper : piece.Proper dialect) (ends : piece.isSign = false → Delimits rest)
    : significant dialect (piece.text dialect ++ rest)
      = piece.lexemes dialect ++ significant dialect rest := by
  cases piece with
  | word text => exact significant_name proper (ends rfl)
  | sign char => exact significant_of_single (first_sign proper rest) rfl
  | literal value =>
      have within : dialect = .solidity → run continuesNumber rest = 0 :=
        fun _ => (ends rfl).run_eq_zero fun _ => continuesName_of_continuesNumber
      have meaning : Token.isTrivia (literalKind dialect) = false := by
        cases dialect <;> rfl
      simp only [significant, Piece.text, Piece.lexemes, lexemes_renderLiteral proper rest within]
      simp [meaning]
  | lifetime label =>
      obtain ⟨rfl, isName⟩ := proper
      have quote := significant_of_single (first_lifetime isName (ends rfl)) rfl
      rw [significant_name isName (ends rfl)] at quote
      exact quote

/-- A text that is written from pieces has their lexemes and no others that mean something. By
induction on the pieces.
-/
theorem significant_concat {dialect : Dialect} {pieces : List (Piece × Text)}
    (spaced : Piece.Spaced pieces) (proper : ∀ piece ∈ pieces, piece.1.Proper dialect)
    : significant dialect (Piece.concat dialect pieces)
      = (pieces.map Prod.fst).flatMap (Piece.lexemes dialect) := by
  induction pieces with
  | nil => simp [significant, lexemes]
  | cons entry rest ih =>
      obtain ⟨piece, gap⟩ := entry
      have isProper := proper _ List.mem_cons_self
      have later : ∀ next ∈ rest, next.1.Proper dialect :=
        fun next member => proper next (List.mem_cons_of_mem _ member)
      have trivia := spaced.trivia _ List.mem_cons_self
      rw [Piece.concat_cons, significant_piece isProper (spaced.delimits later),
        significant_trivia trivia, ih spaced.of_cons later, List.map_cons, List.flatMap_cons]

end VerifierBootstrap
