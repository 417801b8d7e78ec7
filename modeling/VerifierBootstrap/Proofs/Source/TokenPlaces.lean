import VerifierBootstrap.Proofs.Source.LexemeExchange

/-!
Places of tokens. The tokens of a text are its lexemes but blanks and comments, each at the number
of characters in front of it; so a cut through the tokens is a cut through the lexemes, and tokens
behind a change move by the difference in length.
-/

namespace VerifierBootstrap

open Lexeme

namespace Token

theorem ofLexemes_append (start : Nat) (left right : List Lexeme)
    : ofLexemes start (left ++ right)
      = ofLexemes start left ++ ofLexemes (start + (concat left).length) right := by
  induction left generalizing start with
  | nil => simp [ofLexemes]
  | cons lexeme left ih =>
      simp only [List.cons_append, ofLexemes, ih, concat_cons, List.length_append]
      split <;> simp [Nat.add_assoc]

/-- A token among others is one of the lexemes, and cuts them where it cuts the tokens. -/
theorem ofLexemes_eq_append_cons {start : Nat} {lexemes : List Lexeme} {before after : List Token}
    {token : Token} (cut : ofLexemes start lexemes = before ++ token :: after)
    : ∃ left right,
        lexemes = left ++ ⟨token.kind, token.text⟩ :: right
        ∧ ofLexemes start left = before
        ∧ isTrivia token.kind = false
        ∧ token.start = start + (concat left).length
        ∧ token.stop = token.start + token.text.length
        ∧ ofLexemes token.stop right = after := by
  induction lexemes generalizing start before with
  | nil => simp [ofLexemes] at cut
  | cons lexeme rest ih =>
      simp only [ofLexemes] at cut
      split at cut
      · rename_i trivia
        obtain ⟨left, right, rfl, front, kind, starts, stops, back⟩ := ih cut
        refine ⟨lexeme :: left, right, rfl, ?_, kind, ?_, stops, back⟩
        · simp [ofLexemes, trivia, front]
        · simp [starts, Nat.add_assoc]
      · rename_i meaning
        cases before with
        | nil =>
            obtain ⟨rfl, rfl⟩ := List.cons.inj cut
            exact ⟨[], rest, rfl, rfl, by simpa using meaning, rfl, rfl, rfl⟩
        | cons first before =>
            obtain ⟨rfl, same⟩ := List.cons.inj cut
            obtain ⟨left, right, rfl, front, kind, starts, stops, back⟩ := ih same
            refine ⟨lexeme :: left, right, rfl, ?_, kind, ?_, stops, back⟩
            · simp [ofLexemes, meaning, front]
            · simp [starts, Nat.add_assoc]

theorem start_le_of_mem {start : Nat} {lexemes : List Lexeme} {token : Token}
    (member : token ∈ ofLexemes start lexemes)
    : start ≤ token.start := by
  obtain ⟨before, after, cut⟩ := List.append_of_mem member
  obtain ⟨_, _, _, _, _, starts, _⟩ := ofLexemes_eq_append_cons cut
  omega

/-- No token of filled lexemes begins where they end, or behind it. -/
theorem start_lt_of_mem {start : Nat} {lexemes : List Lexeme} {token : Token}
    (filled : ∀ lexeme ∈ lexemes, lexeme.text ≠ [])
    (member : token ∈ ofLexemes start lexemes)
    : token.start < start + (concat lexemes).length := by
  obtain ⟨before, after, cut⟩ := List.append_of_mem member
  obtain ⟨left, right, rfl, _, _, starts, _⟩ := ofLexemes_eq_append_cons cut
  have longer : 0 < token.text.length :=
    List.length_pos_iff.mpr (filled ⟨token.kind, token.text⟩ (by simp))
  simp only [concat_append, concat_cons, List.length_append]
  omega

/-- A token carried from one place to another, by the places of the text it is in. -/
def shift (origin place : Nat) (token : Token) : Token :=
  { token with
    start := token.start - origin + place
    stop := token.stop - origin + place }

/-- The same lexemes at another place have the same tokens, carried there. -/
theorem ofLexemes_shift (origin place : Nat) (lexemes : List Lexeme)
    : ofLexemes place lexemes = (ofLexemes origin lexemes).map (shift origin place) := by
  suffices shifted : ∀ passed,
      ofLexemes (passed + place) lexemes
        = (ofLexemes (passed + origin) lexemes).map (shift origin place) by
    simpa using shifted 0
  intro passed
  induction lexemes generalizing passed with
  | nil => rfl
  | cons lexeme rest ih =>
      have later := ih (passed + lexeme.text.length)
      simp only [ofLexemes, Nat.add_right_comm passed _ lexeme.text.length, later]
      split
      · rfl
      · simp only [List.map_cons, shift]
        congr 2 <;> omega

end Token

end VerifierBootstrap
