import VerifierBootstrap.Proofs.Json.Cuts
import VerifierBootstrap.Proofs.Json.Strings

/-!
Texts that are cut into tokens by themselves. Before any text that cuts them off they have the same
tokens, and what follows has the tokens that it would have alone.
-/

namespace VerifierBootstrap.Json

/-- A text has tokens of these kinds, whatever stands before it and cuts it off behind. -/
def Lexed (text : Text) (kinds : List TokenKind) : Prop :=
  ∀ position rest, Cuts rest
    → ∃ tokens,
        tokens.map Token.kind = kinds
        ∧ tokensFrom position (text ++ rest)
          = tokens ++ tokensFrom (position + text.length) rest

-----------------------------------------------------------------------------------------
-- Composition
-----------------------------------------------------------------------------------------

namespace Lexed

variable {text other blanks : Text} {kinds others : List TokenKind} {kind : TokenKind}
  {char : Char}

theorem nil : Lexed [] [] :=
  fun _ _ _ => ⟨[], rfl, rfl⟩

/-- A token in front of others. -/
theorem token (taken : Nat) (filled : isBlank char = false) (inside : taken ≤ text.length)
    (read
      : ∀ position rest,
          Cuts rest → readToken position char (text ++ rest) = (kind, taken))
    (behind : Lexed (text.drop taken) kinds)
    : Lexed (char :: text) (kind :: kinds) := by
  intro position rest cuts
  obtain ⟨tokens, same, split⟩ := behind (position + 1 + taken) rest cuts
  refine ⟨⟨kind, position⟩ :: tokens, congrArg _ same, ?_⟩
  have stop : position + 1 + taken + (text.drop taken).length = position + (char :: text).length := by
    rw [List.length_drop, List.length_cons]
    omega
  rw [List.cons_append, tokensFrom, if_neg (by simp [filled]), read position rest cuts]
  dsimp only
  rw [List.drop_append_of_le_length inside, split, stop, List.cons_append]

/-- A lexeme that ends by itself in front of others. -/
theorem reads_append {lexeme : Text} (reads : Reads lexeme kind) (behind : Lexed text kinds)
    : Lexed (lexeme ++ text) (kind :: kinds) := by
  cases reads with
  | @intro char body kind filled read =>
      rw [List.cons_append]
      refine token body.length filled (by simp) (fun position rest _ => ?_) ?_
      · rw [List.append_assoc]
        exact read position (text ++ rest)
      · rwa [List.drop_left]

theorem blanks_append (blank : Blanks blanks) (behind : Lexed text kinds)
    : Lexed (blanks ++ text) kinds := by
  intro position rest cuts
  obtain ⟨tokens, same, split⟩ := behind (position + blanks.length) rest cuts
  refine ⟨tokens, same, ?_⟩
  rw [List.append_assoc, tokensFrom_blanks blank, split, List.length_append, Nat.add_assoc]

/-- A text behind another that it cuts off. -/
theorem append (first : Lexed text kinds) (second : Lexed other others)
    (cut : ∀ rest, Cuts rest → Cuts (other ++ rest))
    : Lexed (text ++ other) (kinds ++ others) := by
  intro position rest cuts
  obtain ⟨front, sameFront, splitFront⟩ := first position (other ++ rest) (cut rest cuts)
  obtain ⟨back, sameBack, splitBack⟩ := second (position + text.length) rest cuts
  refine ⟨front ++ back, by rw [List.map_append, sameFront, sameBack], ?_⟩
  rw [List.append_assoc, splitFront, splitBack, List.length_append, List.append_assoc,
    Nat.add_assoc]

theorem append_blanks (behind : Lexed text kinds) (blank : Blanks blanks)
    : Lexed (text ++ blanks) kinds := by
  have spaced := behind.append (nil.blanks_append blank) fun rest cuts => by
    rw [List.append_nil]
    exact cuts.blanks_append blank
  rwa [List.append_nil, List.append_nil] at spaced

/-- A mark that cuts off what stands before it. -/
theorem append_mark (first : Lexed text kinds) (second : Lexed other others)
    (cutter : char ∈ cutters) (mark : mark? char = some kind)
    : Lexed (text ++ char :: other) (kinds ++ kind :: others) :=
  first.append (reads_append (reads_mark mark) second) fun _ _ => cuts_cons cutter _

theorem enclosed {opening closing : Char} {first last : TokenKind} (inner : Lexed text kinds)
    (opened : mark? opening = some first) (closed : mark? closing = some last)
    (cutter : closing ∈ cutters)
    : Lexed (opening :: (text ++ [closing])) (first :: (kinds ++ [last])) :=
  reads_append (reads_mark opened) (inner.append_mark nil cutter closed)

end Lexed

/-- Items with commas between them. By induction on the items. -/
theorem lexed_separated {items : List Text} {kinds : List (List TokenKind)}
    (each : List.Forall₂ Lexed items kinds)
    : Lexed (separated ',' items) (separated .comma kinds) := by
  cases each with
  | nil => exact .nil
  | @cons item kind items kinds first rest =>
      induction rest generalizing item kind with
      | nil =>
          simpa [separated] using first
      | @cons next more items kinds second rest ih =>
          have cutter : ',' ∈ cutters := by decide
          have behind := first.append_mark (ih second) cutter rfl
          simpa [separated] using behind

-----------------------------------------------------------------------------------------
-- Scalars
-----------------------------------------------------------------------------------------

/-- The value of the word or numeral at the front of a text, and its length. -/
def scalar? (text : Text) : Option (Json × Nat) :=
  match word? text with
  | some (word, value) => some (value, word.length)
  | none =>
      (Numeral.read? text).bind fun numeral =>
        match numeral.value with
        | .ok value => some (value, numeral.length)
        | .error _ => none

theorem scalar?_append {rest : Text} (cuts : Cuts rest) (text : Text)
    : scalar? (text ++ rest) = scalar? text := by
  rw [scalar?, scalar?, word?_append cuts, Numeral.read?_append cuts]

theorem length_le_of_scalar? {text : Text} {value : Json} {length : Nat}
    (found : scalar? text = some (value, length))
    : length ≤ text.length := by
  unfold scalar? at found
  split at found
  · rename_i word _ atFront
    obtain ⟨_, rfl⟩ := Prod.mk.inj (Option.some.inj found)
    rw [word?] at atFront
    have fits := List.find?_some atFront
    exact (List.isPrefixOf_iff_prefix.mp fits).length_le
  · obtain ⟨numeral, read, found⟩ := Option.bind_eq_some_iff.mp found
    split at found
    · obtain ⟨_, rfl⟩ := Prod.mk.inj (Option.some.inj found)
      exact Numeral.length_le_of_read? read
    · cases found

theorem scalar?_of_word {text word : Text} {value : Json}
    (atFront : word? text = some (word, value))
    : scalar? text = some (value, word.length) := by
  rw [scalar?, atFront]

theorem scalar?_of_no_word {text : Text} (noWord : word? text = none)
    : scalar? text
      = (Numeral.read? text).bind fun numeral =>
          match numeral.value with
          | .ok value => some (value, numeral.length)
          | .error _ => none := by
  rw [scalar?, noWord]

/-- What is read as a token is a mark, a string or a scalar, or something is wrong with it. -/
inductive TokenAt (position : Nat) (char : Char) (text : Text) : TokenKind × Nat → Prop where
  | mark {kind : TokenKind} (mark : mark? char = some kind) : TokenAt position char text (kind, 0)
  | string {points : Points} {stop : Nat} (quote : char = '\x22')
    (closed : readString position (position + 1) text = .ok (points, stop))
    : TokenAt position char text (.string points.joinPairs, stop - (position + 1))
  | scalar {value : Json} {length : Nat} (unmarked : mark? char = none) (unquoted : char ≠ '\x22')
    (found : scalar? (char :: text) = some (value, length))
    : TokenAt position char text (.scalar value, length - 1)
  | broken {fault : Fault} (noScalar : char = '\x22' ∨ scalar? (char :: text) = none)
    : TokenAt position char text (.broken fault, text.length)
  | stray (noScalar : scalar? (char :: text) = none)
    : TokenAt position char text (.stray, text.length)

theorem tokenAt_readToken (position : Nat) (char : Char) (text : Text)
    : TokenAt position char text (readToken position char text) := by
  unfold readToken
  cases marked : mark? char with
  | some kind => exact .mark marked
  | none =>
      dsimp only
      by_cases quote : char = '\x22'
      · rw [if_pos quote]
        cases closed : readString position (position + 1) text with
        | ok read => exact .string quote closed
        | error fault => exact .broken (.inl quote)
      · rw [if_neg quote]
        cases atFront : word? (char :: text) with
        | some entry => exact .scalar marked quote (scalar?_of_word atFront)
        | none =>
            have scalar_eq := scalar?_of_no_word atFront
            dsimp only
            cases read : Numeral.read? (char :: text) with
            | none =>
                rw [read] at scalar_eq
                exact .stray scalar_eq
            | some numeral =>
                rw [read, Option.bind_some] at scalar_eq
                dsimp only
                cases valued : numeral.value with
                | ok value =>
                    rw [valued] at scalar_eq
                    exact .scalar marked quote scalar_eq
                | error fault =>
                    rw [valued] at scalar_eq
                    exact .broken (.inr scalar_eq)

/-- What is neither a mark nor a string is a scalar token if it is a scalar. -/
theorem readToken_eq_scalar_iff {char : Char} {text : Text} {value : Json} {position taken : Nat}
    : readToken position char text = (.scalar value, taken)
      ↔ mark? char = none
        ∧ char ≠ '\x22'
        ∧ ∃ length, scalar? (char :: text) = some (value, length) ∧ taken = length - 1 := by
  have here := tokenAt_readToken position char text
  constructor
  · intro read
    rw [read] at here
    cases here with
    | mark mark => exact (isMark_of_mark? mark).elim
    | scalar unmarked unquoted found => exact ⟨unmarked, unquoted, _, found, rfl⟩
  · rintro ⟨unmarked, unquoted, length, found, rfl⟩
    generalize readToken position char text = token at here ⊢
    cases here with
    | mark mark => exact nomatch unmarked.symm.trans mark
    | string quote => exact absurd quote unquoted
    | scalar _ _ again =>
        obtain ⟨rfl, rfl⟩ := Prod.mk.inj (Option.some.inj (found.symm.trans again))
        rfl
    | broken noScalar =>
        rcases noScalar with quote | noScalar
        · exact absurd quote unquoted
        · exact nomatch found.symm.trans noScalar
    | stray noScalar => exact nomatch found.symm.trans noScalar

/-- A scalar is read the same before all that cuts it off. -/
theorem readToken_scalar_append {char : Char} {text rest more : Text} {value : Json}
    {position taken : Nat} (cuts : Cuts rest) (moreCuts : Cuts more)
    (read : readToken position char (text ++ rest) = (.scalar value, taken)) (other : Nat)
    : readToken other char (text ++ more) = (.scalar value, taken) ∧ taken ≤ text.length := by
  rw [readToken_eq_scalar_iff, ← List.cons_append, scalar?_append cuts] at read
  rw [readToken_eq_scalar_iff, ← List.cons_append, scalar?_append moreCuts]
  obtain ⟨unmarked, unquoted, length, found, rfl⟩ := read
  have short := length_le_of_scalar? found
  rw [List.length_cons] at short
  exact ⟨⟨unmarked, unquoted, length, found, rfl⟩, by omega⟩

/-- A text that is one scalar throughout. -/
theorem lexed_scalar {char : Char} {text : Text} {value : Json}
    (filled : isBlank char = false) (unmarked : mark? char = none) (unquoted : char ≠ '\x22')
    (found : scalar? (char :: text) = some (value, text.length + 1))
    : Lexed (char :: text) [.scalar value] := by
  refine .token text.length filled (Nat.le_refl _) (fun position rest cuts => ?_) ?_
  · rw [readToken_eq_scalar_iff, ← List.cons_append, scalar?_append cuts]
    exact ⟨unmarked, unquoted, _, found, rfl⟩
  · rw [List.drop_length]
    exact .nil

end VerifierBootstrap.Json
