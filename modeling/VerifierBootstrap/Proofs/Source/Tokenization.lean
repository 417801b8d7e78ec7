import VerifierBootstrap.Proofs.Source.LexemeCuts
import VerifierBootstrap.Proofs.Source.NestedComments
import VerifierBootstrap.Proofs.Source.TokenPlaces

/-!
Tokens account for their text. They stand one behind the other, each is what the text has at its
places, and what stands between them are blanks and comments; and a token that is cut out of its
text is the one token of what was cut out.
-/

namespace VerifierBootstrap

open Lexeme

-----------------------------------------------------------------------------------------
-- Lexemes between tokens
-----------------------------------------------------------------------------------------

/-- A comment in front of a rest: from two slashes up to the next line feed or the end, or from a
slash and a star through the first star and slash behind them.
-/
inductive CommentBefore (rest : Text) : Text → Prop where
  | line {body : Text} (within : '\n' ∉ body) (ends : ∀ char ∈ rest.head?, char = '\n')
    : CommentBefore rest ('/' :: '/' :: body)
  | block {body : Text} (within : ¬ ['*', '/'] <:+: body)
    : CommentBefore rest ('/' :: '*' :: (body ++ ['*', '/']))

namespace Lexeme

theorem infix_of_through? {needle text : Text} {length : Nat}
    (found : through? needle text = some length)
    : needle <:+: text := by
  induction text generalizing length with
  | nil =>
      cases needle with
      | nil => exact List.infix_refl []
      | cons => simp [through?] at found
  | cons char rest ih =>
      rw [through?] at found
      split at found
      · rename_i begins
        exact (List.isPrefixOf_iff_prefix.mp begins).isInfix
      · obtain ⟨inner, within, _⟩ := Option.map_eq_some_iff.mp found
        exact (ih within).trans (List.suffix_cons char rest).isInfix

/-- The scanner of comments finds a comment in front of what is behind it. -/
theorem exists_comment {text : Text} {length : Nat} (found : comment? text = some length)
    : ∃ comment rest,
        text = comment ++ rest ∧ comment.length = length ∧ CommentBefore rest comment := by
  unfold comment? at found
  split at found
  · rename_i behind
    obtain rfl := Option.some.inj found
    have whole := takeWhile_append_drop_run (· ≠ '\n') behind
    refine ⟨'/' :: '/' :: behind.takeWhile (· ≠ '\n'), behind.drop (run (· ≠ '\n') behind), ?_, ?_,
      .line ?_ ?_⟩
    · rw [List.cons_append, List.cons_append, whole]
    · rw [List.length_cons, List.length_cons, ← run]
      omega
    · intro member
      simpa using List.all_eq_true.mp List.all_takeWhile _ member
    · -- Another character would have gone on the comment
      intro char head
      by_contra goesOn
      obtain ⟨more, cut⟩ := List.head?_eq_some_iff.mp head
      have ended := run_drop_run (· ≠ '\n') behind
      rw [cut, run_cons, if_pos (by simpa using goesOn)] at ended
      omega
  · rename_i behind
    obtain ⟨inner, within, rfl⟩ := Option.map_eq_some_iff.mp found
    obtain ⟨body, rest, rfl, free⟩ := exists_first_close (infix_of_through? within)
    rw [List.append_assoc, List.cons_append, List.cons_append, List.nil_append,
      through?_of_body free] at within
    obtain rfl := Option.some.inj within
    exact ⟨'/' :: '*' :: (body ++ ['*', '/']), rest, rfl, by simp; omega, .block free⟩
  · cases found

/-- A first lexeme that is a comment is what the scanner of comments finds. -/
theorem first_comment {dialect : Dialect} {char : Char} {rest : Text} {length : Nat}
    (found : first dialect char rest = (.comment, length))
    : comment? (char :: rest) = some length := by
  rcases first_cases found with ⟨_, comment⟩ | literal | shared
  · exact comment
  · simpa using literal?_cases literal
  · simpa using common_cases shared

/-- A first lexeme of blanks begins with a blank, and goes on as far as it can. -/
theorem first_space {dialect : Dialect} {char : Char} {rest : Text} {length : Nat}
    (found : first dialect char rest = (.space, length))
    : Text.isBlank char = true ∧ length = 1 + run Text.isBlank rest := by
  rcases first_cases found with ⟨other, _⟩ | literal | shared
  · exact absurd other (by decide)
  · simpa using literal?_cases literal
  · simpa using common_cases shared

end Lexeme

/-- A lexeme that is a comment is one in front of what follows it. -/
theorem commentBefore_of_lexemes {dialect : Dialect} {text comment : Text}
    {before after : List Lexeme}
    (cut : lexemes dialect text = before ++ ⟨.comment, comment⟩ :: after)
    : CommentBefore (concat after) comment := by
  obtain ⟨char, rest, kind, length, whole, found, same, _⟩ := lexemes_eq_cons (lexemes_behind cut)
  obtain ⟨rfl, taken⟩ := Lexeme.mk.inj same
  obtain ⟨scanned, remainder, split, rfl, isComment⟩ := exists_comment (first_comment found)
  obtain rfl : comment = scanned := by
    rw [taken, ← List.take_cons (first_pos found), split, List.take_left]
  have behind : concat after = remainder := by
    rw [concat_cons, split] at whole
    exact List.append_cancel_left whole
  rwa [behind]

/-- A lexeme of blanks holds nothing else. -/
theorem isBlank_of_lexemes {dialect : Dialect} {text blanks : Text}
    (member : (⟨.space, blanks⟩ : Lexeme) ∈ lexemes dialect text)
    : ∀ char ∈ blanks, Text.isBlank char = true := by
  obtain ⟨first, rest, length, found, rfl⟩ := exists_first_of_mem member
  obtain ⟨blank, rfl⟩ := first_space found
  have cut : rest.take (run Text.isBlank rest) = rest.takeWhile Text.isBlank :=
    (List.prefix_iff_eq_take.mp (List.takeWhile_prefix _)).symm
  intro char inside
  rw [Nat.add_sub_cancel_left, cut] at inside
  rcases List.mem_cons.mp inside with rfl | inside
  · exact blank
  · exact List.all_eq_true.mp List.all_takeWhile char inside

-----------------------------------------------------------------------------------------
-- Places
-----------------------------------------------------------------------------------------

namespace Token

/-- Tokens stand one behind the other. By induction on the lexemes: what follows a lexeme begins
where it stops, or behind that.
-/
theorem pairwise_ofLexemes (start : Nat) (lexemes : List Lexeme)
    : (ofLexemes start lexemes).Pairwise fun token next => token.stop ≤ next.start := by
  induction lexemes generalizing start with
  | nil => exact .nil
  | cons lexeme rest ih =>
      rw [ofLexemes]
      split
      · exact ih _
      · exact .cons (fun _ later => start_le_of_mem later) (ih _)

/-- Tokens in front of a lexeme stop before it. -/
theorem stop_le_of_mem {start : Nat} {lexemes : List Lexeme} {token : Token}
    (member : token ∈ ofLexemes start lexemes)
    : token.stop ≤ start + (concat lexemes).length := by
  obtain ⟨before, after, cut⟩ := List.append_of_mem member
  obtain ⟨left, right, rfl, _, _, starts, stops, _⟩ := ofLexemes_eq_append_cons cut
  simp only [concat_append, concat_cons, List.length_append]
  omega

end Token

/-- Every place in the text of lexemes is in one of them. -/
theorem exists_lexeme_at {lexemes : List Lexeme} {place : Nat}
    (inside : place < (concat lexemes).length)
    : ∃ before lexeme after,
        lexemes = before ++ lexeme :: after
        ∧ (concat before).length ≤ place
        ∧ place < (concat before).length + lexeme.text.length := by
  induction lexemes generalizing place with
  | nil => simp at inside
  | cons lexeme rest ih =>
      rw [concat_cons, List.length_append] at inside
      by_cases here : place < lexeme.text.length
      · exact ⟨[], lexeme, rest, rfl, by simp, by simpa using here⟩
      · obtain ⟨before, later, after, rfl, low, high⟩ :=
          ih (by omega : place - lexeme.text.length < (concat rest).length)
        refine ⟨lexeme :: before, later, after, rfl, ?_, ?_⟩
        all_goals
          rw [concat_cons, List.length_append]
          omega

/-- A token is what its text has at its places, and is found again in what it is cut out as. -/
theorem token_of_mem {dialect : Dialect} {text : Text} {token : Token}
    (member : token ∈ tokenize dialect text)
    : token.start < token.stop
      ∧ token.stop ≤ text.length
      ∧ token.text = (text.drop token.start).take (token.stop - token.start)
      ∧ token.text ≠ []
      ∧ tokenize dialect token.text = [⟨token.kind, token.text, 0, token.text.length⟩] := by
  obtain ⟨before, after, cut⟩ := List.append_of_mem member
  obtain ⟨left, right, lexed, _, meaning, starts, stops, _⟩ := Token.ofLexemes_eq_append_cons cut
  have inside : (⟨token.kind, token.text⟩ : Lexeme) ∈ lexemes dialect text := by simp [lexed]
  have whole : text = concat left ++ (token.text ++ concat right) := by
    rw [← concat_lexemes dialect text, lexed, concat_append, concat_cons]
  have filled : token.text ≠ [] := by
    obtain ⟨char, rest, _, _, same⟩ := exists_first_of_mem inside
    have begins : token.text = char :: _ := same
    rw [begins]
    exact List.cons_ne_nil _ _
  have positive := List.length_pos_iff.mpr filled
  rw [Nat.zero_add] at starts
  have length : text.length = token.stop + (concat right).length := by
    rw [whole, List.length_append, List.length_append]
    omega
  refine ⟨by omega, by omega, ?_, filled, ?_⟩
  · rw [whole, starts, List.drop_left, stops, starts, Nat.add_sub_cancel_left, List.take_left]
  · have alone := lexemes_of_mem inside
    simp [tokenize, alone, Token.ofLexemes, meaning]

/-- What is in no token is a blank or in a comment that has no part in a token. -/
theorem blank_or_comment_of_uncovered {dialect : Dialect} {text : Text} {place : Nat} {char : Char}
    (there : text[place]? = some char)
    (uncovered : ∀ token ∈ tokenize dialect text, ¬ (token.start ≤ place ∧ place < token.stop))
    : Text.isBlank char = true
      ∨ ∃ before comment after,
          text = before ++ comment ++ after
          ∧ CommentBefore after comment
          ∧ before.length ≤ place
          ∧ place < before.length + comment.length
          ∧ ∀ token ∈ tokenize dialect text,
              token.stop ≤ before.length ∨ before.length + comment.length ≤ token.start := by
  have within : place < (concat (lexemes dialect text)).length := by
    rw [concat_lexemes]
    exact (List.getElem?_eq_some_iff.mp there).1
  obtain ⟨before, lexeme, after, cut, low, high⟩ := exists_lexeme_at within
  have whole : text = concat before ++ lexeme.text ++ concat after := by
    rw [← concat_lexemes dialect text, cut, concat_append, concat_cons, List.append_assoc]
  have tokens
      : tokenize dialect text
        = Token.ofLexemes 0 before
          ++ Token.ofLexemes (concat before).length (lexeme :: after) := by
    rw [tokenize, cut, Token.ofLexemes_append, Nat.zero_add]
  obtain ⟨kind, body⟩ := lexeme
  have high : place < (concat before).length + body.length := high
  -- A lexeme that is no blank and no comment would be a token at the place
  cases trivia : Token.isTrivia kind with
  | false =>
      have covered := uncovered
        ⟨kind, body, (concat before).length, (concat before).length + body.length⟩
        (by simp [tokens, Token.ofLexemes, trivia])
      exact absurd ⟨low, high⟩ covered
  | true =>
      cases kind with
      | space =>
          have inside : (⟨.space, body⟩ : Lexeme) ∈ lexemes dialect text := by simp [cut]
          refine .inl (isBlank_of_lexemes inside char ?_)
          rw [whole, List.append_assoc, List.getElem?_append_right low,
            List.getElem?_append_left (by omega)] at there
          exact List.mem_of_getElem? there
      | comment =>
          refine .inr ⟨concat before, body, concat after, whole, commentBefore_of_lexemes cut, low,
            high, ?_⟩
          intro token member
          rw [tokens, Token.ofLexemes, if_pos trivia] at member
          rcases List.mem_append.mp member with front | behind
          · exact .inl (by simpa using Token.stop_le_of_mem front)
          · exact .inr (Token.start_le_of_mem behind)
      | _ => cases trivia

/-- Tokens account for their text, and each of them stands for itself. They stand one behind the
other within the text, each is what the text has at its places and not nothing, and what is in none
of them is a blank, or in a comment that has no part in a token; and a token that is cut out of the
text is the one token of what was cut out, of its kind. Witness: the lexemes of a text make it up,
and a scanner that did not find anything in a text finds nothing in a front of it.
-/
theorem tokenize_accounts (dialect : Dialect) (text : Text)
    : (tokenize dialect text).Pairwise (fun token next => token.stop ≤ next.start)
      ∧ (∀ token ∈ tokenize dialect text,
          token.start < token.stop
          ∧ token.stop ≤ text.length
          ∧ token.text = (text.drop token.start).take (token.stop - token.start)
          ∧ token.text ≠ []
          ∧ tokenize dialect token.text = [⟨token.kind, token.text, 0, token.text.length⟩])
      ∧ ∀ place char,
          text[place]? = some char
          → (∀ token ∈ tokenize dialect text, ¬ (token.start ≤ place ∧ place < token.stop))
          → Text.isBlank char = true
            ∨ ∃ before comment after,
                text = before ++ comment ++ after
                ∧ CommentBefore after comment
                ∧ before.length ≤ place
                ∧ place < before.length + comment.length
                ∧ ∀ token ∈ tokenize dialect text,
                    token.stop ≤ before.length ∨ before.length + comment.length ≤ token.start := by
  exact ⟨Token.pairwise_ofLexemes 0 _, fun _ => token_of_mem,
    fun _ _ => blank_or_comment_of_uncovered⟩

/-- A comment is passed over and a quote without its end is a token of its own, alone as in its
text.
-/
theorem tokenize_accounts_unclosed
    : let text := "a /*b*/ \x22c // d".toList
      (tokenize .rust text).map Token.text = [['a'], ['\x22'], ['c']]
      ∧ tokenize .rust ['\x22'] = [⟨.punctuation, ['\x22'], 0, 1⟩]
      ∧ ∃ before comment after,
          text = before ++ comment ++ after
          ∧ CommentBefore after comment
          ∧ before.length ≤ 4
          ∧ 4 < before.length + comment.length := by
  intro text
  obtain ⟨_, stable, passed⟩ := tokenize_accounts .rust text
  have quote : (⟨.punctuation, ['\x22'], 8, 9⟩ : Token) ∈ tokenize .rust text := by decide +kernel
  have uncovered
      : ∀ token ∈ tokenize .rust text, ¬ (token.start ≤ 4 ∧ 4 < token.stop) := by
    decide +kernel
  obtain blank | ⟨before, comment, after, whole, isComment, low, high, _⟩ :=
    passed 4 'b' rfl uncovered
  · exact absurd blank (by decide)
  · exact ⟨by decide +kernel, (stable _ quote).2.2.2.2, before, comment, after, whole, isComment,
      low, high⟩

end VerifierBootstrap
