import VerifierBootstrap.Proofs.Source.Settlement
import VerifierBootstrap.Proofs.Source.Trivia

/-!
Comments of Rust that stand in one another. Rust counts the signs, and a comment is over when all
that have been opened are closed; a lexeme is over at the first star and slash. What is behind them
in a nested comment is source again, with the declarations that stand there.
-/

namespace VerifierBootstrap

open Lexeme

-----------------------------------------------------------------------------------------
-- Texts behind a comment
-----------------------------------------------------------------------------------------

namespace Declaration

theorem map_shift_shift (inner outer : Nat) (declarations : List Declaration)
    : (declarations.map (shift inner)).map (shift outer)
      = declarations.map (shift (outer + inner)) := by
  rw [List.map_map]
  refine List.map_congr_left fun declaration _ => ?_
  simp [shift, Nat.add_assoc, Nat.add_comm inner]

theorem shift_injective (places : Nat) : Function.Injective (shift places) := by
  intro left right same
  cases left
  cases right
  simpa [shift] using same

end Declaration

/-- A text that is cut off as a single comment, whatever follows it. -/
def IsComment (dialect : Dialect) (text : Text) : Prop :=
  ∀ rest, lexemes dialect (text ++ rest) = ⟨.comment, text⟩ :: lexemes dialect rest

/-- What opens with a slash and a star and has its first star and slash at its end is a comment. -/
theorem isComment_block (dialect : Dialect) {body : Text} (within : ¬ ['*', '/'] <:+: body)
    : IsComment dialect ('/' :: '*' :: (body ++ ['*', '/'])) :=
  fun rest => lexemes_cons (first_block within rest)

namespace IsComment

variable {dialect : Dialect} {comment : Text}

/-- The declarations behind a comment are those of what is behind it, carried there. -/
theorem declarations_append (isComment : IsComment dialect comment) (rest : Text)
    : declarations dialect (comment ++ rest)
      = (declarations dialect rest).map (Declaration.shift comment.length) := by
  have tokens
      : tokenize dialect (comment ++ rest)
        = Token.ofLexemes comment.length (lexemes dialect rest) := by
    rw [tokenize, isComment]
    simp [Token.ofLexemes, Token.isTrivia]
  rw [declarations, tokens, Declaration.ofTokens_ofLexemes, declarations, tokenize]

theorem findDeclaration_append (isComment : IsComment dialect comment) (rest name : Text)
    : findDeclaration dialect (comment ++ rest) name
      = (findDeclaration dialect rest name).map (Declaration.shift comment.length) := by
  rw [findDeclaration, isComment.declarations_append, List.find?_map]
  rfl

end IsComment

theorem Sync.splice_append_left (left text : Text) (start stop : Nat) (inserted : Text)
    : splice (left ++ text) (start + left.length) (stop + left.length) inserted
      = left ++ splice text start stop inserted := by
  rw [splice, splice, Nat.add_comm start, Nat.add_comm stop, List.take_length_add_append,
    List.drop_length_add_append, List.append_assoc, List.append_assoc, List.append_assoc]

/-- A synchronization leaves a comment in front as it is, and does the same behind it. By induction
on the pairings.
-/
theorem IsComment.synchronize_append {sides : Sync.Sides} {comment : Text}
    (isComment : IsComment sides.target comment) (source rest : Text) (pairings : List Pairing)
    : Sync.synchronize sides source (comment ++ rest) pairings
      = ⟨comment ++ (Sync.synchronize sides source rest pairings).text,
          (Sync.synchronize sides source rest pairings).entries⟩ := by
  induction pairings generalizing rest with
  | nil => rfl
  | cons pairing pairings ih =>
      have step
          : Sync.apply sides source (comment ++ rest) pairing
            = (comment ++ (Sync.apply sides source rest pairing).1,
                (Sync.apply sides source rest pairing).2) := by
        rw [Sync.apply, Sync.apply, isComment.findDeclaration_append]
        cases findDeclaration sides.source source pairing.source with
        | none => rfl
        | some given =>
            cases findDeclaration sides.target rest pairing.target with
            | none => rfl
            | some found =>
                exact Prod.ext (Sync.splice_append_left comment rest found.start found.stop _) rfl
      rw [Sync.synchronize, Sync.synchronize, step]
      dsimp only
      rw [ih]

-----------------------------------------------------------------------------------------
-- Comments in comments
-----------------------------------------------------------------------------------------

/-- Whether a text closes as many comments as are open, and is over where the last one is. -/
def closesAll : Nat → Text → Bool
  | 0, rest => rest.isEmpty
  | _ + 1, [] => false
  | depth + 1, '/' :: '*' :: rest => closesAll (depth + 2) rest
  | depth + 1, '*' :: '/' :: rest => closesAll depth rest
  | depth + 1, _ :: rest => closesAll (depth + 1) rest

@[simp] theorem closesAll_zero {text : Text} : closesAll 0 text = true ↔ text = [] := by
  rw [closesAll, List.isEmpty_iff]

/-- A comment of Rust: it opens with a slash and a star, and is over where they are closed. -/
def isNestedComment : Text → Bool
  | '/' :: '*' :: body => closesAll 1 body
  | _ => false

/-- What is nowhere in a text is nowhere in what is behind a part of it. -/
theorem not_infix_of_append {needle rest : Text} (front : Text)
    (absent : ¬ needle <:+: front ++ rest)
    : ¬ needle <:+: rest :=
  fun inside => absent (inside.trans (List.suffix_append front rest).isInfix)

/-- A text with a star and slash has a first one. -/
theorem exists_first_close {text : Text} (closed : ['*', '/'] <:+: text)
    : ∃ body behind, text = body ++ ['*', '/'] ++ behind ∧ ¬ ['*', '/'] <:+: body := by
  induction text with
  | nil => simp at closed
  | cons char rest ih =>
      by_cases here : ['*', '/'] <+: char :: rest
      · obtain ⟨behind, same⟩ := here
        exact ⟨[], behind, same.symm, by simp⟩
      · have later := (List.infix_cons_iff.mp closed).resolve_left here
        obtain ⟨body, behind, rfl, within⟩ := ih later
        refine ⟨char :: body, behind, rfl, fun inside => ?_⟩
        rcases List.infix_cons_iff.mp inside with front | inside
        · exact here (front.trans ⟨['*', '/'] ++ behind, by simp⟩)
        · exact within inside

/-- A text that closes a comment ends with a star and slash. By induction on the text as it is
counted.
-/
theorem suffix_of_closesAll {depth : Nat} {text : Text} (isOpen : 0 < depth)
    (closes : closesAll depth text = true)
    : ['*', '/'] <:+ text := by
  fun_induction closesAll depth text with
  | case1 => omega
  | case2 => contradiction
  | case3 depth rest ih =>
      exact (ih (by omega) closes).trans (List.suffix_append ['/', '*'] rest)
  | case4 depth rest ih =>
      cases depth with
      | zero =>
          obtain rfl := closesAll_zero.mp closes
          exact List.suffix_refl _
      | succ depth =>
          exact (ih (by omega) closes).trans (List.suffix_append ['*', '/'] rest)
  | case5 depth char rest _ _ ih =>
      exact (ih (by omega) closes).trans (List.suffix_cons char rest)

/-- Where no comment opens, the first star and slash closes the one that is open. -/
theorem closesAll_of_unopened {depth : Nat} {body behind : Text}
    (unopened : ¬ ['/', '*'] <:+: body ++ ['*', '/'] ++ behind) (within : ¬ ['*', '/'] <:+: body)
    : closesAll (depth + 1) (body ++ ['*', '/'] ++ behind) = closesAll depth behind := by
  induction body with
  | nil => rfl
  | cons char body ih =>
      have later :=
        ih (not_infix_of_append [char] unopened) (not_infix_of_append [char] within)
      rw [← later, List.cons_append, List.cons_append]
      refine closesAll.eq_5 depth char _ ?_ ?_
      · rintro rest rfl same
        exact unopened ⟨[], rest, by simp [← same]⟩
      · rintro rest rfl same
        cases body with
        | nil => exact absurd (List.cons.inj same).1 (by decide)
        | cons next body =>
            obtain ⟨rfl, _⟩ := List.cons.inj same
            exact within ⟨[], body, rfl⟩

/-- A text whose first star and slash are its last characters closes one comment and opens none. By
induction on the text as it is counted.
-/
theorem unopened_of_closesAll {depth : Nat} {body : Text}
    (closes : closesAll (depth + 1) (body ++ ['*', '/']) = true) (within : ¬ ['*', '/'] <:+: body)
    : depth = 0 ∧ ¬ ['/', '*'] <:+: body ++ ['*', '/'] := by
  generalize ends : body ++ ['*', '/'] = text at *
  generalize counted : depth + 1 = opened at closes
  fun_induction closesAll opened text generalizing depth body with
  | case1 => omega
  | case2 => contradiction
  | case3 outer rest ih =>
      match body with
      | [] => simp at ends
      | [_] =>
          obtain ⟨_, rfl⟩ : _ ∧ rest = ['/'] := by simpa using ends.symm
          simp [closesAll] at closes
      | _ :: _ :: body =>
          obtain ⟨rfl, rfl, same⟩ : _ ∧ _ ∧ body ++ ['*', '/'] = rest := by simpa using ends
          have deeper := ih (not_infix_of_append ['/', '*'] within) same rfl closes
          omega
  | case4 outer rest =>
      match body with
      | [] =>
          obtain rfl : rest = [] := by simpa using ends.symm
          cases outer with
          | zero => exact ⟨by omega, by decide⟩
          | succ outer => simp [closesAll] at closes
      | [_] => simp at ends
      | _ :: _ :: body =>
          obtain ⟨rfl, rfl, _⟩ : _ ∧ _ ∧ body ++ ['*', '/'] = rest := by simpa using ends
          exact absurd ⟨[], body, rfl⟩ within
  | case5 outer char rest noOpening noClosing ih =>
      match body with
      | [] =>
          obtain ⟨rfl, rfl⟩ : '*' = char ∧ ['/'] = rest := by simpa using ends
          exact absurd rfl (noClosing [] rfl)
      | _ :: body =>
          obtain ⟨rfl, same⟩ := List.cons.inj ends
          obtain ⟨single, unopened⟩ :=
            ih (not_infix_of_append [_] within) same counted closes
          refine ⟨single, fun inside => ?_⟩
          rcases List.infix_cons_iff.mp inside with ⟨more, here⟩ | inside
          · obtain ⟨rfl, same⟩ := List.cons.inj here
            exact noOpening more rfl same.symm
          · exact unopened inside

theorem exists_of_isNestedComment {comment : Text} (nested : isNestedComment comment = true)
    : ∃ body, comment = '/' :: '*' :: body ∧ closesAll 1 body = true := by
  unfold isNestedComment at nested
  split at nested
  · exact ⟨_, rfl, nested⟩
  · contradiction

/-- A nested comment through its first star and slash, and what is behind them: that is nothing just
in case no other comment opens in it.
-/
theorem exists_first_comment {comment : Text} (nested : isNestedComment comment = true)
    : ∃ body behind,
        comment = '/' :: '*' :: (body ++ ['*', '/']) ++ behind
        ∧ ¬ ['*', '/'] <:+: body
        ∧ (behind = [] ↔ ¬ ['/', '*'] <:+: comment.drop 2) := by
  obtain ⟨text, rfl, closes⟩ := exists_of_isNestedComment nested
  obtain ⟨body, behind, rfl, within⟩ :=
    exists_first_close (suffix_of_closesAll Nat.one_pos closes).isInfix
  refine ⟨body, behind, rfl, within, fun nothing => ?_, fun unopened => ?_⟩
  · subst nothing
    rw [List.append_nil] at closes ⊢
    exact (unopened_of_closesAll closes within).2
  · rw [closesAll_of_unopened unopened within] at closes
    exact closesAll_zero.mp closes

-----------------------------------------------------------------------------------------
-- Fronts and literals
-----------------------------------------------------------------------------------------

namespace Declaration

/-- The declaration found by the name of another is that one or stands in front of it. -/
theorem exists_findDeclaration_le {dialect : Dialect} {text : Text} {found : Declaration}
    (member : found ∈ declarations dialect text)
    : ∃ first,
        findDeclaration dialect text found.name = some first ∧ first.start ≤ found.start := by
  cases sought : findDeclaration dialect text found.name with
  | none =>
      rw [findDeclaration, List.find?_eq_none] at sought
      exact absurd (decide_eq_true rfl) (sought found member)
  | some first =>
      refine ⟨first, rfl, ?_⟩
      obtain ⟨_, before, after, split, others⟩ := List.find?_eq_some_iff_append.mp sought
      obtain ⟨ordered, filled⟩ := Layout.pairwise_declarations dialect text
      have here := (filled first (List.mem_of_find?_eq_some sought)).1
      rw [split] at member ordered
      rcases List.mem_append.mp member with earlier | later
      · simpa using others found earlier
      · rcases List.mem_cons.mp later with rfl | behind
        · exact Nat.le_refl _
        · have := (List.pairwise_cons.mp (List.pairwise_append.mp ordered).2.1).1 found behind
          omega

/-- The literal of a Rust constant has a digit behind its opening quote. -/
theorem exists_digit {text : Text} {found : Declaration}
    (member : found ∈ declarations .rust text)
    : text[found.start]? = some '\x22'
      ∧ ∃ digit, text[found.start + 1]? = some digit := by
  obtain ⟨left, right, placed⟩ := Declaration.exists_placed member
  have whole := concat_lexemes .rust text
  obtain ⟨digit, more, value⟩ :=
    List.exists_cons_of_ne_nil (Text.isNumeral_iff.mp placed.writable.isNumeral).1
  rw [placed.cut, concat_append, concat_cons, renderLiteral, value] at whole
  rw [← whole, placed.start]
  exact ⟨by simp, digit, by simp⟩

end Declaration

namespace Sync

variable {front rest : Text}

/-- A front in which no literal begins is kept. -/
theorem front_prefix_synchronize {sides : Sides} (faithful : sides.Faithful)
    (behind : ∀ found ∈ declarations sides.target (front ++ rest), front.length ≤ found.start)
    (source : Text) (pairings : List Pairing)
    : front <+: (synchronize sides source (front ++ rest) pairings).text := by
  obtain ⟨layout, whole⟩ := Layout.exists_text_eq sides.target (front ++ rest)
  obtain ⟨final, kept, slots, text⟩ := synchronize_layout source faithful layout pairings
  rw [← whole, text, Layout.text, kept]
  cases given : layout.slots with
  | nil =>
      rw [given] at slots
      rw [slots]
      exact ⟨rest, by rw [← whole, Layout.text, given]; rfl⟩
  | cons slot more =>
      have starts : front.length ≤ layout.front.length := by
        apply behind ⟨slot.name, slot.value, layout.front.length, _⟩
        rw [← whole, layout.declarations_text, given]
        exact List.mem_cons_self
      have within : front <+: layout.front :=
        List.prefix_of_prefix_length_le ⟨rest, whole.symm⟩ ⟨_, rfl⟩ starts
      exact within.trans (List.prefix_append _ _)

/-- A front in which a digit of a literal stands is changed by some source. -/
theorem exists_front_changed {found : Declaration}
    (member : found ∈ declarations .rust (front ++ rest)) (inside : found.start + 1 < front.length)
    : ∃ source pairings,
        ¬ front <+: (synchronize .verifiers source (front ++ rest) pairings).text := by
  obtain ⟨first, sought, before⟩ := Declaration.exists_findDeclaration_le member
  obtain ⟨_, digit, present⟩ := Declaration.exists_digit (List.mem_of_find?_eq_some sought)
  have early : first.start + 1 < front.length := by omega
  rw [List.getElem?_append_left early] at present
  -- A source whose value has another digit there
  let source (other : Char) : Text := "uint256 constant X = ".toList ++ [other, ';']
  have declared
      : ∀ other ∈ ['1', '2'],
          findDeclaration .solidity (source other) ['X'] = some ⟨['X'], [other], 21, 22⟩ := by
    intro other given
    rcases List.mem_pair.mp given with rfl | rfl
    · decide +kernel
    · decide +kernel
  obtain ⟨other, given, differs⟩ : ∃ other ∈ ['1', '2'], other ≠ digit := by
    by_cases one : digit = '1'
    · exact ⟨'2', by simp, by simp [one]⟩
    · exact ⟨'1', by simp, Ne.symm one⟩
  refine ⟨source other, [⟨['X'], found.name⟩], fun kept => differs ?_⟩
  have written
      : (synchronize .verifiers (source other) (front ++ rest) [⟨['X'], found.name⟩]).text
        = splice (front ++ rest) first.start first.stop ['\x22', other, '\x22'] := by
    simp only [synchronize, apply, Sides.verifiers, declared other given, sought]
    rfl
  obtain ⟨more, same⟩ := written ▸ kept
  have replaced
      : (splice (front ++ rest) first.start first.stop ['\x22', other, '\x22'])[first.start + 1]?
        = some other := by
    have measured : ((front ++ rest).take first.start).length = first.start := by
      rw [List.length_take, List.length_append]
      omega
    rw [splice, List.append_assoc, List.getElem?_append_right (by omega), measured]
    simp
  rw [← same, List.getElem?_append_left early, present] at replaced
  exact (Option.some.inj replaced).symm

end Sync

-----------------------------------------------------------------------------------------
-- Nested comments in front of a text
-----------------------------------------------------------------------------------------

/-- No literal begins at the last character of a nested comment, which is a slash. -/
theorem start_ne_of_nested {comment rest : Text} (nested : isNestedComment comment = true)
    {found : Declaration} (member : found ∈ declarations .rust (comment ++ rest))
    : found.start + 1 ≠ comment.length := by
  intro last
  obtain ⟨body, rfl, closes⟩ := exists_of_isNestedComment nested
  obtain ⟨text, rfl⟩ := suffix_of_closesAll Nat.one_pos closes
  obtain ⟨quote, _⟩ := Declaration.exists_digit member
  have slash : ('/' :: '*' :: (text ++ ['*', '/']) ++ rest)[found.start]? = some '/' := by
    have place : found.start = ('/' :: '*' :: (text ++ ['*'])).length := by
      simp only [List.length_cons, List.length_append, List.length_nil] at last ⊢
      omega
    rw [place]
    simp
  rw [slash] at quote
  exact absurd quote (by decide)

/-- A nested comment of Rust in front of a text. Its first star and slash end the lexeme, and what
is behind them in the comment is searched and written like the text: only where no comment opens in
the comment is that nothing. The declarations found are those of the text just in case what is
behind adds none, and the comment is written into just in case a literal begins in it.
-/
theorem declarations_nestedComment {comment : Text} (nested : isNestedComment comment = true)
    (text : Text)
    : ∃ closed behind,
        comment = closed ++ behind
        ∧ (∃ body, closed = '/' :: '*' :: (body ++ ['*', '/']) ∧ ¬ ['*', '/'] <:+: body)
        ∧ (behind = [] ↔ ¬ ['/', '*'] <:+: comment.drop 2)
        ∧ declarations .rust (comment ++ '\n' :: text)
          = (declarations .rust (behind ++ '\n' :: text)).map (Declaration.shift closed.length)
        ∧ (∀ sides : Sync.Sides, sides.target = .rust
            → ∀ source pairings,
                (Sync.synchronize sides source (comment ++ '\n' :: text) pairings).text
                = closed ++ (Sync.synchronize sides source (behind ++ '\n' :: text) pairings).text)
        ∧ (declarations .rust (comment ++ '\n' :: text)
              = (declarations .rust ('\n' :: text)).map (Declaration.shift comment.length)
            ↔ declarations .rust (behind ++ '\n' :: text)
              = (declarations .rust ('\n' :: text)).map (Declaration.shift behind.length))
        ∧ ((∀ source pairings,
              comment
              <+: (Sync.synchronize .verifiers source (comment ++ '\n' :: text) pairings).text)
            ↔ ∀ found ∈ declarations .rust (comment ++ '\n' :: text),
                comment.length ≤ found.start) := by
  obtain ⟨body, behind, split, within, whole⟩ := exists_first_comment nested
  have isComment := isComment_block .rust within
  have regrouped
      : comment ++ '\n' :: text
        = '/' :: '*' :: (body ++ ['*', '/']) ++ (behind ++ '\n' :: text) := by
    rw [split, List.append_assoc]
  have declared := isComment.declarations_append (behind ++ '\n' :: text)
  rw [← regrouped] at declared
  refine ⟨_, behind, split, ⟨body, rfl, within⟩, whole, declared, ?_, ?_, ?_, ?_⟩
  · rintro ⟨source, _⟩ rfl given pairings
    rw [regrouped, IsComment.synchronize_append isComment]
  · rw [declared, split, List.length_append, ← Declaration.map_shift_shift]
    exact (List.map_injective_iff.mpr (Declaration.shift_injective _)).eq_iff
  · intro kept found member
    by_contra early
    have inside : found.start + 1 < comment.length := by
      have := start_ne_of_nested nested member
      omega
    obtain ⟨source, pairings, changed⟩ := Sync.exists_front_changed member inside
    exact changed (kept source pairings)
  · exact fun behind source pairings =>
      Sync.front_prefix_synchronize .verifiers behind source pairings

/-- A constant of a dead copy is found and rewritten, although a comment of Rust holds it. -/
theorem declarations_nestedComment_dead_copy
    : let comment := "/* /* */ const A: &str = \"1\"; */".toList
      let text := "const A: &str = \"1\";".toList
      isNestedComment comment = true
      ∧ declarations .rust ('\n' :: text) = [⟨['A'], ['1'], 17, 20⟩]
      ∧ declarations .rust (comment ++ '\n' :: text)
        = [⟨['A'], ['1'], 25, 28⟩, ⟨['A'], ['1'], 49, 52⟩]
      ∧ ∃ source pairings,
          ¬ comment
            <+: (Sync.synchronize .verifiers source (comment ++ '\n' :: text) pairings).text := by
  intro comment text
  have nested : isNestedComment comment = true := by decide
  obtain ⟨_, _, _, _, _, _, _, _, kept⟩ := declarations_nestedComment nested text
  have found
      : declarations .rust (comment ++ '\n' :: text)
        = [⟨['A'], ['1'], 25, 28⟩, ⟨['A'], ['1'], 49, 52⟩] := by
    decide +kernel
  refine ⟨nested, by decide +kernel, found, ?_⟩
  by_contra never
  push Not at never
  have late := kept.mp never ⟨['A'], ['1'], 25, 28⟩ (by rw [found]; exact List.mem_cons_self)
  exact absurd late (by decide)

end VerifierBootstrap
