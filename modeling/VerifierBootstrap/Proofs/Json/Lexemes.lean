import Mathlib.Data.List.Forall2
import Mathlib.Tactic.SplitIfs
import VerifierBootstrap.Json.Token

/-!
Texts that are written from lexemes. Between any two lexemes and around them blanks may stand, and
the tokens of such a text are those of its lexemes, whatever the blanks are. The lexemes here end
by themselves: the marks of the grammar, and strings without escapes.
-/

namespace VerifierBootstrap.Json

/-- White space as the grammar counts it. -/
def Blanks (text : Text) : Prop :=
  ∀ char ∈ text, char ∈ [' ', '\t', '\n', '\r']

/-- A text is written from lexemes, with blanks before, between and behind them. -/
inductive Spaced : List Text → Text → Prop where
  | nil {blanks : Text} (blank : Blanks blanks) : Spaced [] blanks
  | cons {blanks lexeme text : Text} {lexemes : List Text}
    (blank : Blanks blanks) (rest : Spaced lexemes text)
    : Spaced (lexeme :: lexemes) (blanks ++ lexeme ++ text)

/-- A lexeme is read as one token, whatever stands behind it. -/
inductive Reads : Text → TokenKind → Prop where
  | intro {char : Char} {body : Text} {kind : TokenKind}
    (filled : isBlank char = false)
    (read : ∀ position rest, readToken position char (body ++ rest) = (kind, body.length))
    : Reads (char :: body) kind

/-- Items with a mark between any two. -/
def separated {α : Type} (mark : α) : List (List α) → List α
  | [] => []
  | item :: rest => item ++ rest.flatMap (mark :: ·)

/-- A character that stands for itself between quotes. -/
def IsPlain (char : Char) : Prop :=
  char ≠ '\x22' ∧ char ≠ '\\' ∧ 0x20 ≤ char.toNat

instance (char : Char) : Decidable (IsPlain char) :=
  inferInstanceAs (Decidable (_ ∧ _ ∧ _))

-----------------------------------------------------------------------------------------
-- Spacing
-----------------------------------------------------------------------------------------

theorem Blanks.nil : Blanks [] :=
  fun _ member => nomatch member

theorem Blanks.append {left right : Text} (first : Blanks left) (second : Blanks right)
    : Blanks (left ++ right) := by
  intro char member
  rcases List.mem_append.mp member with inside | inside
  · exact first char inside
  · exact second char inside

theorem isBlank_of_mem {char : Char} (member : char ∈ [' ', '\t', '\n', '\r'])
    : isBlank char = true := by
  simp only [List.mem_cons, List.not_mem_nil, or_false] at member
  rcases member with rfl | rfl | rfl | rfl
  · rfl
  · rfl
  · rfl
  · rfl

namespace Spaced

variable {lexemes others : List Text} {text other blanks : Text}

/-- More blanks in front change nothing. -/
theorem blanks_append (blank : Blanks blanks) (spaced : Spaced lexemes text)
    : Spaced lexemes (blanks ++ text) := by
  cases spaced with
  | nil more => exact .nil (blank.append more)
  | cons more rest =>
      rw [← List.append_assoc, ← List.append_assoc]
      exact .cons (blank.append more) rest

/-- One text behind another is written from the lexemes of both. By induction on the first. -/
theorem append (first : Spaced lexemes text) (second : Spaced others other)
    : Spaced (lexemes ++ others) (text ++ other) := by
  induction first with
  | nil blank => exact second.blanks_append blank
  | cons blank rest ih =>
      rw [List.append_assoc, List.cons_append]
      exact .cons blank ih

/-- A lexeme alone. -/
theorem single (lexeme : Text) : Spaced [lexeme] lexeme := by
  have spaced : Spaced [lexeme] ([] ++ lexeme ++ []) := .cons Blanks.nil (.nil Blanks.nil)
  rwa [List.nil_append, List.append_nil] at spaced

/-- Lexemes may stand without blanks. By induction on the lexemes. -/
theorem flatten (lexemes : List Text) : Spaced lexemes lexemes.flatten := by
  induction lexemes with
  | nil => exact .nil Blanks.nil
  | cons lexeme lexemes ih => exact (single lexeme).append ih

end Spaced

/-- What relates two marks and the items one by one relates the separated items. -/
theorem forall₂_separated {α β : Type} {Related : α → β → Prop} {mark : α} {other : β}
    {items : List (List α)} {others : List (List β)} (marked : Related mark other)
    (each : List.Forall₂ (List.Forall₂ Related) items others)
    : List.Forall₂ Related (separated mark items) (separated other others) := by
  cases each with
  | nil => exact .nil
  | cons first rest =>
      refine List.rel_append first ?_
      exact List.rel_flatMap rest fun _ _ each => .cons marked each

-----------------------------------------------------------------------------------------
-- Lexemes that end by themselves
-----------------------------------------------------------------------------------------

/-- A token of one character. -/
def TokenKind.IsMark : TokenKind → Prop
  | .openArray | .closeArray | .openObject | .closeObject | .comma | .colon => True
  | _ => False

theorem isMark_of_mark? {char : Char} {kind : TokenKind} (mark : mark? char = some kind)
    : kind.IsMark := by
  unfold mark? at mark
  split_ifs at mark
  all_goals
    obtain rfl := Option.some.inj mark
    trivial

/-- A mark of the grammar is a lexeme. -/
theorem reads_mark {char : Char} {kind : TokenKind} (mark : mark? char = some kind)
    : Reads [char] kind := by
  refine .intro ?_ fun position rest => ?_
  · cases blank : isBlank char with
    | false => rfl
    | true =>
        simp only [isBlank, Bool.or_eq_true, decide_eq_true_eq] at blank
        rcases blank with ((rfl | rfl) | rfl) | rfl
        · exact nomatch mark
        · exact nomatch mark
        · exact nomatch mark
        · exact nomatch mark
  · rw [readToken, mark]
    rfl

/-- Plain characters are read up to the closing quote. By induction on the characters. -/
theorem readString_plain {text : Text} (plain : ∀ char ∈ text, IsPlain char)
    (start position : Nat) (rest : Text)
    : readString start position (text ++ '\x22' :: rest)
      = .ok (Points.ofText text, position + text.length + 1) := by
  induction text generalizing position with
  | nil => simp [readString, Points.ofText]
  | cons char text ih =>
      obtain ⟨unquoted, unescaped, printable⟩ := plain char (by simp)
      have more := ih (fun other member => plain other (by simp [member])) (position + 1)
      rw [List.cons_append, readString, if_neg unquoted, if_neg (by omega), more]
      · simp [Points.ofText]
        omega
      all_goals simp [unescaped]

/-- Characters alone are no surrogates. By induction on the text. -/
theorem joinPairs_ofText (text : Text)
    : (Points.ofText text).joinPairs = Points.ofText text := by
  induction text with
  | nil => rfl
  | cons char text ih =>
      rw [Points.ofText, List.map_cons, Points.joinPairs]
      · exact congrArg _ ih
      · intro _ _ _ same
        exact nomatch same

/-- A string without escapes is a lexeme. -/
theorem reads_string {text : Text} (plain : ∀ char ∈ text, IsPlain char)
    : Reads ('\x22' :: (text ++ ['\x22'])) (.string (Points.ofText text)) := by
  refine .intro rfl fun position rest => ?_
  have read := readString_plain plain position (position + 1) rest
  rw [List.append_assoc, List.singleton_append, readToken]
  simp only [mark?]
  simp [read, joinPairs_ofText]
  omega

-----------------------------------------------------------------------------------------
-- Tokens
-----------------------------------------------------------------------------------------

/-- Blanks are no tokens. By induction on the blanks. -/
theorem tokensFrom_blanks {blanks : Text} (blank : Blanks blanks) (position : Nat) (text : Text)
    : tokensFrom position (blanks ++ text) = tokensFrom (position + blanks.length) text := by
  induction blanks generalizing position with
  | nil => rfl
  | cons char blanks ih =>
      rw [List.cons_append, tokensFrom, if_pos (isBlank_of_mem (blank char (by simp))),
        ih (fun other member => blank other (by simp [member])), List.length_cons,
        show position + 1 + blanks.length = position + (blanks.length + 1) by omega]

/-- The tokens of a text are those of its lexemes. By induction on the lexemes. -/
theorem kinds_tokensFrom {lexemes : List Text} {kinds : List TokenKind} {text : Text}
    (reads : List.Forall₂ Reads lexemes kinds) (spaced : Spaced lexemes text) (position : Nat)
    : (tokensFrom position text).map Token.kind = kinds ++ [.endOfText] := by
  induction spaced generalizing kinds position with
  | nil blank =>
      cases reads with
      | nil =>
          have skipped := tokensFrom_blanks blank position []
          rw [List.append_nil] at skipped
          rw [skipped, tokensFrom]
          rfl
  | @cons blanks lexeme text lexemes blank rest ih =>
      cases reads with
      | cons read others =>
          cases read with
          | @intro char body kind filled read =>
              rw [List.append_assoc, tokensFrom_blanks blank, List.cons_append, tokensFrom,
                if_neg (by simp [filled]), read]
              simp only [List.map_cons, List.cons_append, List.drop_left]
              exact congrArg _ (ih others _)

end VerifierBootstrap.Json
