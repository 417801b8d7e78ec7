import VerifierBootstrap.Json.Parser
import VerifierBootstrap.Proofs.Json.Lexemes

/-!
How deep tokens are nested. What is open behind tokens is counted from what is open before them, and
the count is what the walk over the tokens has open. With room for the most that is open at once
tokens are read as they are; with less room the first that opens one too many is broken.
-/

namespace VerifierBootstrap.Json

/-- How many arrays and objects are open behind tokens, with so many open before them. -/
def openAfter (opened : Nat) (kinds : List TokenKind) : Nat :=
  kinds.foldl TokenKind.openBehind opened

/-- The most arrays and objects that are open at once along tokens. -/
def deepest (opened : Nat) : List TokenKind → Nat
  | [] => opened
  | kind :: rest => max opened (deepest (kind.openBehind opened) rest)

/-- The most arrays and objects of a text that are open at once. -/
def depth (text : Text) : Nat :=
  deepest 0 ((tokens text).map Token.kind)

variable {opened nesting : Nat} {kind : TokenKind} {enclosure : Enclosure}

theorem openBehind_of_opens (opens : kind.opens? = some enclosure) (opened : Nat)
    : kind.openBehind opened = opened + 1 := by
  cases kind <;> simp_all [TokenKind.opens?, TokenKind.openBehind]

theorem openBehind_le (closed : kind.opens? = none) (opened : Nat)
    : kind.openBehind opened ≤ opened := by
  cases kind <;> simp_all [TokenKind.opens?, TokenKind.openBehind]

theorem openAfter_append (opened : Nat) (front back : List TokenKind)
    : openAfter opened (front ++ back) = openAfter (openAfter opened front) back :=
  List.foldl_append

theorem le_deepest (opened : Nat) (kinds : List TokenKind) : opened ≤ deepest opened kinds := by
  cases kinds with
  | nil => exact Nat.le_refl _
  | cons kind rest => exact Nat.le_max_left _ _

/-- What is open along two parts is open along one of them. By induction on the first. -/
theorem deepest_append (opened : Nat) (front back : List TokenKind)
    : deepest opened (front ++ back)
      = max (deepest opened front) (deepest (openAfter opened front) back) := by
  induction front generalizing opened with
  | nil => exact (Nat.max_eq_right (le_deepest opened back)).symm
  | cons kind front ih =>
      rw [List.cons_append, deepest, ih, deepest, Nat.max_assoc]
      rfl

theorem openAfter_le_deepest (opened : Nat) (kinds : List TokenKind)
    : openAfter opened kinds ≤ deepest opened kinds := by
  have whole := deepest_append opened kinds []
  rw [List.append_nil] at whole
  rw [whole]
  exact Nat.le_max_right _ _

-----------------------------------------------------------------------------------------
-- Tokens with room for so many
-----------------------------------------------------------------------------------------

/-- A token is read as it is if there is room for what is open behind it. -/
theorem within_cons {token : Token} (fits : token.kind.openBehind opened ≤ nesting)
    (rest : List Token)
    : within nesting opened (token :: rest)
      = token :: within nesting (token.kind.openBehind opened) rest := by
  rw [within]
  cases opens : token.kind.opens? with
  | none => rfl
  | some enclosure =>
      rw [openBehind_of_opens opens] at fits ⊢
      exact if_pos fits

/-- Without room the token that opens one more is broken. -/
theorem within_of_full {token : Token} (opens : token.kind.opens? = some enclosure)
    (rest : List Token)
    : within nesting nesting (token :: rest)
      = ⟨.broken (.tooDeep enclosure), token.position⟩ :: rest := by
  rw [within, opens]
  exact if_neg (Nat.lt_irrefl _)

theorem fits_or_full (room : opened ≤ nesting) (kind : TokenKind)
    : kind.openBehind opened ≤ nesting
      ∨ opened = nesting ∧ ∃ enclosure, kind.opens? = some enclosure := by
  cases opens : kind.opens? with
  | none => exact .inl (Nat.le_trans (openBehind_le opens opened) room)
  | some enclosure =>
      rw [openBehind_of_opens opens]
      rcases Nat.lt_or_eq_of_le room with more | full
      · exact .inl more
      · exact .inr ⟨full, enclosure, rfl⟩

/-- Tokens that there is room for are read as they are. By induction on the tokens. -/
theorem within_append {front : List Token}
    (fits : deepest opened (front.map Token.kind) ≤ nesting) (rest : List Token)
    : within nesting opened (front ++ rest)
      = front ++ within nesting (openAfter opened (front.map Token.kind)) rest := by
  induction front generalizing opened with
  | nil => rfl
  | cons token front ih =>
      rw [List.map_cons, deepest] at fits
      have others := Nat.le_trans (Nat.le_max_right _ _) fits
      have first := Nat.le_trans (le_deepest _ _) others
      rw [List.cons_append, within_cons first, ih others]
      rfl

theorem within_of_deepest_le {tokens : List Token}
    (fits : deepest opened (tokens.map Token.kind) ≤ nesting)
    : within nesting opened tokens = tokens := by
  have whole := within_append fits []
  rwa [List.append_nil, within, List.append_nil] at whole

/-- Tokens that there is no room for have a first that opens one too many. By induction on the
tokens.
-/
theorem exists_of_lt_deepest {tokens : List Token} (room : opened ≤ nesting)
    (deep : nesting < deepest opened (tokens.map Token.kind))
    : ∃ front token enclosure rest,
        tokens = front ++ token :: rest
        ∧ deepest opened (front.map Token.kind) ≤ nesting
        ∧ openAfter opened (front.map Token.kind) = nesting
        ∧ token.kind.opens? = some enclosure := by
  induction tokens generalizing opened with
  | nil => exact absurd room (Nat.not_le.mpr deep)
  | cons token tokens ih =>
      rcases fits_or_full room token.kind with fits | ⟨full, enclosure, opens⟩
      · rw [List.map_cons, deepest] at deep
        obtain ⟨front, other, enclosure, rest, rfl, less, full, opens⟩ := ih fits (by omega)
        exact ⟨token :: front, other, enclosure, rest, rfl, Nat.max_le.mpr ⟨room, less⟩, full,
          opens⟩
      · exact ⟨[], token, enclosure, tokens, rfl, room, full, opens⟩

/-- What stands in the tokens as they are read with so much room stands in the tokens, or opens one
too many there. By induction on what is before it.
-/
theorem exists_of_within {tokens before after : List Token} {token : Token}
    (room : opened ≤ nesting) (split : within nesting opened tokens = before ++ token :: after)
    (whole : ∀ other ∈ before, ∀ fault, other.kind ≠ .broken fault)
    : deepest opened (before.map Token.kind) ≤ nesting
      ∧ ∃ original rest,
          tokens = before ++ original :: rest
          ∧ (token = original
            ∨ openAfter opened (before.map Token.kind) = nesting
              ∧ ∃ enclosure,
                  original.kind.opens? = some enclosure
                  ∧ token.kind = .broken (.tooDeep enclosure)) := by
  induction before generalizing opened tokens with
  | nil =>
      refine ⟨room, ?_⟩
      cases tokens with
      | nil => cases split
      | cons first tokens =>
          refine ⟨first, tokens, rfl, ?_⟩
          rcases fits_or_full room first.kind with fits | ⟨rfl, enclosure, opens⟩
          · rw [within_cons fits] at split
            exact .inl (List.cons.inj split).1.symm
          · rw [within_of_full opens] at split
            exact .inr ⟨rfl, enclosure, opens, congrArg Token.kind (List.cons.inj split).1.symm⟩
  | cons other before ih =>
      obtain ⟨sound, others⟩ := List.forall_mem_cons.mp whole
      cases tokens with
      | nil => cases split
      | cons first tokens =>
          rcases fits_or_full room first.kind with fits | ⟨rfl, enclosure, opens⟩
          · rw [within_cons fits] at split
            obtain ⟨rfl, behind⟩ := List.cons.inj split
            obtain ⟨less, original, rest, rfl, same⟩ := ih fits behind others
            exact ⟨Nat.max_le.mpr ⟨room, less⟩, original, rest, rfl, same⟩
          · rw [within_of_full opens] at split
            exact absurd (congrArg Token.kind (List.cons.inj split).1.symm) (sound _)

-----------------------------------------------------------------------------------------
-- Tokens that close what they open
-----------------------------------------------------------------------------------------

/-- Tokens close what they open, and have no more than `height` of it open at once. -/
structure Nests (height : Nat) (kinds : List TokenKind) : Prop where
  balanced : ∀ opened, openAfter opened kinds = opened
  bounded : ∀ opened, deepest opened kinds ≤ opened + height

namespace Nests

variable {height : Nat} {kinds others : List TokenKind}

theorem nil : Nests height [] :=
  ⟨fun _ => rfl, fun _ => Nat.le_add_right _ _⟩

theorem cons (flat : ∀ opened, kind.openBehind opened = opened) (rest : Nests height kinds)
    : Nests height (kind :: kinds) := by
  refine ⟨fun opened => ?_, fun opened => ?_⟩
  · rw [openAfter, List.foldl_cons, flat]
    exact rest.balanced opened
  · rw [deepest, flat]
    exact Nat.max_le.mpr ⟨Nat.le_add_right _ _, rest.bounded opened⟩

theorem append (first : Nests height kinds) (second : Nests height others)
    : Nests height (kinds ++ others) := by
  refine ⟨fun opened => ?_, fun opened => ?_⟩
  · rw [openAfter_append, first.balanced, second.balanced]
  · rw [deepest_append, first.balanced]
    exact Nat.max_le.mpr ⟨first.bounded opened, second.bounded opened⟩

theorem mono {more : Nat} (nests : Nests height kinds) (less : height ≤ more)
    : Nests more kinds :=
  ⟨nests.balanced, fun opened =>
    Nat.le_trans (nests.bounded opened) (Nat.add_le_add_left less opened)⟩

/-- Brackets or braces around tokens. -/
theorem enclosed {first last : TokenKind} (opens : ∀ opened, first.openBehind opened = opened + 1)
    (closes : ∀ opened, last.openBehind opened = opened - 1) (nests : Nests height kinds)
    : Nests (height + 1) (first :: (kinds ++ [last])) := by
  refine ⟨fun opened => ?_, fun opened => ?_⟩
  · rw [openAfter, List.foldl_cons, opens]
    change openAfter _ _ = _
    rw [openAfter_append, nests.balanced, openAfter, List.foldl_cons, closes]
    rfl
  · have inner := nests.bounded (opened + 1)
    rw [deepest, opens, deepest_append, nests.balanced, deepest, closes, deepest]
    omega

/-- Items with a comma between any two. -/
theorem separated {items : List (List TokenKind)} (each : ∀ item ∈ items, Nests height item)
    : Nests height (separated .comma items) := by
  cases items with
  | nil => exact .nil
  | cons item rest =>
      obtain ⟨first, others⟩ := List.forall_mem_cons.mp each
      refine first.append ?_
      clear first each
      induction rest with
      | nil => exact .nil
      | cons next rest ih =>
          obtain ⟨second, others⟩ := List.forall_mem_cons.mp others
          exact .append (.cons (fun _ => rfl) second) (ih others)

end Nests

-----------------------------------------------------------------------------------------
-- What the walk has open
-----------------------------------------------------------------------------------------

/-- How many arrays and objects are open in a state of the walk: those on the stack, and an object
of which a key or a colon is expected.
-/
def level (expected : Expected) (stack : List Frame) : Nat :=
  match expected with
  | .key _ | .firstKey | .colon _ _ => stack.length + 1
  | _ => stack.length

/-- The count goes along with the walk. -/
theorem level_of_step {expected next : Expected} {stack frames : List Frame} {token : Token}
    (stepped : step expected stack token = .ok (next, frames))
    : token.kind.openBehind (level expected stack) = level next frames := by
  unfold step at stepped
  split at stepped
  all_goals simp only [reduceCtorEq, Except.ok.injEq, Prod.mk.injEq] at stepped
  all_goals
    obtain ⟨rfl, rfl⟩ := stepped
    simp_all [level, TokenKind.openBehind]

end VerifierBootstrap.Json
