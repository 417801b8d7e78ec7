import VerifierBootstrap.Proofs.Source.Literal

/-!
Exchange of literals. Writing another value into the literal of a constant leaves every other
lexeme of a text as it was. A lexeme in front of the literal is found by scanners that treat both
literals alike, and what follows the literal is not affected by it.
-/

namespace VerifierBootstrap

open Lexeme

-----------------------------------------------------------------------------------------
-- Scanners in front of a literal
-----------------------------------------------------------------------------------------

/-- Lengths that agree up to a bound are equal if one of them is within the bound. -/
theorem Lexeme.Alike.eq {bound : Nat} {left right : Option Nat} (alike : Alike bound left right)
    (within : ∀ length, left = some length → length ≤ bound)
    : right = left := by
  cases alike with
  | same length => rfl
  | beyond leftBeyond rightBeyond => exact absurd (within _ rfl) (by omega)

/-- Lengths behind stretches that exceed a bound are alike up to it. -/
theorem Lexeme.Alike.behind {bound left right : Nat} (length : Option Nat)
    (leftBeyond : bound < left) (rightBeyond : bound < right)
    : Alike bound (length.map (left + ·)) (length.map (right + ·)) := by
  cases length with
  | none => exact .same none
  | some length => exact .beyond (Nat.lt_add_right _ leftBeyond) (Nat.lt_add_right _ rightBeyond)

/-- Comments in front of a literal do not depend on its value. -/
theorem comment?_exchange (dialect : Dialect) {front old new : Text} (post : Text)
    (present : front ≠ []) (oldNumeral : Text.isNumeral old = true)
    (newNumeral : Text.isNumeral new = true)
    : Alike front.length (comment? (front ++ (renderLiteral dialect old ++ post)))
        (comment? (front ++ (renderLiteral dialect new ++ post))) := by
  have absent {value : Text} (numeral : Text.isNumeral value = true)
      : ∀ char ∈ ['*', '/', '\n'], char ∉ renderLiteral dialect value := by
    intro char member
    have sign : Text.isDigit char = false ∧ char ≠ '\x22' := by
      simp only [List.mem_cons, List.not_mem_nil, or_false] at member
      rcases member with rfl | rfl | rfl <;> decide
    exact Text.not_mem_renderLiteral dialect numeral sign.1 sign.2
  obtain ⟨oldHead, oldTail, oldEq, _⟩ := Text.renderLiteral_eq_cons dialect oldNumeral
  obtain ⟨newHead, newTail, newEq, _⟩ := Text.renderLiteral_eq_cons dialect newNumeral
  have base
      : Alike 0 (through? ['*', '/'] (renderLiteral dialect old ++ post))
          (through? ['*', '/'] (renderLiteral dialect new ++ post)) := by
    rw [through?_skip post (absent oldNumeral '*' (by simp)),
      through?_skip post (absent newNumeral '*' (by simp))]
    exact .behind _ (by simp [oldEq]) (by simp [newEq])
  have oldPlain : oldHead ∉ ['*', '/', '\n'] :=
    fun member => absent oldNumeral oldHead member (by simp [oldEq])
  have newPlain : newHead ∉ ['*', '/', '\n'] :=
    fun member => absent newNumeral newHead member (by simp [newEq])
  rw [oldEq, newEq] at base ⊢
  exact comment?_alike present oldPlain newPlain base

/-- Numbers between Solidity's quotes are passed over by strings that are open in front of them.
-/
theorem closing?_exchange_number {quote : Char} {old new : Text} (rest post : Text)
    (noDigit : Text.isDigit quote = false)
    (oldNumeral : Text.isNumeral old = true) (newNumeral : Text.isNumeral new = true)
    : Alike rest.length (closing? quote (rest ++ (old ++ post)))
        (closing? quote (rest ++ (new ++ post))) := by
  have skips {value : Text} (numeral : ∀ char ∈ value, Text.isDigit char = true)
      : closing? quote (value ++ post) = (closing? quote post).map (value.length + ·) := by
    apply closing?_skip
    intro char member
    have digit := numeral char member
    constructor
    · rintro rfl
      simp [digit] at noDigit
    · rintro rfl
      exact absurd digit (by decide)
  obtain ⟨oldPresent, oldDigits⟩ := Text.isNumeral_iff.mp oldNumeral
  obtain ⟨newPresent, newDigits⟩ := Text.isNumeral_iff.mp newNumeral
  apply closing?_alike
  · rw [skips oldDigits, skips newDigits]
    exact .behind _ (List.length_pos_iff.mpr oldPresent) (List.length_pos_iff.mpr newPresent)
  · obtain ⟨oldHead, oldTail, rfl⟩ := List.exists_cons_of_ne_nil oldPresent
    obtain ⟨newHead, newTail, rfl⟩ := List.exists_cons_of_ne_nil newPresent
    simp only [List.cons_append, closing?]
    rw [skips fun char member => oldDigits char (List.mem_cons_of_mem _ member),
      skips fun char member => newDigits char (List.mem_cons_of_mem _ member),
      Option.map_map, Option.map_map]
    cases closing? quote post with
    | none => exact .same none
    | some length => exact .beyond (by simp; omega) (by simp; omega)

theorem closing?_of_isNumeral {value : Text} (post : Text)
    (numeral : Text.isNumeral value = true)
    : closing? '\x22' (value ++ '\x22' :: post) = some (value.length + 1) := by
  rw [closing?_skip]
  · simp [closing?_cons]
  · intro char member
    have digit := (Text.isNumeral_iff.mp numeral).2 char member
    constructor
    · rintro rfl
      exact absurd digit (by decide)
    · rintro rfl
      exact absurd digit (by decide)

/-- A string that is open in front of another ends with its opening quote, or with its closing
one if the first is escaped.
-/
theorem closing?_exchange_string {old new : Text} (rest post : Text)
    (oldNumeral : Text.isNumeral old = true) (newNumeral : Text.isNumeral new = true)
    : Alike rest.length (closing? '\x22' (rest ++ '\x22' :: (old ++ '\x22' :: post)))
        (closing? '\x22' (rest ++ '\x22' :: (new ++ '\x22' :: post))) := by
  apply closing?_alike
  · simp only [closing?_cons _ (by decide : '\x22' ≠ '\\'), if_true]
    exact .same _
  · simp only [closing?, closing?_of_isNumeral post oldNumeral,
      closing?_of_isNumeral post newNumeral, Option.map_some]
    exact .beyond (by omega) (by omega)

/-- Raw strings in front of a string of digits do not depend on the digits. -/
theorem rawString?_exchange {front old new : Text} (post : Text) (present : front ≠ [])
    (oldNumeral : Text.isNumeral old = true) (newNumeral : Text.isNumeral new = true)
    : Alike front.length (rawString? (front ++ '\x22' :: (old ++ '\x22' :: post)))
        (rawString? (front ++ '\x22' :: (new ++ '\x22' :: post))) := by
  have skips {value : Text} (numeral : Text.isNumeral value = true) (signs : Nat)
      : through? ('\x22' :: List.replicate signs '#') (value ++ '\x22' :: post)
        = (through? ('\x22' :: List.replicate signs '#') ('\x22' :: post)).map
            (value.length + ·) :=
    through?_skip _ (Text.not_mem_of_isNumeral numeral (by decide))
  have oldPresent := List.length_pos_iff.mpr (Text.isNumeral_iff.mp oldNumeral).1
  have newPresent := List.length_pos_iff.mpr (Text.isNumeral_iff.mp newNumeral).1
  have inside (signs : Nat)
      : Alike 0 (through? ('\x22' :: List.replicate signs '#') (old ++ '\x22' :: post))
          (through? ('\x22' :: List.replicate signs '#') (new ++ '\x22' :: post)) := by
    rw [skips oldNumeral, skips newNumeral]
    exact .behind _ oldPresent newPresent
  apply rawString?_alike present
  intro rest
  refine rawBody?_alike rest ?_ inside
  intro signs
  cases signs with
  | zero =>
      -- Without signs a quote alone ends the string, and the first one of the change does
      simp only [List.replicate_zero, through?, List.isPrefixOf]
      exact .same _
  | succ signs =>
      have noSign {value : Text} (numeral : Text.isNumeral value = true)
          : List.isPrefixOf ('\x22' :: List.replicate (signs + 1) '#')
              ('\x22' :: (value ++ '\x22' :: post)) = false := by
        obtain ⟨head, tail, rfl⟩ :=
          List.exists_cons_of_ne_nil (Text.isNumeral_iff.mp numeral).1
        have different : '#' ≠ head := by
          rintro rfl
          exact Text.not_mem_of_isNumeral numeral (by decide) List.mem_cons_self
        simp [List.replicate_succ, List.isPrefixOf_cons_cons, different]
      rw [through?, through?, noSign oldNumeral, noSign newNumeral]
      exact (inside (signs + 1)).map (by simp)

-----------------------------------------------------------------------------------------
-- The lexeme in front of a literal
-----------------------------------------------------------------------------------------

/-- A string in front of a number of Solidity stays, or stays none, if the number changes. -/
theorem literal?_exchange_number {front old new : Text} (post : Text) (present : front ≠ [])
    (oldNumeral : Text.isNumeral old = true) (newNumeral : Text.isNumeral new = true)
    (within
      : ∀ kind length,
          literal? .solidity (front ++ (old ++ post)) = some (kind, length)
          → length ≤ front.length)
    : literal? .solidity (front ++ (new ++ post))
      = literal? .solidity (front ++ (old ++ post)) := by
  have alike
      : Alike front.length (string? ['\x22', '\x27'] (front ++ (old ++ post)))
          (string? ['\x22', '\x27'] (front ++ (new ++ post))) := by
    apply string?_alike _ present
    intro quote member rest
    have noDigit : Text.isDigit quote = false := by
      simp only [List.mem_cons, List.not_mem_nil, or_false] at member
      rcases member with rfl | rfl <;> decide
    exact closing?_exchange_number rest post noDigit oldNumeral newNumeral
  simp only [literal?] at within ⊢
  rw [alike.eq]
  intro length found
  exact within .string length (by rw [found]; rfl)

/-- A literal of Rust in front of a quoted numeral stays, or stays none, if the numeral changes. The
scanners are tried in order, and each is alike before the change and after it.
-/
theorem literal?_exchange_string {front old new : Text} (post : Text) (present : front ≠ [])
    (oldNumeral : Text.isNumeral old = true) (newNumeral : Text.isNumeral new = true)
    (within
      : ∀ kind length,
          literal? .rust (front ++ '\x22' :: (old ++ '\x22' :: post)) = some (kind, length)
          → length ≤ front.length)
    : literal? .rust (front ++ '\x22' :: (new ++ '\x22' :: post))
      = literal? .rust (front ++ '\x22' :: (old ++ '\x22' :: post)) := by
  obtain ⟨oldHead, oldTail, rfl⟩ :=
    List.exists_cons_of_ne_nil (Text.isNumeral_iff.mp oldNumeral).1
  obtain ⟨newHead, newTail, rfl⟩ :=
    List.exists_cons_of_ne_nil (Text.isNumeral_iff.mp newNumeral).1
  have plain {head : Char} {tail : Text} (numeral : Text.isNumeral (head :: tail) = true)
      : head ≠ '\x27' := by
    rintro rfl
    exact Text.not_mem_of_isNumeral numeral (by decide) List.mem_cons_self
  have raws := rawString?_exchange post present oldNumeral newNumeral
  have strings := string?_alike ['\x22'] present fun quote member rest => by
    rw [List.mem_singleton.mp member]
    exact closing?_exchange_string rest post oldNumeral newNumeral
  have characters := character?_append (oldTail ++ '\x22' :: post) (newTail ++ '\x22' :: post)
    present (plain oldNumeral) (plain newNumeral)
  simp only [literal?, List.cons_append] at raws strings within ⊢
  rw [← characters]
  cases raw : rawString? (front ++ '\x22' :: oldHead :: (oldTail ++ '\x22' :: post)) with
  | some length =>
      rw [raw] at within raws
      rw [raws.eq fun _ same => within _ _ (by rw [Option.some.inj same])]
  | none =>
      rw [raw] at within raws
      rw [raws.eq (by simp)]
      cases string : string? ['\x22']
          (front ++ '\x22' :: oldHead :: (oldTail ++ '\x22' :: post)) with
      | some length =>
          rw [string] at within strings
          rw [strings.eq fun _ same => within _ _ (by rw [Option.some.inj same])]
      | none =>
          rw [string] at strings
          rw [strings.eq (by simp)]

section Exchange

variable (dialect : Dialect) {old new : Text} (oldNumeral : Text.isNumeral old = true)
  (newNumeral : Text.isNumeral new = true)
include oldNumeral newNumeral

/-- A literal in front of another, or none, stays if the value of the other changes. -/
theorem literal?_exchange {front : Text} (post : Text) (present : front ≠ [])
    (within
      : ∀ kind length,
          literal? dialect (front ++ (renderLiteral dialect old ++ post)) = some (kind, length)
          → length ≤ front.length)
    : literal? dialect (front ++ (renderLiteral dialect new ++ post))
      = literal? dialect (front ++ (renderLiteral dialect old ++ post)) := by
  cases dialect with
  | generic => exact literal?_exchange_number post present oldNumeral newNumeral within
  | solidity => exact literal?_exchange_number post present oldNumeral newNumeral within
  | rust =>
      have rendered (value : Text)
          : renderLiteral .rust value ++ post = '\x22' :: (value ++ '\x22' :: post) := by
        simp [renderLiteral]
      simp only [rendered] at within ⊢
      exact literal?_exchange_string post present oldNumeral newNumeral within

/-- A name, number, blank or sign in front of a literal stays if the value of the literal changes,
unless it is a name or number that ends only where the literal begins.
-/
theorem common_exchange {char : Char} {front : Text} (post : Text) {kind : LexemeKind}
    {length : Nat}
    (found
      : common char (front ++ (renderLiteral dialect old ++ post)) = (kind, length))
    (within : length ≤ front.length + 1)
    (apart : length = front.length + 1 → kind ≠ .identifier ∧ kind ≠ .number)
    : common char (front ++ (renderLiteral dialect new ++ post)) = (kind, length) := by
  have stays (passes : Char → Bool) (inside : front.all passes = false)
      : run passes (front ++ (renderLiteral dialect new ++ post))
        = run passes (front ++ (renderLiteral dialect old ++ post)) := by
    rw [(run_append_of_not_all _ inside).1, (run_append_of_not_all _ inside).1]
  unfold common at found ⊢
  by_cases decimal : Text.isDecimal char = true
  · rw [if_pos decimal, Prod.mk.injEq] at found
    obtain ⟨rfl, rfl⟩ := found
    cases inside : front.all continuesNumber with
    | false => rw [if_pos decimal, stays _ inside]
    | true =>
        -- A number up to the literal could go on with its digits, which is what `apart` excludes
        rw [run_append_of_all _ inside] at within apart
        exact absurd rfl (apart (by omega)).2
  · rw [if_neg decimal] at found ⊢
    by_cases name : beginsName char = true
    · rw [if_pos name, Prod.mk.injEq] at found
      obtain ⟨rfl, rfl⟩ := found
      cases inside : front.all continuesName with
      | false => rw [if_pos name, stays _ inside]
      | true =>
          rw [run_append_of_all _ inside] at within apart
          exact absurd rfl (apart (by omega)).1
    · rw [if_neg name] at found ⊢
      by_cases blank : Text.isBlank char = true
      · rw [if_pos blank] at found ⊢
        rw [← found]
        obtain ⟨oldHead, oldTail, oldEq, oldBlank⟩ := Text.renderLiteral_eq_cons dialect oldNumeral
        obtain ⟨newHead, newTail, newEq, newBlank⟩ := Text.renderLiteral_eq_cons dialect newNumeral
        rw [oldEq, newEq, List.cons_append, List.cons_append,
          run_append_stop front _ oldBlank, run_append_stop front _ newBlank]
      · rw [if_neg blank] at found ⊢
        exact found

/-- The lexeme at the front of a text stays if the value of a literal behind it changes, unless
it is a name or number that ends only where the literal begins.
-/
theorem first_exchange {char : Char} {front : Text} (post : Text) {kind : LexemeKind}
    {length : Nat}
    (found
      : first dialect char (front ++ (renderLiteral dialect old ++ post)) = (kind, length))
    (within : length ≤ front.length + 1)
    (apart : length = front.length + 1 → kind ≠ .identifier ∧ kind ≠ .number)
    : first dialect char (front ++ (renderLiteral dialect new ++ post)) = (kind, length) := by
  have present : char :: front ≠ [] := List.cons_ne_nil char front
  have comments := comment?_exchange dialect post present oldNumeral newNumeral
  have literals := literal?_exchange dialect oldNumeral newNumeral post present
  simp only [List.cons_append, List.length_cons] at comments literals
  unfold first at found ⊢
  cases comment : comment? (char :: (front ++ (renderLiteral dialect old ++ post))) with
  | some measured =>
      rw [comment] at found comments
      obtain ⟨rfl, rfl⟩ := Prod.mk.inj found
      rw [comments.eq fun _ same => Option.some.inj same ▸ within]
  | none =>
      rw [comment] at found comments
      rw [comments.eq (by simp)]
      dsimp only at found ⊢
      cases literal : literal? dialect (char :: (front ++ (renderLiteral dialect old ++ post))) with
      | some measured =>
          rw [literal, Option.getD_some] at found
          subst found
          rw [literals, literal, Option.getD_some]
          intro otherKind otherLength same
          rw [literal, Option.some.injEq, Prod.mk.injEq] at same
          omega
      | none =>
          rw [literal, Option.getD_none] at found
          rw [literals (by simp [literal]), literal, Option.getD_none]
          exact common_exchange dialect oldNumeral newNumeral post found within apart

end Exchange

end VerifierBootstrap
