import VerifierBootstrap.Source.Lexeme

/-!
Scanners at a distance from a change. A scanner that starts at the front of a text may look
arbitrarily far ahead, for the end of a comment or of a raw string. Two texts with a common front
are compared behind it: each scanner either gives the same length on both or runs past the front
on both. What is asked of the changed parts is only how they begin and how they are scanned
themselves.
-/

namespace VerifierBootstrap.Lexeme

/-- Two lengths agree up to a bound: they are the same, or both exceed it. -/
inductive Alike (bound : Nat) : Option Nat → Option Nat → Prop
  | same (length : Option Nat) : Alike bound length length
  | beyond {left right : Nat} (leftBeyond : bound < left) (rightBeyond : bound < right)
    : Alike bound (some left) (some right)

/-- Lengths stay alike under a change that carries what exceeds one bound beyond another. -/
theorem Alike.map {bound further : Nat} {left right : Option Nat} {change : Nat → Nat}
    (alike : Alike bound left right) (moves : ∀ length, bound < length → further < change length)
    : Alike further (left.map change) (right.map change) := by
  cases alike with
  | same length => exact .same _
  | beyond leftBeyond rightBeyond =>
      exact .beyond (moves _ leftBeyond) (moves _ rightBeyond)

-----------------------------------------------------------------------------------------
-- Runs of characters
-----------------------------------------------------------------------------------------

theorem run_cons (passes : Char → Bool) (char : Char) (rest : Text)
    : run passes (char :: rest) = if passes char then run passes rest + 1 else 0 := by
  simp only [run, List.takeWhile_cons]
  split <;> simp

theorem run_le (passes : Char → Bool) (text : Text) : run passes text ≤ text.length :=
  (List.takeWhile_sublist _).length_le

theorem run_append_of_all {passes : Char → Bool} {front : Text} (rest : Text)
    (all : front.all passes = true)
    : run passes (front ++ rest) = front.length + run passes rest := by
  induction front with
  | nil => simp
  | cons char front ih =>
      simp only [List.all_cons, Bool.and_eq_true] at all
      rw [List.cons_append, run_cons, if_pos all.1, ih all.2, List.length_cons]
      omega

/-- A run that ends within a front does not depend on what follows. -/
theorem run_append_of_not_all {passes : Char → Bool} {front : Text} (rest : Text)
    (notAll : front.all passes = false)
    : run passes (front ++ rest) = run passes front ∧ run passes front < front.length := by
  induction front with
  | nil => simp at notAll
  | cons char front ih =>
      rw [List.cons_append, run_cons, run_cons]
      cases passed : passes char with
      | false => simp
      | true =>
          have later := ih (by simpa [passed] using notAll)
          simp only [if_true, later.1, List.length_cons]
          exact ⟨trivial, by omega⟩

theorem run_append_stop {passes : Char → Bool} {stop : Char} (front rest : Text)
    (stops : passes stop = false)
    : run passes (front ++ stop :: rest) = run passes front := by
  induction front with
  | nil => simp [run, stops]
  | cons char front ih => rw [List.cons_append, run_cons, run_cons, ih]

-----------------------------------------------------------------------------------------
-- The search for the end of a comment or a raw string
-----------------------------------------------------------------------------------------

/-- A character that a needle lacks ends its occurrences. -/
theorem isPrefixOf_append_cons {needle : Text} (front : Text) {head : Char} (rest : Text)
    (apart : head ∉ needle)
    : needle.isPrefixOf (front ++ head :: rest) = needle.isPrefixOf front := by
  induction front generalizing needle with
  | nil =>
      cases needle with
      | nil => simp
      | cons first more =>
          have different : first ≠ head := by
            rintro rfl
            exact apart (by simp)
          simp [List.isPrefixOf_cons_cons, List.isPrefixOf, different]
  | cons char front ih =>
      cases needle with
      | nil => simp
      | cons first more =>
          have same := ih fun member => apart (List.mem_cons_of_mem first member)
          simp only [List.cons_append, List.isPrefixOf_cons_cons, same]

/-- A search passes over a stretch without the first character of its needle. -/
theorem through?_skip {first : Char} {more skipped : Text} (rest : Text) (apart : first ∉ skipped)
    : through? (first :: more) (skipped ++ rest)
      = (through? (first :: more) rest).map (skipped.length + ·) := by
  induction skipped with
  | nil => simp
  | cons char skipped ih =>
      have later := ih fun member => apart (List.mem_cons_of_mem _ member)
      have different : first ≠ char := by
        rintro rfl
        exact apart (by simp)
      simp only [List.cons_append, through?, List.isPrefixOf_cons_cons, beq_iff_eq, different,
        Bool.and_eq_true, false_and, if_false, later, Option.map_map]
      congr 1
      funext length
      simp only [Function.comp, List.length_cons]
      omega

/-- A search for a needle is alike in front of two changed parts if it is in them, and if no
occurrence can reach into them. By induction on the front.
-/
theorem through?_alike {needle old new : Text} {oldHead newHead : Char} (front : Text)
    (oldApart : oldHead ∉ needle.tail) (newApart : newHead ∉ needle.tail)
    (base : Alike 0 (through? needle (oldHead :: old)) (through? needle (newHead :: new)))
    : Alike front.length (through? needle (front ++ oldHead :: old))
        (through? needle (front ++ newHead :: new)) := by
  induction front with
  | nil => exact base
  | cons char front ih =>
      have agree : needle.isPrefixOf (char :: (front ++ oldHead :: old))
          = needle.isPrefixOf (char :: (front ++ newHead :: new)) := by
        cases needle with
        | nil => simp
        | cons first more =>
            -- An occurrence that begins in the front would have the next head in its tail
            rw [List.tail_cons] at oldApart newApart
            simp only [List.isPrefixOf_cons_cons, isPrefixOf_append_cons front _ oldApart,
              isPrefixOf_append_cons front _ newApart]
      simp only [List.cons_append, through?, agree]
      split
      · exact .same _
      · exact ih.map (by simp)

/-- A text is no comment unless its first slash is followed by a slash or a star. -/
theorem comment?_eq_none {first : Char} {rest : Text}
    (plain : first = '/' → rest.head? ≠ some '/' ∧ rest.head? ≠ some '*')
    : comment? (first :: rest) = none := by
  rw [comment?]
  · intro more same
    obtain ⟨rfl, rfl⟩ := List.cons.inj same
    exact (plain rfl).1 rfl
  · intro more same
    obtain ⟨rfl, rfl⟩ := List.cons.inj same
    exact (plain rfl).2 rfl

/-- Comments are alike in front of two changed parts. One that ends with its line ends in the
front or goes on into the change; one between signs is a matter of the search for its end.
-/
theorem comment?_alike {old new : Text} {oldHead newHead : Char} {front : Text}
    (present : front ≠ [])
    (oldPlain : oldHead ∉ ['*', '/', '\n']) (newPlain : newHead ∉ ['*', '/', '\n'])
    (base
      : Alike 0 (through? ['*', '/'] (oldHead :: old)) (through? ['*', '/'] (newHead :: new)))
    : Alike front.length (comment? (front ++ oldHead :: old))
        (comment? (front ++ newHead :: new)) := by
  obtain ⟨first, rest, rfl⟩ := List.exists_cons_of_ne_nil present
  by_cases opens : first = '/'
  · subst opens
    cases rest with
    | nil =>
        rw [List.cons_append, List.nil_append, List.cons_append, List.nil_append,
          comment?_eq_none (by simp_all), comment?_eq_none (by simp_all)]
        exact .same none
    | cons second rest =>
        by_cases line : second = '/'
        · subst line
          simp only [List.cons_append, comment?]
          cases all : rest.all (· ≠ '\n') with
          | false =>
              rw [(run_append_of_not_all _ all).1, (run_append_of_not_all _ all).1]
              exact .same _
          | true =>
              -- The heads of the changed parts are no line breaks, so both comments go on
              rw [run_append_of_all _ all, run_append_of_all _ all, run_cons, run_cons]
              exact .beyond (by simp_all; omega) (by simp_all; omega)
        · by_cases signs : second = '*'
          · subst signs
            have alike := through?_alike rest (by simp_all) (by simp_all) base
            simp only [List.cons_append, comment?]
            exact alike.map (by simp; omega)
          · rw [List.cons_append, List.cons_append, List.cons_append, List.cons_append,
              comment?_eq_none (by simp_all), comment?_eq_none (by simp_all)]
            exact .same none
  · rw [List.cons_append, List.cons_append, comment?_eq_none (by simp [opens]),
      comment?_eq_none (by simp [opens])]
    exact .same none

end VerifierBootstrap.Lexeme
