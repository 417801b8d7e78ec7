import Mathlib.Data.Bool.AllAny
import Mathlib.Data.List.Find
import Mathlib.Data.List.TakeWhile
import VerifierBootstrap.Proofs.Json.Lexemes

/-!
What cuts a text off. Behind a value and behind a key stand blanks and marks only. A numeral and a
word end before these, so they are read as if the text ended there.
-/

namespace VerifierBootstrap.Json

/-- The characters that may stand behind a value or a key. -/
def cutters : Text :=
  [' ', '\t', '\n', '\r', ',', ':', ']', '\x7d']

/-- A text that cuts off what stands before it: it begins with one of the cutters, or is empty. -/
def Cuts (text : Text) : Prop :=
  ∀ char ∈ text.head?, char ∈ cutters

theorem cuts_cons {char : Char} (cutter : char ∈ cutters) (rest : Text) : Cuts (char :: rest) := by
  intro other first
  obtain rfl := Option.some.inj first
  exact cutter

/-- Blanks cut off, and leave what follows them to do so. -/
theorem Cuts.blanks_append {blanks rest : Text} (cuts : Cuts rest) (blank : Blanks blanks)
    : Cuts (blanks ++ rest) := by
  cases blanks with
  | nil => exact cuts
  | cons char blanks => exact cuts_cons (List.mem_append_left _ (blank char (by simp))) _

/-- No digit begins a text that does not go on with one. -/
def EndsDigits (text : Text) : Prop :=
  ∀ char ∈ text.head?, isDigit char = false

theorem Cuts.endsDigits {rest : Text} (cuts : Cuts rest) : EndsDigits rest := by
  have known : ∀ char ∈ cutters, isDigit char = false :=
    List.all_iff_forall_prop.mp (by decide)
  exact fun char first => known char (cuts char first)

theorem Cuts.head?_ne {rest : Text} {char : Char} (cuts : Cuts rest) (other : char ∉ cutters)
    : rest.head? ≠ some char :=
  fun first => other (cuts char first)

-----------------------------------------------------------------------------------------
-- Numerals
-----------------------------------------------------------------------------------------

namespace Numeral

variable {text rest : Text}

/-- Digits end where no digit goes on. By induction on the text. -/
theorem takeWhile_isDigit_append (ends : EndsDigits rest) (text : Text)
    : (text ++ rest).takeWhile isDigit = text.takeWhile isDigit := by
  induction text with
  | nil =>
      cases rest with
      | nil => rfl
      | cons char rest => exact List.takeWhile_cons_of_neg (by simp [ends char rfl])
  | cons char text ih =>
      rw [List.cons_append, List.takeWhile_cons, List.takeWhile_cons, ih]

theorem readWhole_of_ne_zero (other : text.head? ≠ some '0')
    : readWhole text = text.takeWhile isDigit := by
  unfold readWhole
  split
  · exact absurd rfl other
  · rfl

theorem readWhole_append (ends : EndsDigits rest) (text : Text)
    : readWhole (text ++ rest) = readWhole text := by
  by_cases zero : (text ++ rest).head? = some '0'
  · cases text with
    | nil => exact absurd (ends '0' zero) (by decide)
    | cons char text =>
        obtain rfl := Option.some.inj zero
        rfl
  · have other : text.head? ≠ some '0' := by
      intro first
      exact zero (by rw [List.head?_append, first, Option.some_or])
    rw [readWhole_of_ne_zero zero, readWhole_of_ne_zero other, takeWhile_isDigit_append ends]

theorem readFraction?_of_ne_point (other : text.head? ≠ some '.') : readFraction? text = none := by
  unfold readFraction?
  split
  · exact absurd rfl other
  · rfl

theorem readFraction?_append (cuts : Cuts rest) (text : Text)
    : readFraction? (text ++ rest) = readFraction? text := by
  cases text with
  | nil => exact readFraction?_of_ne_point (cuts.head?_ne (by decide))
  | cons char text =>
      by_cases point : char = '.'
      · obtain rfl := point
        simp only [List.cons_append, readFraction?, takeWhile_isDigit_append cuts.endsDigits]
      · rw [readFraction?_of_ne_point (by simpa using point),
          readFraction?_of_ne_point (by simpa using point)]

theorem readExponent?_append (cuts : Cuts rest) (text : Text)
    : readExponent? (text ++ rest) = readExponent? text := by
  have unsigned : ∀ char ∈ cutters, ¬(char = 'e' ∨ char = 'E') ∧ ¬(char = '+' ∨ char = '-') :=
    List.all_iff_forall_prop.mp (by decide)
  cases text with
  | nil =>
      cases rest with
      | nil => rfl
      | cons char rest => exact if_neg (unsigned char (cuts char rfl)).1
  | cons mark text =>
      have sign
          : ((text ++ rest).take 1).filter (fun char => char = '+' || char = '-')
            = (text.take 1).filter (fun char => char = '+' || char = '-') := by
        cases text with
        | nil =>
            cases rest with
            | nil => rfl
            | cons char rest => simpa using (unsigned char (cuts char rfl)).2
        | cons char text => rfl
      have short
          : ((text.take 1).filter (fun char => char = '+' || char = '-')).length
            ≤ text.length :=
        (List.length_filter_le ..).trans (List.length_take_le' ..)
      simp only [List.cons_append, readExponent?, sign, List.drop_append_of_le_length short,
        takeWhile_isDigit_append cuts.endsDigits]

theorem length_readWhole_le (text : Text) : (readWhole text).length ≤ text.length := by
  unfold readWhole
  split
  · simp
  · exact (List.takeWhile_sublist _).length_le

theorem length_readFraction?_le (text : Text)
    : ((readFraction? text).map fun digits => 1 + digits.length).getD 0 ≤ text.length := by
  unfold readFraction?
  split
  · rename_i rest
    have short := (List.takeWhile_sublist isDigit (l := rest)).length_le
    dsimp only
    split
    · exact Nat.zero_le _
    · simp only [Option.map_some, Option.getD_some, List.length_cons]
      omega
  · exact Nat.zero_le _

theorem length_readExponent?_le (text : Text)
    : ((readExponent? text).map fun part => 1 + part.1.length + part.2.length).getD 0
      ≤ text.length := by
  cases text with
  | nil => exact Nat.le_refl 0
  | cons mark rest =>
      rw [readExponent?]
      split
      · dsimp only
        generalize named : (rest.take 1).filter (fun char => char = '+' || char = '-') = sign
        have signShort : sign.length ≤ rest.length := by
          rw [← named]
          exact (List.length_filter_le ..).trans (List.length_take_le' ..)
        have short := (List.takeWhile_sublist isDigit (l := rest.drop sign.length)).length_le
        rw [List.length_drop] at short
        split
        · exact Nat.zero_le _
        · simp only [Option.map_some, Option.getD_some, List.length_cons]
          omega
      · exact Nat.zero_le _

/-- A numeral is not longer than the text it is read from. -/
theorem length_le_of_read? {numeral : Numeral} (read : read? text = some numeral)
    : numeral.length ≤ text.length := by
  rw [read?] at read
  dsimp only at read
  have signed
      : (if text.head? = some '-' then 1 else 0)
          + (if text.head? = some '-' then text.drop 1 else text).length
        = text.length := by
    split
    · rename_i negative
      obtain ⟨tail, rfl⟩ := List.head?_eq_some_iff.mp negative
      simp [Nat.add_comm]
    · exact Nat.zero_add _
  generalize (if text.head? = some '-' then text.drop 1 else text) = unsigned at read signed
  split at read
  · exact nomatch read
  · obtain rfl := Option.some.inj read
    have whole := length_readWhole_le unsigned
    generalize behind : unsigned.drop (readWhole unsigned).length = afterWhole
    have fraction := length_readFraction?_le afterWhole
    have exponent := length_readExponent?_le (afterWhole.drop
      (((readFraction? afterWhole).map fun digits => 1 + digits.length).getD 0))
    rw [List.length_drop] at exponent
    have left : afterWhole.length = unsigned.length - (readWhole unsigned).length := by
      rw [← behind, List.length_drop]
    simp only [length, decide_eq_true_eq]
    omega

/-- What cuts a numeral off is not looked at. Witness: each part ends before it, and what is left
behind a part is cut off by it too.
-/
theorem read?_append (cuts : Cuts rest) (text : Text) : read? (text ++ rest) = read? text := by
  have signed : (text ++ rest).head? = some '-' ↔ text.head? = some '-' := by
    cases text with
    | nil => exact iff_of_false (cuts.head?_ne (by decide)) nofun
    | cons char text => rfl
  have unsigned
      : (if (text ++ rest).head? = some '-' then (text ++ rest).drop 1 else text ++ rest)
        = (if text.head? = some '-' then text.drop 1 else text) ++ rest := by
    rw [if_congr signed rfl rfl]
    split
    · rename_i negative
      obtain ⟨tail, rfl⟩ := List.head?_eq_some_iff.mp negative
      rfl
    · rfl
  rw [read?, read?]
  dsimp only
  rw [unsigned]
  simp only [signed]
  generalize (if text.head? = some '-' then text.drop 1 else text) = digits
  simp only [readWhole_append cuts.endsDigits,
    List.drop_append_of_le_length (length_readWhole_le digits), readFraction?_append cuts,
    List.drop_append_of_le_length (length_readFraction?_le _), readExponent?_append cuts]

end Numeral

-----------------------------------------------------------------------------------------
-- Words
-----------------------------------------------------------------------------------------

/-- What has no cutters in it is at the front of a text or is not, whatever cuts the text off. By
induction on what is looked for.
-/
theorem isPrefixOf_append {rest word : Text} (cuts : Cuts rest)
    (uncut : ∀ char ∈ word, char ∉ cutters) (text : Text)
    : word.isPrefixOf (text ++ rest) = word.isPrefixOf text := by
  induction word generalizing text with
  | nil => rw [List.isPrefixOf_nil_left, List.isPrefixOf_nil_left]
  | cons char word ih =>
      obtain ⟨first, others⟩ := List.forall_mem_cons.mp uncut
      cases text with
      | nil =>
          cases rest with
          | nil => rfl
          | cons other rest =>
              have apart : char ≠ other := by
                rintro rfl
                exact first (cuts char rfl)
              rw [List.nil_append, List.isPrefixOf_cons_cons, beq_false_of_ne apart, Bool.false_and]
              rfl
      | cons other text =>
          rw [List.cons_append, List.isPrefixOf_cons_cons, List.isPrefixOf_cons_cons, ih others]

/-- What cuts a word off is not looked at. -/
theorem word?_append {rest : Text} (cuts : Cuts rest) (text : Text)
    : word? (text ++ rest) = word? text := by
  have uncut : ∀ word ∈ words.map Prod.fst, (word.all fun char => char ∉ cutters) = true := by
    decide
  exact List.find?_congr fun entry member =>
    isPrefixOf_append cuts
      (List.all_iff_forall_prop.mp (uncut _ (List.mem_map_of_mem member))) text

end VerifierBootstrap.Json
