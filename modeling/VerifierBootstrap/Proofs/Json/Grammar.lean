import VerifierBootstrap.Proofs.Json.Lexed
import VerifierBootstrap.Proofs.Json.Values

/-!
The grammar of JSON texts, told without the reader: words, numbers, strings with escapes, and arrays
and objects of any nesting, with blanks around every element. Every element is cut into tokens that
spell a value.
-/

namespace VerifierBootstrap.Json

-----------------------------------------------------------------------------------------
-- The grammar
-----------------------------------------------------------------------------------------

/-- One decimal digit or more. -/
def IsDigits (text : Text) : Prop :=
  text ≠ [] ∧ ∀ char ∈ text, isDigit char = true

/-- The whole part of a number, in which a zero leads no other digit. -/
def IsWhole (text : Text) : Prop :=
  text = ['0'] ∨ (IsDigits text ∧ text.head? ≠ some '0')

/-- A point with digits behind it, or nothing. -/
def IsFraction (text : Text) : Prop :=
  text = [] ∨ ∃ digits, IsDigits digits ∧ text = '.' :: digits

/-- A power of ten with a sign or none, or nothing. -/
def IsExponent (text : Text) : Prop :=
  text = []
  ∨ ∃ mark ∈ ['e', 'E'], ∃ sign ∈ [[], ['+'], ['-']], ∃ digits,
      IsDigits digits ∧ text = mark :: (sign ++ digits)

/-- A number. An integer has no more digits than are read. -/
inductive IsNumber : Text → Prop where
  | intro {sign whole fraction exponent : Text}
    (signed : sign ∈ [[], ['-']]) (isWhole : IsWhole whole) (isFraction : IsFraction fraction)
    (isExponent : IsExponent exponent)
    (short : fraction = [] → exponent = [] → whole.length ≤ integerDigits)
    : IsNumber (sign ++ whole ++ fraction ++ exponent)

/-- The key of a field: a string between blanks. -/
def IsKey (text : Text) : Prop :=
  ∃ front body back,
    Blanks front ∧ IsBody body ∧ Blanks back ∧ text = front ++ quoted body ++ back

/-- A value with blanks around it. -/
inductive IsElement : Text → Prop where
  | word {word : String}
    (isWord : word ∈ ["null", "true", "false", "NaN", "Infinity", "-Infinity"])
    : IsElement word.toList
  | number {text : Text} (isNumber : IsNumber text) : IsElement text
  | string {body : Text} (isBody : IsBody body) : IsElement (quoted body)
  | emptyArray {blanks : Text} (blank : Blanks blanks) : IsElement ('[' :: (blanks ++ [']']))
  | array {items : List Text} (each : ∀ item ∈ items, IsElement item)
    : IsElement ('[' :: (separated ',' items ++ [']']))
  | emptyObject {blanks : Text} (blank : Blanks blanks)
    : IsElement ('\x7b' :: (blanks ++ ['\x7d']))
  | object {fields : List (Text × Text)} (keyed : ∀ field ∈ fields, IsKey field.1)
    (each : ∀ field ∈ fields, IsElement field.2)
    : IsElement
        ('\x7b' :: (separated ',' (fields.map fun field => field.1 ++ ':' :: field.2) ++ ['\x7d']))
  | spaced {front text back : Text} (before : Blanks front) (element : IsElement text)
    (behind : Blanks back)
    : IsElement (front ++ text ++ back)

/-- One value or more, with a comma between any two. -/
def IsSequence (text : Text) : Prop :=
  ∃ items, items ≠ [] ∧ (∀ item ∈ items, IsElement item) ∧ text = separated ',' items

-----------------------------------------------------------------------------------------
-- Numbers
-----------------------------------------------------------------------------------------

theorem IsExponent.endsDigits {exponent : Text} (isExponent : IsExponent exponent)
    : EndsDigits exponent := by
  rcases isExponent with rfl | ⟨mark, member, sign, _, digits, _, rfl⟩
  · exact nofun
  · have known : ∀ mark ∈ ['e', 'E'], isDigit mark = false :=
      List.all_iff_forall_prop.mp (by decide)
    intro char first
    obtain rfl := Option.some.inj first
    exact known mark member

/-- The part of a number behind its whole digits begins with none. -/
theorem IsFraction.endsDigits {fraction exponent : Text} (isFraction : IsFraction fraction)
    (isExponent : IsExponent exponent)
    : EndsDigits (fraction ++ exponent) := by
  rcases isFraction with rfl | ⟨digits, _, rfl⟩
  · exact isExponent.endsDigits
  · intro char first
    obtain rfl := Option.some.inj first
    decide

namespace Numeral

variable {text rest : Text}

theorem takeWhile_isDigit_of_isDigits (isDigits : IsDigits text) (ends : EndsDigits rest)
    : (text ++ rest).takeWhile isDigit = text := by
  rw [takeWhile_isDigit_append ends]
  exact List.takeWhile_eq_self_iff.mpr isDigits.2

theorem readWhole_of_isWhole (isWhole : IsWhole text) (ends : EndsDigits rest)
    : readWhole (text ++ rest) = text := by
  rw [readWhole_append ends]
  rcases isWhole with rfl | ⟨⟨_, digits⟩, unpadded⟩
  · rfl
  · rw [readWhole_of_ne_zero unpadded]
    exact List.takeWhile_eq_self_iff.mpr digits

/-- A fraction is read up to an exponent. -/
theorem readFraction?_of_isFraction (isFraction : IsFraction text) (isExponent : IsExponent rest)
    : ((readFraction? (text ++ rest)).map fun digits => 1 + digits.length).getD 0 = text.length
      ∧ (readFraction? (text ++ rest) = none → text = []) := by
  rcases isFraction with rfl | ⟨digits, isDigits, rfl⟩
  · have pointless : rest.head? ≠ some '.' := by
      rcases isExponent with rfl | ⟨mark, member, _, _, _, _, rfl⟩
      · simp
      · rintro first
        rw [Option.some.inj first] at member
        exact absurd member (by decide)
    rw [List.nil_append, readFraction?_of_ne_point pointless]
    exact ⟨rfl, fun _ => rfl⟩
  · have read : readFraction? ('.' :: digits ++ rest) = some digits := by
      rw [List.cons_append, readFraction?]
      simp only [takeWhile_isDigit_of_isDigits isDigits isExponent.endsDigits]
      exact if_neg (by simpa using isDigits.1)
    rw [read]
    exact ⟨Nat.add_comm .., by simp⟩

theorem readExponent?_of_isExponent (isExponent : IsExponent text)
    : ((readExponent? text).map fun part => 1 + part.1.length + part.2.length).getD 0
        = text.length
      ∧ (readExponent? text = none → text = []) := by
  rcases isExponent with rfl | ⟨mark, member, sign, signed, digits, isDigits, rfl⟩
  · exact ⟨rfl, fun _ => rfl⟩
  · have marked : mark = 'e' ∨ mark = 'E' := by simpa using member
    have sign_eq
        : ((sign ++ digits).take 1).filter (fun char => char = '+' || char = '-') = sign := by
      obtain ⟨digit, digits, rfl⟩ := List.exists_cons_of_ne_nil isDigits.1
      have isDigit := isDigits.2 digit (by simp)
      have apart : digit ≠ '+' ∧ digit ≠ '-' :=
        ⟨ne_of_isDigit isDigit (by decide), ne_of_isDigit isDigit (by decide)⟩
      simp only [List.mem_cons, List.not_mem_nil, or_false] at signed
      rcases signed with rfl | rfl | rfl
      · simp [apart]
      · rfl
      · rfl
    have digits_eq : digits.takeWhile isDigit = digits :=
      List.takeWhile_eq_self_iff.mpr isDigits.2
    have read : readExponent? (mark :: (sign ++ digits)) = some (sign, digits) := by
      rw [readExponent?, if_pos marked]
      simp only [sign_eq, List.drop_left, digits_eq]
      exact if_neg (by simpa using isDigits.1)
    rw [read]
    refine ⟨?_, by simp⟩
    simp
    omega

theorem exists_value {numeral : Numeral}
    (short
      : numeral.fraction = none
        → numeral.exponent = none
        → numeral.whole.length ≤ integerDigits)
    : ∃ value, numeral.value = .ok value := by
  unfold value
  split
  · rename_i whole bare
    exact ⟨_, if_neg (Nat.not_lt.mpr (short whole bare))⟩
  · exact ⟨_, rfl⟩

end Numeral

theorem IsWhole.exists_digit {whole : Text} (isWhole : IsWhole whole)
    : ∃ digit rest, whole = digit :: rest ∧ isDigit digit = true := by
  rcases isWhole with rfl | ⟨⟨filled, digits⟩, _⟩
  · exact ⟨'0', [], rfl, by decide⟩
  · obtain ⟨digit, rest, rfl⟩ := List.exists_cons_of_ne_nil filled
    exact ⟨digit, rest, rfl, digits digit (by simp)⟩

/-- The parts of a number are read one behind the other. -/
theorem Numeral.read?_of_parts {whole fraction exponent : Text} (isWhole : IsWhole whole)
    (isFraction : IsFraction fraction) (isExponent : IsExponent exponent) {sign : Text}
    (signed : sign ∈ [[], ['-']])
    : read? (sign ++ (whole ++ (fraction ++ exponent)))
      = some ⟨sign = ['-'], whole, readFraction? (fraction ++ exponent),
          readExponent? exponent⟩ := by
  obtain ⟨digit, rest, begins, isDigit⟩ := isWhole.exists_digit
  have filled : ¬whole.isEmpty = true := by simp [begins]
  have readWhole_eq := readWhole_of_isWhole isWhole (isFraction.endsDigits isExponent)
  have fractionLength := (readFraction?_of_isFraction isFraction isExponent).1
  simp only [List.mem_cons, List.not_mem_nil, or_false] at signed
  rw [read?]
  rcases signed with rfl | rfl
  · have unsigned : (whole ++ (fraction ++ exponent)).head? ≠ some '-' := by
      rw [begins]
      exact fun first => ne_of_isDigit isDigit (by decide) (Option.some.inj first)
    simp only [List.nil_append, if_neg unsigned, readWhole_eq, if_neg filled, List.drop_left,
      fractionLength, decide_eq_false unsigned]
    rfl
  · simp [readWhole_eq, filled, fractionLength]

/-- A number is read as a numeral of its length that has a value. -/
theorem IsNumber.exists_value {text : Text} (isNumber : IsNumber text)
    : ∃ numeral value,
        Numeral.read? text = some numeral
        ∧ numeral.length = text.length
        ∧ numeral.value = .ok value := by
  obtain @⟨sign, whole, fraction, exponent, signed, isWhole, isFraction, isExponent, short⟩ :=
    isNumber
  have read := Numeral.read?_of_parts isWhole isFraction isExponent signed
  obtain ⟨fractionLength, noFraction⟩ :=
    Numeral.readFraction?_of_isFraction isFraction isExponent
  obtain ⟨exponentLength, noExponent⟩ := Numeral.readExponent?_of_isExponent isExponent
  generalize named
    : (⟨sign = ['-'], whole, Numeral.readFraction? (fraction ++ exponent),
        Numeral.readExponent? exponent⟩ : Numeral)
      = numeral at read
  obtain ⟨value, valued⟩ : ∃ value, numeral.value = .ok value := by
    rw [← named]
    exact Numeral.exists_value fun fractionless integral =>
      short (noFraction fractionless) (noExponent integral)
  rw [List.append_assoc, List.append_assoc]
  refine ⟨numeral, value, read, ?_, valued⟩
  simp only [List.mem_cons, List.not_mem_nil, or_false] at signed
  have signLength : (if sign = ['-'] then 1 else 0) = sign.length := by
    rcases signed with rfl | rfl
    · rfl
    · rfl
  simp only [← named, Numeral.length, decide_eq_true_eq, signLength, fractionLength, exponentLength,
    List.length_append]
  omega

-----------------------------------------------------------------------------------------
-- Elements
-----------------------------------------------------------------------------------------

theorem lexed_number {text : Text} (isNumber : IsNumber text)
    : ∃ value, Lexed text [.scalar value] := by
  obtain ⟨numeral, value, read, length, valued⟩ := isNumber.exists_value
  cases text with
  | nil => exact nomatch read
  | cons char text =>
      have apart {other : Char} (outside : isDigit other = false ∧ other ≠ '-') : char ≠ other :=
        ne_of_read? read outside.1 outside.2
      have filled : isBlank char = false := by
        simp (disch := decide) [isBlank, apart]
      refine ⟨value, lexed_scalar filled (mark?_of_read? read) (apart (by decide)) ?_⟩
      rw [scalar?, word?_of_read? read, read, ← List.length_cons, ← length]
      simp [valued]

theorem exists_lexed_quoted {body : Text} (isBody : IsBody body)
    : ∃ points, Lexed (quoted body) [.string points] := by
  obtain ⟨points, reads⟩ := exists_reads_quoted isBody
  have lexed := Lexed.nil.reads_append reads
  rw [List.append_nil] at lexed
  exact ⟨points, lexed⟩

theorem lexed_word {word : String}
    (isWord : word ∈ ["null", "true", "false", "NaN", "Infinity", "-Infinity"])
    : ∃ value, Lexed word.toList [.scalar value] := by
  simp only [List.mem_cons, List.not_mem_nil, or_false] at isWord
  rcases isWord with rfl | rfl | rfl | rfl | rfl | rfl
  all_goals exact ⟨_, lexed_scalar (by decide) (by decide) (by decide) rfl⟩

/-- What can be found between each item and a value can be found between the items and values. By
induction on the items.
-/
theorem exists_forall₂_between {α β γ : Type} {Left : α → β → Prop} {Right : β → γ → Prop}
    {items : List α} (each : ∀ item ∈ items, ∃ middle value, Left item middle ∧ Right middle value)
    : ∃ middles values, List.Forall₂ Left items middles ∧ List.Forall₂ Right middles values := by
  induction items with
  | nil => exact ⟨[], [], .nil, .nil⟩
  | cons item items ih =>
      obtain ⟨first, others⟩ := List.forall_mem_cons.mp each
      obtain ⟨middle, value, left, right⟩ := first
      obtain ⟨middles, values, lefts, rights⟩ := ih others
      exact ⟨middle :: middles, value :: values, .cons left lefts, .cons right rights⟩

/-- A key and a value, with a colon between. -/
theorem exists_lexed_field {key text : Text} (isKey : IsKey key)
    (element : ∃ kinds value, Lexed text kinds ∧ Spells kinds value)
    : ∃ kinds field, Lexed (key ++ ':' :: text) kinds ∧ SpellsField kinds field := by
  obtain ⟨front, body, back, before, isBody, behind, rfl⟩ := isKey
  obtain ⟨kinds, value, lexed, spelled⟩ := element
  obtain ⟨points, lexedKey⟩ := exists_lexed_quoted isBody
  have spaced := (lexedKey.blanks_append before).append_blanks behind
  have cutter : ':' ∈ cutters := by decide
  exact ⟨_, (points, value), spaced.append_mark lexed cutter rfl, kinds, rfl, spelled⟩

/-- Every element has the tokens of a value. By induction on the element. -/
theorem IsElement.exists_kinds {text : Text} (element : IsElement text)
    : ∃ kinds value, Lexed text kinds ∧ Spells kinds value := by
  induction element with
  | word isWord =>
      obtain ⟨value, lexed⟩ := lexed_word isWord
      exact ⟨_, value, lexed, spells_scalar value⟩
  | number isNumber =>
      obtain ⟨value, lexed⟩ := lexed_number isNumber
      exact ⟨_, value, lexed, spells_scalar value⟩
  | string isBody =>
      obtain ⟨points, lexed⟩ := exists_lexed_quoted isBody
      exact ⟨_, _, lexed, spells_string points⟩
  | emptyArray blank =>
      have inner := Lexed.nil.append_blanks blank
      exact ⟨_, _, inner.enclosed rfl rfl (by decide), spells_array .nil⟩
  | array each ih =>
      obtain ⟨kinds, values, lexed, spelled⟩ := exists_forall₂_between ih
      exact ⟨_, _, (lexed_separated lexed).enclosed rfl rfl (by decide), spells_array spelled⟩
  | emptyObject blank =>
      have inner := Lexed.nil.append_blanks blank
      exact ⟨_, _, inner.enclosed rfl rfl (by decide), spells_object .nil⟩
  | object keyed each ih =>
      obtain ⟨kinds, values, lexed, spelled⟩ := exists_forall₂_between fun field member =>
        exists_lexed_field (keyed field member) (ih field member)
      rw [← List.forall₂_map_left_iff] at lexed
      exact ⟨_, _, (lexed_separated lexed).enclosed rfl rfl (by decide), spells_object spelled⟩
  | spaced before element behind ih =>
      obtain ⟨kinds, value, lexed, spelled⟩ := ih
      exact ⟨kinds, value, (lexed.blanks_append before).append_blanks behind, spelled⟩

end VerifierBootstrap.Json
