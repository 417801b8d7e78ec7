import VerifierBootstrap.Proofs.Json.Lexemes

/-!
Integers of more digits than are read. The reader of numbers refuses them, and a token is such an
integer exactly if the numeral there has so many digits and neither a fraction nor an exponent.
-/

namespace VerifierBootstrap.Json

/-- An integer of so many digits is at the front of a text: the numeral there has neither a fraction
nor an exponent.
-/
def BeginsInteger (text : Text) (digits : Nat) : Prop :=
  ∃ numeral,
    Numeral.read? text = some numeral
    ∧ numeral.fraction = none
    ∧ numeral.exponent = none
    ∧ numeral.whole.length = digits

theorem exists_digit_of_readWhole {text : Text} (filled : Numeral.readWhole text ≠ [])
    : ∃ digit rest, text = digit :: rest ∧ isDigit digit = true := by
  unfold Numeral.readWhole at filled
  split at filled
  · exact ⟨'0', _, rfl, by decide⟩
  · cases text with
    | nil => exact absurd rfl filled
    | cons digit rest =>
        refine ⟨digit, rest, rfl, ?_⟩
        by_contra other
        exact filled (by simp [other])

/-- A numeral begins with a digit, or with a minus and a digit. -/
theorem exists_digit_of_read? {text : Text} {numeral : Numeral}
    (read : Numeral.read? text = some numeral)
    : ∃ digit rest,
        (text = digit :: rest ∨ text = '-' :: digit :: rest) ∧ isDigit digit = true := by
  rw [Numeral.read?] at read
  dsimp only at read
  generalize unsigned : (if text.head? = some '-' then text.drop 1 else text) = rest at read
  split at read
  · exact nomatch read
  · rename_i filled
    obtain ⟨digit, rest, rfl, isDigit⟩ := exists_digit_of_readWhole (mt List.isEmpty_iff.mpr filled)
    refine ⟨digit, rest, ?_, isDigit⟩
    split at unsigned
    · rename_i negative
      obtain ⟨tail, rfl⟩ := List.head?_eq_some_iff.mp negative
      exact .inr (congrArg _ unsigned)
    · exact .inl unsigned

/-- What is wrong inside a string is a fault of the grammar. -/
theorem exists_malformed_of_readString {start position : Nat} {text : Text} {fault : Fault}
    (refused : readString start position text = .error fault)
    : ∃ message place, fault = .malformed message place := by
  fun_induction readString start position text with
  | _ => grind

theorem ne_of_isDigit {char other : Char} (digit : isDigit char = true)
    (apart : isDigit other = false)
    : char ≠ other := by
  rintro rfl
  exact nomatch digit.symm.trans apart

/-- Behind a minus or none a numeral goes on with a digit, and no word for a value does. -/
theorem word?_of_read? {text : Text} {numeral : Numeral} (read : Numeral.read? text = some numeral)
    : word? text = none := by
  obtain ⟨digit, rest, front, digits⟩ := exists_digit_of_read? read
  have first : text.find? (· ≠ '-') = some digit := by
    have plain : digit ≠ '-' := ne_of_isDigit digits (by decide)
    rcases front with rfl | rfl
    · simp [plain]
    · simp [plain]
  have letters
      : ∀ entry ∈ words,
          ∃ letter, entry.1.find? (· ≠ '-') = some letter ∧ isDigit letter = false := by
    simp only [words, List.forall_mem_cons]
    exact ⟨⟨'n', rfl, rfl⟩, ⟨'t', rfl, rfl⟩, ⟨'f', rfl, rfl⟩, ⟨'N', rfl, rfl⟩, ⟨'I', rfl, rfl⟩,
      ⟨'I', rfl, rfl⟩, nofun⟩
  rw [word?, List.find?_eq_none]
  intro entry member fits
  obtain ⟨more, rfl⟩ := List.isPrefixOf_iff_prefix.mp fits
  obtain ⟨letter, found, other⟩ := letters entry member
  rw [List.find?_append, found, Option.some_or] at first
  obtain rfl := Option.some.inj first
  exact nomatch digits.symm.trans other

/-- A numeral is too long if it is an integer of more digits than are read. -/
theorem Numeral.value_eq_longInteger_iff {numeral : Numeral} {digits : Nat}
    : numeral.value = .error (.longInteger digits)
      ↔ (numeral.fraction = none ∧ numeral.exponent = none ∧ numeral.whole.length = digits)
        ∧ integerDigits < digits := by
  unfold Numeral.value
  split
  · rename_i whole bare
    rw [whole, bare]
    split
    · rename_i long
      constructor
      · intro same
        cases Fault.longInteger.inj (Except.error.inj same)
        exact ⟨⟨rfl, rfl, rfl⟩, long⟩
      · rintro ⟨⟨_, _, rfl⟩, _⟩
        rfl
    · rename_i short
      refine ⟨(nomatch ·), ?_⟩
      rintro ⟨⟨_, _, rfl⟩, long⟩
      exact absurd long short
  · rename_i wide
    exact ⟨(nomatch ·), fun ⟨⟨whole, bare, _⟩, _⟩ => (wide whole bare).elim⟩

/-- Neither a mark nor a quote begins a numeral. -/
theorem ne_of_read? {char : Char} {rest : Text} {numeral : Numeral} {other : Char}
    (read : Numeral.read? (char :: rest) = some numeral) (apart : isDigit other = false)
    (unsigned : other ≠ '-')
    : char ≠ other := by
  obtain ⟨digit, _, front, digits⟩ := exists_digit_of_read? read
  rcases front with front | front
  · rw [(List.cons.inj front).1]
    exact ne_of_isDigit digits apart
  · rw [(List.cons.inj front).1]
    exact unsigned.symm

theorem mark?_of_read? {char : Char} {rest : Text} {numeral : Numeral}
    (read : Numeral.read? (char :: rest) = some numeral)
    : mark? char = none := by
  have apart {other : Char} (outside : isDigit other = false ∧ other ≠ '-') : char ≠ other :=
    ne_of_read? read outside.1 outside.2
  rw [mark?, if_neg (apart (by decide)), if_neg (apart (by decide)), if_neg (apart (by decide)),
    if_neg (apart (by decide)), if_neg (apart (by decide)), if_neg (apart (by decide))]

/-- What is wrong with a token is a fault of the grammar or the value of a numeral. -/
theorem fault_of_readToken {position : Nat} {char : Char} {rest : Text} {fault : Fault}
    (broken : (readToken position char rest).1 = .broken fault)
    : (∃ message place, fault = .malformed message place)
      ∨ ∃ numeral,
          Numeral.read? (char :: rest) = some numeral ∧ numeral.value = .error fault := by
  unfold readToken at broken
  split at broken
  · rename_i kind mark
    have isMark := isMark_of_mark? mark
    dsimp only at broken
    rw [broken] at isMark
    exact isMark.elim
  · split at broken
    · split at broken
      · cases broken
      · rename_i refused
        rw [TokenKind.broken.inj broken] at refused
        exact .inl (exists_malformed_of_readString refused)
    · split at broken
      · cases broken
      · split at broken
        · cases broken
        · rename_i numeral read
          split at broken
          · cases broken
          · rename_i refused
            rw [TokenKind.broken.inj broken] at refused
            exact .inr ⟨numeral, read, refused⟩

/-- A token is too long an integer exactly if one begins there. -/
theorem readToken_eq_longInteger_iff {position : Nat} {char : Char} {rest : Text} {digits : Nat}
    : (readToken position char rest).1 = .broken (.longInteger digits)
      ↔ BeginsInteger (char :: rest) digits ∧ integerDigits < digits := by
  constructor
  · intro broken
    rcases fault_of_readToken broken with ⟨_, _, same⟩ | ⟨numeral, read, refused⟩
    · cases same
    · obtain ⟨bare, long⟩ := Numeral.value_eq_longInteger_iff.mp refused
      exact ⟨⟨numeral, read, bare⟩, long⟩
  · rintro ⟨⟨numeral, read, bare⟩, long⟩
    rw [readToken, mark?_of_read? read]
    dsimp only
    rw [if_neg (ne_of_read? read (by decide) (by decide)), word?_of_read? read]
    dsimp only
    rw [read]
    dsimp only
    rw [Numeral.value_eq_longInteger_iff.mpr ⟨bare, long⟩]

/-- No token is refused for want of room by itself. -/
theorem readToken_ne_tooDeep (position : Nat) (char : Char) (rest : Text) (enclosure : Enclosure)
    : (readToken position char rest).1 ≠ .broken (.tooDeep enclosure) := by
  intro broken
  rcases fault_of_readToken broken with ⟨_, _, same⟩ | ⟨numeral, read, refused⟩
  · cases same
  · unfold Numeral.value at refused
    split at refused
    · split at refused
      · cases refused
      · cases refused
    · cases refused

/-- A token is what is read at its position, or the end behind all characters. By recursion of the
lexer.
-/
theorem exists_of_mem_tokensFrom {position : Nat} {text : Text} {token : Token}
    (member : token ∈ tokensFrom position text)
    : (token.kind = .endOfText ∧ position + text.length ≤ token.position)
      ∨ ∃ front char rest,
          text = front ++ char :: rest
          ∧ token.position = position + front.length
          ∧ token.kind = (readToken token.position char rest).1 := by
  fun_induction tokensFrom position text with
  | case1 position =>
      rw [List.mem_singleton.mp member]
      exact .inl ⟨rfl, Nat.le_refl _⟩
  | case2 position char rest blank ih =>
      rcases ih member with ⟨ended, behind⟩ | ⟨front, other, behind, rfl, at_, read⟩
      · refine .inl ⟨ended, ?_⟩
        rw [List.length_cons]
        omega
      · refine .inr ⟨char :: front, other, behind, rfl, ?_, read⟩
        rw [at_, List.length_cons]
        omega
  | case3 position char rest filled kind taken read ih =>
      rcases List.mem_cons.mp member with rfl | member
      · exact .inr ⟨[], char, rest, rfl, rfl, (congrArg Prod.fst read).symm⟩
      · rcases ih member with ⟨ended, behind⟩ | ⟨front, other, behind, same, at_, again⟩
        · refine .inl ⟨ended, ?_⟩
          rw [List.length_drop] at behind
          rw [List.length_cons]
          omega
        · have enough : taken ≤ rest.length := by
            by_contra beyond
            rw [List.drop_eq_nil_of_le (by omega)] at same
            exact absurd same (by simp)
          refine .inr ⟨char :: (rest.take taken ++ front), other, behind, ?_, ?_, again⟩
          · rw [List.cons_append, List.append_assoc, ← same, List.take_append_drop]
          · rw [at_, List.length_cons, List.length_append, List.length_take]
            omega

theorem kind_eq_longInteger_iff {text : Text} {token : Token} {digits : Nat}
    (member : token ∈ tokens text)
    : token.kind = .broken (.longInteger digits)
      ↔ BeginsInteger (text.drop token.position) digits ∧ integerDigits < digits := by
  rcases exists_of_mem_tokensFrom member with ⟨ended, behind⟩ | ⟨front, char, rest, rfl, at_, read⟩
  · rw [ended, List.drop_eq_nil_of_le (by omega)]
    exact ⟨(nomatch ·), fun ⟨⟨_, unread, _⟩, _⟩ => nomatch unread⟩
  · rw [read, at_, Nat.zero_add, List.drop_left]
    exact readToken_eq_longInteger_iff

theorem kind_ne_tooDeep {text : Text} {token : Token} (member : token ∈ tokens text)
    (enclosure : Enclosure)
    : token.kind ≠ .broken (.tooDeep enclosure) := by
  rcases exists_of_mem_tokensFrom member with ⟨ended, _⟩ | ⟨_, char, rest, _, _, read⟩
  · simp [ended]
  · rw [read]
    exact readToken_ne_tooDeep _ _ _ _

end VerifierBootstrap.Json
