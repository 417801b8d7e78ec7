import Mathlib.Data.Bool.AllAny
import VerifierBootstrap.Proofs.Bytes.Hex

/-!
Hexadecimal numerals with blanks in them. Blanks of ASCII may stand around the pairs of digits but
not in a pair, and a mark may stand in front of all. Exactly such numerals are read, and what is read
is written back with the digits alone, in lowercase.
-/

namespace VerifierBootstrap.Hex

/-- White space of ASCII and nothing else. -/
def Blanks (text : Text) : Prop :=
  ∀ char ∈ text, char ∈ [' ', '\t', '\n', '\x0b', '\x0c', '\r']

/-- Digits stand in pairs, with blanks before, between and behind the pairs. -/
inductive Paired : Text → Text → Prop where
  | nil {blanks : Text} (blank : Blanks blanks) : Paired blanks []
  | cons {blanks text digits : Text} {high low : Char}
    (blank : Blanks blanks) (rest : Paired text digits)
    : Paired (blanks ++ high :: low :: text) (high :: low :: digits)

/-- A text of pairs of digits that spell bytes, behind one mark or none. -/
def Writes (text digits : Text) (bytes : Bytes) : Prop :=
  ∃ mark ∈ marks, ∃ body, text = mark ++ body ∧ Paired body digits ∧ Spells digits bytes

variable {text digits : Text} {bytes : Bytes} {char : Char}

-----------------------------------------------------------------------------------------
-- Digits that are written
-----------------------------------------------------------------------------------------

/-- A digit in lowercase is the digit of its value. -/
theorem toLower_of_isDigitOf {value : Nat} (digit : IsDigitOf char value)
    : value < 16 ∧ char.toLower = Hex.digit value ∧ Text.isAsciiBlank char = false := by
  have row (place : Nat) (inside : place < 16)
      : ∀ char,
          lowercase[place]? = some char ∨ uppercase[place]? = some char
          → char.toLower = Hex.digit place ∧ Text.isAsciiBlank char = false := by
    have known
        : ∀ place < 16,
            ((lowercase[place]?.toList ++ uppercase[place]?.toList).all fun char =>
              char.toLower = Hex.digit place && !Text.isAsciiBlank char) = true := by
      decide
    intro char found
    have held := List.all_eq_true.mp (known place inside) char (by simpa using found)
    simpa using held
  have inside : value < 16 := by
    rcases digit with found | found
    · exact (List.getElem?_eq_some_iff.mp found).1
    · exact (List.getElem?_eq_some_iff.mp found).1
  exact ⟨inside, row value inside char digit⟩

/-- The byte of two digits is written with these digits. -/
theorem encode_byte {high low : Nat} (highSmall : high < 16) (lowSmall : low < 16) (bytes : Bytes)
    : encode (byte high low :: bytes) = digit high :: digit low :: encode bytes := by
  have value : (byte high low).toNat = 16 * high + low := by
    rw [byte, UInt8.toNat_ofNat', Nat.mod_eq_of_lt (by omega)]
  rw [encode, List.flatMap_cons, value]
  have upper : (16 * high + low) / 16 = high := by omega
  have lower : (16 * high + low) % 16 = low := by omega
  rw [upper, lower]
  rfl

theorem length_encode (bytes : Bytes) : (encode bytes).length = 2 * bytes.length := by
  simp [encode, List.length_flatMap, List.map_const', Nat.mul_comm]

theorem mem_lowercase_of_mem_encode (member : char ∈ encode bytes)
    : char ∈ lowercase := by
  have row : ∀ value < 16, Hex.digit value ∈ lowercase := by decide
  obtain ⟨byte, _, here⟩ := List.mem_flatMap.mp member
  have small := UInt8.toNat_lt byte
  simp only [List.mem_cons, List.not_mem_nil, or_false] at here
  rcases here with rfl | rfl
  · exact row _ (by omega)
  · exact row _ (by omega)

/-- Bytes are written back with the digits that spell them, in lowercase. By induction on the
spelling.
-/
theorem encode_of_spells (spelled : Spells digits bytes)
    : encode bytes = digits.map Char.toLower := by
  induction spelled with
  | nil => rfl
  | cons first second rest ih =>
      obtain ⟨upper, high, _⟩ := toLower_of_isDigitOf first
      obtain ⟨lower, low, _⟩ := toLower_of_isDigitOf second
      rw [List.map_cons, List.map_cons, high, low, ← ih]
      exact encode_byte upper lower _

theorem encode_injective : Function.Injective encode := by
  intro bytes other same
  have read := decode?_of_spells (spells_encode bytes)
  rw [same, decode?_of_spells (spells_encode other)] at read
  exact (Option.some.inj read).symm

-----------------------------------------------------------------------------------------
-- Blanks
-----------------------------------------------------------------------------------------

theorem Blanks.nil : Blanks [] :=
  nofun

theorem isAsciiBlank_iff
    : Text.isAsciiBlank char = true ↔ char ∈ [' ', '\t', '\n', '\x0b', '\x0c', '\r'] := by
  simp only [Text.isAsciiBlank, List.mem_cons, List.not_mem_nil, or_false, ← Char.toNat_inj,
    Bool.or_eq_true, Bool.and_eq_true, decide_eq_true_eq, Char.reduceToNat]
  omega

/-- A blank in front of pairs is skipped. -/
theorem Paired.blank_cons (blank : Text.isAsciiBlank char = true) (paired : Paired text digits)
    : Paired (char :: text) digits := by
  have more {blanks : Text} (others : Blanks blanks) : Blanks (char :: blanks) :=
    List.forall_mem_cons.mpr ⟨isAsciiBlank_iff.mp blank, others⟩
  cases paired with
  | nil others => exact .nil (more others)
  | cons others rest => exact .cons (more others) rest

theorem decodeSpacedFrom_blank (blank : Text.isAsciiBlank char = true) (position : Nat)
    (text : Text)
    : decodeSpacedFrom position (char :: text) = decodeSpacedFrom (position + 1) text := by
  cases text with
  | nil => simp only [decodeSpacedFrom, if_pos blank]
  | cons next rest => rw [decodeSpacedFrom, if_pos blank]

/-- Blanks are skipped. By induction on the blanks. -/
theorem decodeSpacedFrom_blanks {blanks : Text} (blank : Blanks blanks) (position : Nat)
    (text : Text)
    : decodeSpacedFrom position (blanks ++ text)
      = decodeSpacedFrom (position + blanks.length) text := by
  induction blanks generalizing position with
  | nil => rfl
  | cons char blanks ih =>
      obtain ⟨first, others⟩ := List.forall_mem_cons.mp blank
      rw [List.cons_append, decodeSpacedFrom_blank (isAsciiBlank_iff.mpr first), ih others,
        List.length_cons, Nat.add_assoc, Nat.add_comm 1]

-----------------------------------------------------------------------------------------
-- Pairs
-----------------------------------------------------------------------------------------

/-- What is read are digits in pairs. By recursion of the reader. -/
theorem exists_paired_of_decodeSpacedFrom {position : Nat}
    (read : decodeSpacedFrom position text = .ok bytes)
    : ∃ digits, Paired text digits ∧ Spells digits bytes := by
  fun_induction decodeSpacedFrom position text generalizing bytes with
  | case1 =>
      obtain rfl := Except.ok.inj read
      exact ⟨[], .nil Blanks.nil, .nil⟩
  | case2 position char blank =>
      obtain rfl := Except.ok.inj read
      exact ⟨[], .blank_cons blank (.nil Blanks.nil), .nil⟩
  | case3 | case4 => exact nomatch read
  | case5 position high low rest blank ih =>
      obtain ⟨digits, paired, spelled⟩ := ih read
      exact ⟨digits, paired.blank_cons blank, spelled⟩
  | case6 | case7 => exact nomatch read
  | case8 position high low rest _ upper atHigh lower atLow more atRest ih =>
      obtain rfl := Except.ok.inj read
      obtain ⟨digits, paired, spelled⟩ := ih atRest
      exact ⟨_, .cons Blanks.nil paired,
        .cons (value?_eq_some_iff.mp atHigh) (value?_eq_some_iff.mp atLow) spelled⟩
  | case9 => exact nomatch read

/-- Digits in pairs are read. By induction on the pairs. -/
theorem decodeSpacedFrom_of_paired (paired : Paired text digits) (spelled : Spells digits bytes)
    (position : Nat)
    : decodeSpacedFrom position text = .ok bytes := by
  induction paired generalizing bytes position with
  | @nil blanks blank =>
      cases spelled
      rw [← List.append_nil blanks, decodeSpacedFrom_blanks blank, decodeSpacedFrom]
  | cons blank rest ih =>
      cases spelled with
      | cons first second others =>
          obtain ⟨_, _, filled⟩ := toLower_of_isDigitOf first
          rw [decodeSpacedFrom_blanks blank, decodeSpacedFrom, if_neg (by simp [filled]),
            value?_eq_some_iff.mpr first]
          dsimp only
          rw [value?_eq_some_iff.mpr second]
          dsimp only
          rw [ih others]
          rfl

/-- Digits and blanks are characters of ASCII. By induction on the pairs. -/
theorem Paired.ascii (paired : Paired text digits) (spelled : Spells digits bytes)
    : ∀ char ∈ text, char.toNat < 0x80 := by
  have blanks {text : Text} (blank : Blanks text) : ∀ char ∈ text, char.toNat < 0x80 := by
    have known : ∀ char ∈ [' ', '\t', '\n', '\x0b', '\x0c', '\r'], char.toNat < 0x80 :=
      List.all_iff_forall_prop.mp (by decide)
    exact fun char member => known char (blank char member)
  have digit {char : Char} {value : Nat} (isDigit : IsDigitOf char value) : char.toNat < 0x80 := by
    have known : ∀ char ∈ lowercase ++ uppercase, char.toNat < 0x80 :=
      List.all_iff_forall_prop.mp (by decide)
    exact known char (List.mem_append.mpr (isDigit.imp List.mem_of_getElem? List.mem_of_getElem?))
  induction paired generalizing bytes with
  | nil blank => exact blanks blank
  | cons blank rest ih =>
      cases spelled with
      | cons first second others =>
          refine List.forall_mem_append.mpr ⟨blanks blank, ?_⟩
          exact List.forall_mem_cons.mpr
            ⟨digit first, List.forall_mem_cons.mpr ⟨digit second, ih others⟩⟩

/-- The digits are what is left without the blanks. By induction on the pairs. -/
theorem Paired.filter_eq (paired : Paired text digits) (spelled : Spells digits bytes)
    : text.filter (fun char => !Text.isAsciiBlank char) = digits := by
  have blanks {text : Text} (blank : Blanks text)
      : text.filter (fun char => !Text.isAsciiBlank char) = [] :=
    List.filter_eq_nil_iff.mpr fun char member =>
      by simp [isAsciiBlank_iff.mpr (blank char member)]
  induction paired generalizing bytes with
  | nil blank => exact blanks blank
  | cons blank rest ih =>
      cases spelled with
      | cons first second others =>
          obtain ⟨_, _, highFilled⟩ := toLower_of_isDigitOf first
          obtain ⟨_, _, lowFilled⟩ := toLower_of_isDigitOf second
          rw [List.filter_append, blanks blank, List.filter_cons_of_pos (by simp [highFilled]),
            List.filter_cons_of_pos (by simp [lowFilled]), ih others]
          rfl

/-- Digits stand in pairs without blanks. By induction on the spelling. -/
theorem paired_of_spells (spelled : Spells digits bytes) : Paired digits digits := by
  induction spelled with
  | nil => exact .nil Blanks.nil
  | cons _ _ _ ih => exact .cons Blanks.nil ih

/-- Pairs of digits and nothing else are read. -/
theorem decodeSpaced_eq_ok_iff
    : decodeSpaced text = .ok bytes ↔ ∃ digits, Paired text digits ∧ Spells digits bytes := by
  rw [decodeSpaced]
  constructor
  · intro read
    split at read
    · exact nomatch read
    · exact exists_paired_of_decodeSpacedFrom read
  · rintro ⟨digits, paired, spelled⟩
    have ascii : (text.findIdx? fun char => 0x80 ≤ char.toNat) = none := by
      rw [List.findIdx?_eq_none_iff]
      intro char member
      have low := paired.ascii spelled char member
      exact decide_eq_false (by omega)
    rw [ascii]
    exact decodeSpacedFrom_of_paired paired spelled 0

-----------------------------------------------------------------------------------------
-- Marks
-----------------------------------------------------------------------------------------

/-- No mark begins pairs of digits. -/
theorem Paired.dropMark (paired : Paired text digits) (spelled : Spells digits bytes)
    : Hex.dropMark text = text := by
  have unmarked {rest : Text} {mark : Char} (noDigit : value? mark = none)
      (filled : Text.isAsciiBlank mark = false)
      : text ≠ '0' :: mark :: rest := by
    rintro rfl
    obtain ⟨bytes, read⟩ : ∃ bytes, decodeSpacedFrom 0 ('0' :: mark :: rest) = .ok bytes :=
      ⟨_, decodeSpacedFrom_of_paired paired spelled 0⟩
    simp [decodeSpacedFrom, noDigit, show Text.isAsciiBlank '0' = false by rfl,
      show value? '0' = some 0 by rfl] at read
  unfold Hex.dropMark
  split
  · exact absurd rfl (unmarked (by rfl) (by rfl))
  · exact absurd rfl (unmarked (by rfl) (by rfl))
  · rfl

/-- What is read behind a mark, if there is one, are pairs behind one of the marks. -/
theorem decodeSpaced_dropMark_eq_ok_iff
    : decodeSpaced (dropMark text) = .ok bytes ↔ ∃ digits, Writes text digits bytes := by
  rw [decodeSpaced_eq_ok_iff]
  constructor
  · rintro ⟨digits, paired, spelled⟩
    unfold dropMark at paired
    split at paired
    · exact ⟨digits, "0x".toList, by simp [marks], _, rfl, paired, spelled⟩
    · exact ⟨digits, "0X".toList, by simp [marks], _, rfl, paired, spelled⟩
    · exact ⟨digits, [], by simp [marks], _, rfl, paired, spelled⟩
  · rintro ⟨digits, mark, member, body, rfl, paired, spelled⟩
    simp only [marks, List.mem_cons, List.not_mem_nil, or_false] at member
    rcases member with rfl | rfl | rfl
    · exact ⟨digits, (paired.dropMark spelled).symm ▸ paired, spelled⟩
    · exact ⟨digits, paired, spelled⟩
    · exact ⟨digits, paired, spelled⟩

theorem Writes.encode (written : Writes text digits bytes)
    : Hex.encode bytes = digits.map Char.toLower := by
  obtain ⟨_, _, _, _, _, spelled⟩ := written
  exact encode_of_spells spelled

end VerifierBootstrap.Hex
