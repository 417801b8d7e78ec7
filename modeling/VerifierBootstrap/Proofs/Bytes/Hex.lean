import VerifierBootstrap.Bytes.Hex

/-!
Hexadecimal numerals as a grammar. A digit of a value is at the place of the value in one of two
rows, and bytes are spelled by two digits each. Exactly what is spelled so is read, and a numeral
may have one of two marks in front, since no mark begins a numeral.
-/

namespace VerifierBootstrap.Hex

/-- The digits in lowercase, each at the place of its value. -/
def lowercase : Text := "0123456789abcdef".toList

/-- The digits in uppercase, each at the place of its value. -/
def uppercase : Text := "0123456789ABCDEF".toList

/-- A character is a digit of a value, in either case. -/
def IsDigitOf (char : Char) (value : Nat) : Prop :=
  lowercase[value]? = some char ∨ uppercase[value]? = some char

/-- Digits spell bytes, two digits a byte, the high half first. -/
inductive Spells : Text → Bytes → Prop where
  | nil : Spells [] []
  | cons {high low : Char} {upper lower : Nat} {digits : Text} {bytes : Bytes}
    (first : IsDigitOf high upper) (second : IsDigitOf low lower) (rest : Spells digits bytes)
    : Spells (high :: low :: digits) (UInt8.ofNat (16 * upper + lower) :: bytes)

/-- What may stand in front of digits: nothing, or a mark in either case. -/
def marks : List Text := ["".toList, "0x".toList, "0X".toList]

-----------------------------------------------------------------------------------------
-- Digits
-----------------------------------------------------------------------------------------

/-- A character of a row has the value of its place. -/
theorem value?_of_isDigitOf {char : Char} {value : Nat} (digit : IsDigitOf char value)
    : value? char = some value := by
  have row (place : Nat) (inside : place < 16)
      : lowercase[place]?.bind value? = some place
        ∧ uppercase[place]?.bind value? = some place := by
    revert place
    decide
  rcases digit with found | found
  · have inside : value < 16 := (List.getElem?_eq_some_iff.mp found).1
    have known := (row value inside).1
    rwa [found] at known
  · have inside : value < 16 := (List.getElem?_eq_some_iff.mp found).1
    have known := (row value inside).2
    rwa [found] at known

/-- A character with a value is the one at its place in a row. -/
theorem isDigitOf_of_value? {char : Char} {value : Nat} (found : value? char = some value)
    : IsDigitOf char value := by
  have decimal : ∀ offset < 10, lowercase[offset]? = some (Char.ofNat (0x30 + offset)) := by decide
  have upper : ∀ offset < 6, uppercase[10 + offset]? = some (Char.ofNat (0x41 + offset)) := by
    decide
  have lower : ∀ offset < 6, lowercase[10 + offset]? = some (Char.ofNat (0x61 + offset)) := by
    decide
  have char_eq (base offset : Nat) (same : char.toNat = base + offset)
      : Char.ofNat (base + offset) = char := by
    rw [← same, Char.ofNat_toNat]
  simp only [value?] at found
  split at found
  · rename_i inside
    obtain rfl := Option.some.inj found
    have known := decimal (char.toNat - 0x30) (by omega)
    rw [char_eq 0x30 _ (by omega)] at known
    exact .inl known
  · split at found
    · rename_i inside
      obtain rfl := Option.some.inj found
      have known := upper (char.toNat - 0x41) (by omega)
      rw [char_eq 0x41 _ (by omega), show 10 + (char.toNat - 0x41) = char.toNat - 0x37 by omega]
        at known
      exact .inr known
    · split at found
      · rename_i inside
        obtain rfl := Option.some.inj found
        have known := lower (char.toNat - 0x61) (by omega)
        rw [char_eq 0x61 _ (by omega), show 10 + (char.toNat - 0x61) = char.toNat - 0x57 by omega]
          at known
        exact .inl known
      · exact nomatch found

theorem value?_eq_some_iff {char : Char} {value : Nat}
    : value? char = some value ↔ IsDigitOf char value :=
  ⟨isDigitOf_of_value?, value?_of_isDigitOf⟩

theorem isDigitOf_digit {value : Nat} (small : value < 16) : IsDigitOf (digit value) value := by
  have row (place : Nat) (inside : place < 16) : lowercase[place]? = some (digit place) := by
    revert place
    decide
  exact .inl (row value small)

-----------------------------------------------------------------------------------------
-- Numerals
-----------------------------------------------------------------------------------------

/-- What is read is spelled so. By recursion of the reader. -/
theorem spells_of_decode? {text : Text} {bytes : Bytes} (read : decode? text = some bytes)
    : Spells text bytes := by
  fun_induction decode? text generalizing bytes with
  | case1 =>
      obtain rfl := Option.some.inj read
      exact .nil
  | case2 => exact nomatch read
  | case3 high low rest upper lower more atRest atLow atHigh ih =>
      obtain rfl := Option.some.inj read
      exact .cons (value?_eq_some_iff.mp atHigh) (value?_eq_some_iff.mp atLow) (ih atRest)
  | case4 => exact nomatch read

/-- What is spelled is read. By induction on the spelling. -/
theorem decode?_of_spells {text : Text} {bytes : Bytes} (spelled : Spells text bytes)
    : decode? text = some bytes := by
  induction spelled with
  | nil => rfl
  | cons first second rest ih =>
      simp only [decode?, value?_eq_some_iff.mpr first, value?_eq_some_iff.mpr second, ih]
      rfl

/-- What is written for bytes spells them. By induction on the bytes. -/
theorem spells_encode (bytes : Bytes) : Spells (encode bytes) bytes := by
  induction bytes with
  | nil => exact .nil
  | cons byte bytes ih =>
      have small := UInt8.toNat_lt byte
      have spelled : Spells (encode (byte :: bytes)) (_ :: bytes) :=
        .cons (isDigitOf_digit (show byte.toNat / 16 < 16 by omega))
          (isDigitOf_digit (show byte.toNat % 16 < 16 by omega)) ih
      rwa [Nat.div_add_mod, UInt8.ofNat_toNat] at spelled

/-- No mark begins digits, since the second character of a mark is no digit. -/
theorem dropMark_of_spells {text : Text} {bytes : Bytes} (spelled : Spells text bytes)
    : dropMark text = text := by
  cases spelled with
  | nil => rfl
  | @cons high low _ _ _ _ first second rest =>
      have known := value?_eq_some_iff.mpr second
      have apart : low ≠ 'x' ∧ low ≠ 'X' := by
        constructor
        · rintro rfl
          exact nomatch known
        · rintro rfl
          exact nomatch known
      rw [dropMark]
      · intro _ same
        exact apart.1 (List.cons.inj (List.cons.inj same).2).1
      · intro _ same
        exact apart.2 (List.cons.inj (List.cons.inj same).2).1

/-- What is read behind a mark, if there is one, are digits behind one of the marks. -/
theorem decode?_dropMark_eq_some_iff {text : Text} {bytes : Bytes}
    : decode? (dropMark text) = some bytes
      ↔ ∃ mark ∈ marks, ∃ digits, text = mark ++ digits ∧ Spells digits bytes := by
  constructor
  · intro read
    have spelled := spells_of_decode? read
    unfold dropMark at spelled
    split at spelled
    · exact ⟨"0x".toList, by simp [marks], _, rfl, spelled⟩
    · exact ⟨"0X".toList, by simp [marks], _, rfl, spelled⟩
    · exact ⟨[], by simp [marks], _, rfl, spelled⟩
  · rintro ⟨mark, member, digits, rfl, spelled⟩
    have read := decode?_of_spells spelled
    simp only [marks, List.mem_cons, List.not_mem_nil, or_false] at member
    rcases member with rfl | rfl | rfl
    · exact (congrArg decode? (dropMark_of_spells spelled)).trans read
    · exact read
    · exact read

end VerifierBootstrap.Hex
