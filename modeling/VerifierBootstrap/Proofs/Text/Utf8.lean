import VerifierBootstrap.Text.Utf8

/-!
Bytes that are read as a text are the bytes that the text is written with, and every text is read
from its bytes. So a position in a text is a position in its bytes, and what a text does not hold
its bytes do not hold.
-/

namespace VerifierBootstrap.Utf8

-----------------------------------------------------------------------------------------
-- One character
-----------------------------------------------------------------------------------------

/-- A code point goes on with a byte of its range, and after it with any continuation. -/
theorem continuePoint_succ {point sound low high count result : Nat} {rest : Bytes}
    (read : continuePoint point sound low high (count + 1) rest = .ok result)
    : ∃ byte more,
        rest = byte :: more
        ∧ low ≤ byte.toNat
        ∧ byte.toNat ≤ high
        ∧ continuePoint (point * 64 + (byte.toNat - 0x80)) (sound + 1) 0x80 0xBF count more
          = .ok result := by
  cases rest with
  | nil => exact nomatch read
  | cons byte more =>
      rw [continuePoint] at read
      split at read
      · rename_i inside
        exact ⟨byte, more, rfl, inside.1, inside.2, read⟩
      · exact nomatch read

theorem eq_ofNat (byte : UInt8) {value : Nat} (same : value = byte.toNat)
    : UInt8.ofNat value = byte := by
  rw [same, UInt8.ofNat_toNat]

/-- How a code point is written, if it is one of a character. -/
theorem utf8EncodeChar_ofNat {point : Nat} (valid : point.isValidChar)
    : String.utf8EncodeChar (Char.ofNat point)
      = if point ≤ 0x7f then [UInt8.ofNat point]
        else if point ≤ 0x7ff then
          [UInt8.ofNat (point / 64 % 32 + 0xc0), UInt8.ofNat (point % 64 + 0x80)]
        else if point ≤ 0xffff then
          [UInt8.ofNat (point / 4096 % 16 + 0xe0), UInt8.ofNat (point / 64 % 64 + 0x80),
            UInt8.ofNat (point % 64 + 0x80)]
        else
          [UInt8.ofNat (point / 262144 % 8 + 0xf0), UInt8.ofNat (point / 4096 % 64 + 0x80),
            UInt8.ofNat (point / 64 % 64 + 0x80), UInt8.ofNat (point % 64 + 0x80)] := by
  have value : (Char.ofNat point).val.toNat = point := by
    rw [Char.ofNat, dif_pos valid]
    rfl
  rw [String.utf8EncodeChar, value]

/-- What a leading byte announces: no byte more, one, two or three, with the range of the next one
narrowed where the character would be too short or none.
-/
theorem Lead.ofByte?_cases {byte : UInt8} {lead : Lead} (found : ofByte? byte = some lead)
    : (byte.toNat < 0x80 ∧ lead.following = 0 ∧ lead.payload = byte.toNat)
      ∨ (0xC2 ≤ byte.toNat ∧ byte.toNat < 0xE0
          ∧ lead.following = 1 ∧ lead.payload = byte.toNat - 0xC0
          ∧ 0x80 ≤ lead.low ∧ lead.high ≤ 0xBF)
      ∨ (0xE0 ≤ byte.toNat ∧ byte.toNat < 0xF0
          ∧ lead.following = 2 ∧ lead.payload = byte.toNat - 0xE0
          ∧ 0x80 ≤ lead.low ∧ lead.high ≤ 0xBF
          ∧ (byte.toNat ≠ 0xE0 ∨ 0xA0 ≤ lead.low)
          ∧ (byte.toNat ≠ 0xED ∨ lead.high ≤ 0x9F))
      ∨ (0xF0 ≤ byte.toNat ∧ byte.toNat ≤ 0xF4
          ∧ lead.following = 3 ∧ lead.payload = byte.toNat - 0xF0
          ∧ 0x80 ≤ lead.low ∧ lead.high ≤ 0xBF
          ∧ (byte.toNat ≠ 0xF0 ∨ 0x90 ≤ lead.low)
          ∧ (byte.toNat ≠ 0xF4 ∨ lead.high ≤ 0x8F)) := by
  simp only [ofByte?] at found
  generalize byte.toNat = value at found ⊢
  repeat' split at found
  all_goals cases found
  all_goals dsimp only
  all_goals omega

/-- A character that is read is written with the bytes that were read. By cases of the number of
bytes that the first announces.
-/
theorem utf8EncodeChar_first {byte : UInt8} {rest : Bytes} {char : Char} {taken : Nat}
    (read : first byte rest = .ok (char, taken))
    : String.utf8EncodeChar char = byte :: rest.take taken := by
  rw [first] at read
  cases announced : Lead.ofByte? byte with
  | none => simp [announced] at read
  | some lead =>
      simp only [announced] at read
      cases point : continuePoint lead.payload 0 lead.low lead.high lead.following rest with
      | error fault => simp [point] at read
      | ok value =>
          simp only [point] at read
          obtain ⟨rfl, rfl⟩ := Prod.mk.inj (Except.ok.inj read)
          rcases Lead.ofByte?_cases announced with
            ⟨low, following, payload⟩ | ⟨low, high, following, payload, floor, ceiling⟩
            | ⟨low, high, following, payload, floor, ceiling, short, surrogate⟩
            | ⟨low, high, following, payload, floor, ceiling, short, beyond⟩
          · rw [following, payload, continuePoint] at point
            obtain rfl := Except.ok.inj point
            rw [utf8EncodeChar_ofNat (Or.inl (by omega)), if_pos (by omega), following,
              eq_ofNat byte rfl]
            rfl
          · rw [following] at point ⊢
            obtain ⟨second, more, rfl, from2, to2, point⟩ := continuePoint_succ point
            rw [continuePoint] at point
            obtain rfl := Except.ok.inj point
            rw [payload, utf8EncodeChar_ofNat (Or.inl (by omega)), if_neg (by omega),
              if_pos (by omega), eq_ofNat byte (by omega), eq_ofNat second (by omega)]
            rfl
          · rw [following] at point ⊢
            obtain ⟨second, more, rfl, from2, to2, point⟩ := continuePoint_succ point
            obtain ⟨third, more, rfl, from3, to3, point⟩ := continuePoint_succ point
            rw [continuePoint] at point
            obtain rfl := Except.ok.inj point
            rw [payload, utf8EncodeChar_ofNat (by rw [Nat.isValidChar]; omega), if_neg (by omega),
              if_neg (by omega), if_pos (by omega), eq_ofNat byte (by omega),
              eq_ofNat second (by omega), eq_ofNat third (by omega)]
            rfl
          · rw [following] at point ⊢
            obtain ⟨second, more, rfl, from2, to2, point⟩ := continuePoint_succ point
            obtain ⟨third, more, rfl, from3, to3, point⟩ := continuePoint_succ point
            obtain ⟨fourth, more, rfl, from4, to4, point⟩ := continuePoint_succ point
            rw [continuePoint] at point
            obtain rfl := Except.ok.inj point
            rw [payload, utf8EncodeChar_ofNat (by rw [Nat.isValidChar]; omega), if_neg (by omega),
              if_neg (by omega), if_neg (by omega), eq_ofNat byte (by omega),
              eq_ofNat second (by omega), eq_ofNat third (by omega),
              eq_ofNat fourth (by omega)]
            rfl

-----------------------------------------------------------------------------------------
-- One character that is written
-----------------------------------------------------------------------------------------

/-- A byte announces what it is written for, and the byte behind it is in the range. -/
theorem Lead.exists_ofByte? {value second : Nat} (small : value < 0x100)
    (continues : 0x80 ≤ second ∧ second ≤ 0xBF)
    : (0xC2 ≤ value → value < 0xE0
        → ∃ lead,
            ofByte? (UInt8.ofNat value) = some lead
            ∧ lead.following = 1 ∧ lead.payload = value - 0xC0
            ∧ lead.low ≤ second ∧ second ≤ lead.high)
      ∧ (0xE0 ≤ value → value < 0xF0
          → (value = 0xE0 → 0xA0 ≤ second) → (value = 0xED → second ≤ 0x9F)
          → ∃ lead,
              ofByte? (UInt8.ofNat value) = some lead
              ∧ lead.following = 2 ∧ lead.payload = value - 0xE0
              ∧ lead.low ≤ second ∧ second ≤ lead.high)
      ∧ (0xF0 ≤ value → value ≤ 0xF4
          → (value = 0xF0 → 0x90 ≤ second) → (value = 0xF4 → second ≤ 0x8F)
          → ∃ lead,
              ofByte? (UInt8.ofNat value) = some lead
              ∧ lead.following = 3 ∧ lead.payload = value - 0xF0
              ∧ lead.low ≤ second ∧ second ≤ lead.high) := by
  simp only [ofByte?, UInt8.toNat_ofNat', Nat.mod_eq_of_lt small]
  refine ⟨?_, ?_, ?_⟩
  all_goals
    intros
    repeat' split
  all_goals first
    | omega
    | refine ⟨_, rfl, rfl, ?_, ?_, ?_⟩
      all_goals dsimp only
      all_goals omega

theorem first_of_lead {byte : UInt8} {lead : Lead} {rest : Bytes} {share count point : Nat}
    (announced : Lead.ofByte? byte = some lead) (following : lead.following = count)
    (payload : lead.payload = share)
    (read : continuePoint share 0 lead.low lead.high count rest = .ok point)
    : first byte rest = .ok (Char.ofNat point, count) := by
  rw [first, announced]
  simp only [following, payload, read]

theorem continuePoint_cons {point sound low high count value : Nat} (rest : Bytes)
    (above : low ≤ value) (below : value ≤ high) (small : value < 0x100)
    : continuePoint point sound low high (count + 1) (UInt8.ofNat value :: rest)
      = continuePoint (point * 64 + (value - 0x80)) (sound + 1) 0x80 0xBF count rest := by
  rw [continuePoint, UInt8.toNat_ofNat', Nat.mod_eq_of_lt small, if_pos ⟨above, below⟩]

/-- A character that is written is read, and nothing behind it. By cases of the number of bytes. -/
theorem first_utf8EncodeChar (char : Char) (rest : Bytes)
    : ∃ byte more,
        String.utf8EncodeChar char = byte :: more
        ∧ first byte (more ++ rest) = .ok (char, more.length) := by
  obtain ⟨point, valid, rfl⟩ : ∃ point : Nat, point.isValidChar ∧ Char.ofNat point = char :=
    ⟨char.toNat, char.valid, Char.ofNat_toNat char⟩
  rw [utf8EncodeChar_ofNat valid]
  simp only [Nat.isValidChar] at valid
  split
  · refine ⟨_, _, rfl, ?_⟩
    have announced : Lead.ofByte? (UInt8.ofNat point) = some ⟨0, point, 0x80, 0xBF⟩ := by
      rw [Lead.ofByte?, UInt8.toNat_ofNat', Nat.mod_eq_of_lt (by omega), if_pos (by omega)]
    exact first_of_lead announced rfl rfl rfl
  · split
    · refine ⟨_, _, rfl, ?_⟩
      obtain ⟨lead, announced, following, payload, above, below⟩ :=
        (Lead.exists_ofByte? (show point / 64 % 32 + 0xC0 < 0x100 by omega)
          (show 0x80 ≤ point % 64 + 0x80 ∧ point % 64 + 0x80 ≤ 0xBF by omega)).1
          (by omega) (by omega)
      refine first_of_lead announced following payload ?_
      have same : (point / 64 % 32 + 0xC0 - 0xC0) * 64 + (point % 64 + 0x80 - 0x80) = point := by
        omega
      rw [List.length_singleton, List.singleton_append,
        continuePoint_cons rest above below (by omega), continuePoint, same]
    · split
      · refine ⟨_, _, rfl, ?_⟩
        obtain ⟨lead, announced, following, payload, above, below⟩ :=
          (Lead.exists_ofByte? (show point / 4096 % 16 + 0xE0 < 0x100 by omega)
            (show 0x80 ≤ point / 64 % 64 + 0x80 ∧ point / 64 % 64 + 0x80 ≤ 0xBF by omega)).2.1
            (by omega) (by omega) (by omega) (by omega)
        refine first_of_lead announced following payload ?_
        have same
            : ((point / 4096 % 16 + 0xE0 - 0xE0) * 64 + (point / 64 % 64 + 0x80 - 0x80)) * 64
                + (point % 64 + 0x80 - 0x80)
              = point := by
          omega
        rw [List.length_cons, List.length_singleton, List.cons_append,
          continuePoint_cons _ above below (by omega), List.singleton_append,
          continuePoint_cons rest (by omega) (by omega) (by omega), continuePoint, same]
      · refine ⟨_, _, rfl, ?_⟩
        obtain ⟨lead, announced, following, payload, above, below⟩ :=
          (Lead.exists_ofByte? (show point / 262144 % 8 + 0xF0 < 0x100 by omega)
            (show 0x80 ≤ point / 4096 % 64 + 0x80 ∧ point / 4096 % 64 + 0x80 ≤ 0xBF by omega)).2.2
            (by omega) (by omega) (by omega) (by omega)
        refine first_of_lead announced following payload ?_
        have same
            : (((point / 262144 % 8 + 0xF0 - 0xF0) * 64 + (point / 4096 % 64 + 0x80 - 0x80)) * 64
                + (point / 64 % 64 + 0x80 - 0x80)) * 64 + (point % 64 + 0x80 - 0x80)
              = point := by
          omega
        rw [List.length_cons, List.length_cons, List.length_singleton, List.cons_append,
          continuePoint_cons _ above below (by omega), List.cons_append,
          continuePoint_cons _ (by omega) (by omega) (by omega), List.singleton_append,
          continuePoint_cons rest (by omega) (by omega) (by omega), continuePoint, same]

-----------------------------------------------------------------------------------------
-- Whole texts
-----------------------------------------------------------------------------------------

@[simp] theorem encode_nil : encode [] = [] := rfl

theorem encode_cons (char : Char) (text : Text)
    : encode (char :: text) = String.utf8EncodeChar char ++ encode text :=
  List.flatMap_cons

@[simp] theorem encode_append (left right : Text)
    : encode (left ++ right) = encode left ++ encode right :=
  List.flatMap_append

theorem take_encode (text : Text) (count : Nat)
    : (encode text).take (encode (text.take count)).length = encode (text.take count) := by
  have split := encode_append (text.take count) (text.drop count)
  rw [List.take_append_drop] at split
  rw [split, List.take_left]

theorem drop_encode (text : Text) (count : Nat)
    : (encode text).drop (encode (text.take count)).length = encode (text.drop count) := by
  have split := encode_append (text.take count) (text.drop count)
  rw [List.take_append_drop] at split
  rw [split, List.drop_left]

/-- What is read from bytes is written with those bytes. By induction on the bytes that are
left.
-/
theorem encode_of_decodeFrom {position : Nat} {bytes : Bytes} {text : Text}
    (read : decodeFrom position bytes = .ok text)
    : encode text = bytes := by
  fun_induction decodeFrom position bytes generalizing text with
  | case1 => 
      obtain rfl := Except.ok.inj read
      rfl
  | case2 => exact nomatch read
  | case3 position byte rest char taken found more later ih =>
      obtain rfl := Except.ok.inj read
      rw [encode_cons, utf8EncodeChar_first found, ih later, List.cons_append,
        List.take_append_drop]
  | case4 => exact nomatch read

theorem encode_of_decode {bytes : Bytes} {text : Text} (read : decode bytes = .ok text)
    : encode text = bytes :=
  encode_of_decodeFrom read

/-- A text that is written is read. By induction on the text. -/
theorem decodeFrom_encode (position : Nat) (text : Text)
    : decodeFrom position (encode text) = .ok text := by
  induction text generalizing position with
  | nil => rw [encode_nil, decodeFrom]
  | cons char text ih =>
      obtain ⟨byte, more, written, read⟩ := first_utf8EncodeChar char (encode text)
      rw [encode_cons, written, List.cons_append, decodeFrom, read]
      simp only [List.drop_left, ih]

theorem decode_encode (text : Text) : decode (encode text) = .ok text :=
  decodeFrom_encode 0 text

theorem encode_inj {text other : Text} (same : encode text = encode other) : text = other := by
  have decoded := decode_encode text
  rw [same, decode_encode] at decoded
  exact (Except.ok.inj decoded).symm

/-- A byte below the continuations stands for a character by itself. -/
theorem mem_utf8EncodeChar {char : Char} {byte : UInt8} (ascii : byte.toNat < 0x80)
    : byte ∈ String.utf8EncodeChar char ↔ char.toNat = byte.toNat := by
  rw [String.utf8EncodeChar, Char.toNat]
  generalize char.val.toNat = point
  repeat' split
  all_goals
    simp only [List.mem_cons, List.not_mem_nil, or_false, ← UInt8.toNat_inj, UInt8.toNat_ofNat']
    omega

theorem mem_encode {text : Text} (char : Char) (ascii : char.toNat < 0x80)
    : UInt8.ofNat char.toNat ∈ encode text ↔ char ∈ text := by
  have size : (UInt8.ofNat char.toNat).toNat = char.toNat := by
    rw [UInt8.toNat_ofNat']
    omega
  rw [encode, List.mem_flatMap]
  constructor
  · rintro ⟨other, member, inside⟩
    rw [mem_utf8EncodeChar (by omega), size] at inside
    exact Char.toNat_inj.mp inside ▸ member
  · intro member
    exact ⟨char, member, (mem_utf8EncodeChar (by omega)).mpr size.symm⟩

end VerifierBootstrap.Utf8

namespace VerifierBootstrap.Text

-----------------------------------------------------------------------------------------
-- Ends of lines
-----------------------------------------------------------------------------------------

/-- A text without carriage returns has its lines ended by line feeds already. -/
theorem unifyLines_of_not_mem {text : Text} (absent : '\r' ∉ text)
    : unifyLines text = text := by
  fun_induction unifyLines text with
  | case1 => rfl
  | case2 rest ih => exact absurd List.mem_cons_self absent
  | case3 rest _ ih => exact absurd List.mem_cons_self absent
  | case4 char rest _ _ ih => rw [ih (List.not_mem_of_not_mem_cons absent)]

/-- No carriage return is left. -/
theorem not_mem_unifyLines (text : Text)
    : '\r' ∉ unifyLines text := by
  fun_induction unifyLines text with
  | case1 => exact List.not_mem_nil
  | case2 rest ih => simpa using ih
  | case3 rest _ ih => simpa using ih
  | case4 char rest _ other ih => simpa [ih] using fun same => other same.symm

end VerifierBootstrap.Text
