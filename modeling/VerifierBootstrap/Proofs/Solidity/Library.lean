import VerifierBootstrap.Proofs.Bytes.Hex
import VerifierBootstrap.Solidity.Library

/-!
The text of a test vector library. Each constant has a line of its own, with digits that are read
as its bytes. Digits are ended by the first character that is none, so a text is that of no two
test vectors.
-/

namespace VerifierBootstrap

namespace Hex

/-- A character that is no digit is in no numeral. -/
theorem Spells.not_mem {text : Text} {bytes : Bytes} {char : Char} (spelled : Spells text bytes)
    (noDigit : value? char = none)
    : char ∉ text := by
  have differs {digit : Char} {value : Nat} (isDigit : IsDigitOf digit value) : char ≠ digit := by
    rintro rfl
    exact nomatch noDigit.symm.trans (value?_of_isDigitOf isDigit)
  induction spelled with
  | nil => exact List.not_mem_nil
  | cons first second rest ih => simp [differs first, differs second, ih]

/-- A numeral ends where a character comes that is no digit. -/
theorem Spells.append_inj {left right rest more : Text} {bytes other : Bytes} {mark : Char}
    (noDigit : value? mark = none) (spelled : Spells left bytes) (again : Spells right other)
    (same : left ++ mark :: rest = right ++ mark :: more)
    : left = right ∧ rest = more := by
  rcases List.append_eq_append_iff.mp same with ⟨between, rfl, behind⟩ | ⟨between, rfl, behind⟩
  · cases between with
    | nil => simpa [eq_comm] using behind
    | cons char between =>
        obtain rfl := (List.cons.inj behind).1
        exact absurd (by simp) (again.not_mem noDigit)
  · cases between with
    | nil => simpa [eq_comm] using behind
    | cons char between =>
        obtain rfl := (List.cons.inj behind).1
        exact absurd (by simp) (spelled.not_mem noDigit)

end Hex

namespace Solidity

open Hex

/-- A line of a library with a constant on it: what comes before the digits, digits that are read
as bytes, and what comes behind them.
-/
def IsLine (opening closing : String) (bytes : Bytes) (line : Text) : Prop :=
  ∃ digits,
    line = "    ".toList ++ opening.toList ++ digits ++ closing.toList ++ ['\n']
    ∧ '\n' ∉ digits
    ∧ Hex.decode? digits = some bytes

/-- The text of a library of four constants, in this order, each on a line of its own. -/
def IsTestReceipt (sealBytes postDigest journal imageId : Bytes) (text : Text) : Prop :=
  ∃ first second third fourth,
    text
      = header ++ "pragma solidity ^0.8.13;\n\nlibrary TestReceipt \x7b\n".toList
          ++ first ++ second ++ third ++ fourth ++ "\x7d\n".toList
    ∧ IsLine "bytes public constant SEAL = hex\"" "\";" sealBytes first
    ∧ IsLine "bytes32 public constant POST_DIGEST = bytes32(0x" ");" postDigest second
    ∧ IsLine "bytes public constant JOURNAL = hex\"" "\";" journal third
    ∧ IsLine "bytes32 public constant IMAGE_ID = bytes32(0x" ");" imageId fourth

-----------------------------------------------------------------------------------------
-- Lines
-----------------------------------------------------------------------------------------

theorem isLine_encode (opening closing : String) (bytes : Bytes)
    : IsLine opening closing bytes
        (constantLine (opening.toList ++ Hex.encode bytes ++ closing.toList)) := by
  have spelled := spells_encode bytes
  refine ⟨Hex.encode bytes, ?_, spelled.not_mem (by decide), decode?_of_spells spelled⟩
  simp [constantLine]

theorem isLine_bytesConstant {opening : String} (name : String)
    (named : opening = "bytes public constant " ++ name ++ " = hex\"") (bytes : Bytes)
    : IsLine opening "\";" bytes (constantLine (bytesConstant name bytes)) := by
  have isLine := isLine_encode opening "\";" bytes
  rw [named, String.toList_append, String.toList_append] at isLine
  rw [named]
  exact isLine

theorem isLine_digestConstant {opening : String} (name : String)
    (named : opening = "bytes32 public constant " ++ name ++ " = bytes32(0x") (digest : Digest)
    : IsLine opening ");" digest.bytes (constantLine (digestConstant name digest)) := by
  have isLine := isLine_encode opening ");" digest.bytes
  rw [named, String.toList_append, String.toList_append] at isLine
  rw [named]
  exact isLine

/-- Lines of one form that begin two equal texts have the same bytes, if the form goes on behind the
digits with a character that is no digit.
-/
theorem IsLine.append_inj {opening closing : String} {bytes other : Bytes}
    {line another rest more : Text} {mark : Char} {tail : Text}
    (isLine : IsLine opening closing bytes line) (again : IsLine opening closing other another)
    (behind : closing.toList = mark :: tail) (noDigit : value? mark = none)
    (same : line ++ rest = another ++ more)
    : bytes = other ∧ rest = more := by
  obtain ⟨digits, rfl, _, read⟩ := isLine
  obtain ⟨others, rfl, _, reread⟩ := again
  simp only [behind, List.append_assoc, List.append_cancel_left_eq, List.cons_append] at same
  obtain ⟨rfl, same⟩ :=
    Spells.append_inj noDigit (spells_of_decode? read) (spells_of_decode? reread) same
  exact ⟨Option.some.inj (read.symm.trans reread), by simpa using same⟩

-----------------------------------------------------------------------------------------
-- Libraries
-----------------------------------------------------------------------------------------

/-- The library of a test vector has its four values. -/
theorem isTestReceipt_render (vector : TestVector)
    : IsTestReceipt vector.sealBytes vector.postDigest.bytes vector.journal vector.imageId.bytes
        vector.library.render := by
  refine ⟨_, _, _, _, ?_, isLine_bytesConstant "SEAL" (by rfl) _,
    isLine_digestConstant "POST_DIGEST" (by rfl) _,
    isLine_bytesConstant "JOURNAL" (by rfl) _,
    isLine_digestConstant "IMAGE_ID" (by rfl) _⟩
  have opening
      : "pragma solidity ".toList ++ "^0.8.13".toList ++ ";\n\n".toList ++ "library ".toList
            ++ "TestReceipt".toList ++ " \x7b\n".toList
        = "pragma solidity ^0.8.13;\n\nlibrary TestReceipt \x7b\n".toList := by
    rfl
  unfold Library.render TestVector.library
  dsimp only
  simp only [← opening, TestVector.constants, List.flatMap_cons, List.flatMap_nil,
    List.append_assoc, List.append_nil]

/-- A text has the values of one test vector at most. Witness: each line ends its digits. -/
theorem IsTestReceipt.unique {text : Text} {sealBytes postDigest journal imageId : Bytes}
    {otherSeal otherDigest otherJournal otherImage : Bytes}
    (isTestReceipt : IsTestReceipt sealBytes postDigest journal imageId text)
    (again : IsTestReceipt otherSeal otherDigest otherJournal otherImage text)
    : sealBytes = otherSeal
      ∧ postDigest = otherDigest
      ∧ journal = otherJournal
      ∧ imageId = otherImage := by
  obtain ⟨_, _, _, _, rfl, first, second, third, fourth⟩ := isTestReceipt
  obtain ⟨_, _, _, _, same, first', second', third', fourth'⟩ := again
  simp only [List.append_assoc, List.append_cancel_left_eq] at same
  obtain ⟨rfl, same⟩ := first.append_inj first' rfl (by decide) same
  obtain ⟨rfl, same⟩ := second.append_inj second' rfl (by decide) same
  obtain ⟨rfl, same⟩ := third.append_inj third' rfl (by decide) same
  obtain ⟨rfl, _⟩ := fourth.append_inj fourth' rfl (by decide) same
  exact ⟨rfl, rfl, rfl, rfl⟩

end Solidity

end VerifierBootstrap
