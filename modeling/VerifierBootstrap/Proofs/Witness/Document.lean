import VerifierBootstrap.Proofs.Bytes.Words
import VerifierBootstrap.Proofs.Except
import VerifierBootstrap.Proofs.Json.Printing
import VerifierBootstrap.Proofs.Text.Utf8
import VerifierBootstrap.Witness.Exchange

/-!
The document of a seal holds the seal. It is a JSON text, its words are printed in decimal, and
written as four bytes each they are the seal.
-/

namespace VerifierBootstrap

/-- A decimal digit is printed as it is. -/
theorem Json.isPrintable_of_isDigit {char : Char} (digit : char.isDigit = true)
    : Json.IsPrintable char := by
  obtain ⟨above, below⟩ : 0x30 ≤ char.toNat ∧ char.toNat ≤ 0x39 := Char.isDigit_iff_toNat.mp digit
  have apart {other : Char} (outside : other.toNat < 0x30 ∨ 0x39 < other.toNat) : char ≠ other := by
    rintro rfl
    omega
  exact ⟨⟨apart (by decide), apart (by decide), by omega⟩, by omega⟩

/-- A numeral is printed as it is. -/
theorem Text.isPrintable_ofNat (value : Nat) : ∀ char ∈ Text.ofNat value, Json.IsPrintable char :=
  fun _ member =>
    Json.isPrintable_of_isDigit (Nat.isDigit_of_mem_toDigits (by decide) (by decide) member)

namespace Witness

/-- Bytes are a document of a seal: a JSON object with the words of the seal under its one key, in
decimal.
-/
def IsDocument (sealBytes content : Bytes) : Prop :=
  ∃ (text : Text) (words : List Nat),
    Utf8.decode content = .ok text
    ∧ Json.parse text
      = .ok (Json.ofFields
        [("iop", .array (words.map fun word => Json.ofText (Text.ofNat word)))])
    ∧ (∀ word ∈ words, word < 2 ^ 32)
    ∧ words.flatMap (Words.encode 4) = sealBytes

/-- A seal of whole words has a document. -/
theorem exists_documentBytes {sealBytes : Bytes} (whole : sealBytes.length % 4 = 0)
    : ∃ content, documentBytes sealBytes = .ok content := by
  rw [documentBytes, document, if_neg (Decidable.not_not.mpr whole)]
  exact ⟨_, rfl⟩

/-- What is written for a seal is a document of it. -/
theorem isDocument_documentBytes {sealBytes content : Bytes}
    (made : documentBytes sealBytes = .ok content)
    : IsDocument sealBytes content := by
  obtain ⟨value, built, rfl⟩ := ok_of_map made
  rw [document] at built
  split at built
  · exact nomatch built
  · rename_i whole
    obtain rfl := Except.ok.inj built
    refine ⟨_, Words.split32 sealBytes, Utf8.decode_encode _, ?_, Words.lt_of_mem_split32 sealBytes,
      Words.flatMap_encode_split32 (Decidable.not_not.mp whole)⟩
    have numerals
        : (wordStrings sealBytes).map Json.ofText
          = (Words.split32 sealBytes).map fun word => Json.ofText (Text.ofNat word) :=
      List.map_map
    rw [numerals]
    have items
        : ∀ item ∈ (Words.split32 sealBytes).map fun word => Json.ofText (Text.ofNat word),
            Json.Printed 0 item := by
      intro item member
      obtain ⟨word, _, rfl⟩ := List.mem_map.mp member
      exact Json.printed_ofText (Text.isPrintable_ofNat word)
    refine Json.parse_print (Json.printed_field ?_ (Json.printed_array items))
    have letters : "iop".toList.all (decide <| Json.IsPrintable ·) = true := by decide
    exact fun char member => of_decide_eq_true (List.all_eq_true.mp letters char member)

end Witness

end VerifierBootstrap
