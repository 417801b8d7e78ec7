import VerifierBootstrap.Proofs.Source.ReverseDirection
import VerifierBootstrap.Proofs.Source.Revision

/-!
The values that a text can declare, and what a synchronization makes of them. A dialect declares
exactly what it can write. The digits of all scripts count, so not all of that is a plain decimal
number; where a source holds no digits but those of ASCII, all that is written is one.
-/

namespace VerifierBootstrap

/-- A plain decimal number: digits of ASCII, and at least one. -/
def Text.IsPlain (value : Text) : Prop :=
  value ≠ [] ∧ ∀ char ∈ value, Lexeme.isAsciiDigit char = true

/-- A digit that is none of ASCII: of another script, or one that forms no numerals. -/
def Text.isForeignDigit (char : Char) : Bool :=
  isDigit char && !Lexeme.isAsciiDigit char

-----------------------------------------------------------------------------------------
-- Values
-----------------------------------------------------------------------------------------

/-- A numeral is plain unless it has a digit that is none of ASCII. -/
theorem Text.isPlain_iff {value : Text} (numeral : isNumeral value = true)
    : value.IsPlain ↔ ∀ char ∈ value, isForeignDigit char = false := by
  obtain ⟨present, digits⟩ := isNumeral_iff.mp numeral
  constructor
  · intro plain char member
    simp [isForeignDigit, plain.2 char member]
  · intro domestic
    refine ⟨present, fun char member => ?_⟩
    simpa [isForeignDigit, digits char member] using domestic char member

/-- What goes on a number and is a digit is one of ASCII. -/
theorem Lexeme.isForeignDigit_of_continuesNumber {char : Char}
    (continues : continuesNumber char = true)
    : Text.isForeignDigit char = false := by
  cases begins : beginsName char with
  | true => rw [Text.isForeignDigit, isDigit_of_beginsName begins, Bool.false_and]
  | false =>
      simp only [beginsName, Bool.or_eq_false_iff] at begins
      have ascii : isAsciiDigit char = true := by simpa [continuesNumber, begins] using continues
      rw [Text.isForeignDigit, ascii, Bool.not_true, Bool.and_false]

/-- A numeral of Solidity is plain unless its first digit is none of ASCII. -/
theorem Writable.isPlain_iff {value : Text} (writable : Writable .solidity value)
    : value.IsPlain ↔ ∀ char ∈ value.head?, Text.isForeignDigit char = false := by
  obtain ⟨numeral, first, rest, rfl, _, continues⟩ := writable
  rw [Text.isPlain_iff numeral]
  constructor
  · intro domestic char head
    obtain rfl := Option.some.inj head
    exact domestic first List.mem_cons_self
  · intro domestic char member
    rcases List.mem_cons.mp member with rfl | later
    · exact domestic char rfl
    · exact Lexeme.isForeignDigit_of_continuesNumber (List.all_eq_true.mp continues char later)

/-- What is declared stands in the text. -/
theorem Declaration.subset_of_mem {dialect : Dialect} {text : Text} {declaration : Declaration}
    (member : declaration ∈ declarations dialect text)
    : declaration.value ⊆ text := by
  have slice := slice_of_mem member
  have within : VerifierBootstrap.renderLiteral dialect declaration.value ⊆ text := by
    rw [← slice]
    exact List.Subset.trans (List.drop_subset _ _) (List.take_subset _ _)
  intro char inside
  apply within
  cases dialect with
  | generic | solidity => exact inside
  | rust => simp [VerifierBootstrap.renderLiteral, inside]

theorem Declaration.writable_of_mem {dialect : Dialect} {text : Text} {declaration : Declaration}
    (member : declaration ∈ declarations dialect text)
    : Writable dialect declaration.value := by
  obtain ⟨_, _, placed⟩ := exists_placed member
  exact placed.writable

namespace Sync

/-- What can be written is declared by some text: a declaration over whose literal it is written. -/
theorem exists_declared {dialect : Dialect} {value : Text} (writable : Writable dialect value)
    : ∃ text, ∃ declaration ∈ declarations dialect text, declaration.value = value := by
  -- The value is written over the literal of a text that declares something, and read back
  have written {text : Text} {found : Declaration}
      (first : findDeclaration dialect text ['a'] = some found)
      : ∃ text, ∃ declaration ∈ declarations dialect text, declaration.value = value := by
    have held := declared_splice first writable ['a']
    rw [if_pos rfl, declared, Option.map_eq_some_iff] at held
    obtain ⟨declaration, there, same⟩ := held
    exact ⟨_, declaration, List.mem_of_find?_eq_some there, same⟩
  cases dialect with
  | generic => exact writable.elim
  | solidity =>
      have base : findDeclaration .solidity "uint256 constant a = 1;".toList ['a']
          = some ⟨['a'], ['1'], 21, 22⟩ := by
        decide +kernel
      exact written base
  | rust =>
      have base : findDeclaration .rust "const a: &str = \"1\";".toList ['a']
          = some ⟨['a'], ['1'], 16, 19⟩ := by
        decide +kernel
      exact written base

-----------------------------------------------------------------------------------------
-- What a synchronization writes
-----------------------------------------------------------------------------------------

/-- The text with one revision made. -/
def Revision.make (text : Text) (revision : Revision) : Text :=
  splice text revision.start revision.stop revision.inserted

/-- The literals that a synchronization writes, in order, each at its places in the text that the
ones before it leave.
-/
def writes (sides : Sides) (source target : Text) : List Pairing → List Revision
  | [] => []
  | pairing :: rest =>
      match findDeclaration sides.source source pairing.source,
          findDeclaration sides.target target pairing.target with
      | some given, some found =>
          let revision : Revision :=
            ⟨found.start, found.stop, renderLiteral sides.target given.value⟩
          revision :: writes sides source (revision.make target) rest
      | _, _ => writes sides source target rest

/-- A synchronization makes the revisions of its literals and no other change. By induction on the
pairings.
-/
theorem text_eq_foldl_writes (sides : Sides) (source target : Text) (pairings : List Pairing)
    : (synchronize sides source target pairings).text
      = (writes sides source target pairings).foldl Revision.make target := by
  induction pairings generalizing target with
  | nil => rfl
  | cons pairing rest ih =>
      simp only [synchronize, apply, writes]
      cases findDeclaration sides.source source pairing.source with
      | none => exact ih target
      | some given =>
          cases findDeclaration sides.target target pairing.target with
          | none => exact ih target
          | some found => exact ih _

/-- Every literal that is written is one of a value that the source declares. By induction on the
pairings.
-/
theorem exists_declaration_of_writes {sides : Sides} {source target : Text}
    {pairings : List Pairing} {revision : Revision}
    (member : revision ∈ writes sides source target pairings)
    : ∃ declaration ∈ declarations sides.source source,
        revision.inserted = renderLiteral sides.target declaration.value := by
  induction pairings generalizing target with
  | nil => cases member
  | cons pairing rest ih =>
      simp only [writes] at member
      cases taken : findDeclaration sides.source source pairing.source with
      | none =>
          rw [taken] at member
          exact ih member
      | some given =>
          rw [taken] at member
          cases present : findDeclaration sides.target target pairing.target with
          | none =>
              rw [present] at member
              exact ih member
          | some found =>
              rw [present] at member
              rcases List.mem_cons.mp member with rfl | later
              · exact ⟨given, List.mem_of_find?_eq_some taken, rfl⟩
              · exact ih later

/-- Which constants have plain decimal numbers for values. Solidity declares the numerals of a
decimal digit of some script with digits of ASCII behind it, and Rust those of digits of any kind in
any script, and neither declares anything else. So a value is plain exactly if none of its digits is
foreign to ASCII, for Solidity exactly if the first is not, and all values of a source without such
digits are plain. A synchronization writes literals of values of its source, and these are plain
numbers as those are. Witness: what can be written is read back, and what is read was written.
-/
theorem isPlain_declared_and_written (sides : Sides) (source target : Text)
    (pairings : List Pairing)
    : (∀ value,
          (∃ text, ∃ declaration ∈ declarations sides.source text, declaration.value = value)
            ↔ Writable sides.source value)
      ∧ (∀ declaration ∈ declarations sides.source source,
          (declaration.value.IsPlain
            ↔ ∀ char ∈ declaration.value, Text.isForeignDigit char = false)
          ∧ (sides.source = .solidity
            → (declaration.value.IsPlain
              ↔ ∀ char ∈ declaration.value.head?, Text.isForeignDigit char = false)))
      ∧ ((∀ char ∈ source, Text.isForeignDigit char = false)
          → ∀ declaration ∈ declarations sides.source source, declaration.value.IsPlain)
      ∧ (synchronize sides source target pairings).text
        = (writes sides source target pairings).foldl Revision.make target
      ∧ ∀ revision ∈ writes sides source target pairings,
          ∃ declaration ∈ declarations sides.source source,
            revision.inserted = renderLiteral sides.target declaration.value := by
  have plain {declaration : Declaration}
      (member : declaration ∈ declarations sides.source source) :=
    Text.isPlain_iff (Declaration.writable_of_mem member).isNumeral
  refine ⟨fun value => ⟨?_, exists_declared⟩, fun declaration member => ⟨plain member, ?_⟩, ?_,
    text_eq_foldl_writes sides source target pairings, fun _ => exists_declaration_of_writes⟩
  · rintro ⟨text, declaration, member, rfl⟩
    exact Declaration.writable_of_mem member
  · intro solidity
    have writable := Declaration.writable_of_mem member
    rw [solidity] at writable
    exact writable.isPlain_iff
  · intro domestic declaration member
    exact (plain member).mpr fun char inside =>
      domestic char (Declaration.subset_of_mem member inside)

/-- A superscript two is a constant of Rust, and is written into a contract as it stands; and three
in the digits of Arabic is a constant of Solidity. A constant in digits of ASCII is plain.
-/
theorem isPlain_declared_and_written_superscript
    : let host := "const A: &str = \"²\";".toList
      let contract := "uint256 constant a = ٣;".toList
      let plain := "const A: &str = \"10\";".toList
      (∃ declaration ∈ declarations .rust host, ¬ declaration.value.IsPlain)
      ∧ (∃ declaration ∈ declarations .solidity contract, ¬ declaration.value.IsPlain)
      ∧ (∃ text, ∃ declaration ∈ declarations .rust text, declaration.value = ['²', '٣'])
      ∧ (∀ declaration ∈ declarations .rust plain, declaration.value.IsPlain)
      ∧ (synchronize .reversed host contract [⟨['A'], ['a']⟩]).text
        = "uint256 constant a = ²;".toList := by
  intro host contract plain
  have superscript : ⟨['A'], ['²'], 16, 19⟩ ∈ declarations .rust host := by decide +kernel
  have arabic : ⟨['a'], ['٣'], 21, 22⟩ ∈ declarations .solidity contract := by decide +kernel
  have digits : plain.all (fun char => !Text.isForeignDigit char) = true := by decide +kernel
  have domestic : ∀ char ∈ plain, Text.isForeignDigit char = false := by
    simpa using List.all_eq_true.mp digits
  obtain ⟨values, hostPlain, _, written, _⟩ :=
    isPlain_declared_and_written .reversed host contract [⟨['A'], ['a']⟩]
  obtain ⟨_, contractPlain, _⟩ := isPlain_declared_and_written .verifiers contract host []
  obtain ⟨_, _, ascii, _⟩ := isPlain_declared_and_written .reversed plain contract []
  refine ⟨⟨_, superscript, fun isPlain => ?_⟩, ⟨_, arabic, fun isPlain => ?_⟩, (values _).mpr ?_,
    ascii domestic, written.trans (by decide +kernel)⟩
  · exact absurd ((hostPlain _ superscript).1.mp isPlain '²' (by simp)) (by decide)
  · exact absurd (((contractPlain _ arabic).2 rfl).mp isPlain '٣' rfl) (by decide)
  · exact (by decide : Text.isNumeral ['²', '٣'] = true)

end Sync

end VerifierBootstrap
