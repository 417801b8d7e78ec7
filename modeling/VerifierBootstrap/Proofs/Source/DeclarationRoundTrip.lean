import VerifierBootstrap.Proofs.Source.DeclarationExchange
import VerifierBootstrap.Proofs.Source.Pieces

/-!
Declarations that are written and read back. A constant is declared by the pieces that its dialect
asks for, with any trivia between them, and the declarations of the text are the constants, in
order, each with its literal at the places that the declaration gives.
-/

namespace VerifierBootstrap

open Declaration

/-- A constant: a name of either language, and a numeral of digits of ASCII. -/
structure Constant where
  name : Text
  value : Text
  named : IsName name
  filled : value ≠ []
  digits : value.all Lexeme.isAsciiDigit = true

namespace Constant

/-- A declaration in Solidity: the type, the visibilities, and the name with its value. -/
def solidityPieces (constant : Constant) (visibilities : List String) : List Piece :=
  .word "uint256".toList
    :: (visibilities.map (fun word => .word word.toList)
      ++ [.word "constant".toList, .word constant.name, .sign '=', .literal constant.value,
        .sign ';'])

/-- A declaration in Rust: the name with its type, to which a lifetime may belong, and the value. -/
def rustPieces (constant : Constant) (visibility lifetime : List Piece) : List Piece :=
  visibility
    ++ .word "const".toList :: .word constant.name :: .sign ':' :: .sign '&'
      :: (lifetime ++ [.word "str".toList, .sign '=', .literal constant.value, .sign ';'])

end Constant

/-- A constant is declared by pieces, in order. -/
inductive Declares : Dialect → Constant → List Piece → Prop where
  | solidity {constant : Constant} {visibilities : List String}
    (visible : ∀ word ∈ visibilities, word ∈ ["public", "private", "internal"])
    : Declares .solidity constant (constant.solidityPieces visibilities)
  | rust {constant : Constant} {visibility lifetime : List Piece}
    (visible : visibility = [] ∨ visibility = [.word "pub".toList])
    (lives : lifetime = [] ∨ ∃ label, IsName label ∧ lifetime = [.lifetime label])
    : Declares .rust constant (constant.rustPieces visibility lifetime)

/-- The value of a constant can be written in both dialects. -/
theorem Constant.writable (constant : Constant) {dialect : Dialect} (declared : dialect ≠ .generic)
    : Writable dialect constant.value := by
  have digits := List.all_eq_true.mp constant.digits
  have numeral : Text.isNumeral constant.value = true := by
    refine Text.isNumeral_iff.mpr ⟨constant.filled, fun char member => ?_⟩
    rw [Text.isDigit, Lexeme.isDecimal_of_isAsciiDigit (digits char member), Bool.true_or]
  cases dialect with
  | generic => exact absurd rfl declared
  | rust => exact numeral
  | solidity =>
      obtain ⟨first, rest, same⟩ := List.exists_cons_of_ne_nil constant.filled
      rw [same] at digits
      have decimal := Lexeme.isDecimal_of_isAsciiDigit (digits first List.mem_cons_self)
      refine ⟨numeral, first, rest, same, decimal, List.all_eq_true.mpr fun char member => ?_⟩
      simp [Lexeme.continuesNumber, digits char (List.mem_cons_of_mem _ member)]

/-- Every piece of a declaration is what it has to be. -/
theorem Declares.proper {dialect : Dialect} {constant : Constant} {pieces : List Piece}
    (declares : Declares dialect constant pieces)
    : ∀ piece ∈ pieces, piece.Proper dialect := by
  intro piece member
  cases declares with
  | solidity visible =>
      have declared : Dialect.solidity ≠ .generic := by decide
      simp only [Constant.solidityPieces, List.mem_cons, List.mem_append, List.mem_map,
        List.not_mem_nil, or_false] at member
      rcases member with rfl | ⟨word, seen, rfl⟩ | rfl | rfl | rfl | rfl | rfl
      · exact (by decide : IsName "uint256".toList)
      · have names : ∀ word ∈ ["public", "private", "internal"], IsName word.toList := by decide
        exact names word (visible word seen)
      · exact (by decide : IsName "constant".toList)
      · exact constant.named
      · simp [Piece.Proper, signs]
      · exact constant.writable declared
      · simp [Piece.Proper, signs]
  | rust visible lives =>
      have declared : Dialect.rust ≠ .generic := by decide
      simp only [Constant.rustPieces, List.mem_cons, List.mem_append, List.not_mem_nil,
        or_false] at member
      rcases member with seen | rfl | rfl | rfl | rfl | living | rfl | rfl | rfl | rfl
      · rcases visible with rfl | rfl
        · exact absurd seen List.not_mem_nil
        · obtain rfl := List.mem_singleton.mp seen
          exact (by decide : IsName "pub".toList)
      · exact (by decide : IsName "const".toList)
      · exact constant.named
      · simp [Piece.Proper, signs]
      · simp [Piece.Proper, signs]
      · rcases lives with rfl | ⟨label, named, rfl⟩
        · exact absurd living List.not_mem_nil
        · obtain rfl := List.mem_singleton.mp living
          exact ⟨rfl, named⟩
      · exact (by decide : IsName "str".toList)
      · simp [Piece.Proper, signs]
      · exact constant.writable declared
      · simp [Piece.Proper, signs]

-----------------------------------------------------------------------------------------
-- Tokens that are read as a declaration
-----------------------------------------------------------------------------------------

namespace Declaration

/-- Tokens that spell a Solidity constant are a declaration of it. -/
theorem solidity?_of_spells {type constant name equals literal semicolon : Token}
    {visibilities : List Token} (typed : spells type "uint256" = true)
    (visible : ∀ token ∈ visibilities, isVisibility token = true)
    (constantSpelled : spells constant "constant" = true) (named : name.kind = .identifier)
    (equalsSpelled : spells equals "=" = true) (kind : literal.kind = .number)
    (numeral : Text.isNumeral literal.text = true) (semicolonSpelled : spells semicolon ";" = true)
    (after : List Token)
    : solidity?
        (type :: (visibilities ++ constant :: name :: equals :: literal :: semicolon :: after))
      = some ⟨name.text, literal.text, literal.start, literal.stop⟩ := by
  have noVisibility : isVisibility constant = false :=
    isVisibility_of_spells constantSpelled (by decide)
  rw [solidity?, if_pos typed, List.dropWhile_append_of_pos visible,
    List.dropWhile_cons_of_neg (by simp [noVisibility])]
  simp [solidityRest?, constantSpelled, named, equalsSpelled, kind, numeral, semicolonSpelled]

/-- The tokens of a lifetime, or none. -/
def IsLifetime (tokens : List Token) : Prop :=
  tokens = []
  ∨ ∃ quote label,
      tokens = [quote, label] ∧ spells quote "'" = true ∧ label.kind = .identifier

theorem IsLifetime.quoted {tokens : List Token} (isLifetime : IsLifetime tokens)
    : tokens = [] ∨ ∃ quote label, tokens = [quote, label] ∧ spells quote "'" = true := by
  rcases isLifetime with none | ⟨quote, label, same, spelled, _⟩
  · exact Or.inl none
  · exact Or.inr ⟨quote, label, same, spelled⟩

/-- A lifetime in front of a type is dropped, and nothing else. -/
theorem dropLifetime_append {lifetime after : List Token} {type : Token}
    (optional : IsLifetime lifetime) (typed : spells type "str" = true)
    : dropLifetime (lifetime ++ type :: after) = type :: after := by
  rcases optional with rfl | ⟨quote, label, rfl, quoteSpelled, named⟩
  · have noQuote : spells type "'" = false := spells_of_ne typed (by decide)
    rw [List.nil_append]
    cases after with
    | nil => rfl
    | cons next after => simp [dropLifetime, noQuote]
  · simp [dropLifetime, quoteSpelled, named]

/-- Tokens that spell a Rust constant are a declaration of it. -/
theorem rust?_of_spells {word name colon ampersand type equals literal semicolon : Token}
    {lifetime : List Token} (constantSpelled : spells word "const" = true)
    (named : name.kind = .identifier) (colonSpelled : spells colon ":" = true)
    (ampersandSpelled : spells ampersand "&" = true) (optional : IsLifetime lifetime)
    (typed : spells type "str" = true) (equalsSpelled : spells equals "=" = true)
    (kind : literal.kind = .string) (numeral : Text.isNumeral (inner literal.text) = true)
    (semicolonSpelled : spells semicolon ";" = true) (after : List Token)
    : rust?
        (word :: name :: colon :: ampersand
          :: (lifetime ++ type :: equals :: literal :: semicolon :: after))
      = some ⟨name.text, inner literal.text, literal.start, literal.stop⟩ := by
  simp only [rust?, constantSpelled, named, colonSpelled, ampersandSpelled,
    dropLifetime_append optional typed]
  simp [rustRest?, typed, equalsSpelled, kind, numeral, semicolonSpelled]

-----------------------------------------------------------------------------------------
-- Tokens of written declarations
-----------------------------------------------------------------------------------------

theorem spells_of_lexeme {token : Token} {kind : LexemeKind} {word : String}
    (same : token.lexeme = ⟨kind, word.toList⟩)
    : spells token word = true :=
  decide_eq_true (congrArg Lexeme.text same)

/-- The tokens of the visibilities of a Solidity declaration are visibilities. -/
theorem isVisibility_of_lexemes {visibilities : List String} {tokens : List Token}
    (visible : ∀ word ∈ visibilities, word ∈ ["public", "private", "internal"])
    (same : tokens.map Token.lexeme = visibilities.map fun word => ⟨.identifier, word.toList⟩)
    : ∀ token ∈ tokens, isVisibility token = true := by
  intro token member
  have lexeme : token.lexeme ∈ tokens.map Token.lexeme := List.mem_map_of_mem member
  rw [same, List.mem_map] at lexeme
  obtain ⟨word, seen, lexeme⟩ := lexeme
  have spelled := spells_of_lexeme lexeme.symm
  have isOne := visible word seen
  simp only [List.mem_cons, List.not_mem_nil, or_false] at isOne
  rcases isOne with rfl | rfl | rfl <;> simp [isVisibility, spelled]

/-- The visibility of a Rust declaration begins none. -/
theorem ofTokens_visibility {visibility : List Piece} {tokens : List Token}
    (visible : visibility = [] ∨ visibility = [.word "pub".toList])
    (same : tokens.map Token.lexeme = visibility.flatMap (Piece.lexemes .rust)) (rest : List Token)
    : ofTokens .rust (tokens ++ rest) = ofTokens .rust rest := by
  rcases visible with rfl | rfl
  · rw [List.map_eq_nil_iff.mp same, List.nil_append]
  · simp only [List.flatMap_cons, List.flatMap_nil, Piece.lexemes, List.append_nil,
      List.map_eq_cons_iff, List.map_eq_nil_iff] at same
    obtain ⟨word, _, rfl, wordSame, rfl⟩ := same
    have spelled := spells_of_lexeme wordSame
    exact ofTokens_cons_of_none (rust?_of_not_spells (spells_of_ne spelled (by decide)))

/-- The tokens of the lifetime of a Rust declaration are a lifetime. -/
theorem isLifetime_of_lexemes {lifetime : List Piece} {tokens : List Token}
    (lives : lifetime = [] ∨ ∃ label, IsName label ∧ lifetime = [.lifetime label])
    (same : tokens.map Token.lexeme = lifetime.flatMap (Piece.lexemes .rust))
    : IsLifetime tokens := by
  rcases lives with rfl | ⟨label, _, rfl⟩
  · exact Or.inl (List.map_eq_nil_iff.mp same)
  · simp only [List.flatMap_cons, List.flatMap_nil, Piece.lexemes, List.append_nil,
      List.map_eq_cons_iff, List.map_eq_nil_iff] at same
    obtain ⟨quote, _, rfl, quoteSame, name, _, rfl, nameSame, rfl⟩ := same
    exact Or.inr ⟨quote, name, rfl, spells_of_lexeme quoteSame, congrArg Lexeme.kind nameSame⟩

end Declaration

/-- The tokens of a Solidity declaration give it, and those behind it what they give alone. -/
theorem Constant.ofTokens_solidityPieces (constant : Constant) {visibilities : List String}
    (visible : ∀ word ∈ visibilities, word ∈ ["public", "private", "internal"])
    {tokens : List Token}
    (same
      : tokens.map Token.lexeme
        = (constant.solidityPieces visibilities).flatMap (Piece.lexemes .solidity))
    (after : List Token)
    : ∃ start stop,
        ofTokens .solidity (tokens ++ after)
          = ⟨constant.name, constant.value, start, stop⟩ :: ofTokens .solidity after := by
  have writable := constant.writable (by decide : Dialect.solidity ≠ .generic)
  simp only [solidityPieces, List.flatMap_cons, List.flatMap_append, List.flatMap_map,
    Piece.lexemes, ← List.map_eq_flatMap, List.flatMap_nil, List.singleton_append,
    List.map_eq_cons_iff, List.map_eq_append_iff, List.append_nil, List.map_eq_nil_iff] at same
  obtain ⟨type, _, rfl, typeSame, seen, _, rfl, seenSame, word, _, rfl, wordSame,
    name, _, rfl, nameSame, equals, _, rfl, equalsSame, literal, _, rfl, literalSame,
    semicolon, _, rfl, semicolonSame, rfl⟩ := same
  have seenVisible := isVisibility_of_lexemes visible seenSame
  have wordSpelled := spells_of_lexeme wordSame
  have equalsSpelled : spells equals "=" = true := spells_of_lexeme equalsSame
  have semicolonSpelled : spells semicolon ";" = true := spells_of_lexeme semicolonSame
  have nameText : name.text = constant.name := congrArg Lexeme.text nameSame
  have text : literal.text = constant.value := congrArg Lexeme.text literalSame
  have numeral : Text.isNumeral literal.text = true := text.symm ▸ writable.isNumeral
  have found := solidity?_of_spells (spells_of_lexeme typeSame) seenVisible wordSpelled
    (congrArg Lexeme.kind nameSame) equalsSpelled (congrArg Lexeme.kind literalSame) numeral
    semicolonSpelled after
  refine ⟨literal.start, literal.stop, ?_⟩
  rw [List.cons_append, List.append_assoc]
  simp only [List.cons_append, List.nil_append]
  rw [ofTokens_solidity found seenVisible wordSpelled equalsSpelled
      (spells_renderLiteral writable text (by decide)), nameText, text,
    ofTokens_cons_of_none (solidity?_of_not_spells (spells_of_ne semicolonSpelled (by decide)))]

/-- The tokens of a Rust declaration give it, and those behind it what they give alone. -/
theorem Constant.ofTokens_rustPieces (constant : Constant) {visibility lifetime : List Piece}
    (visible : visibility = [] ∨ visibility = [.word "pub".toList])
    (lives : lifetime = [] ∨ ∃ label, IsName label ∧ lifetime = [.lifetime label])
    {tokens : List Token}
    (same
      : tokens.map Token.lexeme
        = (constant.rustPieces visibility lifetime).flatMap (Piece.lexemes .rust))
    (after : List Token)
    : ∃ start stop,
        ofTokens .rust (tokens ++ after)
          = ⟨constant.name, constant.value, start, stop⟩ :: ofTokens .rust after := by
  have writable := constant.writable (by decide : Dialect.rust ≠ .generic)
  simp only [rustPieces, List.flatMap_cons, List.flatMap_append,
    Piece.lexemes, List.flatMap_nil, List.singleton_append,
    List.map_eq_cons_iff, List.map_eq_append_iff, List.append_nil, List.map_eq_nil_iff] at same
  obtain ⟨front, _, rfl, frontSame, word, _, rfl, wordSame, name, _, rfl, nameSame,
    colon, _, rfl, colonSame, ampersand, _, rfl, ampersandSame, living, _, rfl, livingSame,
    type, _, rfl, typeSame, equals, _, rfl, equalsSame, literal, _, rfl, literalSame,
    semicolon, _, rfl, semicolonSame, rfl⟩ := same
  have isLifetime := isLifetime_of_lexemes lives livingSame
  have colonSpelled : spells colon ":" = true := spells_of_lexeme colonSame
  have ampersandSpelled : spells ampersand "&" = true := spells_of_lexeme ampersandSame
  have typeSpelled := spells_of_lexeme typeSame
  have equalsSpelled : spells equals "=" = true := spells_of_lexeme equalsSame
  have semicolonSpelled : spells semicolon ";" = true := spells_of_lexeme semicolonSame
  have nameText : name.text = constant.name := congrArg Lexeme.text nameSame
  have text : literal.text = renderLiteral .rust constant.value := congrArg Lexeme.text literalSame
  have value : inner literal.text = constant.value := text ▸ literalValue_renderLiteral writable
  have numeral : Text.isNumeral (inner literal.text) = true := value.symm ▸ writable.isNumeral
  have found := rust?_of_spells (spells_of_lexeme wordSame) (congrArg Lexeme.kind nameSame)
    colonSpelled ampersandSpelled isLifetime typeSpelled equalsSpelled
    (congrArg Lexeme.kind literalSame) numeral semicolonSpelled after
  refine ⟨literal.start, literal.stop, ?_⟩
  rw [List.append_assoc, ofTokens_visibility visible frontSame]
  simp only [List.cons_append, List.append_assoc, List.nil_append]
  rw [ofTokens_rust found isLifetime.quoted colonSpelled ampersandSpelled typeSpelled equalsSpelled
      (spells_renderLiteral writable text (by decide)), nameText, value,
    ofTokens_cons_of_none (rust?_of_not_spells (spells_of_ne semicolonSpelled (by decide)))]

/-- The tokens of declarations give their constants, in order. By induction on the declarations. -/
theorem map_ofTokens {dialect : Dialect} {constants : List Constant} {forms : List (List Piece)}
    (declared : List.Forall₂ (Declares dialect) constants forms) {tokens : List Token}
    (same : tokens.map Token.lexeme = forms.flatten.flatMap (Piece.lexemes dialect))
    : (ofTokens dialect tokens).map (fun declaration => (declaration.name, declaration.value))
      = constants.map fun constant => (constant.name, constant.value) := by
  induction declared generalizing tokens with
  | nil =>
      rw [List.flatten_nil, List.flatMap_nil, List.map_eq_nil_iff] at same
      rw [same]
      rfl
  | @cons constant pieces _ _ declares _ ih =>
      rw [List.flatten_cons, List.flatMap_append, List.map_eq_append_iff] at same
      obtain ⟨front, rest, rfl, frontSame, restSame⟩ := same
      have read
          : ∃ start stop,
              ofTokens dialect (front ++ rest)
                = ⟨constant.name, constant.value, start, stop⟩ :: ofTokens dialect rest := by
        cases declares with
        | solidity visible => exact constant.ofTokens_solidityPieces visible frontSame rest
        | rust visible lives => exact constant.ofTokens_rustPieces visible lives frontSame rest
      obtain ⟨start, stop, read⟩ := read
      rw [read, List.map_cons, List.map_cons, ih restSame]

-----------------------------------------------------------------------------------------
-- Texts of declarations
-----------------------------------------------------------------------------------------

variable {dialect : Dialect} {constants : List Constant} {forms : List (List Piece)} {gap : Text}
  {pieces : List (Piece × Text)}

theorem proper_of_declared (declared : List.Forall₂ (Declares dialect) constants forms)
    : ∀ piece ∈ forms.flatten, piece.Proper dialect := by
  induction declared with
  | nil => simp
  | cons declares _ ih =>
      intro piece member
      rw [List.flatten_cons, List.mem_append] at member
      rcases member with here | later
      · exact declares.proper piece here
      · exact ih piece later

theorem map_declarations_of_written
    (declared : List.Forall₂ (Declares dialect) constants forms)
    (written : pieces.map Prod.fst = forms.flatten) (trivia : Trivia gap)
    (spaced : Piece.Spaced pieces)
    : (declarations dialect (gap ++ Piece.concat dialect pieces)).map (fun declaration =>
        (declaration.name, declaration.value))
      = constants.map fun constant => (constant.name, constant.value) := by
  have proper : ∀ piece ∈ pieces, piece.1.Proper dialect := by
    intro piece member
    have inside : piece.1 ∈ pieces.map Prod.fst := List.mem_map_of_mem member
    rw [written] at inside
    exact proper_of_declared declared piece.1 inside
  have lexemes
      : (tokenize dialect (gap ++ Piece.concat dialect pieces)).map Token.lexeme
        = forms.flatten.flatMap (Piece.lexemes dialect) := by
    rw [lexeme_tokenize, significant_trivia trivia, significant_concat spaced proper, written]
  exact map_ofTokens declared lexemes

/-- Declarations are read back as they are written. Whatever trivia stands around the pieces, the
declarations of the text are those of the constants, in order, and each has its literal at its
places.
-/
theorem declarations_of_written
    (declared : List.Forall₂ (Declares dialect) constants forms)
    (written : pieces.map Prod.fst = forms.flatten) (trivia : Trivia gap)
    (spaced : Piece.Spaced pieces)
    : (declarations dialect (gap ++ Piece.concat dialect pieces)).map (fun declaration =>
        (declaration.name, declaration.value,
          ((gap ++ Piece.concat dialect pieces).take declaration.stop).drop declaration.start))
      = constants.map fun constant =>
          (constant.name, constant.value, renderLiteral dialect constant.value) := by
  have read := map_declarations_of_written declared written trivia spaced
  have rendered := congrArg (List.map fun constant =>
    (constant.1, constant.2, renderLiteral dialect constant.2)) read
  rw [List.map_map, List.map_map] at rendered
  refine Eq.trans (List.map_congr_left fun declaration member => ?_) rendered
  rw [slice_of_mem member]
  rfl

/-- Two Rust constants whose names are a prefix of raw strings and a word of declarations; a comment
between them holds a third, and a lifetime has a name of one character.
-/
theorem declarations_of_written_prefix_names
    : let text :=
        "pub const r:&'b str=\"42\";/*const F:&str=\"9\";*/const//\nconst: &str=\"0\";".toList
      (declarations .rust text).map (fun declaration =>
          (declaration.name, declaration.value,
            (text.take declaration.stop).drop declaration.start))
        = [(['r'], ['4', '2'], "\"42\"".toList), ("const".toList, ['0'], "\"0\"".toList)] := by
  intro text
  let first : Constant := ⟨['r'], ['4', '2'], by decide, by decide, by decide⟩
  let second : Constant := ⟨"const".toList, ['0'], by decide, by decide, by decide⟩
  have declared
      : List.Forall₂ (Declares .rust) [first, second]
          [first.rustPieces [.word "pub".toList] [.lifetime ['b']], second.rustPieces [] []] :=
    .cons (.rust (Or.inr rfl) (Or.inr ⟨['b'], by decide, rfl⟩))
      (.cons (.rust (Or.inl rfl) (Or.inl rfl)) .nil)
  have blank : Trivia [' '] := .blank (by decide) .nil
  have line : Trivia ['/', '/', '\n'] := @Trivia.line [] [] (by decide) .nil
  have block : Trivia "/*const F:&str=\"9\";*/".toList :=
    @Trivia.block "const F:&str=\"9\";".toList []
      (fun inside => absurd (inside.subset List.mem_cons_self) (by decide +kernel)) .nil
  let pieces : List (Piece × Text) :=
    [(.word "pub".toList, [' ']), (.word "const".toList, [' ']), (.word ['r'], []), (.sign ':', []),
      (.sign '&', []), (.lifetime ['b'], [' ']), (.word "str".toList, []), (.sign '=', []),
      (.literal ['4', '2'], []), (.sign ';', "/*const F:&str=\"9\";*/".toList),
      (.word "const".toList, ['/', '/', '\n']), (.word "const".toList, []), (.sign ':', [' ']),
      (.sign '&', []), (.word "str".toList, []), (.sign '=', []), (.literal ['0'], []),
      (.sign ';', [])]
  have spaced : Piece.Spaced pieces :=
    ⟨by simpa [pieces, Trivia.nil, blank, line] using block, by decide⟩
  have written : text = [] ++ Piece.concat .rust pieces := by decide +kernel
  have read := declarations_of_written declared (show pieces.map Prod.fst = _ from rfl) .nil spaced
  rw [← written] at read
  exact read.trans (by decide +kernel)

end VerifierBootstrap
