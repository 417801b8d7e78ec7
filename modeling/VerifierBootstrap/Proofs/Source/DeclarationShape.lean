import VerifierBootstrap.Proofs.Source.TokenPlaces

/-!
The shape of declarations. A declaration covers a stretch of tokens that ends in an equals sign
and a literal, and no other declaration begins in that stretch. So the declarations of a text
follow one another, and each literal belongs to one of them.
-/

namespace VerifierBootstrap

namespace Declaration

/-- The value in the text of a literal. -/
def literalValue : Dialect → Text → Text
  | .rust, text => inner text
  | .generic, text | .solidity, text => text

/-- A declaration whose value and places are those of a literal. -/
structure Reads (dialect : Dialect) (literal : Token) (declaration : Declaration) : Prop where
  declares : dialect ≠ .generic
  kind : literal.kind = literalKind dialect
  value : declaration.value = literalValue dialect literal.text
  numeral : Text.isNumeral declaration.value = true
  start : declaration.start = literal.start
  stop : declaration.stop = literal.stop

theorem spells_of_ne {token : Token} {word other : String} (spelled : spells token word = true)
    (different : word ≠ other)
    : spells token other = false := by
  simp only [spells, decide_eq_true_eq, decide_eq_false_iff_not] at spelled ⊢
  rw [spelled]
  exact fun same => different (String.toList_inj.mp same)

theorem spells_of_isVisibility {token : Token} {other : String}
    (visible : isVisibility token = true)
    (different : "public" ≠ other ∧ "private" ≠ other ∧ "internal" ≠ other)
    : spells token other = false := by
  simp only [isVisibility, Bool.or_eq_true] at visible
  rcases visible with (spelled | spelled) | spelled
  · exact spells_of_ne spelled different.1
  · exact spells_of_ne spelled different.2.1
  · exact spells_of_ne spelled different.2.2

theorem isVisibility_of_spells {token : Token} {word : String} (spelled : spells token word = true)
    (different : word ≠ "public" ∧ word ≠ "private" ∧ word ≠ "internal")
    : isVisibility token = false := by
  simp [isVisibility, spells_of_ne spelled different.1, spells_of_ne spelled different.2.1,
    spells_of_ne spelled different.2.2]

-----------------------------------------------------------------------------------------
-- No declaration begins within another
-----------------------------------------------------------------------------------------

/-- A token that does not begin a declaration is passed over. -/
theorem ofTokens_cons_of_none {dialect : Dialect} {token : Token} {rest : List Token}
    (unmatched : match? dialect (token :: rest) = none)
    : ofTokens dialect (token :: rest) = ofTokens dialect rest := by
  simp [ofTokens, unmatched]

theorem solidity?_of_not_spells {token : Token} {rest : List Token}
    (other : spells token "uint256" = false)
    : match? .solidity (token :: rest) = none := by
  simp [match?, solidity?, other]

/-- What follows the type and the visibilities of a Solidity declaration is the word that makes
it a constant.
-/
theorem solidity?_of_not_constant {type next : Token} {rest : List Token}
    (visible : isVisibility next = false) (other : spells next "constant" = false)
    : match? .solidity (type :: next :: rest) = none := by
  have unmatched : solidityRest? (next :: rest) = none := by
    unfold solidityRest?
    split
    · rename_i same
      obtain ⟨rfl, rfl⟩ := List.cons.inj same
      simp [other]
    · rfl
  simp only [match?, solidity?]
  rw [List.dropWhile_cons_of_neg (by simp [visible]), unmatched, ite_self]

theorem rust?_of_not_spells {token : Token} {rest : List Token}
    (other : spells token "const" = false)
    : match? .rust (token :: rest) = none := by
  simp only [match?]
  unfold rust?
  split
  · rename_i same
    obtain ⟨rfl, rfl⟩ := List.cons.inj same
    simp [other]
  · rfl

/-- The name of a Rust declaration is followed by a colon. -/
theorem rust?_of_not_colon {first second third : Token} {rest : List Token}
    (other : spells third ":" = false)
    : match? .rust (first :: second :: third :: rest) = none := by
  simp only [match?]
  unfold rust?
  split
  · rename_i same
    simp only [List.cons.injEq] at same
    obtain ⟨rfl, rfl, rfl, rfl⟩ := same
    simp [other]
  · rfl

/-- Tokens that are not the type begin no declaration of Solidity. -/
theorem ofTokens_of_not_spells {passed : List Token} (rest : List Token)
    (other : ∀ token ∈ passed, spells token "uint256" = false)
    : ofTokens .solidity (passed ++ rest) = ofTokens .solidity rest := by
  induction passed with
  | nil => rfl
  | cons token passed ih =>
      rw [List.cons_append, ofTokens_cons_of_none (solidity?_of_not_spells (other token (by simp))),
        ih fun token member => other token (List.mem_cons_of_mem _ member)]

/-- What a Solidity declaration is made of behind its type and its visibilities. -/
theorem solidityRest?_eq_some {tokens : List Token} {declaration : Declaration}
    (found : solidityRest? tokens = some declaration)
    : ∃ constant name equals literal semicolon after,
        tokens = constant :: name :: equals :: literal :: semicolon :: after
        ∧ spells constant "constant" = true
        ∧ spells equals "=" = true
        ∧ spells semicolon ";" = true
        ∧ Reads .solidity literal declaration := by
  unfold solidityRest? at found
  split at found
  · rename_i constant name equals literal semicolon after
    split at found
    · rename_i matched
      simp only [Bool.and_eq_true, decide_eq_true_eq] at matched
      obtain ⟨⟨⟨⟨⟨constantSpelled, _⟩, equalsSpelled⟩, semicolonSpelled⟩, kind⟩, numeral⟩ := matched
      obtain rfl := Option.some.inj found
      exact ⟨constant, name, equals, literal, semicolon, after, rfl, constantSpelled, equalsSpelled,
        semicolonSpelled, ⟨by decide, kind, rfl, numeral, rfl, rfl⟩⟩
    · exact absurd found (by simp)
  · exact absurd found (by simp)

/-- What a Solidity declaration is made of. -/
theorem solidity?_eq_some {tokens : List Token} {declaration : Declaration}
    (found : solidity? tokens = some declaration)
    : ∃ word visibilities constant name equals literal semicolon after,
        tokens
          = word :: (visibilities ++ constant :: name :: equals :: literal :: semicolon :: after)
        ∧ spells word "uint256" = true
        ∧ (∀ token ∈ visibilities, isVisibility token = true)
        ∧ spells constant "constant" = true
        ∧ spells equals "=" = true
        ∧ spells semicolon ";" = true
        ∧ Reads .solidity literal declaration := by
  cases tokens with
  | nil => simp [solidity?] at found
  | cons word rest =>
      simp only [solidity?] at found
      split at found
      · rename_i typeSpelled
        obtain ⟨constant, name, equals, literal, semicolon, after, behind, parts⟩ :=
          solidityRest?_eq_some found
        refine ⟨word, rest.takeWhile isVisibility, constant, name, equals, literal, semicolon,
          after, ?_, typeSpelled, List.all_eq_true.mp List.all_takeWhile, parts⟩
        rw [← behind, List.takeWhile_append_dropWhile]
      · exact absurd found (by simp)

/-- A lifetime is a single quote and its name, or it is missing. -/
theorem exists_lifetime (tokens : List Token)
    : ∃ lifetime,
        tokens = lifetime ++ dropLifetime tokens
        ∧ (lifetime = []
          ∨ ∃ quote label, lifetime = [quote, label] ∧ spells quote "'" = true) := by
  unfold dropLifetime
  split
  · rename_i quote label rest
    split
    · rename_i marked
      simp only [Bool.and_eq_true] at marked
      exact ⟨[quote, label], rfl, Or.inr ⟨quote, label, rfl, marked.1⟩⟩
    · exact ⟨[], rfl, Or.inl rfl⟩
  · exact ⟨[], rfl, Or.inl rfl⟩

/-- What a Rust declaration is made of. -/
theorem rust?_eq_some {tokens : List Token} {declaration : Declaration}
    (found : rust? tokens = some declaration)
    : ∃ word name colon ampersand lifetime type equals literal semicolon after,
        tokens
          = word :: name :: colon :: ampersand
            :: (lifetime ++ type :: equals :: literal :: semicolon :: after)
        ∧ (lifetime = [] ∨ ∃ quote label, lifetime = [quote, label] ∧ spells quote "'" = true)
        ∧ spells colon ":" = true
        ∧ spells ampersand "&" = true
        ∧ spells type "str" = true
        ∧ spells equals "=" = true
        ∧ spells semicolon ";" = true
        ∧ Reads .rust literal declaration := by
  unfold rust? at found
  split at found
  · rename_i word name colon ampersand rest
    split at found
    · rename_i matched
      simp only [Bool.and_eq_true, decide_eq_true_eq] at matched
      obtain ⟨⟨_, colonSpelled⟩, ampersandSpelled⟩ := matched
      obtain ⟨lifetime, split, optional⟩ := exists_lifetime rest
      unfold rustRest? at found
      split at found
      · rename_i type equals literal semicolon after behind
        split at found
        · rename_i ending
          simp only [Bool.and_eq_true, decide_eq_true_eq] at ending
          obtain ⟨⟨⟨⟨typeSpelled, equalsSpelled⟩, semicolonSpelled⟩, kind⟩, numeral⟩ := ending
          obtain rfl := Option.some.inj found
          rw [behind] at split
          exact ⟨word, name, colon, ampersand, lifetime, type, equals, literal, semicolon, after,
            by rw [split], optional, colonSpelled, ampersandSpelled, typeSpelled, equalsSpelled,
            semicolonSpelled, ⟨by decide, kind, rfl, numeral, rfl, rfl⟩⟩
        · exact absurd found (by simp)
      · exact absurd found (by simp)
    · exact absurd found (by simp)
  · exact absurd found (by simp)

theorem Reads.not_spells {dialect : Dialect} {literal : Token} {declaration : Declaration}
    (reads : Reads dialect literal declaration) {word : String} {char : Char}
    (member : char ∈ literalValue dialect word.toList) (noDigit : Text.isDigit char = false)
    : spells literal word = false := by
  simp only [spells, decide_eq_false_iff_not]
  intro same
  have numeral := reads.numeral
  rw [reads.value, same] at numeral
  exact Text.not_mem_of_isNumeral numeral noDigit member

/-- No Solidity declaration begins between the type of one and its literal: of the tokens there only
the name could be the type that begins another, and an equals sign follows it.
-/
theorem ofTokens_head {constant name equals : Token} {visibilities : List Token}
    (after : List Token) (visible : ∀ token ∈ visibilities, isVisibility token = true)
    (constantSpelled : spells constant "constant" = true)
    (equalsSpelled : spells equals "=" = true)
    : ofTokens .solidity (visibilities ++ constant :: name :: equals :: after)
      = ofTokens .solidity after := by
  have noType : ∀ token ∈ visibilities, spells token "uint256" = false := fun token member =>
    spells_of_isVisibility (visible token member) (by decide)
  rw [ofTokens_of_not_spells _ noType,
    ofTokens_cons_of_none (solidity?_of_not_spells (spells_of_ne constantSpelled (by decide))),
    ofTokens_cons_of_none (solidity?_of_not_constant
      (isVisibility_of_spells equalsSpelled (by decide))
      (spells_of_ne equalsSpelled (by decide))),
    ofTokens_cons_of_none (solidity?_of_not_spells (spells_of_ne equalsSpelled (by decide)))]

/-- A Solidity declaration is followed by those behind its literal. -/
theorem ofTokens_solidity {word constant name equals literal : Token}
    {visibilities after : List Token} {declaration : Declaration}
    (found
      : solidity? (word :: (visibilities ++ constant :: name :: equals :: literal :: after))
        = some declaration)
    (visible : ∀ token ∈ visibilities, isVisibility token = true)
    (constantSpelled : spells constant "constant" = true)
    (equalsSpelled : spells equals "=" = true) (noType : spells literal "uint256" = false)
    : ofTokens .solidity (word :: (visibilities ++ constant :: name :: equals :: literal :: after))
      = declaration :: ofTokens .solidity after := by
  rw [ofTokens, match?, found, Option.toList_some, List.singleton_append,
    ofTokens_head _ visible constantSpelled equalsSpelled,
    ofTokens_cons_of_none (solidity?_of_not_spells noType)]

theorem ofTokens_of_solidity? {tokens : List Token} {declaration : Declaration}
    (found : solidity? tokens = some declaration)
    : ∃ before equals literal after,
        tokens = before ++ equals :: literal :: after
        ∧ spells equals "=" = true
        ∧ Reads .solidity literal declaration
        ∧ ofTokens .solidity tokens = declaration :: ofTokens .solidity after := by
  obtain ⟨word, visibilities, constant, name, equals, literal, semicolon, after, rfl, _, visible,
    constantSpelled, equalsSpelled, _, reads⟩ := solidity?_eq_some found
  refine ⟨word :: (visibilities ++ [constant, name]), equals, literal, semicolon :: after, by simp,
    equalsSpelled, reads, ?_⟩
  have noType : spells literal "uint256" = false :=
    reads.not_spells (by simp [literalValue] : 'u' ∈ _) (by decide)
  exact ofTokens_solidity found visible constantSpelled equalsSpelled noType

/-- A Rust declaration is followed by those behind its literal: of the tokens within it only the
name and the name of the lifetime could be the word that begins another, and neither is followed
by a name and a colon.
-/
theorem ofTokens_rust {word name colon ampersand type equals literal : Token}
    {lifetime after : List Token} {declaration : Declaration}
    (found
      : rust?
          (word :: name :: colon :: ampersand :: (lifetime ++ type :: equals :: literal :: after))
        = some declaration)
    (optional : lifetime = [] ∨ ∃ quote label, lifetime = [quote, label] ∧ spells quote "'" = true)
    (colonSpelled : spells colon ":" = true) (ampersandSpelled : spells ampersand "&" = true)
    (typeSpelled : spells type "str" = true) (equalsSpelled : spells equals "=" = true)
    (noConstant : spells literal "const" = false)
    : ofTokens .rust
        (word :: name :: colon :: ampersand :: (lifetime ++ type :: equals :: literal :: after))
      = declaration :: ofTokens .rust after := by
  have passed
      : ofTokens .rust (type :: equals :: literal :: after) = ofTokens .rust after := by
    rw [ofTokens_cons_of_none (rust?_of_not_spells (spells_of_ne typeSpelled (by decide))),
      ofTokens_cons_of_none (rust?_of_not_spells (spells_of_ne equalsSpelled (by decide))),
      ofTokens_cons_of_none (rust?_of_not_spells noConstant)]
  have lifetimePassed
      : ofTokens .rust (lifetime ++ type :: equals :: literal :: after)
        = ofTokens .rust (type :: equals :: literal :: after) := by
    rcases optional with rfl | ⟨quote, label, rfl, quoteSpelled⟩
    · rfl
    · rw [List.cons_append, List.cons_append, List.nil_append,
        ofTokens_cons_of_none (rust?_of_not_spells (spells_of_ne quoteSpelled (by decide))),
        ofTokens_cons_of_none (rust?_of_not_colon (spells_of_ne equalsSpelled (by decide)))]
  rw [ofTokens, match?, found, Option.toList_some, List.singleton_append,
    ofTokens_cons_of_none (rust?_of_not_colon (spells_of_ne ampersandSpelled (by decide))),
    ofTokens_cons_of_none (rust?_of_not_spells (spells_of_ne colonSpelled (by decide))),
    ofTokens_cons_of_none (rust?_of_not_spells (spells_of_ne ampersandSpelled (by decide))),
    lifetimePassed, passed]

theorem ofTokens_of_rust? {tokens : List Token} {declaration : Declaration}
    (found : rust? tokens = some declaration)
    : ∃ before equals literal after,
        tokens = before ++ equals :: literal :: after
        ∧ spells equals "=" = true
        ∧ Reads .rust literal declaration
        ∧ ofTokens .rust tokens = declaration :: ofTokens .rust after := by
  obtain ⟨word, name, colon, ampersand, lifetime, type, equals, literal, semicolon, after, rfl,
    optional, colonSpelled, ampersandSpelled, typeSpelled, equalsSpelled, _, reads⟩ :=
    rust?_eq_some found
  refine ⟨word :: name :: colon :: ampersand :: (lifetime ++ [type]), equals, literal,
    semicolon :: after, by simp, equalsSpelled, reads, ?_⟩
  have noConstant : spells literal "const" = false :=
    reads.not_spells (by simp [literalValue, inner] : 'o' ∈ _) (by decide)
  exact ofTokens_rust found optional colonSpelled ampersandSpelled typeSpelled equalsSpelled
    noConstant

/-- A declaration covers tokens up to its literal, which an equals sign precedes, and is followed
by the declarations behind its literal.
-/
theorem ofTokens_of_match? {dialect : Dialect} {tokens : List Token} {declaration : Declaration}
    (found : match? dialect tokens = some declaration)
    : ∃ before equals literal after,
        tokens = before ++ equals :: literal :: after
        ∧ spells equals "=" = true
        ∧ Reads dialect literal declaration
        ∧ ofTokens dialect tokens = declaration :: ofTokens dialect after := by
  cases dialect with
  | generic => simp [match?] at found
  | solidity => exact ofTokens_of_solidity? found
  | rust => exact ofTokens_of_rust? found

theorem exists_match?_of_mem {dialect : Dialect} {tokens : List Token} {declaration : Declaration}
    (member : declaration ∈ ofTokens dialect tokens)
    : ∃ before after, tokens = before ++ after ∧ match? dialect after = some declaration := by
  induction tokens with
  | nil => simp [ofTokens] at member
  | cons token rest ih =>
      rw [ofTokens, List.mem_append, Option.mem_toList] at member
      rcases member with here | later
      · exact ⟨[], token :: rest, rfl, here⟩
      · obtain ⟨before, after, rfl, found⟩ := ih later
        exact ⟨token :: before, after, rfl, found⟩

end Declaration

end VerifierBootstrap
