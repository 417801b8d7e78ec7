import VerifierBootstrap.Source.Token

/-!
Declarations of numeric constants. Each dialect has one form, matched on the tokens from a
place on; `renderLiteral` writes the literal that the form reads.
-/

namespace VerifierBootstrap

/-- A constant, its value, and the places where its literal starts and has stopped. -/
structure Declaration where
  name : Text
  value : Text
  start : Nat
  stop : Nat
deriving Repr, DecidableEq

namespace Declaration

/-- Whether a token is the given word or sign. -/
def spells (token : Token) (word : String) : Bool :=
  token.text = word.toList

/-- The words that may stand between the type and `constant`. -/
def isVisibility (token : Token) : Bool :=
  spells token "public" || spells token "private" || spells token "internal"

/-- What follows the type of a Solidity constant and its visibility: `constant NAME = 123;`. -/
def solidityRest? : List Token → Option Declaration
  | word :: name :: equals :: literal :: semicolon :: _ =>
      if spells word "constant" && name.kind = .identifier && spells equals "="
          && spells semicolon ";" && literal.kind = .number && Text.isNumeral literal.text then
        some ⟨name.text, literal.text, literal.start, literal.stop⟩
      else none
  | _ => none

/-- A Solidity constant at the front of tokens: `uint256 constant NAME = 123;`. -/
def solidity? : List Token → Option Declaration
  | word :: rest =>
      if spells word "uint256" then solidityRest? (rest.dropWhile isVisibility) else none
  | [] => none

/-- Drops a lifetime: a quote and a name. -/
def dropLifetime : List Token → List Token
  | quote :: name :: rest =>
      if spells quote "'" && name.kind = .identifier then rest else quote :: name :: rest
  | tokens => tokens

/-- The text between the first and the last character. -/
def inner (text : Text) : Text :=
  (text.drop 1).dropLast

/-- What follows the name and the reference of a Rust constant: `str = "123";`. -/
def rustRest? (name : Token) : List Token → Option Declaration
  | word :: equals :: literal :: semicolon :: _ =>
      if spells word "str" && spells equals "=" && spells semicolon ";"
          && literal.kind = .string && Text.isNumeral (inner literal.text) then
        some ⟨name.text, inner literal.text, literal.start, literal.stop⟩
      else none
  | _ => none

/-- A Rust constant at the front of tokens: `const NAME: &str = "123";`. -/
def rust? : List Token → Option Declaration
  | word :: name :: colon :: ampersand :: rest =>
      if spells word "const" && name.kind = .identifier && spells colon ":"
          && spells ampersand "&" then
        rustRest? name (dropLifetime rest)
      else none
  | _ => none

/-- The declaration at the front of tokens. -/
def match? (dialect : Dialect) (tokens : List Token) : Option Declaration :=
  match dialect with
  | .generic => none
  | .solidity => solidity? tokens
  | .rust => rust? tokens

/-- The declarations among tokens, each looked for at every token. -/
def ofTokens (dialect : Dialect) : List Token → List Declaration
  | [] => []
  | token :: rest =>
      (match? dialect (token :: rest)).toList ++ ofTokens dialect rest

end Declaration

/-- The declarations of a text, in order. -/
def declarations (dialect : Dialect) (text : Text) : List Declaration :=
  Declaration.ofTokens dialect (tokenize dialect text)

/-- The first declaration of a name. -/
def findDeclaration (dialect : Dialect) (text name : Text) : Option Declaration :=
  (declarations dialect text).find? fun declaration => declaration.name = name

/-- A value as the literal of a dialect. -/
def renderLiteral (dialect : Dialect) (value : Text) : Text :=
  match dialect with
  | .rust => '\x22' :: value ++ ['\x22']
  | _ => value

/-- Whether a search in a text has no meaning, for want of a form of declaration. A text
without tokens is searched in vain in every dialect.
-/
def Declaration.unsearchable (dialect : Dialect) (text : Text) : Bool :=
  dialect = .generic && !(tokenize dialect text).isEmpty

/-- The declarations of a text, if the search for them has a meaning. -/
def declarations? (dialect : Dialect) (text : Text) : Option (List Declaration) :=
  if Declaration.unsearchable dialect text then none else some (declarations dialect text)

/-- The first declaration of each name, if the searches have a meaning. -/
def findDeclarations? (dialect : Dialect) (text : Text) (names : List Text)
    : Option (List (Option Declaration)) :=
  if !names.isEmpty && Declaration.unsearchable dialect text then none
  else some (names.map (findDeclaration dialect text))

/-- A value as the literal of a dialect, if the dialect has literals. -/
def renderLiteral? (dialect : Dialect) (value : Text) : Option Text :=
  match dialect with
  | .generic => none
  | _ => some (renderLiteral dialect value)

end VerifierBootstrap
