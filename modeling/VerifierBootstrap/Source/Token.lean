import VerifierBootstrap.Source.Lexeme

/-! Tokens of verifier sources: the lexemes other than blanks and comments, with their places. -/

namespace VerifierBootstrap

/-- A lexeme that means something, and the places where it starts and where it has stopped. -/
structure Token where
  kind : LexemeKind
  text : Text
  start : Nat
  stop : Nat
deriving Repr, DecidableEq

namespace Token

/-- A kind of lexeme that stands between tokens. -/
def isTrivia : LexemeKind → Bool
  | .comment | .space => true
  | _ => false

/-- The tokens among lexemes that begin at `start`. -/
def ofLexemes (start : Nat) : List Lexeme → List Token
  | [] => []
  | lexeme :: rest =>
      let stop := start + lexeme.text.length
      if isTrivia lexeme.kind then ofLexemes stop rest
      else ⟨lexeme.kind, lexeme.text, start, stop⟩ :: ofLexemes stop rest

end Token

/-- The tokens of a text. -/
def tokenize (dialect : Dialect) (text : Text) : List Token :=
  Token.ofLexemes 0 (lexemes dialect text)

end VerifierBootstrap
