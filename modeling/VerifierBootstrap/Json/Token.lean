import VerifierBootstrap.Json.Basic
import VerifierBootstrap.Bytes.Hex

/-!
The tokens of a JSON text. Each carries the position of its first character. Reading stops at
the end of the text or at the first place where no token can be read; what is wrong there is a
token too, since the grammar decides first whether any value may stand at that place.
-/

namespace VerifierBootstrap.Json

/-- Why a text is not JSON. The messages of a plain fault name a position. -/
inductive Fault where
  /-- The text breaks the grammar at `position`. -/
  | malformed (message : String) (position : Nat)
  /-- An integer has more digits than are read. -/
  | longInteger (digits : Nat)
  /-- One more array or object would be open at once than there is room for. -/
  | tooDeep (enclosure : Enclosure)
deriving Repr, DecidableEq

/-- The most digits that an integer may have. -/
def integerDigits : Nat := 4300

/-- A token without its position. -/
inductive TokenKind where
  | openArray
  | closeArray
  | openObject
  | closeObject
  | comma
  | colon
  /-- A string. -/
  | string (points : Points)
  /-- A number or a word that stands for a value. -/
  | scalar (value : Json)
  /-- A token that begins soundly and is faulty inside. -/
  | broken (fault : Fault)
  /-- A character that begins no token. -/
  | stray
  | endOfText

/-- A token and the position of its first character. -/
structure Token where
  kind : TokenKind
  position : Nat

namespace TokenKind

/-- What a token opens. -/
def opens? : TokenKind → Option Enclosure
  | openArray => some .array
  | openObject => some .object
  | _ => none

/-- How many arrays and objects are open behind a token, with so many open before it. -/
def openBehind (opened : Nat) : TokenKind → Nat
  | openArray | openObject => opened + 1
  | closeArray | closeObject => opened - 1
  | _ => opened

end TokenKind

/-- The blanks of JSON. -/
def isBlank (char : Char) : Bool :=
  char = ' ' || char = '\t' || char = '\n' || char = '\r'

/-- A decimal digit of ASCII. -/
def isDigit (char : Char) : Bool :=
  '0' ≤ char && char ≤ '9'

/-- The character that a one-letter escape stands for. -/
def escape? (char : Char) : Option Char :=
  if char = '\x22' ∨ char = '\\' ∨ char = '/' then some char
  else if char = 'b' then some '\x08'
  else if char = 'f' then some '\x0c'
  else if char = 'n' then some '\n'
  else if char = 'r' then some '\r'
  else if char = 't' then some '\t'
  else none

/-- The unit of four hexadecimal digits. -/
def unit? (a b c d : Char) : Option Nat :=
  match Hex.value? a, Hex.value? b, Hex.value? c, Hex.value? d with
  | some a, some b, some c, some d => some (((a * 16 + b) * 16 + c) * 16 + d)
  | _, _, _, _ => none

/-- Reads a string behind its opening quote at `start`, with the next character at `position`.
Gives the characters, each escape for itself, and the position behind the closing quote.
A unit escape needs a character behind its four digits.
-/
def readString (start position : Nat) : Text → Except Fault (Points × Nat)
  | [] => .error (.malformed "Unterminated string starting at" start)
  | ['\\'] => .error (.malformed "Unterminated string starting at" start)
  | '\\' :: 'u' :: a :: b :: c :: d :: e :: rest =>
      match unit? a b c d with
      | none => .error (.malformed "Invalid \\uXXXX escape" (position + 1))
      | some unit =>
          match readString start (position + 6) (e :: rest) with
          | .ok (points, stop) => .ok (Point.ofUnit unit :: points, stop)
          | .error fault => .error fault
  | '\\' :: char :: rest =>
      if char = 'u' then .error (.malformed "Invalid \\uXXXX escape" (position + 1))
      else
        match escape? char with
        | none => .error (.malformed "Invalid \\escape" position)
        | some meant =>
            match readString start (position + 2) rest with
            | .ok (points, stop) => .ok (.scalar meant :: points, stop)
            | .error fault => .error fault
  | char :: rest =>
      if char = '\x22' then .ok ([], position + 1)
      else if char.toNat < 0x20 then
        .error (.malformed "Invalid control character at" position)
      else
        match readString start (position + 1) rest with
        | .ok (points, stop) => .ok (.scalar char :: points, stop)
        | .error fault => .error fault

/-- The parts of a number as it is written. -/
structure Numeral where
  negative : Bool
  whole : Text
  /-- The digits behind the point, if there is a point. -/
  fraction : Option Text
  /-- The sign and the digits of the exponent, if there is one. -/
  exponent : Option (Text × Text)
deriving Repr, DecidableEq

namespace Numeral

/-- The number of characters of a numeral. -/
def length (numeral : Numeral) : Nat :=
  (if numeral.negative then 1 else 0) + numeral.whole.length
    + (numeral.fraction.map fun digits => 1 + digits.length).getD 0
    + (numeral.exponent.map fun (sign, digits) => 1 + sign.length + digits.length).getD 0

/-- The whole part at the front: a zero, or digits of which the first is none. -/
def readWhole : Text → Text
  | '0' :: _ => ['0']
  | text => text.takeWhile isDigit

/-- A point and at least one digit at the front. -/
def readFraction? : Text → Option Text
  | '.' :: rest =>
      let digits := rest.takeWhile isDigit
      if digits.isEmpty then none else some digits
  | _ => none

/-- An `e`, a sign or none, and at least one digit at the front. -/
def readExponent? : Text → Option (Text × Text)
  | mark :: rest =>
      if mark = 'e' ∨ mark = 'E' then
        let sign := (rest.take 1).filter fun char => char = '+' || char = '-'
        let digits := (rest.drop sign.length).takeWhile isDigit
        if digits.isEmpty then none else some (sign, digits)
      else none
  | [] => none

/-- The numeral at the front of a text, as far as it goes. -/
def read? (text : Text) : Option Numeral :=
  let negative := text.head? = some '-'
  let unsigned := if negative then text.drop 1 else text
  let whole := readWhole unsigned
  if whole.isEmpty then none
  else
    let afterWhole := unsigned.drop whole.length
    let fraction := readFraction? afterWhole
    let afterFraction := afterWhole.drop ((fraction.map fun digits => 1 + digits.length).getD 0)
    some ⟨negative, whole, fraction, readExponent? afterFraction⟩

/-- The number that digits spell. -/
def valueOf (digits : Text) : Nat :=
  digits.foldl (fun value char => value * 10 + (char.toNat - 0x30)) 0

/-- The value of a numeral: an integer if it has neither fraction nor exponent. -/
def value (numeral : Numeral) : Except Fault Json :=
  match numeral.fraction, numeral.exponent with
  | none, none =>
      if integerDigits < numeral.whole.length then .error (.longInteger numeral.whole.length)
      else
        let magnitude : Int := valueOf numeral.whole
        .ok (.integer (if numeral.negative then -magnitude else magnitude))
  | fraction, exponent =>
      let places := fraction.getD []
      let (sign, digits) := exponent.getD ([], [])
      let power : Int := valueOf digits
      let scale := (if sign = ['-'] then -power else power) - places.length
      .ok (.real (.ofDecimal numeral.negative (valueOf (numeral.whole ++ places)) scale))

end Numeral

/-- The words that stand for values. -/
def words : List (Text × Json) :=
  [("null".toList, .null), ("true".toList, .boolean true), ("false".toList, .boolean false),
   ("NaN".toList, .real .nan), ("Infinity".toList, .real (.infinite false)),
   ("-Infinity".toList, .real (.infinite true))]

/-- The word at the front of a text. -/
def word? (text : Text) : Option (Text × Json) :=
  words.find? fun (word, _) => word.isPrefixOf text

/-- The one-character token of a character. -/
def mark? (char : Char) : Option TokenKind :=
  if char = '[' then some .openArray
  else if char = ']' then some .closeArray
  else if char = '\x7b' then some .openObject
  else if char = '\x7d' then some .closeObject
  else if char = ',' then some .comma
  else if char = ':' then some .colon
  else none

/-- The token that begins with `char` at `position`, and how many characters of `rest` it
takes.
-/
def readToken (position : Nat) (char : Char) (rest : Text) : TokenKind × Nat :=
  match mark? char with
  | some kind => (kind, 0)
  | none =>
      if char = '\x22' then
        match readString position (position + 1) rest with
        | .ok (points, stop) => (.string points.joinPairs, stop - (position + 1))
        | .error fault => (.broken fault, rest.length)
      else
        match word? (char :: rest) with
        | some (word, value) => (.scalar value, word.length - 1)
        | none =>
            match Numeral.read? (char :: rest) with
            | none => (.stray, rest.length)
            | some numeral =>
                match numeral.value with
                | .ok value => (.scalar value, numeral.length - 1)
                | .error fault => (.broken fault, rest.length)

/-- The tokens of a text that begins at `position`. -/
def tokensFrom (position : Nat) : Text → List Token
  | [] => [⟨.endOfText, position⟩]
  | char :: rest =>
      if isBlank char then tokensFrom (position + 1) rest
      else
        match readToken position char rest with
        | (kind, taken) => ⟨kind, position⟩ :: tokensFrom (position + 1 + taken) (rest.drop taken)
termination_by text => text.length
decreasing_by all_goals simp only [List.length_cons, List.length_drop]; omega

/-- The tokens of a text. -/
def tokens (text : Text) : List Token :=
  tokensFrom 0 text

/-- Tokens as they are read with room for `nesting` arrays and objects to be open at once, of which
`opened` are open already. The first that would open one more is broken.
-/
def within (nesting opened : Nat) : List Token → List Token
  | [] => []
  | token :: rest =>
      match token.kind.opens? with
      | some enclosure =>
          if opened < nesting then token :: within nesting (opened + 1) rest
          else ⟨.broken (.tooDeep enclosure), token.position⟩ :: rest
      | none => token :: within nesting (token.kind.openBehind opened) rest

end VerifierBootstrap.Json
