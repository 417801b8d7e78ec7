import VerifierBootstrap.Json.Token

/-!
From tokens to a JSON value. The parser walks the tokens once and keeps the arrays and objects
that are still open on a stack, so `parse` answers on every text. `parseWithin` has room for a
number of them only, and fails where a text opens one more.
-/

namespace VerifierBootstrap.Json

/-- An array or object that is still open. -/
inductive Frame where
  /-- An array, with its items so far, last first. -/
  | array (items : List Json)
  /-- An object, with its fields so far and the key that waits for a value. -/
  | object (fields : List (Points × Json)) (key : Points)

/-- What may stand next. -/
inductive Expected where
  /-- A value. -/
  | value
  /-- A value, or the end of an array that has just been opened. -/
  | firstItem
  /-- A key of the object with these fields. -/
  | key (fields : List (Points × Json))
  /-- A key, or the end of an object that has just been opened. -/
  | firstKey
  /-- The colon behind a key. -/
  | colon (fields : List (Points × Json)) (key : Points)
  /-- What may follow a value. -/
  | after (value : Json)

namespace Expected

/-- The message when something else stands there. -/
def message : Expected → List Frame → String
  | value, _ | firstItem, _ => "Expecting value"
  | key _, _ | firstKey, _ => "Expecting property name enclosed in double quotes"
  | colon _ _, _ => "Expecting ':' delimiter"
  | after _, [] => "Extra data"
  | after _, _ => "Expecting ',' delimiter"

end Expected

/-- One token further. A value closes nothing by itself: `after` waits for what follows it. -/
def step (expected : Expected) (stack : List Frame) (token : Token)
    : Except Fault (Expected × List Frame) :=
  match expected, stack, token.kind with
  | .value, _, .scalar value | .firstItem, _, .scalar value => .ok (.after value, stack)
  | .value, _, .string points | .firstItem, _, .string points =>
      .ok (.after (.string points), stack)
  | .value, _, .openArray | .firstItem, _, .openArray =>
      .ok (.firstItem, .array [] :: stack)
  | .value, _, .openObject | .firstItem, _, .openObject => .ok (.firstKey, stack)
  | .value, _, .broken fault | .firstItem, _, .broken fault => .error fault
  | .firstItem, .array items :: rest, .closeArray => .ok (.after (.array items.reverse), rest)
  | .key fields, _, .string points => .ok (.colon fields points, stack)
  | .firstKey, _, .string points => .ok (.colon [] points, stack)
  | .key _, _, .broken (.malformed message position)
  | .firstKey, _, .broken (.malformed message position) => .error (.malformed message position)
  | .firstKey, _, .closeObject => .ok (.after (.object []), stack)
  | .colon fields key, _, .colon => .ok (.value, .object fields key :: stack)
  | .after value, .array items :: rest, .comma => .ok (.value, .array (value :: items) :: rest)
  | .after value, .array items :: rest, .closeArray =>
      .ok (.after (.array (value :: items).reverse), rest)
  | .after value, .object fields key :: rest, .comma =>
      .ok (.key (setField key value fields), rest)
  | .after value, .object fields key :: rest, .closeObject =>
      .ok (.after (.object (setField key value fields)), rest)
  | _, _, _ => .error (.malformed (expected.message stack) token.position)

/-- Walks the tokens to the end of the text. -/
def run (expected : Expected) (stack : List Frame) : List Token → Except Fault Json
  | [] => .error (.malformed (expected.message stack) 0)
  | token :: rest =>
      match expected, stack, token.kind with
      | .after value, [], .endOfText => .ok value
      | _, _, _ =>
          match step expected stack token with
          | .ok (next, frames) => run next frames rest
          | .error fault => .error fault

/-- The value that a text spells. -/
def parse (text : Text) : Except Fault Json :=
  run .value [] (tokens text)

/-- The value that a text spells, with room for so many arrays and objects to be open at once. -/
def parseWithin (nesting : Nat) (text : Text) : Except Fault Json :=
  run .value [] (within nesting 0 (tokens text))

/-- The line of a position, counted from one. -/
def lineOf (text : Text) (position : Nat) : Nat :=
  (text.take position).count '\n' + 1

/-- The column of a position, counted from one behind the last line feed before it. -/
def columnOf (text : Text) (position : Nat) : Nat :=
  ((text.take position).reverse.takeWhile (· ≠ '\n')).length + 1

/-- A fault of the grammar in words, with the place in the text. -/
def describeFault (text : Text) (message : String) (position : Nat) : String :=
  s!"{message}: line {lineOf text position} column {columnOf text position} (char {position})"

end VerifierBootstrap.Json
