import VerifierBootstrap.Number.Shortest
import VerifierBootstrap.Text.Digit
import VerifierBootstrap.Text.Quoted

/-! JSON values as messages show them. -/

namespace VerifierBootstrap.Json

mutual

/-- A value as messages show it. -/
def describe : Json → Text
  | .null => "None".toList
  | .boolean true => "True".toList
  | .boolean false => "False".toList
  | .integer value => Text.ofInt value
  | .real value => value.describe
  | .string points => Text.quote points
  | .array items => '[' :: describeItems items ++ [']']
  | .object fields => '\x7b' :: describeFields fields ++ ['\x7d']

/-- Items with a comma and a space between them. -/
def describeItems : List Json → Text
  | [] => []
  | [item] => describe item
  | item :: rest => describe item ++ ',' :: ' ' :: describeItems rest

/-- Fields with a comma and a space between them. -/
def describeFields : List (Points × Json) → Text
  | [] => []
  | [(key, value)] => Text.quote key ++ ':' :: ' ' :: describe value
  | (key, value) :: rest =>
      Text.quote key ++ ':' :: ' ' :: describe value ++ ',' :: ' ' :: describeFields rest

end

/-- A value as messages show it. -/
def shown (value : Json) : String :=
  String.ofList value.describe

end VerifierBootstrap.Json
