import VerifierBootstrap.Number.Binary64
import VerifierBootstrap.Text.Utf8

/-!
JSON values. An escape can name one half of a surrogate pair without the other, so the
characters of a JSON string are a little more than those of a text.
-/

namespace VerifierBootstrap

namespace Json

/-- A character of a JSON string. -/
inductive Point where
  | scalar (char : Char)
  /-- A surrogate that stands alone. -/
  | surrogate (unit : Nat)
deriving Repr, DecidableEq

/-- A JSON string. -/
abbrev Points := List Point

/-- The JSON string of a text. -/
def Points.ofText (text : Text) : Points :=
  text.map .scalar

/-- The text of a JSON string, if no surrogate stands alone in it. -/
def Points.toText? : Points → Option Text
  | [] => some []
  | .scalar char :: rest => (toText? rest).map (char :: ·)
  | .surrogate _ :: _ => none

/-- A unit that begins a surrogate pair. -/
def isHighSurrogate (unit : Nat) : Bool :=
  0xD800 ≤ unit && unit ≤ 0xDBFF

/-- A unit that ends a surrogate pair. -/
def isLowSurrogate (unit : Nat) : Bool :=
  0xDC00 ≤ unit && unit ≤ 0xDFFF

/-- The character of a sixteen-bit unit. -/
def Point.ofUnit (unit : Nat) : Point :=
  if isHighSurrogate unit || isLowSurrogate unit then .surrogate unit
  else .scalar (Char.ofNat unit)

/-- Joins each high surrogate with a low one right behind it. -/
def Points.joinPairs : Points → Points
  | .surrogate high :: .surrogate low :: rest =>
      if isHighSurrogate high && isLowSurrogate low then
        .scalar (Char.ofNat (0x10000 + (high - 0xD800) * 0x400 + (low - 0xDC00)))
          :: joinPairs rest
      else
        .surrogate high :: joinPairs (.surrogate low :: rest)
  | point :: rest => point :: joinPairs rest
  | [] => []

end Json

/-- A JSON value. Numbers without fraction and exponent are integers of any size; objects keep
their keys in the order of first appearance, each once.
-/
inductive Json where
  | null
  | boolean (value : Bool)
  | integer (value : Int)
  | real (value : Binary64)
  | string (points : Json.Points)
  | array (items : List Json)
  | object (fields : List (Json.Points × Json))

namespace Json

/-- The JSON string of a string. -/
def ofString (value : String) : Json :=
  .string (Points.ofText value.toList)

/-- The JSON string of a text. -/
def ofText (text : Text) : Json :=
  .string (Points.ofText text)

/-- An object from keys that are written as they are. -/
def ofFields (fields : List (String × Json)) : Json :=
  .object (fields.map fun (key, value) => (Points.ofText key.toList, value))

/-- Sets a key of an object: a key that is there keeps its place and takes the new value, a new
key goes to the end.
-/
def setField (key : Points) (value : Json)
    : List (Points × Json) → List (Points × Json)
  | [] => [(key, value)]
  | (other, old) :: rest =>
      if other = key then (key, value) :: rest
      else (other, old) :: setField key value rest

/-- The value of a key of an object. -/
def field? (value : Json) (key : String) : Option Json :=
  match value with
  | .object fields => fields.lookup (Points.ofText key.toList)
  | _ => none

/-- The text of a string without lone surrogates. -/
def text? : Json → Option Text
  | .string points => points.toText?
  | _ => none

/-- A string as a string of Lean, if no surrogate stands alone in it. -/
def string? (value : Json) : Option String :=
  value.text?.map String.ofList

/-- The integer that a value is. -/
def integer? : Json → Option Int
  | .integer value => some value
  | _ => none

/-- The truth value that a value is. -/
def boolean? : Json → Option Bool
  | .boolean value => some value
  | _ => none

/-- The items of an array. -/
def items? : Json → Option (List Json)
  | .array items => some items
  | _ => none

/-- What values can be enclosed in. -/
inductive Enclosure where
  | array
  | object
deriving Repr, DecidableEq

/-- The name of an enclosure. -/
def Enclosure.name : Enclosure → String
  | array => "array"
  | object => "object"

/-- The name of the kind of a value. -/
def kindName : Json → String
  | .null => "NoneType"
  | .boolean _ => "bool"
  | .integer _ => "int"
  | .real _ => "float"
  | .string _ => "str"
  | .array _ => "list"
  | .object _ => "dict"

end Json

end VerifierBootstrap
