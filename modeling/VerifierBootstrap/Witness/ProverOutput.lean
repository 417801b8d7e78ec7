import VerifierBootstrap.Json.Display
import VerifierBootstrap.Json.Parser
import VerifierBootstrap.Receipt.Groth16Seal

/-!
The output of the external prover: groups of hexadecimal strings, written one behind the other
with commas between them and no brackets around them. The first three are the proof; what
follows is ignored. A fault names the group it is in.
-/

namespace VerifierBootstrap.Witness

/-- The bytes of a token: digit pairs, behind one mark or none. -/
def tokenBytes? (points : Json.Points) : Option Bytes :=
  points.toText?.bind fun text => Hex.decode? (Hex.dropMark text)

/-- The bytes of a token of a group. -/
def decodeToken (group : String) (token : Json) : Except Failure Bytes :=
  match token with
  | .string points =>
      match tokenBytes? points with
      | some bytes => .ok bytes
      | none => .error (.decode group (.notHex token.shown))
  | _ => .error (.decode group (.notString token.shown))

/-- The two elements of a list of tokens. -/
def decodePair (group : String) (value : Json) : Except Failure (List Bytes) :=
  match value with
  | .array items =>
      if items.length ≠ 2 then .error (.decode group (.itemCount items.length))
      else items.mapM (decodeToken group)
  | _ => .error (.decode group (.notList value.kindName))

/-- The two pairs of the middle group. -/
def decodePairs (group : String) (value : Json) : Except Failure (List (List Bytes)) :=
  match value with
  | .array [first, second] => [first, second].mapM (decodePair group)
  | _ => .error (.decode group (.notPairs value.shown))

/-- The groups of an output, which the brackets around it make a JSON array. The parser has room for
so many arrays and objects to be open at once.
-/
def groups (nesting : Nat) (output : Text) : Except Failure (List Json) :=
  let text := '[' :: output ++ [']']
  match Json.parseWithin nesting text with
  | .ok (.array items) => .ok items
  | .ok _ => .ok []
  | .error (.malformed message position) =>
      .error (.decode "output" (.malformed (Json.describeFault text message position)))
  | .error (.longInteger digits) => .error (.longInteger digits)
  | .error (.tooDeep enclosure) => .error (.tooDeep enclosure)

/-- The names of the groups of a proof, in order. -/
def groupNames : List String := ["a", "b", "c"]

/-- The proof in an output. The groups are read in order; with the result or the failure comes
the number of groups whose reading was begun.
-/
def parse (nesting : Nat) (output : Text) : Nat × Except Failure Groth16Seal :=
  match groups nesting output with
  | .error failure => (0, .error failure)
  | .ok (first :: second :: third :: _) =>
      match decodePair "a" first with
      | .error failure => (1, .error failure)
      | .ok a =>
          match decodePairs "b" second with
          | .error failure => (2, .error failure)
          | .ok b => (3, (decodePair "c" third).map fun c => ⟨a, b, c⟩)
  | .ok items => (0, .error (.decode "output" (.groupCount items.length)))

/-- The proof in an output. -/
def readProof (nesting : Nat) (output : Text) : Except Failure Groth16Seal :=
  (parse nesting output).2

end VerifierBootstrap.Witness
