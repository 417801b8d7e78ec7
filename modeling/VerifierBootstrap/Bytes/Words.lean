import VerifierBootstrap.Text.Utf8

/-!
Words of fixed width in little-endian byte order. A field takes an integer only if its width
can hold it as an unsigned number.
-/

namespace VerifierBootstrap.Words

/-- The lowest `width` bytes of a number, lowest first. -/
def encode : Nat → Nat → Bytes
  | 0, _ => []
  | width + 1, value => UInt8.ofNat (value % 256) :: encode width (value / 256)

/-- The number that bytes spell, lowest first. -/
def decode : Bytes → Nat
  | [] => 0
  | byte :: rest => byte.toNat + 256 * decode rest

/-- The field of `width` bytes that holds an integer, if one of that width does. -/
def field? (width : Nat) (value : Int) : Option Bytes :=
  if 0 ≤ value ∧ value < Nat.pow 256 width then some (encode width value.toNat) else none

/-- Cuts bytes into words of four. A last group of fewer is left out. -/
def split32 : Bytes → List Nat
  | a :: b :: c :: d :: rest => decode [a, b, c, d] :: split32 rest
  | _ => []

end VerifierBootstrap.Words
