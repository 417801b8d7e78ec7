import VerifierBootstrap.Failure

/-!
The seal of a Groth16 proof: eight field elements in three groups. `toBytes` writes them one
behind the other and `ofBytes` cuts bytes into elements of one size again.
-/

namespace VerifierBootstrap

/-- The elements of a proof by group. The groups `a` and `c` hold points, and `b` pairs. -/
structure Groth16Seal where
  a : List Bytes
  b : List (List Bytes)
  c : List Bytes
deriving Repr, DecidableEq

namespace Groth16Seal

/-- The size of a field element. -/
def elementSize : Nat := 32

/-- The elements in the order in which they are written. -/
def elements (proof : Groth16Seal) : List Bytes :=
  proof.a ++ proof.b.flatten ++ proof.c

/-- All elements, one behind the other. -/
def toBytes (proof : Groth16Seal) : Bytes :=
  proof.elements.flatten

/-- Cuts bytes into pieces of a positive size. -/
def pieces (size : Nat) : Bytes → List Bytes
  | [] => []
  | byte :: rest => (byte :: rest.take (size - 1)) :: pieces size (rest.drop (size - 1))
termination_by bytes => bytes.length
decreasing_by simp only [List.length_cons, List.length_drop]; omega

/-- The failure of bytes that are not eight elements of a size. -/
def sizeFailure (size : Int) (bytes : Bytes) : Failure :=
  if Failure.isWritable (8 * size) then .decode "seal" (.sealSize (8 * size) bytes.length)
  else .unwritableInteger

/-- Cuts bytes into the eight elements of a seal. The size may be any integer; only a positive
one fits some bytes.
-/
def ofBytes (size : Int) (bytes : Bytes) : Except Failure Groth16Seal :=
  if (bytes.length : Int) ≠ 8 * size then .error (sizeFailure size bytes)
  else if size = 0 then .error .emptyElement
  else
    let element := pieces size.toNat bytes
    .ok ⟨element.take 2, [(element.drop 2).take 2, (element.drop 4).take 2],
      (element.drop 6).take 2⟩

end Groth16Seal

end VerifierBootstrap
