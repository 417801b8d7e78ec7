/-!
What a build finds on its machine: the environment, which passes settings around by name, and the
limits of the machine. A setting may be there and empty.
-/

namespace VerifierBootstrap

/-- Settings by name, each name once. -/
abbrev Environment := List (String × String)

namespace Environment

/-- Whether a setting is there. -/
def has (environment : Environment) (name : String) : Bool :=
  (environment.lookup name).isSome

/-- A setting that is there and not empty. -/
def filled? (environment : Environment) (name : String) : Option String :=
  match environment.lookup name with
  | some "" => none
  | found => found

end Environment

/-- What a machine can bear. It reads at least documents of three levels, and has memory for a read
of a mebibyte.
-/
structure Limits where
  /-- How many arrays and objects of a JSON text can be open at once. -/
  nesting : Nat
  /-- How many bytes can be set aside for one read. -/
  memory : Nat
  three_le_nesting : 3 ≤ nesting
  mebibyte_le_memory : 1024 * 1024 ≤ memory
deriving Repr, DecidableEq

namespace Limits

/-- The limits that are taken for those of a machine that is not known. -/
def usual : Limits where
  nesting := 990
  memory := 16 * 1024 * 1024 * 1024
  three_le_nesting := by decide
  mebibyte_le_memory := by decide

end Limits

end VerifierBootstrap
