import VerifierBootstrap.Source.Declaration

/-!
Synchronization of constants. The pairings are taken in order: the value of the source constant
is written over the literal of the target constant, and nothing else of the target changes. A
constant that is missing on one side is noted, and its pairing passed over.
-/

namespace VerifierBootstrap

/-- A constant of the source and the constant of the target that has its value. -/
structure Pairing where
  source : Text
  target : Text
deriving Repr, DecidableEq

namespace Sync

/-- What has become of a pairing. -/
inductive Outcome where
  /-- The source does not declare its constant. -/
  | missingSource
  /-- The target does not declare its constant. -/
  | missingTarget
  /-- The target had the value of the source already. -/
  | unchanged
  /-- The target had another value and now has this one. -/
  | replaced (value : Text)
deriving Repr, DecidableEq

/-- The languages of the two sides. -/
structure Sides where
  source : Dialect
  target : Dialect
deriving Repr, DecidableEq

/-- The sides of the verifiers: the contract is the source of truth. -/
def Sides.verifiers : Sides :=
  ⟨.solidity, .rust⟩

/-- A text with the characters from `start` up to `stop` replaced. -/
def splice (text : Text) (start stop : Nat) (inserted : Text) : Text :=
  text.take start ++ inserted ++ text.drop stop

/-- Synchronizes one pairing. -/
def apply (sides : Sides) (source target : Text) (pairing : Pairing) : Text × Outcome :=
  match findDeclaration sides.source source pairing.source with
  | none => (target, .missingSource)
  | some given =>
      match findDeclaration sides.target target pairing.target with
      | none => (target, .missingTarget)
      | some found =>
          (splice target found.start found.stop (renderLiteral sides.target given.value),
           if found.value = given.value then .unchanged else .replaced given.value)

/-- A synchronized text, and what has become of each pairing, in order. -/
structure Result where
  text : Text
  entries : List (Pairing × Outcome)
deriving Repr, DecidableEq

namespace Result

/-- The pairings whose target has a new value, with that value. -/
def replaced (result : Result) : List (Pairing × Text) :=
  result.entries.filterMap fun
    | (pairing, .replaced value) => some (pairing, value)
    | _ => none

/-- The constants that the source does not declare. -/
def missingSource (result : Result) : List Text :=
  result.entries.filterMap fun
    | (pairing, .missingSource) => some pairing.source
    | _ => none

/-- The constants that the target does not declare. -/
def missingTarget (result : Result) : List Text :=
  result.entries.filterMap fun
    | (pairing, .missingTarget) => some pairing.target
    | _ => none

/-- Whether some value is new. -/
def changed (result : Result) : Bool :=
  !result.replaced.isEmpty

/-- A warning for each missing constant, in the order of the pairings. -/
def warnings (sides : Sides) (result : Result) : List String :=
  result.entries.filterMap fun
    | (pairing, .missingSource) => some s!"{String.ofList pairing.source} not found"
    | (pairing, .missingTarget) =>
        some s!"{String.ofList pairing.target} not found in {sides.target.name} source"
    | _ => none

end Result

/-- Synchronizes all pairings, each on the text that the ones before it leave. -/
def synchronize (sides : Sides) (source target : Text) : List Pairing → Result
  | [] => ⟨target, []⟩
  | pairing :: rest =>
      let (next, outcome) := apply sides source target pairing
      let result := synchronize sides source next rest
      ⟨result.text, (pairing, outcome) :: result.entries⟩

/-- Synchronizes if every search that comes up has a meaning. -/
def synchronize? (sides : Sides) (source target : Text) (pairings : List Pairing)
    : Option Result :=
  let sought := fun pairing : Pairing =>
    (findDeclaration sides.source source pairing.source).isSome
  if !pairings.isEmpty && Declaration.unsearchable sides.source source then none
  else if pairings.any sought && Declaration.unsearchable sides.target target then none
  else some (synchronize sides source target pairings)

end Sync

end VerifierBootstrap
