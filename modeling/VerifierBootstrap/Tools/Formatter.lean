import VerifierBootstrap.Host.Files

/-! Formatters: programs that are run over a file that was written. -/

namespace VerifierBootstrap

/-- A program and its first arguments; the path of the file comes last. -/
structure Formatter where
  command : List String
deriving Repr, DecidableEq

namespace Formatter

/-- The formatter of the host verifier. -/
def rust : Formatter :=
  ⟨["rustfmt"]⟩

/-- The formatter of contracts. -/
def solidity : Formatter :=
  ⟨["forge", "fmt"]⟩

/-- The words of a formatter, which name it. -/
def name (formatter : Formatter) : String :=
  " ".intercalate formatter.command

/-- Formats the file at a path. A formatter that cannot start or does not end well is a failure.
-/
def format (formatter : Formatter) (path : Path) : Action Unit := do
  Host.note .info s!"formatting {path.text} with {formatter.name}"
  let detail := s!"failed to format {path.text}"
  match ← Host.start (formatter.command ++ [path.text]) with
  | .error fault => throw (.process formatter.name none s!"{detail}: {fault.message}")
  | .ok status =>
      if status ≠ 0 then throw (.process formatter.name (some status) detail)

end Formatter

end VerifierBootstrap
