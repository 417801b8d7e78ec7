import VerifierBootstrap.Host.Files

/-!
The external prover. It finds the witness in a directory, leaves its output there and ends with a
status. It is a container image, or a prover of the caller's own.
-/

namespace VerifierBootstrap

/-- A container image, and the tool to run it with if it is not the installed one. -/
structure Container where
  image : String
  tool : Option String
deriving Repr, DecidableEq

namespace Container

/-- The image of the prover. -/
def standard : Container :=
  ⟨"risc0-groth16-prover", none⟩

/-- The tool to run a container with: the given one, or else the installed one. -/
def tool? (container : Container) (installed : Option String) : Option String :=
  let named := fun tool : Option String => tool.filter fun name => name ≠ ""
  (named container.tool).or (named installed)

/-- The command that runs a container, its work directory mounted at `/mnt` by its path from the
root.
-/
def command (container : Container) (installed : Option String) (directory : Location)
    (work : Path) : Except Failure (List String) :=
  match container.tool? installed with
  | none => .error (.availability .noContainerTool)
  | some tool =>
      if work.holdsNul then .error .embeddedNul
      else
        let mounted := work.resolve directory
        .ok [tool, "run", "--rm", "-v", s!"{mounted.text}:/mnt", container.image]

/-- Runs a container over a work directory. -/
def run (container : Container) (work : Path) : Action Int := do
  let host ← get
  let command ← Action.ofExcept (container.command host.containerTool host.directory work)
  let words := " ".intercalate command
  Host.note .info s!"running {words}"
  match ← Host.start command with
  | .error fault => throw (.availability (.notStarted fault.place fault))
  | .ok status => return status

end Container

/-- A prover of the witness in a work directory. -/
inductive Prover where
  | container (setup : Container)
  /-- A prover that turns the files it finds into those it leaves. -/
  | custom (name : String) (behaviour : Path → FileTree → Except Failure Int × FileTree)

namespace Prover

/-- The prover's name. -/
def name : Prover → String
  | .container _ => "docker"
  | .custom name _ => name

/-- Has the witness in a work directory proved, and gives the status of the prover. -/
def run (prover : Prover) (work : Path) : Action Int := do
  match prover with
  | .container setup => setup.run work
  | .custom _ behaviour =>
      let host ← get
      Host.remember (.proved work host.files)
      let (outcome, files) := behaviour work host.files
      modify fun host => { host with files := files }
      Action.ofExcept outcome

end Prover

end VerifierBootstrap
