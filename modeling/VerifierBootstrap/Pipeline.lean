import VerifierBootstrap.Engine.DevMode
import VerifierBootstrap.Settings.Bootstrap
import VerifierBootstrap.Tools.Prover
import VerifierBootstrap.Witness.Exchange

/-!
The pipeline from a guest program to a receipt that a contract can verify. Its stages run once
each, in order, and the first that fails ends the run.
-/

namespace VerifierBootstrap

/-- The engine and the prover of a pipeline, where it works, and the cycles the guest is to spin.
-/
structure Pipeline where
  engine : Engine
  prover : Prover
  /-- The work directory; without one the environment may name it, and else it is temporary. -/
  workDirectory : Option Path
  cycles : Int

namespace Pipeline

/-- The number of segments that the execution has to come to. -/
def expectedSegments : Nat := 1

/-- What a run of the pipeline gives. -/
structure Product where
  receipt : Receipt
  imageId : Digest
deriving DecidableEq

/-- Executes the guest, which has to come to a single segment. -/
def executeGuest (pipeline : Pipeline) : Action (Segment × Session) := do
  Host.note .info "execute"
  let input ← Action.ofExcept (GuestInput.encode pipeline.cycles)
  let session ← Action.ofExcept (pipeline.engine.execute input)
  let count := session.segments.length
  Host.note .debug s!"executed {session.cycles} cycles in {count} segment(s)"
  match session.segments with
  | [segment] => return (segment, session)
  | _ => throw (.proof (.segmentCount expectedSegments count))

/-- Proves a segment, and carries the proof over to one of uniform size that is checked at once.
-/
def proveAndLift (pipeline : Pipeline) (segment : Segment) : Action SuccinctReceipt := do
  Host.note .info "prove"
  let proved ← Action.ofExcept (pipeline.engine.proveSegment segment)
  Host.note .info "lift"
  let lifted ← Action.ofExcept (pipeline.engine.lift proved)
  Action.ofExcept lifted.verifyIntegrity
  return lifted

/-- Writes the witness of a lifted receipt. -/
def prepareWitness (pipeline : Pipeline) (lifted : SuccinctReceipt) (work : Path)
    : Action Unit := do
  Host.note .info "identity_p254"
  let identity ← Action.ofExcept (pipeline.engine.identity lifted)
  Host.note .info "seal-to-json"
  discard <| Witness.write identity.sealBytes work

/-- Has the witness proved, and reads the proof. -/
def proveWitness (pipeline : Pipeline) (work : Path) : Action Groth16Seal := do
  let name := pipeline.prover.name
  Host.note .info s!"groth16-prover ({name})"
  let status ← pipeline.prover.run work
  if status ≠ 0 then throw (.process name (some status) "")
  Witness.readOutput work

/-- Runs all stages in a work directory that is there. -/
def runIn (pipeline : Pipeline) (work : Path) : Action Product := do
  let (segment, session) ← pipeline.executeGuest
  let lifted ← pipeline.proveAndLift segment
  pipeline.prepareWitness lifted work
  let proof ← pipeline.proveWitness work
  Host.note .info "Groth16Seal"
  return ⟨⟨.groth16 ⟨lifted.claim, proof.toBytes⟩, session.journal⟩, pipeline.engine.imageId⟩

/-- What the names of temporary work directories begin with. -/
def temporaryLabel : String := "groth16-bootstrap-"

/-- Runs all stages, and leaves no temporary directory behind. -/
def run (pipeline : Pipeline) : Action Product := do
  let environment := (← get).environment
  match pipeline.workDirectory.or (BootstrapSettings.workDirectoryOf environment) with
  | some work =>
      Host.ensureDirectory work
      pipeline.runIn work
  | none => Host.withTemporaryDirectory temporaryLabel pipeline.runIn

end Pipeline

end VerifierBootstrap
