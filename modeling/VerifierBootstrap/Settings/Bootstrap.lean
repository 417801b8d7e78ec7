import VerifierBootstrap.Path
import VerifierBootstrap.Settings.Machine

/-!
Where the files of both verifiers are, below one root, and where the pipeline works.
-/

namespace VerifierBootstrap

/-- The locations of the verifier sources, as written below the root, and of the pipeline. -/
structure BootstrapSettings where
  root : Path
  solidityVerifier : String
  solidityControlId : String
  solidityTestReceipt : String
  rustVerifier : String
  /-- The directory that the pipeline works in; a temporary one if there is none. -/
  workDirectory : Option Path
  /-- The control root in hexadecimal, if one was given. -/
  controlRoot : Option String
deriving Repr, DecidableEq

namespace BootstrapSettings

/-- The setting that names the work directory. -/
def workDirectorySetting : String := "RISC0_WORK_DIR"

/-- The work directory that an environment names; an empty name is none. -/
def workDirectoryOf (environment : Environment) : Option Path :=
  (environment.filled? workDirectorySetting).map Path.ofString

/-- The usual locations below a root. -/
def below (root : Path) : BootstrapSettings where
  root := root
  solidityVerifier := "bonsai/ethereum/contracts/groth16/Groth16Verifier.sol"
  solidityControlId := "bonsai/ethereum/contracts/groth16/ControlID.sol"
  solidityTestReceipt := "bonsai/ethereum/contracts/test/TestReceipt.sol"
  rustVerifier := "risc0/zkvm/src/host/groth16.rs"
  workDirectory := none
  controlRoot := none

/-- The settings below a root in an environment. -/
def ofEnvironment (root : Path) (environment : Environment) : BootstrapSettings :=
  { below root with workDirectory := workDirectoryOf environment }

/-- The path of a written path below the root. -/
def path (settings : BootstrapSettings) (written : String) : Path :=
  settings.root.child written

end BootstrapSettings

end VerifierBootstrap
