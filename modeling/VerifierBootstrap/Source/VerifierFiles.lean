import VerifierBootstrap.Settings.Bootstrap
import VerifierBootstrap.Source.VerifyingKey
import VerifierBootstrap.Tools.Formatter

/-!
The verifying key in the files of both verifiers. The contract is read, and the key of the host
verifier is brought into line with it; all other text of the host verifier stays.
-/

namespace VerifierBootstrap.VerifyingKey

/-- Reads a verifier. A refusal of the file system is a shortage; a content that is no text ends
the operation as such.
-/
def readVerifier (path : Path) (subject : String) : Action Text :=
  tryCatch (Host.readText path) fun
    | .file fault => throw (.availability (.unreadable subject path.text fault))
    | failure => throw failure

/-- Writes the host verifier. -/
def writeVerifier (path : Path) (text : Text) : Action Unit :=
  tryCatch (Host.writeSource path text) fun
    | .file fault =>
        throw (.availability (.unwritable (some "Rust verifier") path.text fault))
    | failure => throw failure

/-- Notes a warning for each constant that is missing on a side. -/
def noteWarnings (result : Sync.Result) : Action Unit :=
  (result.warnings .verifiers).forM (Host.note .warning)

/-- Synchronizes the key of the host verifier with the contract, and formats it. A contract
without any constant of the key is a failure, found before anything is written.
-/
def synchronizeFiles (settings : BootstrapSettings) (formatter : Formatter)
    : Action Sync.Result := do
  let contractPath := settings.path settings.solidityVerifier
  let hostPath := settings.path settings.rustVerifier
  let contract ← readVerifier contractPath "Solidity verifier"
  let hostText ← readVerifier hostPath "Rust verifier"
  let result := synchronize contract hostText
  noteWarnings result
  if result.missingSource.length = pairings.length then
    throw (.noConstants contractPath.text)
  writeVerifier hostPath result.text
  Host.note .info s!"updated {result.replaced.length} constant(s) in {hostPath.text}"
  formatter.format hostPath
  return result

end VerifierBootstrap.VerifyingKey
