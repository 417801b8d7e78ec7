import VerifierBootstrap.CommandLine.Report
import VerifierBootstrap.Solidity.Emission
import VerifierBootstrap.Source.VerifierFiles

/-!
The command that brings both verifiers up to date: first the verifying key of the host verifier,
then the library of the control root, last the library of a test receipt. What comes from the
development engine is written only when development mode was asked for.
-/

namespace VerifierBootstrap.CommandLine

/-- What the command was asked for. -/
structure BootstrapOrder where
  root : Path
  workDirectory : Option Path
  controlRoot : Option String
  devMode : Bool
  skipVerifyingKey : Bool
  skipControlId : Bool
  skipTestReceipt : Bool
deriving Repr, DecidableEq

namespace BootstrapOrder

/-- The root of both verifiers. -/
def rootChoice : Choice := ⟨"root", none, true⟩

/-- The directory that the pipeline works in. -/
def workDirectoryChoice : Choice := ⟨"work-dir", none, true⟩

/-- The control root in hexadecimal. -/
def controlRootChoice : Choice := ⟨"control-root", none, true⟩

/-- Whether material of the development engine may be written. -/
def devModeChoice : Choice := ⟨"dev-mode", none, false⟩

/-- Leaves the host verifier alone. -/
def skipVerifyingKeyChoice : Choice := ⟨"skip-verifying-key", none, false⟩

/-- Leaves the library of the control root alone. -/
def skipControlIdChoice : Choice := ⟨"skip-control-id", none, false⟩

/-- Leaves the library of the test receipt alone. -/
def skipTestReceiptChoice : Choice := ⟨"skip-test-receipt", none, false⟩

/-- Shows more of the log. -/
def verboseChoice : Choice := ⟨"verbose", some 'v', false⟩

/-- The options of the command. -/
def choices : List Choice :=
  [rootChoice, workDirectoryChoice, controlRootChoice, devModeChoice, skipVerifyingKeyChoice,
   skipControlIdChoice, skipTestReceiptChoice, verboseChoice]

/-- The root that given options name: the working directory unless they do. An empty name is the
working directory too, but an option without a value names no path.
-/
def rootOf (given : List Given) : Except Failure Path :=
  match last? given rootChoice with
  | none => .ok Path.here
  | some ⟨_, none⟩ => .error .noPath
  | some ⟨_, some written⟩ => .ok (Path.ofString (String.ofList written))

/-- The order that given options make. -/
def ofGiven (given : List Given) : Except Failure BootstrapOrder := do
  return {
    root := ← rootOf given
    workDirectory := (filledValue? given workDirectoryChoice).map Path.ofString
    controlRoot := filledValue? given controlRootChoice
    devMode := isGiven given devModeChoice
    skipVerifyingKey := isGiven given skipVerifyingKeyChoice
    skipControlId := isGiven given skipControlIdChoice
    skipTestReceipt := isGiven given skipTestReceiptChoice
  }

/-- The settings of an order in an environment. -/
def settings (order : BootstrapOrder) (environment : Environment) : BootstrapSettings :=
  let usual := BootstrapSettings.ofEnvironment order.root environment
  { usual with
    workDirectory := order.workDirectory.or usual.workDirectory
    controlRoot := order.controlRoot }

/-- Refuses an order that would need the development engine without development mode. -/
def check (order : BootstrapOrder) : Except Failure Unit :=
  if order.devMode then .ok ()
  else if !order.skipControlId && order.controlRoot.isNone then .error (.config .noControlRoot)
  else if !order.skipTestReceipt then .error (.config .noDevMode)
  else .ok ()

/-- Brings the verifying key up to date. -/
def syncKey (order : BootstrapOrder) (settings : BootstrapSettings) : Action Findings := do
  if order.skipVerifyingKey then return []
  let result ← VerifyingKey.synchronizeFiles settings .rust
  return [("verifying_key", Json.ofFields
    [("replaced", textItems (result.replaced.map fun (pairing, _) => pairing.target)),
     ("missing_source", textItems result.missingSource),
     ("missing_target", textItems result.missingTarget)])]

/-- The control root to write: the given one, or that of the development engine. -/
def chooseControlRoot (settings : BootstrapSettings) : Action Digest := do
  match settings.controlRoot with
  | some written =>
      Action.ofExcept ((Digest.parse written.toList).mapError Failure.digest)
  | none =>
      let controlRoot := DevMode.standard.controlRoot
      Host.note .warning
        s!"writing the dev-mode control root {controlRoot.text}, do not deploy it"
      return controlRoot

/-- Writes the library of the control root. -/
def writeControlId (order : BootstrapOrder) (settings : BootstrapSettings)
    : Action Findings := do
  if order.skipControlId then return []
  let controlRoot ← chooseControlRoot settings
  discard <| Solidity.bootstrapControlId settings controlRoot .solidity
  return [("control_root", Json.ofString controlRoot.text)]

/-- Writes the library of the test receipt. -/
def writeTestReceipt (order : BootstrapOrder) (settings : BootstrapSettings)
    : Action Findings := do
  if order.skipTestReceipt then return []
  Host.note .warning "generating TestReceipt.sol from the dev-mode zkVM"
  let pipeline : Pipeline :=
    ⟨DevMode.standard.engine, .container .standard, settings.workDirectory, 0⟩
  let (_, imageId) ← Solidity.bootstrapTestReceipt settings pipeline .solidity
  return [("image_id", Json.ofString imageId.text)]

/-- Carries out an order, its steps one after the other. -/
def carryOut (order : BootstrapOrder) : Action Findings := do
  let settings := order.settings (← get).environment
  Action.ofExcept order.check
  let key ← order.syncKey settings
  let controlId ← order.writeControlId settings
  let receipt ← order.writeTestReceipt settings
  return ("dev_mode", .boolean order.devMode) :: (key ++ controlId ++ receipt)

end BootstrapOrder

/-- The command that brings both verifiers up to date. -/
def bootstrap (arguments : List String) : StateM Host Exit :=
  serve BootstrapOrder.choices arguments fun given => do
    (← Action.ofExcept (BootstrapOrder.ofGiven given)).carryOut

end VerifierBootstrap.CommandLine
