import VerifierBootstrap.Pipeline
import VerifierBootstrap.Solidity.Library
import VerifierBootstrap.Tools.Formatter

/-! Generated libraries as files: written whole, and formatted then. -/

namespace VerifierBootstrap.Solidity

/-- Makes the directory of a file and writes the file. -/
def place (path : Path) (content : Text) : Action Unit := do
  Host.ensureDirectory path.parent
  Host.writeSource path content

/-- Turns a refusal of the file system into a shortage. -/
def orShortage {α : Type} (shortage : FileFault → Shortage) (action : Action α) : Action α :=
  tryCatch action fun
    | .file fault => throw (.availability (shortage fault))
    | failure => throw failure

/-- Writes a library and formats it. -/
def writeLibrary (path : Path) (content : Text) (formatter : Formatter) : Action Unit := do
  orShortage (.unwritable none path.text) (place path content)
  Host.note .info s!"wrote {path.text}"
  formatter.format path

/-- Writes the library of a control root, and gives its text. -/
def emitControlId (controlRoot : Digest) (path : Path) (formatter : Formatter)
    : Action Text := do
  let content := (controlIdLibrary controlRoot).render
  writeLibrary path content formatter
  return content

/-- What a contract needs of the product of a pipeline. -/
def testVector (product : Pipeline.Product) : Except Failure TestVector := do
  let proof ← product.receipt.groth16
  let postDigest ← product.receipt.claim.after.digest
  return ⟨proof.sealBytes, postDigest, product.receipt.journal, product.imageId⟩

/-- Runs a pipeline and writes the library of its receipt. Gives the text and the image id. -/
def emitTestReceipt (pipeline : Pipeline) (path : Path) (formatter : Formatter)
    : Action (Text × Digest) := do
  let product ← pipeline.run
  let vector ← Action.ofExcept (testVector product)
  let content := vector.library.render
  writeLibrary path content formatter
  return (content, product.imageId)

/-- Writes the library of a control root where the settings say. -/
def bootstrapControlId (settings : BootstrapSettings) (controlRoot : Digest)
    (formatter : Formatter) : Action Text :=
  emitControlId controlRoot (settings.path settings.solidityControlId) formatter

/-- Runs a pipeline and writes the library of its receipt where the settings say. -/
def bootstrapTestReceipt (settings : BootstrapSettings) (pipeline : Pipeline)
    (formatter : Formatter) : Action (Text × Digest) :=
  emitTestReceipt pipeline (settings.path settings.solidityTestReceipt) formatter

end VerifierBootstrap.Solidity
