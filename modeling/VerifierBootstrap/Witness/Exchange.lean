import VerifierBootstrap.Bytes.Words
import VerifierBootstrap.Host.Files
import VerifierBootstrap.Json.Printer
import VerifierBootstrap.Witness.ProverOutput

/-!
The files that are exchanged with the external prover, in a directory of both. The prover reads the
words of an identity seal as decimal strings, in a JSON document under the key `iop`, and leaves its
output.
-/

namespace VerifierBootstrap.Witness

/-- The decimal strings of the words of a seal. -/
def wordStrings (sealBytes : Bytes) : List Text :=
  (Words.split32 sealBytes).map Text.ofNat

/-- The document of a seal, whose length has to be a multiple of four. -/
def document (sealBytes : Bytes) : Except Failure Json :=
  if sealBytes.length % 4 ≠ 0 then
    .error (.decode "seal" (.unalignedSeal sealBytes.length))
  else .ok (Json.ofFields [("iop", .array ((wordStrings sealBytes).map Json.ofText))])

/-- The bytes of the document of a seal. -/
def documentBytes (sealBytes : Bytes) : Except Failure Bytes :=
  (document sealBytes).map fun value => Utf8.encode value.print

/-- The file of the seal itself. -/
def sealName : String := "seal.r0"

/-- The file that the prover reads. -/
def witnessName : String := "input.json"

/-- The file that the prover writes. -/
def outputName : String := "output.json"

/-- Writes the seal and the document of its words, and gives the path of the document. The
document's file is opened, and so emptied, before the words are made.
-/
def write (sealBytes : Bytes) (directory : Path) : Action Path := do
  Host.writeBytes (directory.child sealName) sealBytes
  let path := directory.child witnessName
  Host.writeBytes path []
  Host.writeBytes path (← Action.ofExcept (documentBytes sealBytes))
  return path

/-- The proof in a text, with a line in the log for each group that is begun. -/
def readGroups (nesting : Nat) (output : Text) : Action Groth16Seal := do
  let (begun, result) := parse nesting output
  (groupNames.take begun).forM fun group => Host.note .info s!"decode {group}"
  Action.ofExcept result

/-- The proof that the prover left in a directory. -/
def readOutput (directory : Path) : Action Groth16Seal := do
  let path := directory.child outputName
  unless ← Host.fileExists path do
    throw (.availability (.noProverOutput path.text))
  let output ← Host.readText path
  Host.note .info (String.ofList output)
  readGroups (← get).limits.nesting output

end VerifierBootstrap.Witness
