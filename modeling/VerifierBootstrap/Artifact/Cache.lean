import VerifierBootstrap.Host.Files
import VerifierBootstrap.Settings.Artifact

/-!
The artifact by its digest. A cached file with the right content is used as it is, next a local
copy is taken, and last the artifact is fetched; nothing is handed out whose content has another
digest. A download goes to a part file beside the cached one and is moved over at the end.
-/

namespace VerifierBootstrap

/-- An artifact that was checked against its digest. -/
structure Artifact where
  name : String
  path : Path
  digest : Digest
deriving DecidableEq

/-- A cache: its settings and the seconds that the server is given to answer. -/
structure ArtifactCache where
  settings : ArtifactSettings
  timeout : Int
deriving Repr, DecidableEq

namespace ArtifactCache

/-- The seconds that a server is given unless said otherwise. -/
def usualTimeout : Int := 600

/-- The size of one read of a file. -/
def readSize : Int := 1024 * 1024

/-- The digest of a content that is read piece by piece on a host. -/
def digestOf (size : Int) (content : Bytes) : Action Digest := do
  let host ← get
  Action.ofExcept ((Digest.ofReads host.limits.memory size content).mapError Failure.digest)

/-- The digest of the file at a path, read piece by piece. The file is opened before the size is
looked at.
-/
def fileDigest (size : Int) (path : Path) : Action Digest := do
  let content ← Host.readBytes path
  digestOf size content

/-- The digest of the file at a place as it was written. -/
def placeDigest (size : Int) (written : String) : Action Digest := do
  let content ← Host.readPlace written
  digestOf size content

/-- The file that a download is written to until it is complete. -/
def partPath (path : Path) : Path :=
  path.appendToName ".part"

/-- How a transfer into a part file ends. -/
inductive Received where
  /-- The body is complete, and this is the digest of its pieces. -/
  | complete (digest : Digest)
  | failed (fault : TransferFault)
deriving DecidableEq

/-- Writes pieces one behind the other to the end of a file. Empty pieces are passed over. -/
def appendPieces (part : Path) : List Bytes → Action Unit
  | [] => pure ()
  | piece :: rest => do
      unless piece.isEmpty do Host.appendBytes part piece
      appendPieces part rest

/-- Writes the body of a response to a part file. An error of the connection or the status comes
before the file is opened, and an interruption when the pieces before it are written.
-/
def receive (response : Response) (part : Path) : Action Received := do
  match response with
  | .refused fault => return .failed fault
  | .rejected fault => return .failed fault
  | .body chunks interruption =>
      Host.writeBytes part []
      appendPieces part chunks
      match interruption with
      | none => return .complete (Digest.ofParts (chunks.filter fun piece => !piece.isEmpty))
      | some fault => return .failed fault

/-- Ends after a failed transfer. What a session reports is a shortage, and leaves no part file;
anything else ends the operation at once.
-/
def abandon {α : Type} (url : String) (part : Path) (fault : TransferFault) : Action α := do
  match fault.origin with
  | .session =>
      Host.unlinkIfPresent part
      throw (.availability (.download url fault.message))
  | _ => throw (.transfer fault)

/-- Fetches the content of a digest to a path. -/
def download (cache : ArtifactCache) (expected : Digest) (path : Path) : Action Unit := do
  let url := cache.settings.urlFor expected.text
  Host.note .info s!"Downloading {url}"
  let part := partPath path
  match ← receive (← Host.request url cache.timeout) part with
  | .failed fault => abandon url part fault
  | .complete actual =>
      if actual ≠ expected then
        Host.unlinkIfPresent part
        throw (.integrity url expected.text actual.text)
      Host.move part path
      let content ← Host.readBytes path
      Host.note .info s!"downloaded {path.text} ({content.length} bytes)"

/-- Whether the cached file is the expected one. One with another content is removed. -/
def reuse (expected : Digest) (path : Path) : Action Bool := do
  if ← Host.fileExists path then
    if (← fileDigest readSize path) = expected then
      Host.note .info s!"using cached {path.text}"
      return true
    Host.note .warning s!"removing stale {path.text}"
    Host.unlink path
  return false

/-- Takes the local copy if it is the expected one, and says whether it was. -/
def copyLocal (expected : Digest) (source : Option Path) (path : Path) : Action Bool := do
  match source with
  | none => return false
  | some source =>
      if ← Host.fileExists source then
        if (← fileDigest readSize source) = expected then
          Host.note .info s!"copying {source.text} to {path.text}"
          Host.writeBytes path (← Host.readBytes source)
          return true
      return false

/-- The artifact with the digest that a person wrote, in a cache directory. There is none for a
documentation build.
-/
def obtain (cache : ArtifactCache) (digest : String) (source : Option Path)
    (directory : Path) : Action (Option Artifact) := do
  let filename := cache.settings.filename
  if cache.settings.documentationBuild then
    Host.note .info s!"documentation build, skipping {filename}"
    return none
  let expected ← Action.ofExcept ((Digest.parse digest.toList).mapError Failure.digest)
  Host.ensureDirectory directory
  let path := directory.child filename
  let artifact : Artifact := ⟨filename, path, expected⟩
  if ← reuse expected path then return some artifact
  if ← copyLocal expected source path then return some artifact
  cache.download expected path
  return some artifact

/-- The artifact as the settings describe it. -/
def obtainDefault (cache : ArtifactCache) : Action (Option Artifact) := do
  let settings := cache.settings
  if settings.cacheDirectory.isNone && !settings.documentationBuild then
    throw (.availability .noCacheDirectory)
  cache.obtain settings.sha256 (some settings.sourcePath)
    (settings.cacheDirectory.getD Path.here)

end ArtifactCache

end VerifierBootstrap
