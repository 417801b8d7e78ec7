import VerifierBootstrap.Path
import VerifierBootstrap.Settings.Machine

/-! Where the recursion circuit comes from and where it is kept. -/

namespace VerifierBootstrap

/-- The name and the digest of an artifact, its server, its local copy and its cache. -/
structure ArtifactSettings where
  filename : String
  /-- The expected digest, as it was written. -/
  sha256 : String
  urlBase : String
  sourcePath : Path
  cacheDirectory : Option Path
  /-- Documentation is built without the artifact. -/
  documentationBuild : Bool
deriving Repr, DecidableEq

namespace ArtifactSettings

/-- Where the local copy is, unless the environment says otherwise. -/
def usualSourcePath : String := "src/recursion_zkr.zip"

/-- The settings without an environment. -/
def standard : ArtifactSettings where
  filename := "recursion_zkr.zip"
  sha256 := "ae5736a42189aec2f04936c3aee4b5441e48b26b4fa1fae28657cf50cdf3cae4"
  urlBase := "https://risc0-artifacts.s3.us-west-2.amazonaws.com/zkr"
  sourcePath := Path.ofString usualSourcePath
  cacheDirectory := none
  documentationBuild := false

/-- The settings in an environment. An empty path is as good as none. -/
def ofEnvironment (environment : Environment) : ArtifactSettings :=
  { standard with
    sourcePath :=
      Path.ofString ((environment.filled? "RECURSION_SRC_PATH").getD usualSourcePath)
    cacheDirectory := (environment.filled? "OUT_DIR").map Path.ofString
    documentationBuild := environment.has "DOCS_RS" }

/-- Where the artifact of a digest can be fetched. -/
def urlFor (settings : ArtifactSettings) (digest : String) : String :=
  s!"{settings.urlBase}/{digest}.zip"

end ArtifactSettings

end VerifierBootstrap
