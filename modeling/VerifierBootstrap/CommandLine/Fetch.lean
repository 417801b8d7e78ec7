import VerifierBootstrap.Artifact.Cache
import VerifierBootstrap.CommandLine.Report
import VerifierBootstrap.Settings.Kernels

/-!
The command that provides the recursion circuit: it fetches or finds the artifact and reports
the kernel paths that the build is to pass on.
-/

namespace VerifierBootstrap.CommandLine

namespace FetchOrder

/-- The expected digest. -/
def digestChoice : Choice := ⟨"digest", none, true⟩

/-- The local copy to prefer. -/
def sourceChoice : Choice := ⟨"src", none, true⟩

/-- The directory of the cache. -/
def cacheDirectoryChoice : Choice := ⟨"out-dir", none, true⟩

/-- Shows more of the log. -/
def verboseChoice : Choice := ⟨"verbose", some 'v', false⟩

/-- The options of the command. -/
def choices : List Choice :=
  [digestChoice, sourceChoice, cacheDirectoryChoice, verboseChoice]

/-- The settings that given options make in an environment. An empty value is as good as none. -/
def settings (given : List Given) (environment : Environment) : ArtifactSettings :=
  let usual := ArtifactSettings.ofEnvironment environment
  { usual with
    sha256 := (filledValue? given digestChoice).getD usual.sha256
    sourcePath := ((filledValue? given sourceChoice).map Path.ofString).getD usual.sourcePath
    cacheDirectory :=
      ((filledValue? given cacheDirectoryChoice).map Path.ofString).or usual.cacheDirectory }

/-- What is reported of an artifact, or of its absence. -/
def artifactFindings : Option Artifact → Findings
  | none => [("skipped", .boolean true)]
  | some artifact =>
      [("artifact", Json.ofFields
        [("name", Json.ofString artifact.name), ("path", Json.ofString artifact.path.text),
         ("sha256", Json.ofString artifact.digest.text)])]

/-- Provides the artifact that given options describe. -/
def carryOut (given : List Given) : Action Findings := do
  let environment := (← get).environment
  let exported ← Action.ofExcept (kernelPaths environment)
  let cache : ArtifactCache := ⟨settings given environment, ArtifactCache.usualTimeout⟩
  let artifact ← cache.obtainDefault
  let fields := exported.map fun (name, value) => (name, Json.ofString value)
  return ("env", Json.ofFields fields) :: artifactFindings artifact

end FetchOrder

/-- The command that provides the recursion circuit. -/
def fetch (arguments : List String) : StateM Host Exit :=
  serve FetchOrder.choices arguments FetchOrder.carryOut

end VerifierBootstrap.CommandLine
