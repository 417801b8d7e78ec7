import VerifierBootstrap.Host.Basic

/-!
Actions on the files of a host. Each fails with the refusal and the path it was asked for. A path
with a NUL in it cannot be handed to the file system: a test finds nothing there, and every other
action fails before it asks.
-/

namespace VerifierBootstrap.Host

/-- Ends with a refusal at a path. -/
def refuse {α : Type} (refusal : Refusal) (path : Path) : Action α :=
  throw (.file ⟨refusal, path.text⟩)

/-- Ends at a path that cannot be handed to the file system. -/
def requirePassable (path : Path) : Action Unit := do
  if path.holdsNul then throw .embeddedNul

/-- Asks the file system about a path, or ends with its refusal. -/
def ask {α : Type} (path : Path) (question : FileTree → Location → Path → Except Refusal α)
    : Action α := do
  requirePassable path
  let host ← get
  match question host.files host.directory path with
  | .ok answer => return answer
  | .error refusal => refuse refusal path

/-- Has the file system change something at a path, or ends with its refusal. -/
def change (path : Path) (operation : FileTree → Location → Path → Except Refusal FileTree)
    : Action Unit := do
  let files ← ask path operation
  modify fun host => { host with files := files }

/-- What stands at a path. There is nothing at one that cannot be handed to the file system. -/
def nodeAt? (path : Path) : Action (Option Node) := do
  if path.holdsNul then return none
  ask path FileTree.node?

/-- Whether anything stands at a path. -/
def fileExists (path : Path) : Action Bool := do
  return (← nodeAt? path).isSome

/-- Whether a directory stands at a path. -/
def isDirectory (path : Path) : Action Bool := do
  return (← nodeAt? path) = some .directory

/-- The bytes of a file. -/
def readBytes (path : Path) : Action Bytes :=
  ask path FileTree.read

/-- The bytes of the file at a place as it was written. -/
def readPlace (written : String) : Action Bytes := do
  requirePassable (Path.ofString written)
  let host ← get
  match host.files.readPlace host.directory written with
  | .ok content => return content
  | .error refusal => throw (.file ⟨refusal, written⟩)

/-- Writes the bytes of a file. -/
def writeBytes (path : Path) (content : Bytes) : Action Unit :=
  change path fun files directory path => files.write directory path content

/-- Writes bytes to the end of a file. -/
def appendBytes (path : Path) (content : Bytes) : Action Unit := do
  writeBytes path ((← readBytes path) ++ content)

/-- The text of a file, with every line ended by a line feed. -/
def readText (path : Path) : Action Text := do
  match Utf8.decode (← readBytes path) with
  | .ok text => return Text.unifyLines text
  | .error fault => throw (.undecodable fault)

/-- Writes a source text, unless sources are locked. -/
def writeSource (path : Path) (text : Text) : Action Unit := do
  if (← get).sourcesLocked then refuse .notPermitted path
  writeBytes path (Utf8.encode text)

/-- Removes a file. -/
def unlink (path : Path) : Action Unit :=
  change path FileTree.unlink

/-- Removes a file if anything is there. -/
def unlinkIfPresent (path : Path) : Action Unit := do
  if ← fileExists path then unlink path

/-- Moves a file. -/
def move (source target : Path) : Action Unit :=
  change source fun files directory source => files.move directory source target

/-- Makes a directory. -/
def makeDirectory (path : Path) : Action Unit :=
  change path FileTree.makeDirectory

/-- Makes a directory of which the directory above is there. One that is there already will do.
-/
def makeLastDirectory (path : Path) : Action Unit := do
  let host ← get
  match host.files.makeDirectory host.directory path with
  | .error .notFound => refuse .notFound path
  | .error refusal => unless ← isDirectory path do refuse refusal path
  | .ok files => modify fun host => { host with files := files }

/-- Makes a directory with the directories above it. Those that are there already will do. -/
def ensureDirectory (path : Path) : Action Unit := do
  requirePassable path
  let host ← get
  match host.files.makeDirectory host.directory path with
  | .error .notFound =>
      if _top : path.parts = [] then
        refuse .notFound path
      else
        ensureDirectory path.parent
        makeLastDirectory path
  | .error refusal => unless ← isDirectory path do refuse refusal path
  | .ok files => modify fun host => { host with files := files }
termination_by path.parts.length
decreasing_by
  have : path.parts.length ≠ 0 := by simpa using _top
  simp [Path.parent]
  omega

/-- Clears away the directory at a path that starts at the root. -/
def clearAway (path : Path) : Action Unit :=
  change path fun files _ path => files.clear path.parts

/-- Runs an action with a new temporary directory, which is cleared away at the end, whether the
action succeeded or failed. It cannot be cleared away if a file has come in its place.
-/
def withTemporaryDirectory {α : Type} (label : String) (action : Path → Action α) : Action α := do
  let host ← get
  let path : Path := ⟨.root, host.temporary ++ [label ++ host.temporaryEnding]⟩
  makeDirectory path
  Action.andFinally (action path) (clearAway path)

end VerifierBootstrap.Host
