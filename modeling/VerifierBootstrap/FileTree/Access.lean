import VerifierBootstrap.Failure
import VerifierBootstrap.FileTree.Basic

/-!
Access to a tree by path. A path is walked part by part: each part but the last has to lead to a
directory, and a double dot leads to the directory above. Names and paths have a greatest length.
Every operation gives the refusal of the file system where it does not apply, and then changes
nothing.
-/

namespace VerifierBootstrap.FileTree

/-- Walks parts from a place on. A name is looked at only when its directory is reached. -/
def walk (tree : FileTree) (place : Location) : List String → Except Refusal Location
  | [] => .ok place
  | part :: rest =>
      match tree.lookup place with
      | none => .error .notFound
      | some (.file _) => .error .notDirectory
      | some .directory =>
          if Path.nameLimit < part.utf8ByteSize then .error .nameTooLong
          else walk tree (if part = ".." then place.dropLast else place ++ [part]) rest

/-- Where the walk of a path starts, seen from a working directory. -/
def origin (directory : Location) (path : Path) : Location :=
  match path.anchor with
  | .relative => directory
  | _ => []

/-- The place that a path leads to from a working directory. Nothing need stand there. -/
def locate (tree : FileTree) (directory : Location) (path : Path) : Except Refusal Location :=
  if Path.textLimit < path.text.utf8ByteSize then .error .nameTooLong
  else tree.walk (origin directory path) path.parts

/-- What stands at the end of a path. There is nothing where a part before it does not lead to a
directory, but a name that is too long is refused here too.
-/
def node? (tree : FileTree) (directory : Location) (path : Path)
    : Except Refusal (Option Node) :=
  match tree.locate directory path with
  | .ok place => .ok (tree.lookup place)
  | .error .nameTooLong => .error .nameTooLong
  | .error _ => .ok none

/-- The content of the file at a path. -/
def read (tree : FileTree) (directory : Location) (path : Path) : Except Refusal Bytes := do
  match tree.lookup (← tree.locate directory path) with
  | some (.file content) => return content
  | some .directory => throw .isDirectory
  | none => throw .notFound

/-- The content of the file at a place as it was written. Nothing is at an empty place, what can
only mean a directory is no file, and the length that counts is the written one.
-/
def readPlace (tree : FileTree) (directory : Location) (written : String)
    : Except Refusal Bytes := do
  let path := Path.ofString written
  if written = "" then throw .notFound
  if Path.textLimit < written.utf8ByteSize then throw .nameTooLong
  if Path.demandsDirectory written then
    match tree.lookup (← tree.locate directory path) with
    | some .directory => throw .isDirectory
    | some (.file _) => throw .notDirectory
    | none => throw .notFound
  tree.read directory path

/-- Writes a file, a new one or over the one that is there. -/
def write (tree : FileTree) (directory : Location) (path : Path) (content : Bytes)
    : Except Refusal FileTree := do
  let place ← tree.locate directory path
  match tree.lookup place with
  | some .directory => throw .isDirectory
  | _ => return tree.set place (.file content)

/-- Makes a directory where nothing is. -/
def makeDirectory (tree : FileTree) (directory : Location) (path : Path)
    : Except Refusal FileTree := do
  let place ← tree.locate directory path
  match tree.lookup place with
  | some _ => throw .alreadyExists
  | none => return tree.set place .directory

/-- Removes a file. -/
def unlink (tree : FileTree) (directory : Location) (path : Path)
    : Except Refusal FileTree := do
  let place ← tree.locate directory path
  match tree.lookup place with
  | some (.file _) => return tree.remove place
  | some .directory => throw .isDirectory
  | none => throw .notFound

/-- Clears the directory at a place away, with all that is in it. Where nothing is, nothing has to
be cleared away; a file in its place, or on the way to it, is not.
-/
def clear (tree : FileTree) (location : Location) : Except Refusal FileTree :=
  match tree.walk [] location with
  | .ok place =>
      match tree.lookup place with
      | some (.file _) => .error .notDirectory
      | _ => .ok (tree.removeBelow place)
  | .error .notDirectory => .error .notDirectory
  | .error _ => .ok (tree.removeBelow location)

/-- Moves a file to where no directory is. -/
def move (tree : FileTree) (directory : Location) (source target : Path)
    : Except Refusal FileTree := do
  let content ← tree.read directory source
  let removed ← tree.unlink directory source
  removed.write directory target content

end VerifierBootstrap.FileTree
