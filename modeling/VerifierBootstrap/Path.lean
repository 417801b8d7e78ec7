import VerifierBootstrap.Text.Utf8

/-!
Paths of files. A path is kept in normal form: its parts are neither empty nor a single dot, so
two spellings that differ in slashes and dots alone are one path. A double dot stays a part.
-/

namespace VerifierBootstrap

/-- Where a path begins. -/
inductive Anchor where
  /-- At the working directory. -/
  | relative
  /-- At the root. -/
  | root
  /-- At the root, written with two slashes, which systems may tell from one. -/
  | doubleRoot
deriving Repr, DecidableEq

/-- The path that leads from its anchor through its parts. -/
structure Path where
  anchor : Anchor
  parts : List String
deriving Repr, DecidableEq

namespace Path

/-- How an anchor is written. -/
def anchorText : Anchor → String
  | .relative => ""
  | .root => "/"
  | .doubleRoot => "//"

/-- The anchor of a written path: two slashes in front are kept apart, and more count as one. -/
def anchorOf (text : Text) : Anchor :=
  match (text.takeWhile (· = '/')).length with
  | 0 => .relative
  | 2 => .doubleRoot
  | _ => .root

/-- The parts of a written path. -/
def partsOf (text : Text) : List String :=
  (((text.splitAt '/').filter fun part => part ≠ [] ∧ part ≠ ['.'])).map String.ofList

/-- The path that a string spells. -/
def ofString (value : String) : Path :=
  ⟨anchorOf value.toList, partsOf value.toList⟩

/-- Whether a written path can only mean a directory: it ends in a slash or in a single dot. -/
def demandsDirectory (value : String) : Bool :=
  match (Text.splitAt '/' value.toList).getLast? with
  | some last => last = [] || last = ['.']
  | none => false

/-- A path as it is written; the empty relative path is a dot. -/
def text (path : Path) : String :=
  if path.anchor = .relative ∧ path.parts = [] then "."
  else anchorText path.anchor ++ "/".intercalate path.parts

/-- Whether a NUL is in a path. The file system takes it for the end of the path. -/
def holdsNul (path : Path) : Bool :=
  path.parts.any fun part => part.toList.contains '\x00'

/-- The bytes that the name of a file may have. -/
def nameLimit : Nat := 255

/-- The bytes that a written path may have. -/
def textLimit : Nat := 4095

/-- The working directory. -/
def here : Path :=
  ⟨.relative, []⟩

/-- `tail` as seen from `base`: an anchored path stays what it is. -/
def join (base tail : Path) : Path :=
  match tail.anchor with
  | .relative => ⟨base.anchor, base.parts ++ tail.parts⟩
  | _ => tail

/-- The path of a written path below `base`. -/
def child (base : Path) (name : String) : Path :=
  base.join (ofString name)

/-- The path without its last part; one without parts is its own parent. -/
def parent (path : Path) : Path :=
  ⟨path.anchor, path.parts.dropLast⟩

/-- The last part, or nothing if there is none. -/
def name (path : Path) : String :=
  path.parts.getLastD ""

/-- The path with text appended to its last part. -/
def appendToName (path : Path) (ending : String) : Path :=
  ⟨path.anchor, path.parts.dropLast ++ [path.name ++ ending]⟩

/-- Resolves the double dots of parts that start at the root, where a double dot stays. -/
def resolveParts (parts : List String) : List String :=
  parts.foldl (fun done part => if part = ".." then done.dropLast else done ++ [part]) []

/-- The path from the root that a path means when `directory` is the working directory. -/
def resolve (directory : List String) (path : Path) : Path :=
  match path.anchor with
  | .relative => ⟨.root, resolveParts (directory ++ path.parts)⟩
  | _ => ⟨.root, resolveParts path.parts⟩

end Path

end VerifierBootstrap
