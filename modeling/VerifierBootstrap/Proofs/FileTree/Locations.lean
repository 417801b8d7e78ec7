import VerifierBootstrap.Proofs.FileTree.Walk
import VerifierBootstrap.Settings.Bootstrap

/-!
The locations that paths mean. The files only decide whether a path can be walked; where it leads
if it can is told from its parts alone. So two paths with different locations never lead to one
file, whatever happens to the tree in between.
-/

namespace VerifierBootstrap

/-- The location that a path means, seen from a working directory. -/
def Path.location (path : Path) (directory : Location) : Location :=
  path.parts.foldl FileTree.follow (FileTree.origin directory path)

/-- A path leads over the locations of its fronts, its own among them. -/
def Path.LeadsOver (path : Path) (directory place : Location) : Prop :=
  ∃ front, front <+: path.parts ∧ place = front.foldl FileTree.follow (FileTree.origin directory path)

namespace FileTree

/-- A walk leads to where its parts lead one after the other. By induction on the parts. -/
theorem eq_foldl_of_walk {tree : FileTree} {place target : Location} {parts : List String}
    (walked : tree.walk place parts = .ok target)
    : target = parts.foldl follow place := by
  induction parts generalizing place with
  | nil => exact (Except.ok.inj walked).symm
  | cons part rest ih => exact ih (of_walk_cons walked).2

/-- A path leads to the location that it means, if it leads anywhere. -/
theorem eq_location_of_locate {tree : FileTree} {directory place : Location} {path : Path}
    (located : tree.locate directory path = .ok place)
    : place = path.location directory :=
  eq_foldl_of_walk (walk_of_locate located)

theorem foldl_follow_of_not_mem {parts : List String} (down : ".." ∉ parts) (place : Location)
    : parts.foldl follow place = place ++ parts := by
  induction parts generalizing place with
  | nil => simp
  | cons part rest ih =>
      obtain ⟨plain, below⟩ : ".." ≠ part ∧ ".." ∉ rest := by simpa using down
      rw [List.foldl_cons, ih below, follow, if_neg plain.symm, List.append_assoc,
        List.singleton_append]

end FileTree

namespace Path

/-- What is written below a path is below its location. -/
theorem location_child (base : Path) (directory : Location) {written : String}
    (relative : (ofString written).anchor = .relative) (down : ".." ∉ (ofString written).parts)
    : (base.child written).location directory
      = base.location directory ++ (ofString written).parts := by
  have joined : base.child written = ⟨base.anchor, base.parts ++ (ofString written).parts⟩ := by
    rw [child, join, relative]
  rw [joined, location, List.foldl_append, FileTree.foldl_follow_of_not_mem down]
  rfl

/-- Two files that are written below one path are apart if their names are. -/
theorem location_child_ne (base : Path) (directory : Location) {written other : String}
    (relative
      : (ofString written).anchor = .relative ∧ (ofString other).anchor = .relative)
    (down : ".." ∉ (ofString written).parts ∧ ".." ∉ (ofString other).parts)
    (apart : (ofString written).parts ≠ (ofString other).parts)
    : (base.child written).location directory ≠ (base.child other).location directory := by
  rw [location_child base directory relative.1 down.1,
    location_child base directory relative.2 down.2]
  exact fun same => apart (List.append_cancel_left same)

/-- A path from the root without double dots means its parts. -/
theorem location_root {location : Location} (absolute : ".." ∉ location) (directory : Location)
    : (Path.mk .root location).location directory = location := by
  rw [Path.location, FileTree.foldl_follow_of_not_mem absolute]
  rfl

end Path

namespace BootstrapSettings

/-- The usual files of the verifiers, as they are written below a root. -/
def usualFiles : List String :=
  let settings := below .here
  [settings.solidityVerifier, settings.solidityControlId, settings.solidityTestReceipt,
    settings.rustVerifier]

/-- No two of the usual files are in one place, whatever the root. -/
theorem location_usualFiles_ne (root : Path) (directory : Location) {written other : String}
    (member : written ∈ usualFiles) (otherMember : other ∈ usualFiles) (differ : written ≠ other)
    : (root.child written).location directory ≠ (root.child other).location directory := by
  have plain
      : ∀ written ∈ usualFiles,
          (Path.ofString written).anchor = .relative
          ∧ ".." ∉ (Path.ofString written).parts
          ∧ ∀ other ∈ usualFiles,
              written ≠ other → (Path.ofString written).parts ≠ (Path.ofString other).parts := by
    decide +kernel
  obtain ⟨relative, down, apart⟩ := plain written member
  obtain ⟨otherRelative, otherDown, _⟩ := plain other otherMember
  exact Path.location_child_ne root directory ⟨relative, otherRelative⟩ ⟨down, otherDown⟩
    (apart other otherMember differ)

end BootstrapSettings

end VerifierBootstrap
