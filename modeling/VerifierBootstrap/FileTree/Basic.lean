import VerifierBootstrap.Text.Utf8

/-!
Trees of files. A tree lists places with what stands there, and the first entry of a place
counts: `lookup` is what a tree means, and each operation is described by what it does to
`lookup`. Links, permissions and ownership are left out: a tree holds directories and files with
their contents, and whoever asks may read and write them all. A write puts down the whole content
or is refused, and one that is refused leaves the file as it was, without cutting it short.
-/

namespace VerifierBootstrap

/-- A place in a tree: the names that lead there from the top. -/
abbrev Location := List String

/-- What can stand at a place. -/
inductive Node where
  | directory
  | file (content : Bytes)
deriving Repr, DecidableEq

/-- A tree of files, by its entries. The top is a directory without an entry. -/
structure FileTree where
  entries : List (Location × Node)
deriving Repr, DecidableEq

namespace FileTree

/-- The tree of an empty top. -/
def empty : FileTree :=
  ⟨[]⟩

/-- What stands at a place. -/
def lookup (tree : FileTree) (location : Location) : Option Node :=
  if location = [] then some .directory else tree.entries.lookup location

/-- Puts a node at a place, in place of what is there. -/
def set (tree : FileTree) (location : Location) (node : Node) : FileTree :=
  ⟨(location, node) :: tree.entries.filter fun entry => entry.1 ≠ location⟩

/-- Leaves nothing at a place. -/
def remove (tree : FileTree) (location : Location) : FileTree :=
  ⟨tree.entries.filter fun entry => entry.1 ≠ location⟩

/-- Leaves nothing at a place and below it. -/
def removeBelow (tree : FileTree) (location : Location) : FileTree :=
  ⟨tree.entries.filter fun entry => !location.isPrefixOf entry.1⟩

/-- Looking a place up among entries of which some others are left out finds the same. -/
theorem lookup_filter {entries : List (Location × Node)} {keep : Location × Node → Bool}
    {location : Location} (kept : ∀ node, keep (location, node) = true)
    : (entries.filter keep).lookup location = entries.lookup location := by
  induction entries with
  | nil => rfl
  | cons entry rest ih =>
      obtain ⟨place, node⟩ := entry
      by_cases same : location = place
      · subst same
        simp [kept node]
      · have unequal : (location == place) = false := by simp [same]
        by_cases stays : keep (place, node) = true
        · simp [stays, List.lookup_cons, unequal, ih]
        · simp [stays, List.lookup_cons, unequal, ih]

/-- Nothing is found at a place whose entries are all left out. -/
theorem lookup_filter_none {entries : List (Location × Node)} {keep : Location × Node → Bool}
    {location : Location} (dropped : ∀ node, keep (location, node) = false)
    : (entries.filter keep).lookup location = none := by
  induction entries with
  | nil => rfl
  | cons entry rest ih =>
      obtain ⟨place, node⟩ := entry
      by_cases same : location = place
      · subst same
        simpa [dropped node] using ih
      · have unequal : (location == place) = false := by simp [same]
        by_cases stays : keep (place, node) = true
        · simp [stays, List.lookup_cons, unequal, ih]
        · simp [stays, ih]

/-- The top is a directory in every tree. -/
@[simp] theorem lookup_top (tree : FileTree) : tree.lookup [] = some .directory := by
  simp [lookup]

/-- A node that was put at a place is found there. -/
@[simp] theorem lookup_set_self (tree : FileTree) {location : Location} (node : Node)
    (below : location ≠ []) : (tree.set location node).lookup location = some node := by
  simp [lookup, set, below]

/-- Putting a node at one place changes no other. -/
theorem lookup_set_of_ne (tree : FileTree) {location other : Location} (node : Node)
    (apart : other ≠ location) : (tree.set location node).lookup other = tree.lookup other := by
  have unequal : (other == location) = false := by simp [apart]
  simp only [lookup, set, List.lookup_cons, unequal]
  split
  · rfl
  · exact lookup_filter (by simp [apart])

/-- The second of two nodes that were put at a place counts. -/
theorem set_set (tree : FileTree) (location : Location) (node other : Node)
    : (tree.set location node).set location other = tree.set location other := by
  simp [set, List.filter_filter]

/-- Nothing is found at a place that was emptied. -/
@[simp] theorem lookup_remove_self (tree : FileTree) {location : Location}
    (below : location ≠ []) : (tree.remove location).lookup location = none := by
  simp only [lookup, remove, below, if_false]
  exact lookup_filter_none (by simp)

/-- Emptying one place changes no other. -/
theorem lookup_remove_of_ne (tree : FileTree) {location other : Location}
    (apart : other ≠ location) : (tree.remove location).lookup other = tree.lookup other := by
  simp only [lookup, remove]
  split
  · rfl
  · exact lookup_filter (by simp [apart])

/-- Nothing is found at or below a place that was cleared. -/
theorem lookup_removeBelow_of_prefix (tree : FileTree) {location other : Location}
    (below : other ≠ []) (inside : location <+: other)
    : (tree.removeBelow location).lookup other = none := by
  simp only [lookup, removeBelow, below, if_false]
  exact lookup_filter_none (by simp [inside])

/-- Clearing a place changes nothing elsewhere. -/
theorem lookup_removeBelow_of_not_prefix (tree : FileTree) {location other : Location}
    (outside : ¬ location <+: other)
    : (tree.removeBelow location).lookup other = tree.lookup other := by
  have unrelated : location.isPrefixOf other = false := by
    rw [Bool.eq_false_iff, ne_eq, List.isPrefixOf_iff_prefix]
    exact outside
  simp only [lookup, removeBelow]
  split
  · rfl
  · exact lookup_filter (by simp [unrelated])

end FileTree

end VerifierBootstrap
