import VerifierBootstrap.FileTree.Access

/-!
Walks through trees. A walk looks at directories alone, so it leads to the same place in every
tree that has all directories of the first. A path with a name at its end leads to that name in
the directory that the path without it leads to.
-/

namespace VerifierBootstrap

namespace FileTree

theorem walk_append (tree : FileTree) (place : Location) (front rest : List String)
    : tree.walk place (front ++ rest)
      = (tree.walk place front).bind fun reached => tree.walk reached rest := by
  induction front generalizing place with
  | nil => rfl
  | cons part front ih =>
      rw [List.cons_append, walk, walk]
      cases tree.lookup place with
      | none => rfl
      | some node =>
          cases node with
          | file content => rfl
          | directory =>
              dsimp only
              split
              · rfl
              · exact ih _

/-- Where a part leads from a location: a double dot leads up, and a name leads down. -/
def follow (location : Location) (part : String) : Location :=
  if part = ".." then location.dropLast else location ++ [part]

/-- A walk goes on from directories only. -/
theorem of_walk_cons {tree : FileTree} {place target : Location} {part : String}
    {rest : List String} (walked : tree.walk place (part :: rest) = .ok target)
    : tree.lookup place = some .directory ∧ tree.walk (follow place part) rest = .ok target := by
  rw [walk] at walked
  cases there : tree.lookup place with
  | none => simp [there] at walked
  | some node =>
      cases node with
      | file content => simp [there] at walked
      | directory =>
          simp only [there] at walked
          split at walked
          · exact nomatch walked
          · exact ⟨rfl, walked⟩

theorem walk_single {tree : FileTree} {place target : Location} {name : String}
    (plain : name ≠ "..") (found : tree.walk place [name] = .ok target)
    : tree.lookup place = some .directory ∧ target = place ++ [name] := by
  obtain ⟨there, reached⟩ := of_walk_cons found
  refine ⟨there, (Except.ok.inj reached).symm.trans ?_⟩
  rw [follow, if_neg plain]

theorem walk_of_locate {tree : FileTree} {directory place : Location} {path : Path}
    (located : tree.locate directory path = .ok place)
    : tree.walk (origin directory path) path.parts = .ok place := by
  rw [locate] at located
  split at located
  · exact nomatch located
  · exact located

section Directories

variable {tree other : FileTree}
  (kept
    : ∀ location, tree.lookup location = some .directory
        → other.lookup location = some .directory)
include kept

/-- A walk that does not miss a directory comes to the same in a tree that has the same
directories. By induction on the parts.
-/
theorem walk_eq_of_directories {place : Location} {parts : List String}
    {result : Except Refusal Location} (there : result ≠ .error .notFound)
    (passable : result ≠ .error .notDirectory) (walked : tree.walk place parts = result)
    : other.walk place parts = result := by
  induction parts generalizing place with
  | nil => exact walked
  | cons part rest ih =>
      rw [walk] at walked
      cases node : tree.lookup place with
      | none =>
          rw [node] at walked
          exact absurd walked.symm there
      | some found =>
          rw [node] at walked
          cases found with
          | file content => exact absurd walked.symm passable
          | directory =>
              rw [walk, kept place node]
              dsimp only at walked ⊢
              split at walked
              · rename_i long
                rw [if_pos long, walked]
              · rename_i short
                rw [if_neg short]
                exact ih walked

/-- A walk leads to the same place in a tree that has the same directories. -/
theorem walk_of_directories {place target : Location} {parts : List String}
    (found : tree.walk place parts = .ok target)
    : other.walk place parts = .ok target :=
  walk_eq_of_directories kept (by simp) (by simp) found

theorem locate_of_directories {directory target : Location} {path : Path}
    (found : tree.locate directory path = .ok target)
    : other.locate directory path = .ok target := by
  rw [locate] at found ⊢
  split at found
  · exact absurd found (by simp)
  · rename_i short
    rw [if_neg short]
    exact walk_of_directories kept found

/-- A path that is refused for its length is refused in a tree that has the same directories. -/
theorem locate_tooLong_of_directories {directory : Location} {path : Path}
    (refused : tree.locate directory path = .error .nameTooLong)
    : other.locate directory path = .error .nameTooLong := by
  rw [locate] at refused ⊢
  split at refused
  · rename_i long
    rw [if_pos long]
  · rename_i short
    rw [if_neg short]
    exact walk_eq_of_directories kept (by simp) (by simp) refused

end Directories

/-- Writing a file where no directory is keeps all directories. -/
theorem lookup_set_directory {tree : FileTree} {location place : Location} {content : Bytes}
    (plain : tree.lookup place ≠ some .directory)
    (there : tree.lookup location = some .directory)
    : (tree.set place (.file content)).lookup location = some .directory := by
  rw [lookup_set_of_ne]
  · exact there
  · rintro rfl
    exact plain there

/-- Removing what is no directory keeps all directories. -/
theorem lookup_remove_directory {tree : FileTree} {location place : Location}
    (plain : tree.lookup place ≠ some .directory)
    (there : tree.lookup location = some .directory)
    : (tree.remove place).lookup location = some .directory := by
  rw [lookup_remove_of_ne]
  · exact there
  · rintro rfl
    exact plain there

-----------------------------------------------------------------------------------------
-- Operations at the place that a path leads to
-----------------------------------------------------------------------------------------

section Located

variable {tree : FileTree} {directory place : Location} {path : Path}
  (located : tree.locate directory path = .ok place)
include located

theorem node?_of_locate : tree.node? directory path = .ok (tree.lookup place) := by
  rw [node?, located]

theorem read_of_locate {content : Bytes} (held : tree.lookup place = some (.file content))
    : tree.read directory path = .ok content := by
  rw [read, located]
  simp only [bind, Except.bind, held]
  rfl

theorem read_of_locate_none (absent : tree.lookup place = none)
    : tree.read directory path = .error .notFound := by
  rw [read, located]
  simp only [bind, Except.bind, absent]
  rfl

theorem write_of_locate (plain : tree.lookup place ≠ some .directory) (content : Bytes)
    : tree.write directory path content = .ok (tree.set place (.file content)) := by
  rw [write, located]
  simp only [bind, Except.bind]
  cases there : tree.lookup place with
  | none => rfl
  | some node =>
      cases node with
      | directory => exact absurd there plain
      | file content => rfl

theorem makeDirectory_of_locate {node : Node} (there : tree.lookup place = some node)
    : tree.makeDirectory directory path = .error .alreadyExists := by
  rw [makeDirectory, located]
  simp only [bind, Except.bind, there]
  rfl

end Located

end FileTree

namespace Path

theorem utf8ByteSize_text_le (path : Path) {name : String} (filled : name ≠ "")
    : path.text.utf8ByteSize
      ≤ (Path.text ⟨path.anchor, path.parts ++ [name]⟩).utf8ByteSize := by
  have longer : (Path.text ⟨path.anchor, path.parts ++ [name]⟩)
      = anchorText path.anchor ++ "/".intercalate (path.parts ++ [name]) := by
    simp [text]
  rw [longer, text]
  by_cases none : path.parts = []
  · have size : name.utf8ByteSize ≠ 0 := mt String.utf8ByteSize_eq_zero_iff.mp filled
    have dot : (".").utf8ByteSize = 1 := by decide
    rw [none, List.nil_append, String.intercalate_singleton, String.utf8ByteSize_append]
    split
    · omega
    · rw [String.intercalate_nil, String.append_empty]
      omega
  · rw [if_neg (fun both => none both.2), String.intercalate_append_of_ne_nil none (by simp)]
    simp only [String.utf8ByteSize_append]
    omega

end Path

end VerifierBootstrap
