import VerifierBootstrap.Proofs.Except
import VerifierBootstrap.Proofs.FileTree.Walk

/-!
Edits of a tree: files come, go and change at some places, and all directories stay. A path
leads to the same place before and after, so what an edit does at one path is not undone by
edits elsewhere.
-/

namespace VerifierBootstrap.FileTree

/-- The same directories, and the same at every place that is not edited. -/
structure Edits (edited : Location → Prop) (before after : FileTree) : Prop where
  directories
    : ∀ location,
        after.lookup location = some .directory ↔ before.lookup location = some .directory
  elsewhere : ∀ location, ¬ edited location → after.lookup location = before.lookup location

-----------------------------------------------------------------------------------------
-- What an operation has done
-----------------------------------------------------------------------------------------

theorem ne_top_of_plain {tree : FileTree} {place : Location}
    (plain : tree.lookup place ≠ some .directory)
    : place ≠ [] := by
  rintro rfl
  exact plain (lookup_top tree)

section Operations

variable {tree after : FileTree} {directory : Location} {path : Path}

theorem write_eq_ok {content : Bytes} (written : tree.write directory path content = .ok after)
    : ∃ place,
        tree.locate directory path = .ok place
        ∧ tree.lookup place ≠ some .directory
        ∧ after = tree.set place (.file content) := by
  obtain ⟨place, located, written⟩ := ok_of_bind written
  split at written
  · exact nomatch written
  · rename_i plain
    exact ⟨place, located, plain, (Except.ok.inj written).symm⟩

theorem read_eq_ok {content : Bytes} (read : tree.read directory path = .ok content)
    : ∃ place,
        tree.locate directory path = .ok place ∧ tree.lookup place = some (.file content) := by
  obtain ⟨place, located, read⟩ := ok_of_bind read
  split at read
  · rename_i held there
    exact ⟨place, located, Except.ok.inj read ▸ there⟩
  · exact nomatch read
  · exact nomatch read

theorem unlink_eq_ok (unlinked : tree.unlink directory path = .ok after)
    : ∃ place content,
        tree.locate directory path = .ok place
        ∧ tree.lookup place = some (.file content)
        ∧ after = tree.remove place := by
  obtain ⟨place, located, unlinked⟩ := ok_of_bind unlinked
  split at unlinked
  · rename_i content there
    exact ⟨place, content, located, there, (Except.ok.inj unlinked).symm⟩
  · exact nomatch unlinked
  · exact nomatch unlinked

theorem makeDirectory_eq_ok (made : tree.makeDirectory directory path = .ok after)
    : ∃ place,
        tree.locate directory path = .ok place
        ∧ tree.lookup place = none
        ∧ after = tree.set place .directory := by
  obtain ⟨place, located, made⟩ := ok_of_bind made
  split at made
  · exact nomatch made
  · rename_i absent
    exact ⟨place, located, absent, (Except.ok.inj made).symm⟩

theorem move_eq_ok {target : Path} (moved : tree.move directory path target = .ok after)
    : ∃ content removed,
        tree.read directory path = .ok content
        ∧ tree.unlink directory path = .ok removed
        ∧ removed.write directory target content = .ok after := by
  obtain ⟨content, read, moved⟩ := ok_of_bind moved
  obtain ⟨removed, unlinked, moved⟩ := ok_of_bind moved
  exact ⟨content, removed, read, unlinked, moved⟩

end Operations

-----------------------------------------------------------------------------------------
-- Edits
-----------------------------------------------------------------------------------------

namespace Edits

variable {edited : Location → Prop} {before middle after : FileTree}

theorem refl (edited : Location → Prop) (tree : FileTree) : Edits edited tree tree :=
  ⟨fun _ => .rfl, fun _ _ => rfl⟩

theorem trans (first : Edits edited before middle) (second : Edits edited middle after)
    : Edits edited before after where
  directories location := (second.directories location).trans (first.directories location)
  elsewhere location outside :=
    (second.elsewhere location outside).trans (first.elsewhere location outside)

theorem mono {more : Location → Prop} (edits : Edits edited before after)
    (wider : ∀ location, edited location → more location)
    : Edits more before after :=
  ⟨edits.directories, fun location outside =>
    edits.elsewhere location fun inside => outside (wider location inside)⟩

/-- A place that is no directory may get a file. -/
theorem set {tree : FileTree} {place : Location} (content : Bytes) (inside : edited place)
    (plain : tree.lookup place ≠ some .directory)
    : Edits edited tree (tree.set place (.file content)) where
  directories location := by
    by_cases same : location = place
    · subst same
      simp [lookup_set_self tree _ (ne_top_of_plain plain), plain]
    · rw [lookup_set_of_ne tree _ same]
  elsewhere location outside :=
    lookup_set_of_ne tree _ fun same => outside (same ▸ inside)

theorem remove {tree : FileTree} {place : Location} (inside : edited place)
    (plain : tree.lookup place ≠ some .directory)
    : Edits edited tree (tree.remove place) where
  directories location := by
    by_cases same : location = place
    · subst same
      simp [lookup_remove_self tree (ne_top_of_plain plain), plain]
    · rw [lookup_remove_of_ne tree same]
  elsewhere location outside :=
    lookup_remove_of_ne tree fun same => outside (same ▸ inside)

/-- A path leads to the same place before and after. -/
theorem locate_iff (edits : Edits edited before after) (directory place : Location) (path : Path)
    : after.locate directory path = .ok place ↔ before.locate directory path = .ok place :=
  ⟨locate_of_directories fun location => (edits.directories location).mp,
    locate_of_directories fun location => (edits.directories location).mpr⟩

/-- A path is refused for its length before if it is after. -/
theorem locate_tooLong (edits : Edits edited before after) {directory : Location} {path : Path}
    (refused : after.locate directory path = .error .nameTooLong)
    : before.locate directory path = .error .nameTooLong :=
  locate_tooLong_of_directories (fun location => (edits.directories location).mp) refused

end Edits

/-- A file that was written is read as it was written. -/
theorem read_of_write {tree after : FileTree} {directory : Location} {path : Path}
    {content : Bytes} (written : tree.write directory path content = .ok after)
    : after.read directory path = .ok content := by
  obtain ⟨place, located, plain, rfl⟩ := write_eq_ok written
  have edits : Edits (· = place) tree (tree.set place (.file content)) := .set content rfl plain
  exact read_of_locate ((edits.locate_iff directory place path).mpr located)
    (lookup_set_self tree _ (ne_top_of_plain plain))

/-- Where one content cannot be written, no other can. -/
theorem write_error {tree : FileTree} {directory : Location} {path : Path} {content : Bytes}
    {refusal : Refusal} (refused : tree.write directory path content = .error refusal)
    (other : Bytes)
    : tree.write directory path other = .error refusal := by
  rw [write] at refused ⊢
  cases located : tree.locate directory path with
  | error reason =>
      rw [located] at refused
      exact refused
  | ok place =>
      rw [located] at refused
      simp only [bind, Except.bind] at refused ⊢
      cases there : tree.lookup place with
      | none =>
          rw [there] at refused
          cases refused
      | some node =>
          rw [there] at refused
          cases node with
          | directory => exact refused
          | file held => cases refused

/-- The second of two writes to a path counts. -/
theorem write_of_write {tree after : FileTree} {directory : Location} {path : Path}
    {content : Bytes} (written : tree.write directory path content = .ok after) (other : Bytes)
    : after.write directory path other = tree.write directory path other := by
  obtain ⟨place, located, plain, rfl⟩ := write_eq_ok written
  have edits : Edits (· = place) tree (tree.set place (.file content)) := .set content rfl plain
  have again := (edits.locate_iff directory place path).mpr located
  have there := lookup_set_self tree (.file content) (ne_top_of_plain plain)
  rw [write_of_locate located plain, write_of_locate again (by simp [there]), set_set]

/-- A file is read as before if what was written is at another place. -/
theorem read_of_write_elsewhere {tree after : FileTree} {directory : Location} {path other : Path}
    {held content : Bytes} (written : tree.write directory other content = .ok after)
    (apart
      : ∀ place,
          tree.locate directory path = .ok place → tree.locate directory other ≠ .ok place)
    (read : tree.read directory path = .ok held)
    : after.read directory path = .ok held := by
  obtain ⟨place, located, there⟩ := read_eq_ok read
  obtain ⟨changed, otherLocated, plain, rfl⟩ := write_eq_ok written
  have edits : Edits (· = changed) tree (tree.set changed (.file content)) := .set content rfl plain
  have unequal : place ≠ changed := by
    rintro rfl
    exact apart place located otherLocated
  exact read_of_locate ((edits.locate_iff directory place path).mpr located)
    ((edits.elsewhere place unequal).trans there)

end VerifierBootstrap.FileTree
