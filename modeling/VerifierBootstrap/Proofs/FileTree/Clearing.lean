import VerifierBootstrap.Proofs.FileTree.Edits
import VerifierBootstrap.Proofs.FileTree.Locations

/-!
Clearing a directory away. It fails exactly if a file has come in place of the directory or of one
on the way to it, and then it changes nothing. Whether it fails or not, nothing can be reached in
the directory afterwards.
-/

namespace VerifierBootstrap.FileTree

/-- A file is on the way from a place through parts or at its end, and before it are directories
alone.
-/
def Blocked (tree : FileTree) (place : Location) (parts : List String) : Prop :=
  ∃ front content,
    front <+: parts
    ∧ tree.lookup (place ++ front) = some (.file content)
    ∧ ∀ shorter,
        shorter <+: front
        → shorter ≠ front
        → tree.lookup (place ++ shorter) = some .directory

variable {tree after : FileTree} {place target location : Location} {part : String}
  {parts rest : List String}

-----------------------------------------------------------------------------------------
-- Files in the way
-----------------------------------------------------------------------------------------

theorem blocked_of_file {content : Bytes} (file : tree.lookup place = some (.file content))
    (parts : List String)
    : tree.Blocked place parts := by
  refine ⟨[], content, List.nil_prefix, by rwa [List.append_nil], fun shorter within apart => ?_⟩
  exact absurd (List.prefix_nil.mp within) apart

/-- The first place of a walk is a file or a directory if anything is in the way. -/
theorem Blocked.lookup_ne_none (blocked : tree.Blocked place parts) : tree.lookup place ≠ none := by
  obtain ⟨front, content, _, file, directories⟩ := blocked
  cases front with
  | nil =>
      rw [List.append_nil] at file
      simp [file]
  | cons first front =>
      have before := directories [] List.nil_prefix (by simp)
      rw [List.append_nil] at before
      simp [before]

theorem blocked_cons_of_directory (there : tree.lookup place = some .directory)
    : tree.Blocked place (part :: rest) ↔ tree.Blocked (place ++ [part]) rest := by
  constructor
  · rintro ⟨front, content, within, file, directories⟩
    cases front with
    | nil =>
        rw [List.append_nil, there] at file
        cases file
    | cons first front =>
        obtain ⟨rfl, inside⟩ := List.cons_prefix_cons.mp within
        refine ⟨front, content, inside, by simpa using file, fun shorter less apart => ?_⟩
        have before := directories (first :: shorter) (List.cons_prefix_cons.mpr ⟨rfl, less⟩)
        simpa [apart] using before
  · rintro ⟨front, content, within, file, directories⟩
    refine ⟨part :: front, content, List.cons_prefix_cons.mpr ⟨rfl, within⟩, by simpa using file,
      fun shorter less apart => ?_⟩
    cases shorter with
    | nil => rwa [List.append_nil]
    | cons first shorter =>
        obtain ⟨rfl, inside⟩ := List.cons_prefix_cons.mp less
        simpa using directories shorter inside (by simpa using apart)

/-- A file is in the way exactly if it stops the walk or is at its end. By induction on the parts.
-/
theorem blocked_iff (down : ".." ∉ parts)
    (short : ∀ part ∈ parts, part.utf8ByteSize ≤ Path.nameLimit)
    : tree.Blocked place parts
      ↔ tree.walk place parts = .error .notDirectory
        ∨ ∃ target content,
            tree.walk place parts = .ok target ∧ tree.lookup target = some (.file content) := by
  induction parts generalizing place with
  | nil =>
      simp only [walk, reduceCtorEq, Except.ok.injEq, exists_and_left, exists_eq_left', false_or]
      constructor
      · rintro ⟨front, content, within, file, _⟩
        rw [List.prefix_nil.mp within, List.append_nil] at file
        exact ⟨content, file⟩
      · rintro ⟨content, file⟩
        exact blocked_of_file file []
  | cons part rest ih =>
      obtain ⟨plain, below⟩ : ".." ≠ part ∧ ".." ∉ rest := by simpa using down
      obtain ⟨first, others⟩ := List.forall_mem_cons.mp short
      cases there : tree.lookup place with
      | none =>
          rw [walk, there]
          simp only [reduceCtorEq, Except.error.injEq, false_and, exists_false, or_self, iff_false]
          exact fun blocked => blocked.lookup_ne_none there
      | some node =>
          cases node with
          | file content =>
              rw [walk, there]
              exact iff_of_true (blocked_of_file there _) (.inl rfl)
          | directory =>
              rw [blocked_cons_of_directory there, walk, there]
              simp only [if_neg (Nat.not_lt.mpr first), if_neg plain.symm]
              exact ih below others

/-- A walk that leads anywhere has looked at the length of each of its names. By induction on the
parts.
-/
theorem short_of_walk (walked : tree.walk place parts = .ok target)
    : ∀ part ∈ parts, part.utf8ByteSize ≤ Path.nameLimit := by
  induction parts generalizing place with
  | nil => exact nofun
  | cons part rest ih =>
      refine List.forall_mem_cons.mpr ⟨?_, ih (of_walk_cons walked).2⟩
      rw [walk, (of_walk_cons walked).1] at walked
      dsimp only at walked
      split at walked
      · cases walked
      · rename_i short
        exact Nat.not_lt.mp short

-----------------------------------------------------------------------------------------
-- Directories that are cleared away
-----------------------------------------------------------------------------------------

theorem eq_of_walk_top (down : ".." ∉ location) (walked : tree.walk [] location = .ok place)
    : place = location := by
  rw [eq_foldl_of_walk walked, foldl_follow_of_not_mem down, List.nil_append]

/-- Along a walk to a directory all are directories. -/
theorem lookup_of_walk_prefix (down : ".." ∉ location)
    (walked : tree.walk [] location = .ok location)
    (there : tree.lookup location = some .directory) {front : Location}
    (inside : front <+: location)
    : tree.lookup front = some .directory := by
  obtain ⟨rest, rfl⟩ := inside
  cases rest with
  | nil => rwa [List.append_nil] at there
  | cons part rest =>
      rw [walk_append] at walked
      cases reached : tree.walk [] front with
      | error refusal =>
          rw [reached] at walked
          cases walked
      | ok place =>
          obtain rfl := eq_of_walk_top (fun member => down (List.mem_append_left _ member)) reached
          rw [reached] at walked
          exact (of_walk_cons walked).1

section
variable (down : ".." ∉ location)
  (short : ∀ part ∈ location, part.utf8ByteSize ≤ Path.nameLimit)
include down short

/-- With a file in the way nothing is cleared away. -/
theorem clear_of_blocked (blocked : tree.Blocked [] location)
    : tree.clear location = .error .notDirectory := by
  rcases (blocked_iff down short).mp blocked with stopped | ⟨target, content, walked, file⟩
  · rw [clear, stopped]
  · rw [clear, walked]
    simp only [file]

/-- Without one the directory is cleared away with all that is in it. -/
theorem clear_of_free (free : ¬tree.Blocked [] location)
    : tree.clear location = .ok (tree.removeBelow location) := by
  obtain ⟨passed, plain⟩ := not_or.mp (mt (blocked_iff down short).mpr free)
  rw [clear]
  cases walked : tree.walk [] location with
  | ok place =>
      obtain rfl := eq_of_walk_top down walked
      cases there : tree.lookup place with
      | none => simp only [there]
      | some node =>
          cases node with
          | directory => simp only [there]
          | file content => exact absurd ⟨place, content, walked, there⟩ plain
  | error refusal =>
      cases refusal with
      | notDirectory => exact absurd walked passed
      | _ => rfl

end

/-- A directory that can be reached is cleared away. -/
theorem clear_of_directory (walked : tree.walk [] location = .ok place)
    (there : tree.lookup place = some .directory)
    : tree.clear location = .ok (tree.removeBelow place) := by
  rw [clear, walked]
  simp only [there]

/-- A directory that was made can be reached. -/
theorem walk_of_makeDirectory {directory : Location} {path : Path}
    (made : tree.makeDirectory directory path = .ok after)
    : ∃ place,
        after.walk (origin directory path) path.parts = .ok place
        ∧ after.lookup place = some .directory := by
  obtain ⟨place, located, absent, rfl⟩ := makeDirectory_eq_ok made
  have plain : tree.lookup place ≠ some .directory := by simp [absent]
  refine ⟨place, walk_of_directories (fun other there => ?_) (walk_of_locate located),
    lookup_set_self tree _ (ne_top_of_plain plain)⟩
  rw [lookup_set_of_ne]
  · exact there
  · rintro rfl
    rw [absent] at there
    cases there

/-- A path that leads into a directory leads to the directory first. -/
theorem exists_walk_of_locate {directory : Location} {name : String}
    (located : tree.locate directory ⟨.root, location ++ name :: rest⟩ = .ok target)
    : ∃ place, tree.walk [] location = .ok place ∧ tree.lookup place = some .directory := by
  have walked : tree.walk [] (location ++ name :: rest) = .ok target := walk_of_locate located
  rw [walk_append] at walked
  cases reached : tree.walk [] location with
  | error refusal =>
      rw [reached] at walked
      cases walked
  | ok place =>
      rw [reached] at walked
      exact ⟨place, rfl, (of_walk_cons walked).1⟩

/-- Nothing can be reached where a directory was cleared away. -/
theorem locate_removeBelow_ne {directory : Location} {name : String} (down : ".." ∉ location)
    (below : location ≠ [])
    : (tree.removeBelow location).locate directory ⟨.root, location ++ name :: rest⟩
      ≠ .ok target := by
  intro located
  obtain ⟨place, walked, there⟩ := exists_walk_of_locate located
  obtain rfl := eq_of_walk_top down walked
  have gone := lookup_removeBelow_of_prefix tree below List.prefix_rfl
  cases gone.symm.trans there

/-- Nothing can be reached behind a file. -/
theorem Blocked.locate_ne {directory : Location} {name : String}
    (blocked : tree.Blocked [] location) (down : ".." ∉ location)
    (short : ∀ part ∈ location, part.utf8ByteSize ≤ Path.nameLimit)
    : tree.locate directory ⟨.root, location ++ name :: rest⟩ ≠ .ok target := by
  intro located
  obtain ⟨place, walked, there⟩ := exists_walk_of_locate located
  rcases (blocked_iff down short).mp blocked with stopped | ⟨_, content, again, file⟩
  · cases stopped.symm.trans walked
  · cases again.symm.trans walked
    cases file.symm.trans there

end VerifierBootstrap.FileTree
