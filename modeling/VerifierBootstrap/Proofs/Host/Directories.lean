import VerifierBootstrap.Proofs.Host.Edits

/-!
Directories that are made with those above them. New are directories alone, in places that were
empty and that the path passes through; everything else in the tree stays.
-/

namespace VerifierBootstrap.Host

open VerifierBootstrap.Action

/-- A path passes through a place or ends there. -/
def PassesThrough (host : Host) (path : Path) (place : Location) : Prop :=
  ∃ front,
    front <+: path.parts
    ∧ host.files.walk (FileTree.origin host.directory path) front = .ok place

/-- A path that passes through a place does so as long as directories stay. -/
theorem PassesThrough.of_directories {before after : Host}
    (directory : after.directory = before.directory)
    (kept
      : ∀ place,
          before.files.lookup place = some .directory
          → after.files.lookup place = some .directory)
    {path : Path} {place : Location} (passes : before.PassesThrough path place)
    : after.PassesThrough path place := by
  obtain ⟨front, within, walked⟩ := passes
  refine ⟨front, within, ?_⟩
  rw [directory]
  exact FileTree.walk_of_directories kept walked

/-- Directories were made along a path, and nothing else was done to files. -/
structure Grown (path : Path) (before after : Host) : Prop where
  directory : after.directory = before.directory
  lookup
    : ∀ place,
        after.files.lookup place = before.files.lookup place
        ∨ (before.files.lookup place = none
            ∧ after.files.lookup place = some .directory
            ∧ after.PassesThrough path place)

namespace Grown

variable {path : Path} {before middle after : Host}

theorem refl (path : Path) (host : Host) : Grown path host host := ⟨rfl, fun _ => .inl rfl⟩

/-- What was a directory is one. -/
theorem keeps (grown : Grown path before after) {place : Location}
    (there : before.files.lookup place = some .directory)
    : after.files.lookup place = some .directory := by
  rcases grown.lookup place with same | ⟨empty, _⟩
  · rw [same, there]
  · rw [there] at empty
    exact nomatch empty

theorem trans (first : Grown path before middle) (second : Grown path middle after)
    : Grown path before after where
  directory := second.directory.trans first.directory
  lookup place := by
    rcases first.lookup place with same | ⟨empty, made, passes⟩
    · rw [← same]
      exact second.lookup place
    · exact .inr ⟨empty, second.keeps made,
        passes.of_directories second.directory fun _ => second.keeps⟩

/-- What lies along the path above lies along the path. -/
theorem of_parent (grown : Grown path.parent before after) : Grown path before after where
  directory := grown.directory
  lookup place := by
    refine (grown.lookup place).imp_right ?_
    intro ended
    rcases ended with ⟨empty, made, front, within, walked⟩
    exact ⟨empty, made, front, within.trans (List.dropLast_prefix _), walked⟩

theorem of_makeDirectory {host : Host} {files : FileTree}
    (made : host.files.makeDirectory host.directory path = .ok files)
    : Grown path host { host with files := files } := by
  obtain ⟨place, located, empty, rfl⟩ := FileTree.makeDirectory_eq_ok made
  have below : place ≠ [] := by
    rintro rfl
    simp at empty
  have kept (location : Location) (there : host.files.lookup location = some .directory)
      : (host.files.set place .directory).lookup location = some .directory := by
    by_cases same : location = place
    · rw [same, FileTree.lookup_set_self _ _ below]
    · rw [FileTree.lookup_set_of_ne _ _ same, there]
  refine ⟨rfl, fun location => ?_⟩
  by_cases same : location = place
  · subst same
    refine .inr ⟨empty, FileTree.lookup_set_self _ _ below, path.parts, List.prefix_rfl, ?_⟩
    exact FileTree.walk_of_directories kept (FileTree.walk_of_locate located)
  · exact .inl (FileTree.lookup_set_of_ne _ _ same)

/-- Directories were made along a path, and then files at some paths were edited. All else is as
it was.
-/
theorem lookup_of_edited {paths : List Path} (grown : Grown path before middle)
    (edited : Edited paths middle after) (place : Location)
    : after.files.lookup place = before.files.lookup place
      ∨ ((∃ file ∈ paths, after.Names file place)
          ∧ before.files.lookup place ≠ some .directory
          ∧ after.files.lookup place ≠ some .directory)
      ∨ (before.files.lookup place = none
          ∧ after.files.lookup place = some .directory
          ∧ after.PassesThrough path place) := by
  have kept := edited.files.directories place
  rcases grown.lookup place with same | ⟨empty, directory, passes⟩
  · by_cases there : middle.files.lookup place = some .directory
    · exact .inl ((kept.mpr there).trans (there.symm.trans same))
    · by_cases touched : ∃ file ∈ paths, middle.Names file place
      · obtain ⟨file, member, names⟩ := touched
        exact .inr (.inl ⟨⟨file, member, (edited.names_iff file place).mpr names⟩,
          same ▸ there, mt kept.mp there⟩)
      · exact .inl ((edited.files.elsewhere place touched).trans same)
  · exact .inr (.inr ⟨empty, kept.mpr directory, passes.of_directories edited.directory
      fun place => (edited.files.directories place).mpr⟩)

end Grown

-----------------------------------------------------------------------------------------
-- Making directories
-----------------------------------------------------------------------------------------

/-- A directory that is there already will do, and nothing is done about anything else. -/
theorem ends_unlessDirectory (refusal : Refusal) (path : Path) (host : Host)
    : Ends (do unless ← isDirectory path do refuse refusal path) host
        (fun _ after => Grown path host after)
        (fun failure after => Grown path host after ∧ failure.OfFiles) := by
  refine (ends_isDirectory path host).andThen
    (fun _ _ failed => ⟨failed.1 ▸ .refl path host, failed.2⟩) ?_
  rintro there _ rfl
  cases there with
  | true => exact .pure (.refl path _)
  | false => exact .throw ⟨.refl path _, trivial⟩

theorem ends_makeLastDirectory (path : Path) (host : Host)
    : Ends (makeLastDirectory path) host
        (fun _ after => Grown path host after)
        (fun failure after => Grown path host after ∧ failure.OfFiles) := by
  refine .bind_ok (perform_get host) ?_
  cases made : host.files.makeDirectory host.directory path with
  | ok files => exact Grown.of_makeDirectory made
  | error refusal =>
      cases refusal with
      | notFound => exact .throw ⟨.refl path host, trivial⟩
      | _ => exact ends_unlessDirectory _ path host

/-- Making a directory with those above it makes directories along its path. By recursion on the
path: the directories above have one part less.
-/
theorem ends_ensureDirectory (path : Path) (host : Host)
    : Ends (ensureDirectory path) host
        (fun _ after => Grown path host after)
        (fun failure after => Grown path host after ∧ failure.OfFiles) := by
  rw [ensureDirectory]
  refine (ends_requirePassable path host).andThen
    (fun _ _ failed => ⟨failed.1 ▸ .refl path host, failed.2⟩) ?_
  intro _ host ended
  rcases ended with ⟨rfl, _⟩
  refine .bind_ok (perform_get host) ?_
  cases made : host.files.makeDirectory host.directory path with
  | ok files => exact Grown.of_makeDirectory made
  | error refusal =>
      cases refusal with
      | notFound =>
          by_cases top : path.parts = []
          · simp only [top, dite_true]
            exact .throw ⟨.refl path host, trivial⟩
          · simp only [top, dite_false]
            refine (ends_ensureDirectory path.parent host).andThen
              (fun _ _ failed => ⟨failed.1.of_parent, failed.2⟩) ?_
            intro _ middle above
            exact (ends_makeLastDirectory path middle).mono
              (fun _ _ last => above.of_parent.trans last)
              fun _ _ failed => ⟨above.of_parent.trans failed.1, failed.2⟩
      | _ => exact ends_unlessDirectory _ path host
termination_by path.parts.length
decreasing_by
  have : path.parts.length ≠ 0 := by simpa using top
  simp [Path.parent]
  omega

-----------------------------------------------------------------------------------------
-- Directories that are there
-----------------------------------------------------------------------------------------

/-- A path leads to a directory. -/
def Stands (path : Path) (host : Host) : Prop :=
  ∃ place, host.Names path place ∧ host.files.lookup place = some .directory

theorem Stands.of_directories {before after : Host} (directory : after.directory = before.directory)
    (kept
      : ∀ place,
          before.files.lookup place = some .directory
          → after.files.lookup place = some .directory)
    {path : Path} (stands : Stands path before)
    : Stands path after := by
  obtain ⟨place, ⟨passable, located⟩, there⟩ := stands
  rw [← directory] at located
  exact ⟨place, ⟨passable, FileTree.locate_of_directories kept located⟩, kept place there⟩

/-- A directory that is there does not have to be made. -/
theorem perform_ensureDirectory_of_located {path : Path} {place : Location} {host : Host}
    (passable : path.holdsNul = false) (located : host.files.locate host.directory path = .ok place)
    (there : host.files.lookup place = some .directory)
    : perform (ensureDirectory path) host = (.ok (), host) := by
  have refused := FileTree.makeDirectory_of_locate located there
  have found := FileTree.node?_of_locate located
  rw [there] at found
  rw [ensureDirectory, perform_bind_ok (perform_requirePassable passable host),
    perform_bind_ok (perform_get host), refused]
  exact (perform_bind_ok (perform_isDirectory passable found) _).trans rfl

theorem stands_of_makeDirectory {path : Path} {host : Host} {files : FileTree}
    (passable : path.holdsNul = false)
    (made : host.files.makeDirectory host.directory path = .ok files)
    : Stands path { host with files := files } := by
  have grown := Grown.of_makeDirectory made
  obtain ⟨place, located, empty, rfl⟩ := FileTree.makeDirectory_eq_ok made
  have below : place ≠ [] := by
    rintro rfl
    simp at empty
  exact ⟨place, ⟨passable, FileTree.locate_of_directories (fun _ => grown.keeps) located⟩,
    FileTree.lookup_set_self _ _ below⟩

theorem stands_of_node? {path : Path} {host : Host} (passable : path.holdsNul = false)
    (found : host.files.node? host.directory path = .ok (some .directory))
    : Stands path host := by
  rw [FileTree.node?] at found
  split at found
  · rename_i place located
    exact ⟨place, ⟨passable, located⟩, Except.ok.inj found⟩
  · cases found
  · cases found

theorem ends_unlessDirectory_stands (refusal : Refusal) {path : Path} (host : Host)
    (passable : path.holdsNul = false)
    : Ends (do unless ← isDirectory path do refuse refusal path) host
        (fun _ after => Stands path after) (fun _ _ => True) := by
  have found
      : Ends (isDirectory path) host (fun there after => there = true → Stands path after)
          (fun _ _ => True) := by
    refine (ends_nodeAt? path host).andThen (fun _ _ _ => trivial) ?_
    rintro node _ ⟨rfl, nul | found⟩
    · exact absurd nul (by simp [passable])
    · refine .pure fun there => ?_
      obtain rfl : node = some .directory := of_decide_eq_true there
      exact stands_of_node? passable found
  refine found.bind ?_
  intro there _ stands
  cases there with
  | true => exact .pure (stands rfl)
  | false => exact .throw trivial

theorem ends_makeLastDirectory_stands {path : Path} (host : Host)
    (passable : path.holdsNul = false)
    : Ends (makeLastDirectory path) host (fun _ after => Stands path after) (fun _ _ => True) := by
  refine .bind_ok (perform_get host) ?_
  cases made : host.files.makeDirectory host.directory path with
  | ok files => exact stands_of_makeDirectory passable made
  | error refusal =>
      cases refusal with
      | notFound => exact .throw trivial
      | _ => exact ends_unlessDirectory_stands _ host passable

/-- A directory that was made with those above it is there: made last or there before. -/
theorem ends_ensureDirectory_stands (path : Path) (host : Host)
    : Ends (ensureDirectory path) host (fun _ after => Stands path after) (fun _ _ => True) := by
  rw [ensureDirectory]
  refine (ends_requirePassable path host).andThen (fun _ _ _ => trivial) ?_
  rintro _ _ ⟨rfl, passable⟩
  refine .bind_ok (perform_get _) ?_
  cases made : FileTree.makeDirectory _ _ path with
  | ok files => exact stands_of_makeDirectory passable made
  | error refusal =>
      cases refusal with
      | notFound =>
          by_cases top : path.parts = []
          · simp only [top, dite_true]
            exact .throw trivial
          · simp only [top, dite_false]
            refine (ends_ensureDirectory path.parent _).andThen (fun _ _ _ => trivial) ?_
            exact fun _ middle _ => ends_makeLastDirectory_stands middle passable
      | _ => exact ends_unlessDirectory_stands _ _ passable

end VerifierBootstrap.Host
