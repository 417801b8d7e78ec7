import VerifierBootstrap.Proofs.FileTree.Edits
import VerifierBootstrap.Proofs.Host.Outcome

/-!
Actions that edit files at known paths. Such an action keeps all directories and all other
files, so a path means the same before and after it, and a path at which nothing was is still
free.
-/

namespace VerifierBootstrap

namespace Host

open VerifierBootstrap.Action

/-- A path leads to a place on a host. -/
def Names (host : Host) (path : Path) (place : Location) : Prop :=
  path.holdsNul = false ∧ host.files.locate host.directory path = .ok place

/-- A reader finds a content at a path. -/
def Held (path : Path) (content : Bytes) (host : Host) : Prop :=
  perform (readBytes path) host = (.ok content, host)

/-- A reader finds a text at a path, in which every line is ended by a line feed. -/
def HoldsText (host : Host) (path : Path) (text : Text) : Prop :=
  path.holdsNul = false
  ∧ ∃ content decoded,
      host.files.read host.directory path = .ok content
      ∧ Utf8.decode content = .ok decoded
      ∧ text = Text.unifyLines decoded

/-- A test finds nothing at a path. -/
def Absent (path : Path) (host : Host) : Prop :=
  perform (fileExists path) host = (.ok false, host)

/-- A path leads to a place where a file can be written: to a file or to nothing. -/
def Writable (path : Path) (host : Host) : Prop :=
  ∃ place, host.Names path place ∧ host.files.lookup place ≠ some .directory

/-- Files come, go and change at some paths, and nothing else does. -/
structure Edited (paths : List Path) (before after : Host) : Prop where
  directory : after.directory = before.directory
  files
    : FileTree.Edits (fun place => ∃ path ∈ paths, before.Names path place) before.files
        after.files

-----------------------------------------------------------------------------------------
-- What stands at a path
-----------------------------------------------------------------------------------------

theorem held_iff {path : Path} {content : Bytes} {host : Host}
    : Held path content host
      ↔ path.holdsNul = false ∧ host.files.read host.directory path = .ok content := by
  constructor
  · intro held
    obtain ⟨_, passable, read⟩ := (ends_ask path FileTree.read host).ok held
    exact ⟨passable, read⟩
  · intro ⟨passable, read⟩
    exact perform_readBytes passable read

/-- What is held is in the file at a place that the path leads to. -/
theorem held_iff_names {path : Path} {content : Bytes} {host : Host}
    : Held path content host
      ↔ ∃ place, host.Names path place ∧ host.files.lookup place = some (.file content) := by
  rw [held_iff]
  constructor
  · rintro ⟨passable, read⟩
    obtain ⟨place, located, there⟩ := FileTree.read_eq_ok read
    exact ⟨place, ⟨passable, located⟩, there⟩
  · rintro ⟨place, names, there⟩
    exact ⟨names.1, FileTree.read_of_locate names.2 there⟩

/-- One content at most is at a path. -/
theorem Held.unique {path : Path} {content other : Bytes} {host : Host}
    (held : Held path content host) (again : Held path other host)
    : content = other := by
  cases held.symm.trans again
  rfl

/-- What is held is told from the files alone. -/
theorem Held.of_same {path : Path} {content : Bytes} {before after : Host}
    (held : Held path content before) (directory : after.directory = before.directory)
    (files : after.files = before.files)
    : Held path content after := by
  have found := held_iff.mp held
  rw [← directory, ← files] at found
  exact held_iff.mpr found

/-- One text at most is at a path. -/
theorem HoldsText.unique {path : Path} {text other : Text} {host : Host}
    (holds : host.HoldsText path text) (again : host.HoldsText path other)
    : text = other := by
  obtain ⟨_, content, decoded, held, read, rfl⟩ := holds
  obtain ⟨_, found, redecoded, heldAgain, readAgain, rfl⟩ := again
  obtain rfl := Except.ok.inj (held.symm.trans heldAgain)
  rw [Except.ok.inj (read.symm.trans readAgain)]

/-- Reading a text changes nothing, and fails where there is none. -/
theorem ends_readText_held (path : Path) (host : Host)
    : Ends (readText path) host
        (fun text after => after = host ∧ host.HoldsText path text)
        (fun failure after =>
          after = host
          ∧ (∀ text, ¬ host.HoldsText path text)
          ∧ (failure.OfFiles ∨ ∃ fault, failure = .undecodable fault)) := by
  refine ((Ends.of_run (readBytes path) host).and (ends_ask path FileTree.read host)).andThen ?_ ?_
  · rintro failure _ ⟨unread, rfl, refused⟩
    refine ⟨rfl, ?_, .inl refused⟩
    rintro text ⟨passable, content, _, held, _⟩
    exact nomatch unread.symm.trans (perform_readBytes passable held)
  · rintro content _ ⟨_, rfl, passable, held⟩
    cases decoding : Utf8.decode content with
    | ok decoded => exact .pure ⟨rfl, passable, content, decoded, held, decoding, rfl⟩
    | error fault =>
        refine .throw ⟨rfl, ?_, .inr ⟨fault, rfl⟩⟩
        rintro text ⟨_, other, _, heldAgain, decoded, _⟩
        obtain rfl := Except.ok.inj (held.symm.trans heldAgain)
        exact nomatch decoding.symm.trans decoded

theorem ends_nodeAt? (path : Path) (host : Host)
    : Ends (nodeAt? path) host
        (fun node after =>
          after = host
          ∧ (path.holdsNul = true ∨ host.files.node? host.directory path = .ok node))
        (fun failure after => after = host ∧ failure.OfFiles) := by
  rw [nodeAt?]
  split
  · rename_i nul
    exact .pure ⟨rfl, .inl nul⟩
  · exact (ends_ask path FileTree.node? host).mono
      (fun _ _ found => ⟨found.1, .inr found.2.2⟩) fun _ _ => id

theorem ends_isDirectory (path : Path) (host : Host)
    : Ends (isDirectory path) host
        (fun _ after => after = host)
        (fun failure after => after = host ∧ failure.OfFiles) :=
  (ends_nodeAt? path host).bind fun _ _ found => .pure found.1

theorem ends_fileExists (path : Path) (host : Host)
    : Ends (fileExists path) host
        (fun there after =>
          after = host
          ∧ (there = false
              → path.holdsNul = true ∨ host.files.node? host.directory path = .ok none))
        (fun failure after => after = host ∧ failure.OfFiles) := by
  refine (ends_nodeAt? path host).bind ?_
  intro node host ended
  rcases ended with ⟨rfl, found⟩
  refine .pure ⟨rfl, fun nothing => ?_⟩
  obtain rfl : node = none := by simpa using nothing
  exact found

theorem absent_iff {path : Path} {host : Host}
    : Absent path host
      ↔ path.holdsNul = true ∨ host.files.node? host.directory path = .ok none := by
  constructor
  · intro absent
    exact ((ends_fileExists path host).ok absent).2 rfl
  · intro nothing
    cases passable : path.holdsNul with
    | true =>
        rw [Absent, fileExists, nodeAt?, passable]
        rfl
    | false =>
        rw [passable] at nothing
        exact perform_fileExists passable (nothing.resolve_left Bool.false_ne_true)

/-- A path that leads to an empty place has nothing at it. -/
theorem absent_of_names {path : Path} {place : Location} {host : Host}
    (names : host.Names path place) (nothing : host.files.lookup place = none)
    : Absent path host :=
  absent_iff.mpr (.inr (by rw [FileTree.node?_of_locate names.2, nothing]))

theorem lookup_of_absent {path : Path} {place : Location} {host : Host}
    (names : host.Names path place) (absent : Absent path host)
    : host.files.lookup place = none := by
  rcases absent_iff.mp absent with nul | nothing
  · rw [names.1] at nul
    exact nomatch nul
  · rw [FileTree.node?_of_locate names.2] at nothing
    exact Except.ok.inj nothing

theorem Held.not_absent {path : Path} {content : Bytes} {host : Host}
    (held : Held path content host)
    : ¬Absent path host := by
  intro absent
  obtain ⟨place, names, there⟩ := held_iff_names.mp held
  rw [lookup_of_absent names absent] at there
  exact nomatch there

theorem ends_request (url : String) (timeout : Int) (host : Host)
    : Ends (request url timeout) host
        (fun _ after =>
          after.directory = host.directory
          ∧ after.files = host.files
          ∧ after.events = host.events ++ [.requested url timeout])
        (fun _ _ => False) := by
  rw [request]
  refine .bind_ok rfl (.bind_ok (perform_get _) ?_)
  dsimp only
  cases host.responses with
  | nil => exact .pure ⟨rfl, rfl, rfl⟩
  | cons response rest => exact .bind_ok rfl (.pure ⟨rfl, rfl, rfl⟩)

-----------------------------------------------------------------------------------------
-- Edits of a host
-----------------------------------------------------------------------------------------

namespace Edited

variable {paths : List Path} {before middle after : Host}

/-- A path leads to the same place before and after. -/
theorem names_iff (edited : Edited paths before after) (path : Path) (place : Location)
    : after.Names path place ↔ before.Names path place := by
  rw [Names, Names, edited.directory, edited.files.locate_iff]

theorem of_same {before after : Host} (directory : after.directory = before.directory)
    (files : after.files = before.files)
    : Edited paths before after :=
  ⟨directory, files ▸ .refl _ _⟩

theorem trans (first : Edited paths before middle) (second : Edited paths middle after)
    : Edited paths before after where
  directory := second.directory.trans first.directory
  files :=
    first.files.trans (second.files.mono fun place ⟨path, member, names⟩ =>
      ⟨path, member, (first.names_iff path place).mp names⟩)

theorem mono {more : List Path} (edited : Edited paths before after)
    (wider : ∀ path ∈ paths, path ∈ more)
    : Edited more before after :=
  ⟨edited.directory, edited.files.mono fun _ ⟨path, member, names⟩ =>
    ⟨path, wider path member, names⟩⟩

/-- A path at which a file can be written is one before and after. -/
theorem writable_iff (edited : Edited paths before after) (path : Path)
    : Writable path after ↔ Writable path before := by
  simp only [Writable, edited.names_iff, ne_eq, edited.files.directories]

/-- What is held at a path that leads to no edited place is held before and after. -/
theorem held_iff {path : Path} (edited : Edited paths before after)
    (apart : ∀ place, before.Names path place → ∀ other ∈ paths, ¬before.Names other place)
    (content : Bytes)
    : Held path content after ↔ Held path content before := by
  rw [held_iff_names, held_iff_names]
  refine exists_congr fun place => ?_
  rw [edited.names_iff]
  refine and_congr_right fun names => ?_
  rw [edited.files.elsewhere place fun ⟨other, member, same⟩ => apart place names other member same]

/-- Edits have changed nothing if at each path the same is held before and after. -/
theorem lookup_eq (edited : Edited paths before after)
    (kept : ∀ path ∈ paths, ∃ content, Held path content before ∧ Held path content after)
    (place : Location)
    : after.files.lookup place = before.files.lookup place := by
  by_cases touched : ∃ path ∈ paths, before.Names path place
  · obtain ⟨path, member, names⟩ := touched
    obtain ⟨content, held, still⟩ := kept path member
    obtain ⟨first, firstNames, there⟩ := held_iff_names.mp held
    obtain ⟨second, secondNames, stillThere⟩ := held_iff_names.mp still
    obtain rfl := Except.ok.inj (names.2.symm.trans firstNames.2)
    obtain rfl := Except.ok.inj (names.2.symm.trans ((edited.names_iff _ _).mp secondNames).2)
    rw [there, stillThere]
  · exact edited.files.elsewhere place touched

/-- What is held after edits that have changed nothing was held before. -/
theorem held_of_lookup_eq {path : Path} {content : Bytes} (edited : Edited paths before after)
    (same : ∀ place, after.files.lookup place = before.files.lookup place)
    (held : Held path content after)
    : Held path content before := by
  obtain ⟨place, names, there⟩ := held_iff_names.mp held
  exact held_iff_names.mpr ⟨place, (edited.names_iff path place).mp names, same place ▸ there⟩

/-- A place where nothing was is empty, unless something was brought there by one of the edits. -/
theorem lookup_eq_none (edited : Edited paths before after) {place : Location}
    (nothing : before.files.lookup place = none) (gone : ∀ path ∈ paths, Absent path after)
    : after.files.lookup place = none := by
  by_cases touched : ∃ path ∈ paths, before.Names path place
  · obtain ⟨path, member, names⟩ := touched
    exact lookup_of_absent ((edited.names_iff path place).mpr names) (gone path member)
  · exact (edited.files.elsewhere place touched).trans nothing

/-- A path at which nothing was is free, unless something was brought there by one of the edits.
-/
theorem absent (edited : Edited paths before after) {path : Path} (absent : Absent path before)
    (gone : ∀ other ∈ paths, Absent other after)
    : Absent path after := by
  rw [absent_iff] at absent ⊢
  refine absent.imp_right fun nothing => ?_
  rw [edited.directory, FileTree.node?]
  rw [FileTree.node?] at nothing
  cases now : after.files.locate before.directory path with
  | ok place =>
      have located := (edited.files.locate_iff before.directory place path).mp now
      rw [located] at nothing
      exact congrArg _ (edited.lookup_eq_none (Except.ok.inj nothing) gone)
  | error refusal =>
      cases refusal with
      | nameTooLong =>
          rw [edited.files.locate_tooLong now] at nothing
          cases nothing
      | _ => rfl

end Edited

-----------------------------------------------------------------------------------------
-- Actions that edit files at known paths
-----------------------------------------------------------------------------------------

/-- Whatever comes of an action, it has edited files at some paths and done nothing else to
files.
-/
def EditsOnly {α : Type} (paths : List Path) (action : Action α) : Prop :=
  ∀ host, Edited paths host (perform action host).2

namespace EditsOnly

variable {α β : Type} {paths : List Path}

theorem pure (value : α) : EditsOnly paths (Pure.pure value) := fun _ => .of_same rfl rfl

theorem throw (failure : Failure) : EditsOnly paths (MonadExcept.throw failure : Action α) :=
  fun _ => .of_same rfl rfl

theorem get : EditsOnly paths (MonadState.get : Action Host) := fun _ => .of_same rfl rfl

theorem ofExcept (result : Except Failure α) : EditsOnly paths (Action.ofExcept result) := by
  intro host
  rw [perform_ofExcept]
  exact .of_same rfl rfl

theorem bind {action : Action α} {next : α → Action β} (first : EditsOnly paths action)
    (rest : ∀ value, EditsOnly paths (next value))
    : EditsOnly paths (action >>= next) :=
  fun host => related_bind (Edited paths) .trans (first host) rest

theorem note (level : LogLevel) (text : String) : EditsOnly paths (Host.note level text) :=
  fun _ => .of_same rfl rfl

theorem of_ends {action : Action α}
    (ends
      : ∀ host,
          Ends action host (fun _ after => Edited paths host after)
            (fun _ after => Edited paths host after))
    : EditsOnly paths action := by
  intro host
  cases run : perform action host with
  | mk result after =>
      cases result with
      | ok value => exact (ends host).ok run
      | error failure => exact (ends host).error run

theorem ask (path : Path) (question : FileTree → Location → Path → Except Refusal α)
    : EditsOnly paths (Host.ask path question) :=
  of_ends fun host => (ends_ask path question host).mono (fun _ _ same => same.1 ▸ .of_same rfl rfl)
    fun _ _ same => same.1 ▸ .of_same rfl rfl

theorem fileExists (path : Path) : EditsOnly paths (Host.fileExists path) :=
  of_ends fun host => (ends_fileExists path host).mono
    (fun _ _ same => same.1 ▸ .of_same rfl rfl) fun _ _ same => same.1 ▸ .of_same rfl rfl

theorem request (url : String) (timeout : Int) : EditsOnly paths (Host.request url timeout) :=
  of_ends fun host => (ends_request url timeout host).mono
    (fun _ _ same => .of_same same.1 same.2.1) fun _ _ => False.elim

theorem change {path : Path} {operation : FileTree → Location → Path → Except Refusal FileTree}
    (edits
      : ∀ (host : Host) (files : FileTree),
          path.holdsNul = false
          → operation host.files host.directory path = .ok files
          → FileTree.Edits (fun place => ∃ path ∈ paths, host.Names path place) host.files files)
    : EditsOnly paths (Host.change path operation) := by
  refine of_ends fun host => (ends_change path operation host).mono ?_ fun _ _ same =>
    same.1 ▸ .of_same rfl rfl
  intro _ _ ended
  rcases ended with ⟨passable, files, changed, rfl⟩
  exact ⟨rfl, edits host files passable changed⟩

theorem writeBytes {path : Path} (member : path ∈ paths) (content : Bytes)
    : EditsOnly paths (Host.writeBytes path content) := by
  refine change fun host files passable written => ?_
  obtain ⟨place, located, plain, rfl⟩ := FileTree.write_eq_ok written
  exact .set content ⟨path, member, passable, located⟩ plain

theorem unlink {path : Path} (member : path ∈ paths) : EditsOnly paths (Host.unlink path) := by
  refine change fun host files passable unlinked => ?_
  obtain ⟨place, content, located, there, rfl⟩ := FileTree.unlink_eq_ok unlinked
  exact .remove ⟨path, member, passable, located⟩ (by simp [there])

theorem move {source target : Path} (fromMember : source ∈ paths) (toMember : target ∈ paths)
    (passes : source.holdsNul = false → target.holdsNul = false)
    : EditsOnly paths (Host.move source target) := by
  refine change fun host files passable moved => ?_
  obtain ⟨content, removed, _, unlinked, written⟩ := FileTree.move_eq_ok moved
  obtain ⟨place, held, located, there, rfl⟩ := FileTree.unlink_eq_ok unlinked
  obtain ⟨newPlace, newLocated, plain, rfl⟩ := FileTree.write_eq_ok written
  have cleared : FileTree.Edits (fun place => ∃ path ∈ paths, host.Names path place) host.files
      (host.files.remove place) :=
    .remove ⟨source, fromMember, passable, located⟩ (by simp [there])
  exact cleared.trans (.set content
    ⟨target, toMember, passes passable, (cleared.locate_iff _ _ _).mp newLocated⟩ plain)

theorem appendBytes {path : Path} (member : path ∈ paths) (content : Bytes)
    : EditsOnly paths (Host.appendBytes path content) :=
  .bind (ask path _) fun _ => writeBytes member _

theorem unlinkIfPresent {path : Path} (member : path ∈ paths)
    : EditsOnly paths (Host.unlinkIfPresent path) := by
  refine .bind (fileExists path) fun there => ?_
  cases there with
  | true => exact unlink member
  | false => exact .pure ()

end EditsOnly

/-- What holds at the end of an action holds beside what it leaves alone. -/
theorem EditsOnly.keeping {α : Type} {paths : List Path} {action : Action α}
    {host : Host} {value : α → Host → Prop} {failed : Failure → Host → Prop}
    (edits : EditsOnly paths action) (ends : Ends action host value failed)
    : Ends action host (fun result after => value result after ∧ Edited paths host after)
        (fun failure after => failed failure after ∧ Edited paths host after) :=
  ends.and (.of_left (edits host))

-----------------------------------------------------------------------------------------
-- What an edit has brought about
-----------------------------------------------------------------------------------------

theorem ends_writeBytes (path : Path) (content : Bytes) (host : Host)
    : Ends (writeBytes path content) host
        (fun _ after => Held path content after)
        (fun failure _ => failure.OfFiles) := by
  refine (ends_change path _ host).mono ?_ fun _ _ => And.right
  intro _ _ ended
  rcases ended with ⟨passable, files, written, rfl⟩
  exact held_iff.mpr ⟨passable, FileTree.read_of_write written⟩

/-- A file is written where one can be written, and nothing is done to a host where none can be. -/
theorem ends_writeBytes_writable (path : Path) (content : Bytes) (host : Host)
    : Ends (writeBytes path content) host
        (fun _ after => Writable path host ∧ Held path content after ∧ Edited [path] host after)
        (fun failure after => after = host ∧ ¬Writable path host ∧ failure.OfFiles) := by
  have ended := (ends_change path (fun files directory path => files.write directory path content)
    host).and (Ends.of_run (writeBytes path content) host)
  have kept := EditsOnly.writeBytes (List.mem_singleton.mpr rfl) content |>.keeping
    (ends_writeBytes path content host)
  refine (ended.and kept).mono ?_ ?_
  · rintro _ after ⟨⟨⟨passable, files, written, _⟩, _⟩, held, edited⟩
    obtain ⟨place, located, plain, _⟩ := FileTree.write_eq_ok written
    exact ⟨⟨place, ⟨passable, located⟩, plain⟩, held, edited⟩
  · rintro failure _ ⟨⟨⟨rfl, ofFiles⟩, failed⟩, _⟩
    refine ⟨rfl, ?_, ofFiles⟩
    rintro ⟨place, ⟨passable, located⟩, plain⟩
    have written := perform_writeBytes passable (FileTree.write_of_locate located plain content)
    exact nomatch written.symm.trans failed

theorem exists_perform_writeBytes {path : Path} {host : Host} (writable : Writable path host)
    (content : Bytes)
    : ∃ after,
        perform (writeBytes path content) host = (.ok (), after)
        ∧ Held path content after
        ∧ Edited [path] host after := by
  have ends := ends_writeBytes_writable path content host
  cases run : perform (writeBytes path content) host with
  | mk result after =>
      cases result with
      | ok => exact ⟨after, rfl, (ends.ok run).2⟩
      | error failure => exact absurd writable (ends.error run).2.1

theorem ends_unlink (path : Path) (host : Host)
    : Ends (unlink path) host
        (fun _ after => Absent path after)
        (fun failure _ => failure.OfFiles) := by
  refine (ends_change path _ host).mono ?_ fun _ _ => And.right
  intro _ _ ended
  rcases ended with ⟨passable, files, unlinked, rfl⟩
  obtain ⟨place, content, located, there, rfl⟩ := FileTree.unlink_eq_ok unlinked
  have plain : host.files.lookup place ≠ some .directory := by simp [there]
  have cleared : FileTree.Edits (· = place) host.files (host.files.remove place) :=
    .remove rfl plain
  exact absent_of_names ⟨passable, (cleared.locate_iff _ _ _).mpr located⟩
    (FileTree.lookup_remove_self _ (FileTree.ne_top_of_plain plain))

theorem ends_unlinkIfPresent (path : Path) (host : Host)
    : Ends (unlinkIfPresent path) host
        (fun _ after => Absent path after)
        (fun failure _ => failure.OfFiles) := by
  refine (ends_fileExists path host).andThen (fun _ _ => And.right) ?_
  intro there host ended
  rcases ended with ⟨rfl, nothing⟩
  cases there with
  | true => exact ends_unlink path host
  | false => exact .pure (absent_iff.mpr (nothing rfl))

theorem ends_move {source target : Path} {content : Bytes} {host : Host}
    (held : Held source content host) (passes : source.holdsNul = false → target.holdsNul = false)
    : Ends (move source target) host
        (fun _ after => Held target content after)
        (fun failure _ => failure.OfFiles) := by
  refine (ends_change source _ host).mono ?_ fun _ _ => And.right
  intro _ _ ended
  rcases ended with ⟨passable, files, moved, rfl⟩
  obtain ⟨other, removed, read, _, written⟩ := FileTree.move_eq_ok moved
  obtain rfl := Except.ok.inj ((held_iff.mp held).2.symm.trans read)
  exact held_iff.mpr ⟨passes passable, FileTree.read_of_write written⟩

end Host

end VerifierBootstrap
