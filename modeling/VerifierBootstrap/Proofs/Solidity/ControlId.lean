import VerifierBootstrap.Proofs.Host.Delivery
import VerifierBootstrap.Proofs.Solidity.Emission

/-!
The file of a control root. It is written whole, with the two halves of the root on a line each,
before the formatter is started on it; if it cannot be written no file is different.
-/

namespace VerifierBootstrap.Solidity

open VerifierBootstrap.Action

/-- The text of a library of the two halves of a digest, each on a line of its own. -/
def IsControlId (halves : Digest.Halves) (text : Text) : Prop :=
  text
  = header ++ "pragma solidity ^0.8.9;\n\nlibrary ControlID \x7b\n".toList
      ++ "    uint256 public constant CONTROL_ID_0 = ".toList ++ halves.high ++ ";\n".toList
      ++ "    uint256 public constant CONTROL_ID_1 = ".toList ++ halves.low ++ ";\n".toList
      ++ "\x7d\n".toList

/-- The library of a control root has its halves. -/
theorem isControlId_render (controlRoot : Digest)
    : IsControlId controlRoot.split (controlIdLibrary controlRoot).render := by
  have opening
      : "pragma solidity ".toList ++ "^0.8.9".toList ++ ";\n\n".toList ++ "library ".toList
            ++ "ControlID".toList ++ " \x7b\n".toList
        = "pragma solidity ^0.8.9;\n\nlibrary ControlID \x7b\n".toList := by
    rfl
  have first
      : "    ".toList ++ "uint256 public constant CONTROL_ID_0 = ".toList
        = "    uint256 public constant CONTROL_ID_0 = ".toList := by
    rfl
  have second
      : "    ".toList ++ "uint256 public constant CONTROL_ID_1 = ".toList
        = "    uint256 public constant CONTROL_ID_1 = ".toList := by
    rfl
  have ended : [';'] ++ ['\n'] = ";\n".toList := by rfl
  unfold IsControlId Library.render controlIdLibrary
  dsimp only
  simp only [← opening, ← first, ← second, ← ended, controlIdConstants, constantLine,
    List.flatMap_cons, List.flatMap_nil, List.append_assoc, List.append_nil]

/-- A file that was placed has the text, and no other file is different. -/
theorem ends_place_kept (path : Path) (content : Text) (host : Host)
    : Ends (place path content) host
        (fun _ after =>
          ∃ files,
            after = { host with files := files }
            ∧ files.read host.directory path = .ok (Utf8.encode content)
            ∧ ∀ place,
                place ≠ path.location host.directory
                → files.content? place = host.files.content? place)
        (fun _ after => host.Kept after) := by
  have ensured :=
    (Host.ends_ensureDirectory path.parent host).and
      ((Host.filesOnly_ensureDirectory path.parent).ends host)
  refine ensured.andThen ?_ ?_
  · rintro _ _ ⟨⟨grown, _⟩, files, rfl⟩
    exact grown.kept
  rintro _ _ ⟨grown, made, rfl⟩
  refine (Host.ends_writeSource path content _).mono ?_ ?_
  · rintro _ _ ⟨_, _, files, written, rfl⟩
    refine ⟨files, rfl, FileTree.read_of_write written, fun place other => ?_⟩
    obtain ⟨target, located, _, rfl⟩ := FileTree.write_eq_ok written
    obtain rfl := FileTree.eq_location_of_locate located
    rw [← grown.kept.content? place, FileTree.content?, FileTree.content?,
      FileTree.lookup_set_of_ne _ _ other]
  · rintro _ _ rfl
    exact grown.kept

/-- A library is delivered, whether it succeeds or fails. -/
theorem delivered_writeLibrary (path : Path) (content : Text) (formatter : Formatter) (host : Host)
    : Delivered formatter path content host (perform (writeLibrary path content formatter) host).1
        (perform (writeLibrary path content formatter) host).2 := by
  refine Ends.outcome ?_
  refine (ends_orShortage (ends_place_kept path content host)).andThen (fun _ _ => .kept) ?_
  rintro _ _ ⟨files, rfl, held, elsewhere⟩
  refine .bind_ok (Host.perform_note _ _ _) ?_
  exact (Ends.of_run (formatter.format path) _).mono (fun _ _ => .of_format held elsewhere)
    fun _ _ => .of_format held elsewhere

/-- A text can be delivered to a path: sources are not locked, the directory of the file is there or
can be made, the file can be written in it, and the formatter ends well on it.
-/
inductive Deliverable (formatter : Formatter) (path : Path) (content : Text) (host : Host)
    : Prop where
  | intro {made files left : FileTree} (unlocked : host.sourcesLocked = false)
    (passable : path.holdsNul = false)
    (ensured
      : perform (Host.ensureDirectory path.parent) host = (.ok (), { host with files := made }))
    (written : made.write host.directory path (Utf8.encode content) = .ok files)
    (well
      : host.launch host.events (formatter.command ++ [path.text]) files = .exited 0 left)
    : Deliverable formatter path content host

/-- Writing a library succeeds exactly if its text can be delivered. -/
theorem writeLibrary_succeeds_iff (path : Path) (content : Text) (formatter : Formatter)
    (host : Host)
    : (perform (writeLibrary path content formatter) host).1 = .ok ()
      ↔ Deliverable formatter path content host := by
  constructor
  · refine @Ends.outcome _ _ _
      (fun outcome _ => outcome = .ok () → Deliverable formatter path content host) ?_
    refine (ends_orShortage (ends_place path content host)).andThen (fun _ _ _ => nofun) ?_
    rintro _ _ ⟨unlocked, passable, made, files, ensured, written, rfl⟩
    refine .bind_ok (Host.perform_note _ _ _) ?_
    refine (Ends.of_run (formatter.format path) _).mono ?_ fun _ _ _ => nofun
    intro _ _ formatted _
    rw [Formatter.perform_format] at formatted
    have succeeded := congrArg Except.isOk (Prod.mk.inj formatted).1
    obtain ⟨left, well⟩ := (formatter.isOk_outcome path _).mp succeeded
    exact .intro unlocked passable ensured written well
  · rintro @⟨made, files, left, unlocked, passable, ensured, written, well⟩
    have stillUnlocked : Host.sourcesLocked { host with files := made } = false := unlocked
    have placed : perform (place path content) host = (.ok (), { host with files := files }) := by
      rw [place, perform_bind_ok ensured, Host.perform_writeSource stillUnlocked]
      exact Host.perform_writeBytes passable written
    have shielded
        : perform (orShortage (.unwritable none path.text) (place path content)) host
          = (.ok (), { host with files := files }) := by
      rw [orShortage, perform_tryCatch, placed]
    rw [writeLibrary, perform_bind_ok shielded, perform_bind_ok (Host.perform_note _ _ _),
      Formatter.perform_format]
    dsimp only
    rw [well, Formatter.outcome, if_pos rfl]

theorem delivered_bootstrapControlId (settings : BootstrapSettings) (controlRoot : Digest)
    (formatter : Formatter) (host : Host)
    : Delivered formatter (settings.path settings.solidityControlId)
        (controlIdLibrary controlRoot).render host
        (perform (bootstrapControlId settings controlRoot formatter) host).1
        (perform (bootstrapControlId settings controlRoot formatter) host).2 :=
  delivered_bind_pure _ (delivered_writeLibrary _ _ formatter host)

end VerifierBootstrap.Solidity
