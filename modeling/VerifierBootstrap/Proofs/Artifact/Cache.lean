import Mathlib.Control.Monad.Basic
import VerifierBootstrap.Artifact.Cache
import VerifierBootstrap.Proofs.Digest.Reads
import VerifierBootstrap.Proofs.Host.Directories

/-!
The cache hands out an artifact only with the content of its digest. What it refuses to hand out
it has removed, and it does nothing to files other than the cached one and its part file.
-/

namespace VerifierBootstrap

/-- A failure to obtain an artifact: the content had the wrong digest or could not be had. -/
def Failure.Denies (failure : Failure) : Prop :=
  failure.kind = "IntegrityError" ∨ failure.kind = "AvailabilityError"

theorem Failure.OfFiles.not_denies {failure : Failure} (ofFiles : failure.OfFiles)
    : ¬ failure.Denies := by
  cases failure with
  | file fault =>
      obtain ⟨refusal, place⟩ := fault
      cases refusal <;> simp [Denies, kind, Refusal.kind]
  | embeddedNul => simp [Denies, kind]
  | _ => exact ofFiles.elim

theorem Failure.not_denies_digest (fault : Digest.Fault) : ¬ (Failure.digest fault).Denies := by
  cases fault <;> simp [Denies, kind]

theorem Failure.not_denies_transfer {fault : TransferFault} (foreign : fault.origin ≠ .session)
    : ¬ (Failure.transfer fault).Denies := by
  obtain ⟨origin, message⟩ := fault
  cases origin with
  | session => exact absurd rfl foreign
  | system => simp [Denies, kind]
  | value => simp [Denies, kind]

namespace ArtifactCache

open VerifierBootstrap.Action VerifierBootstrap.Host

/-- A file with the content of a digest is at a path. -/
def Genuine (expected : Digest) (path : Path) (host : Host) : Prop :=
  ∃ content, Held path content host ∧ Digest.ofContent content = expected

theorem Genuine.logged {expected : Digest} {path : Path} {host : Host}
    (genuine : Genuine expected path host) (log : List LogLine)
    : Genuine expected path { host with log := log } := by
  obtain ⟨content, held, same⟩ := genuine
  exact ⟨content, held.of_same rfl rfl, same⟩

theorem Genuine.unique {expected other : Digest} {path : Path} {host : Host}
    (genuine : Genuine expected path host) (again : Genuine other path host)
    : expected = other := by
  obtain ⟨content, held, rfl⟩ := genuine
  obtain ⟨found, heldToo, rfl⟩ := again
  rw [held.unique heldToo]

/-- A genuine file is at a place that the path leads to, with its content. -/
theorem genuine_iff {expected : Digest} {path : Path} {host : Host}
    : Genuine expected path host
      ↔ ∃ place content,
          host.Names path place
          ∧ host.files.lookup place = some (.file content)
          ∧ Digest.ofContent content = expected := by
  constructor
  · rintro ⟨content, held, same⟩
    obtain ⟨place, names, there⟩ := held_iff_names.mp held
    exact ⟨place, content, names, there, same⟩
  · rintro ⟨place, content, names, there, same⟩
    exact ⟨content, held_iff_names.mpr ⟨place, names, there⟩, same⟩

theorem Genuine.not_absent {expected : Digest} {path : Path} {host : Host}
    (genuine : Genuine expected path host)
    : ¬ Absent path host := by
  obtain ⟨_, held, _⟩ := genuine
  exact held.not_absent

-----------------------------------------------------------------------------------------
-- The cached file and the local copy
-----------------------------------------------------------------------------------------

theorem perform_digestOf (size : Int) (content : Bytes) (host : Host)
    : perform (digestOf size content) host
      = ((Digest.ofReads host.limits.memory size content).mapError Failure.digest, host) := by
  rw [digestOf, perform_bind_ok (perform_get host), perform_ofExcept]

/-- Every machine has memory for a read of the usual size. -/
theorem ofReads_readSize (limits : Limits) (content : Bytes)
    : Digest.ofReads limits.memory readSize content = .ok (Digest.ofContent content) := by
  have enough := limits.mebibyte_le_memory
  refine Digest.ofReads_of_usable (.inr ⟨by decide, by decide, ?_⟩)
  rw [readSize]
  omega

/-- What is read from a file is digested, and nothing is done to the host. -/
theorem perform_fileDigest_of_held {path : Path} {content : Bytes} {host : Host}
    (held : Held path content host) (size : Int)
    : perform (fileDigest size path) host
      = ((Digest.ofReads host.limits.memory size content).mapError Failure.digest, host) := by
  rw [fileDigest, perform_bind_ok held, perform_digestOf]

theorem ends_fileDigest (path : Path) (host : Host)
    : Ends (fileDigest readSize path) host
        (fun digest after => after = host ∧ Genuine digest path host)
        (fun failure _ => failure.OfFiles) := by
  refine (ends_ask path FileTree.read host).andThen (fun _ _ => And.right) ?_
  intro content host ended
  rcases ended with ⟨rfl, passable, held⟩
  refine .bind_ok (perform_get host) ?_
  rw [ofReads_readSize]
  exact .pure ⟨rfl, content, held_iff.mpr ⟨passable, held⟩, rfl⟩

/-- A cached file is reused if its content is genuine, and else it is gone. -/
theorem ends_reuse (expected : Digest) (path : Path) (host : Host)
    : Ends (reuse expected path) host
        (fun found after =>
          (found = true ↔ Genuine expected path host)
          ∧ if found then Genuine expected path after else Absent path after)
        (fun failure _ => failure.OfFiles) := by
  rw [reuse]
  refine (ends_fileExists path host).andThen (fun _ _ => And.right) ?_
  intro there host ended
  rcases ended with ⟨rfl, nothing⟩
  cases there with
  | false =>
      have absent := absent_iff.mpr (nothing rfl)
      exact .pure ⟨⟨nofun, fun genuine => absurd absent genuine.not_absent⟩, absent⟩
  | true =>
      simp only [if_true]
      refine (ends_fileDigest path host).bind ?_
      intro digest host ended
      rcases ended with ⟨rfl, genuine⟩
      split
      · rename_i same
        subst same
        exact .bind_ok (perform_note _ _ _)
          (.pure ⟨⟨fun _ => genuine, fun _ => rfl⟩, genuine.logged _⟩)
      · rename_i stale
        refine .bind_ok (perform_note _ _ _) ?_
        exact (ends_unlink path _).andThen (fun _ _ => id) fun _ _ absent =>
          .pure ⟨⟨nofun, fun expects => absurd (genuine.unique expects) stale⟩, absent⟩

/-- A local copy is taken if its content is genuine, and then it is read once more. -/
theorem ends_copyLocal (expected : Digest) (source : Option Path) {path : Path} {host : Host}
    (absent : Absent path host)
    : Ends (copyLocal expected source path) host
        (fun taken after =>
          (taken = true ↔ ∃ kept, source = some kept ∧ Genuine expected kept host)
          ∧ if taken then Genuine expected path after else Absent path after)
        (fun failure _ => failure.OfFiles) := by
  cases source with
  | none => exact .pure ⟨by simp, absent⟩
  | some source =>
      simp only [Option.some.injEq, exists_eq_left']
      rw [copyLocal]
      refine (ends_fileExists source host).andThen (fun _ _ => And.right) ?_
      intro there host ended
      rcases ended with ⟨rfl, nothing⟩
      cases there with
      | false =>
          have missing := absent_iff.mpr (nothing rfl)
          exact .pure ⟨⟨nofun, fun genuine => absurd missing genuine.not_absent⟩, absent⟩
      | true =>
          simp only [if_true]
          refine (ends_fileDigest source host).bind ?_
          intro digest host ended
          rcases ended with ⟨rfl, genuine⟩
          split
          · rename_i same
            subst same
            obtain ⟨content, held, same⟩ := genuine
            refine .bind_ok (perform_note _ _ _) (.bind_ok (held.of_same rfl rfl) ?_)
            exact (ends_writeBytes path content _).andThen (fun _ _ => id) fun _ _ taken =>
              .pure ⟨⟨fun _ => ⟨content, held, same⟩, fun _ => rfl⟩, content, taken, same⟩
          · rename_i foreign
            exact .pure
              ⟨⟨nofun, fun expects => absurd (genuine.unique expects) foreign⟩, absent⟩

-----------------------------------------------------------------------------------------
-- Downloads
-----------------------------------------------------------------------------------------

/-- The part file has a NUL in its path if the cached file has, as an ending brings none. -/
theorem holdsNul_partPath (path : Path) : (partPath path).holdsNul = path.holdsNul := by
  obtain ⟨anchor, parts⟩ := path
  rcases List.eq_nil_or_concat parts with rfl | ⟨front, last, rfl⟩
  · simp [Path.holdsNul, partPath, Path.appendToName, Path.name]
  · simp [Path.holdsNul, partPath, Path.appendToName, Path.name]

theorem holdsNul_of_partPath {path : Path} (passable : (partPath path).holdsNul = false)
    : path.holdsNul = false :=
  (holdsNul_partPath path).symm.trans passable

/-- Pieces are written behind what is there. By induction on the pieces. -/
theorem ends_appendPieces {part : Path} {content : Bytes} {host : Host}
    (held : Held part content host) (pieces : List Bytes)
    : Ends (appendPieces part pieces) host
        (fun _ after => Held part (content ++ pieces.flatten) after)
        (fun failure _ => ¬ failure.Denies) := by
  induction pieces generalizing content host with
  | nil => exact .pure (by simpa using held)
  | cons piece rest ih =>
      rw [appendPieces]
      by_cases empty : piece.isEmpty = true
      · obtain rfl := List.isEmpty_iff.mp empty
        exact .bind_ok rfl (ih held)
      · simp only [empty, Bool.false_eq_true, if_false]
        have appended
            : Ends (appendBytes part piece) host
                (fun _ after => Held part (content ++ piece) after)
                (fun failure _ => failure.OfFiles) :=
          .bind_ok held (ends_writeBytes part (content ++ piece) host)
        refine appended.andThen (fun _ _ ofFiles => ofFiles.not_denies) fun _ after longer => ?_
        rw [List.flatten_cons, ← List.append_assoc]
        exact ih longer

/-- A body that is complete is in the part file, with the digest that was taken of its pieces. -/
theorem ends_receive (response : Response) (part : Path) (host : Host)
    : Ends (receive response part) host
        (fun received after => ∀ digest, received = .complete digest → Genuine digest part after)
        (fun failure _ => ¬ failure.Denies) := by
  cases response with
  | refused fault => exact .pure nofun
  | rejected fault => exact .pure nofun
  | body chunks interruption =>
      simp only [receive]
      refine (ends_writeBytes part [] host).andThen (fun _ _ ofFiles => ofFiles.not_denies) ?_
      intro _ opened held
      refine (ends_appendPieces held chunks).bind ?_
      intro _ after held
      cases interruption with
      | some fault => exact .pure nofun
      | none =>
          refine .pure ?_
          intro digest same
          obtain rfl := Received.complete.inj same
          refine ⟨chunks.flatten, held, ?_⟩
          rw [Digest.ofParts_eq_ofContent, List.flatten_filter_not_isEmpty]

theorem ends_abandon {α : Type} (url : String) (part : Path) (fault : TransferFault) (host : Host)
    : Ends (abandon url part fault : Action α) host
        (fun _ _ => False)
        (fun failure after => failure.Denies → Absent part after) := by
  rw [abandon]
  split
  · refine (ends_unlinkIfPresent part host).andThen
      (fun _ _ ofFiles denies => absurd denies ofFiles.not_denies) ?_
    intro _ after absent
    exact .throw fun _ => absent
  · rename_i foreign
    exact .throw fun denies => absurd denies (Failure.not_denies_transfer foreign)

-----------------------------------------------------------------------------------------
-- Files that are edited
-----------------------------------------------------------------------------------------

section Edits

variable {paths : List Path} {path : Path}

theorem editsOnly_fileDigest (path : Path) : EditsOnly paths (fileDigest readSize path) :=
  .bind (.ask path _) fun _ => .bind .get fun _ => .ofExcept _

theorem editsOnly_reuse (member : path ∈ paths) (expected : Digest)
    : EditsOnly paths (reuse expected path) := by
  rw [reuse]
  refine .bind (.fileExists path) fun there => ?_
  cases there with
  | false => exact .pure _
  | true =>
      refine .bind (editsOnly_fileDigest path) fun digest => ?_
      split
      · exact .bind (.note _ _) fun _ => .pure _
      · exact .bind (.note _ _) fun _ => .bind (.unlink member) fun _ => .pure _

theorem editsOnly_copyLocal (member : path ∈ paths) (expected : Digest) (source : Option Path)
    : EditsOnly paths (copyLocal expected source path) := by
  cases source with
  | none => exact .pure _
  | some source =>
      rw [copyLocal]
      refine .bind (.fileExists source) fun there => ?_
      cases there with
      | false => exact .pure _
      | true =>
          refine .bind (editsOnly_fileDigest source) fun digest => ?_
          split
          · exact .bind (.note _ _) fun _ => .bind (.ask source _) fun _ =>
              .bind (.writeBytes member _) fun _ => .pure _
          · exact .pure _

theorem editsOnly_appendPieces (member : path ∈ paths) (pieces : List Bytes)
    : EditsOnly paths (appendPieces path pieces) := by
  induction pieces with
  | nil => exact .pure _
  | cons piece rest ih =>
      rw [appendPieces]
      split
      · exact ih
      · exact .bind (.appendBytes member piece) fun _ => ih

theorem editsOnly_receive (member : path ∈ paths) (response : Response)
    : EditsOnly paths (receive response path) := by
  cases response with
  | refused fault => exact .pure _
  | rejected fault => exact .pure _
  | body chunks interruption =>
      refine .bind (.writeBytes member _) fun _ =>
        .bind (editsOnly_appendPieces member chunks) fun _ => ?_
      cases interruption with
      | none => exact .pure _
      | some fault => exact .pure _

theorem editsOnly_abandon {α : Type} (member : path ∈ paths) (url : String) (fault : TransferFault)
    : EditsOnly paths (abandon url path fault : Action α) := by
  rw [abandon]
  split
  · exact .bind (.unlinkIfPresent member) fun _ => .throw _
  · exact .throw _

theorem editsOnly_download (cache : ArtifactCache) (expected : Digest) (path : Path)
    : EditsOnly [path, partPath path] (cache.download expected path) := by
  have member : partPath path ∈ [path, partPath path] := by simp
  refine .bind (.note _ _) fun _ => .bind (.request _ _) fun response =>
    .bind (editsOnly_receive member response) fun received => ?_
  cases received with
  | failed fault => exact editsOnly_abandon member _ fault
  | complete actual =>
      have moved
          : EditsOnly [path, partPath path] (do
              Host.move (partPath path) path
              let content ← Host.readBytes path
              Host.note .info s!"downloaded {path.text} ({content.length} bytes)") :=
        .bind (.move member (by simp) holdsNul_of_partPath) fun _ => .bind (.ask path _) fun _ =>
          .note _ _
      dsimp only
      split
      · exact .bind (.unlinkIfPresent member) fun _ => .bind (.throw _) fun _ => moved
      · exact moved

end Edits

-----------------------------------------------------------------------------------------
-- Obtaining an artifact
-----------------------------------------------------------------------------------------

/-- A download is genuine, or else is denied and leaves nothing, at the path or beside it. -/
theorem ends_download (cache : ArtifactCache) (expected : Digest) {path : Path} {host : Host}
    (absent : Absent path host)
    : Ends (cache.download expected path) host
        (fun _ after => Genuine expected path after)
        (fun failure after =>
          failure.Denies → Absent path after ∧ Absent (partPath path) after) := by
  have member : partPath path ∈ [partPath path] := by simp
  -- All edits up to a denial are edits of the part file
  have denied {after : Host} (edited : Edited [partPath path] host after)
      (gone : Absent (partPath path) after)
      : Absent path after ∧ Absent (partPath path) after :=
    ⟨edited.absent absent (by simpa using gone), gone⟩
  refine .bind_ok (perform_note _ _ _) ((ends_request _ _ _).andThen (fun _ _ => False.elim) ?_)
  intro response asked same
  have asking : Edited [partPath path] host asked := .of_same same.1 same.2.1
  refine ((editsOnly_receive member response).keeping (ends_receive _ _ _)).andThen
    (fun _ _ ⟨plain, _⟩ denies => absurd denies plain) ?_
  intro received stored ended
  rcases ended with ⟨complete, storing⟩
  have edited := asking.trans storing
  cases received with
  | failed fault =>
      refine ((editsOnly_abandon member _ fault).keeping (ends_abandon _ _ _ _)).mono
        (fun _ _ ends => ends.1.elim) ?_
      intro failure after ended denies
      rcases ended with ⟨gone, abandoning⟩
      exact denied (edited.trans abandoning) (gone denies)
  | complete actual =>
      dsimp only
      split
      · refine ((EditsOnly.unlinkIfPresent member).keeping (ends_unlinkIfPresent _ _)).andThen
          (fun _ _ ⟨ofFiles, _⟩ denies => absurd denies ofFiles.not_denies) ?_
        intro _ after ended
        rcases ended with ⟨gone, unlinking⟩
        exact .throw fun _ => denied (edited.trans unlinking) gone
      · rename_i same
        obtain ⟨content, held, digest⟩ := complete actual rfl
        refine (ends_move held holdsNul_of_partPath).andThen
          (fun _ _ ofFiles denies => absurd denies ofFiles.not_denies) ?_
        intro _ moved held
        refine .bind_ok held ?_
        exact Genuine.logged ⟨content, held, digest.trans (Decidable.not_not.mp same)⟩ _

/-- Directories were made along a path, and then nothing but the cached file and its part
edited.
-/
def Confined (directory path : Path) (before after : Host) : Prop :=
  ∃ made, Grown directory before made ∧ Edited [path, partPath path] made after

theorem Confined.trans {directory path : Path} {before middle after : Host}
    (confined : Confined directory path before middle)
    (edited : Edited [path, partPath path] middle after)
    : Confined directory path before after := by
  obtain ⟨made, grown, editing⟩ := confined
  exact ⟨made, grown, editing.trans edited⟩

theorem Confined.directory {directory path : Path} {before after : Host}
    (confined : Confined directory path before after)
    : after.directory = before.directory := by
  obtain ⟨made, grown, edited⟩ := confined
  exact edited.directory.trans grown.directory

theorem ends_obtain {cache : ArtifactCache} (digest : String) (source : Option Path)
    (directory : Path) (host : Host) (wanted : cache.settings.documentationBuild = false)
    : let path := directory.child cache.settings.filename
      Ends (cache.obtain digest source directory) host
        (fun result after =>
          (∃ artifact expected,
            result = some artifact
            ∧ artifact.path = path
            ∧ Digest.parse digest.toList = .ok expected
            ∧ Genuine expected path after)
          ∧ Confined directory path host after)
        (fun failure after =>
          (failure.Denies → Absent path after ∧ Absent (partPath path) after)
          ∧ Confined directory path host after) := by
  intro path
  have member : path ∈ [path, partPath path] := by simp
  rw [obtain, wanted]
  simp only [Bool.false_eq_true, if_false]
  cases parsed : Digest.parse digest.toList with
  | error fault =>
      exact .throw ⟨fun denies => absurd denies (Failure.not_denies_digest fault),
        host, .refl directory host, .of_same rfl rfl⟩
  | ok expected =>
      -- What a step leaves of the cache, whether it is the last or another follows
      have granted {after : Host} (genuine : Genuine expected path after)
          : ∃ artifact other,
              some (⟨cache.settings.filename, path, expected⟩ : Artifact) = some artifact
              ∧ artifact.path = path
              ∧ (.ok expected : Except Digest.Fault Digest) = .ok other
              ∧ Genuine other path after :=
        ⟨_, expected, rfl, rfl, rfl, genuine⟩
      refine .bind_ok (perform_ofExcept _ _) ?_
      refine (ends_ensureDirectory directory host).andThen
        (fun _ after ⟨grown, ofFiles⟩ => ⟨fun denies => absurd denies ofFiles.not_denies,
          after, grown, .of_same rfl rfl⟩) ?_
      intro _ made grown
      have confined : Confined directory path host made := ⟨made, grown, .of_same rfl rfl⟩
      refine ((editsOnly_reuse member expected).keeping (ends_reuse expected path made)).andThen
        (fun _ _ ⟨ofFiles, edited⟩ =>
          ⟨fun denies => absurd denies ofFiles.not_denies, confined.trans edited⟩) ?_
      intro found looked ended
      rcases ended with ⟨⟨_, cached⟩, edited⟩
      replace confined := confined.trans edited
      split
      · rename_i yes
        rw [if_pos yes] at cached
        exact .pure ⟨granted cached, confined⟩
      · rename_i no
        rw [if_neg no] at cached
        refine ((editsOnly_copyLocal member expected source).keeping
          (ends_copyLocal expected source cached)).andThen
          (fun _ _ ⟨ofFiles, edited⟩ =>
            ⟨fun denies => absurd denies ofFiles.not_denies, confined.trans edited⟩) ?_
        intro taken copied ended
        rcases ended with ⟨⟨_, copy⟩, edited⟩
        replace confined := confined.trans edited
        split
        · rename_i yes
          rw [if_pos yes] at copy
          exact .pure ⟨granted copy, confined⟩
        · rename_i no
          rw [if_neg no] at copy
          refine ((editsOnly_download cache expected path).keeping
            (ends_download cache expected copy)).andThen
            (fun _ _ ⟨denied, edited⟩ => ⟨denied, confined.trans edited⟩) ?_
          intro _ fetched ended
          rcases ended with ⟨genuine, edited⟩
          exact .pure ⟨granted genuine, confined.trans edited⟩

/-- Around the cached file and its part nothing changes but for directories along the path. -/
theorem Confined.lookup {directory path : Path} {before after : Host}
    (confined : Confined directory path before after) (place : Location)
    : after.files.lookup place = before.files.lookup place
      ∨ ((∃ file ∈ [path, partPath path], after.Names file place)
          ∧ before.files.lookup place ≠ some .directory
          ∧ after.files.lookup place ≠ some .directory)
      ∨ (before.files.lookup place = none
          ∧ after.files.lookup place = some .directory
          ∧ after.PassesThrough directory place) := by
  obtain ⟨made, grown, edited⟩ := confined
  exact grown.lookup_of_edited edited place

/-- An artifact that is handed out is the cached file, with the content of the digest that was
asked for. After a denial neither the cached file nor its part is there. In every case no other
file is touched, and only directories along the path of the cache are new. Witness: each way to
the artifact reads what it checks, and all edits are at two known paths.
-/
theorem obtain_sound {cache : ArtifactCache} {digest : String} {source : Option Path}
    {directory : Path} {host after : Host} {result : Except Failure (Option Artifact)}
    (wanted : cache.settings.documentationBuild = false)
    (run : perform (cache.obtain digest source directory) host = (result, after))
    : let path := directory.child cache.settings.filename
      (∀ outcome,
          result = .ok outcome
          → ∃ artifact content,
              outcome = some artifact
              ∧ artifact.path = path
              ∧ perform (readBytes path) after = (.ok content, after)
              ∧ Digest.parse digest.toList = .ok (Digest.ofContent content))
        ∧ (∀ failure,
            result = .error failure
            → failure.kind = "IntegrityError" ∨ failure.kind = "AvailabilityError"
            → perform (fileExists path) after = (.ok false, after)
              ∧ perform (fileExists (partPath path)) after = (.ok false, after))
        ∧ after.directory = host.directory
        ∧ ∀ place,
            after.files.lookup place = host.files.lookup place
            ∨ ((∃ file ∈ [path, partPath path], after.Names file place)
                ∧ host.files.lookup place ≠ some .directory
                ∧ after.files.lookup place ≠ some .directory)
            ∨ (host.files.lookup place = none
                ∧ after.files.lookup place = some .directory
                ∧ after.PassesThrough directory place) := by
  intro path
  have ends := ends_obtain digest source directory host wanted
  cases result with
  | ok outcome =>
      obtain ⟨⟨artifact, expected, handed, same, parsed, content, held, digested⟩, confined⟩ :=
        ends.ok run
      refine ⟨?_, nofun, confined.directory, confined.lookup⟩
      intro other returned
      obtain rfl := Except.ok.inj returned
      exact ⟨artifact, content, handed, same, held, digested ▸ parsed⟩
  | error failure =>
      obtain ⟨denied, confined⟩ := ends.error run
      refine ⟨nofun, ?_, confined.directory, confined.lookup⟩
      intro other raised
      obtain rfl := Except.error.inj raised
      exact denied

/-- A stale file and an old part are in the cache, no local copy is there, and the body that the
server sends is cut into two pieces and foreign. All that is left is the directory.
-/
theorem obtain_sound_corrupted
    : let settings : ArtifactSettings := { ArtifactSettings.standard with filename := "a.zip" }
      let expected := Digest.zero
      let files : FileTree :=
        ⟨[(["out"], .directory), (["out", "a.zip"], .file [2]),
          (["out", "a.zip.part"], .file [3])]⟩
      let host : Host :=
        ⟨files, [], [], "", [], .usual, none, false, [.body [[4], [5]] none],
          fun _ _ files => .exited 0 files, [], []⟩
      let directory := Path.ofString "out"
      let path := directory.child settings.filename
      ∃ failure after,
        perform (obtain ⟨settings, usualTimeout⟩ expected.text none directory) host
          = (.error failure, after)
        ∧ failure.kind = "IntegrityError"
        ∧ after.files = ⟨[(["out"], .directory)]⟩
        ∧ perform (fileExists path) after = (.ok false, after)
        ∧ perform (fileExists (partPath path)) after = (.ok false, after) := by
  intro settings expected files host directory path
  obtain ⟨fails, left⟩
      : (perform (obtain ⟨settings, usualTimeout⟩ expected.text none directory) host).1
          = .error (.integrity (settings.urlFor expected.text) expected.text
              (Digest.ofContent [4, 5]).text)
        ∧ (perform (obtain ⟨settings, usualTimeout⟩ expected.text none directory) host).2.files
          = ⟨[(["out"], .directory)]⟩ := by decide +kernel
  cases run : perform (obtain ⟨settings, usualTimeout⟩ expected.text none directory) host with
  | mk result after =>
      rw [run] at fails left
      obtain rfl := fails
      obtain ⟨_, denied, _⟩ := obtain_sound rfl run
      exact ⟨_, after, rfl, rfl, left, denied _ rfl (.inl rfl)⟩

end ArtifactCache

end VerifierBootstrap
