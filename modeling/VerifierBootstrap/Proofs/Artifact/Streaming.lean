import VerifierBootstrap.Proofs.Artifact.Cache
import VerifierBootstrap.Proofs.Host.Offline

/-!
How the cuts of a content show. They do not: a file has the digest of its content at every size of
a read that is accepted, and a download that comes in other pieces is the same download.
-/

namespace VerifierBootstrap.ArtifactCache

open VerifierBootstrap.Action VerifierBootstrap.Host

-----------------------------------------------------------------------------------------
-- Files that are read in pieces
-----------------------------------------------------------------------------------------

/-- A file has the digest of its content at a usable size of a read. -/
theorem perform_fileDigest_of_usable {size : Int} {path : Path} {content : Bytes} {host : Host}
    (usable : Digest.Usable host.limits.memory size content) (held : Held path content host)
    : perform (fileDigest size path) host = (.ok (Digest.ofContent content), host) := by
  rw [perform_fileDigest_of_held held, Digest.ofReads_of_usable usable]
  rfl

/-- Another size is refused when the file is open, and nothing is done to the host. -/
theorem perform_fileDigest_of_unusable {size : Int} {path : Path} {content : Bytes} {host : Host}
    (something : size ≠ 0) (unusable : ¬ Digest.Usable host.limits.memory size content)
    (held : Held path content host)
    : ∃ fault, perform (fileDigest size path) host = (.error (.digest fault), host) := by
  obtain ⟨fault, refused⟩ := Digest.exists_ofReads_error something unusable
  refine ⟨fault, ?_⟩
  rw [perform_fileDigest_of_held held, refused]
  rfl

-----------------------------------------------------------------------------------------
-- Files that are written in pieces
-----------------------------------------------------------------------------------------

/-- A file that is written and then extended is as if it had been written whole. -/
theorem perform_writeBytes_appendBytes (part : Path) (content piece : Bytes) (host : Host)
    : perform (do Host.writeBytes part content; Host.appendBytes part piece) host
      = perform (Host.writeBytes part (content ++ piece)) host := by
  by_cases nul : part.holdsNul = true
  · have refused := perform_requirePassable_error nul host
    simp only [Host.writeBytes, change, ask, perform_bind, refused]
  · have passable : part.holdsNul = false := by simpa using nul
    cases written : host.files.write host.directory part content with
    | ok files =>
        have again := FileTree.write_of_write written (content ++ piece)
        obtain ⟨place, located, plain, _⟩ := FileTree.write_eq_ok written
        have whole := FileTree.write_of_locate located plain (content ++ piece)
        have held := FileTree.read_of_write written
        rw [perform_bind_ok (perform_writeBytes passable written), appendBytes,
          perform_bind_ok (perform_readBytes passable held),
          perform_writeBytes passable (again.trans whole), perform_writeBytes passable whole]
    | error refusal =>
        have refused := FileTree.write_error written (content ++ piece)
        rw [perform_bind_error (perform_writeBytes_error passable written),
          perform_writeBytes_error passable refused]

/-- Pieces that are written one behind the other make the file that they make up. By induction on
the pieces: each is written behind those before it.
-/
theorem perform_appendPieces (part : Path) (content : Bytes) (pieces : List Bytes) (host : Host)
    : perform (do Host.writeBytes part content; appendPieces part pieces) host
      = perform (Host.writeBytes part (content ++ pieces.flatten)) host := by
  induction pieces generalizing content with
  | nil => simp [appendPieces]
  | cons piece rest ih =>
      rw [appendPieces]
      by_cases empty : piece.isEmpty = true
      · obtain rfl := List.isEmpty_iff.mp empty
        simpa using ih content
      · simp only [empty, Bool.false_eq_true, if_false]
        rw [← bind_assoc, perform_bind, perform_writeBytes_appendBytes, ← perform_bind, ih,
          List.append_assoc, List.flatten_cons]

/-- A transfer depends on what its pieces make up and not on the pieces. -/
theorem perform_receive_of_flatten_eq {pieces others : List Bytes}
    (same : pieces.flatten = others.flatten) (interruption : Option TransferFault) (part : Path)
    (host : Host)
    : perform (receive (.body pieces interruption) part) host
      = perform (receive (.body others interruption) part) host := by
  have digest
      : Digest.ofParts (pieces.filter fun piece => !piece.isEmpty)
        = Digest.ofParts (others.filter fun piece => !piece.isEmpty) := by
    rw [Digest.ofParts_eq_ofContent, Digest.ofParts_eq_ofContent, List.flatten_filter_not_isEmpty,
      List.flatten_filter_not_isEmpty, same]
  simp only [receive, digest]
  rw [← bind_assoc, ← bind_assoc, perform_bind, perform_appendPieces, same,
    ← perform_appendPieces part [] others, ← perform_bind]

-----------------------------------------------------------------------------------------
-- Downloads that come in pieces
-----------------------------------------------------------------------------------------

/-- A download uses up the first response, and of its body it depends on what the pieces make up.
-/
theorem perform_download_of_flatten_eq (cache : ArtifactCache) (expected : Digest) (path : Path)
    {pieces others : List Bytes} (same : pieces.flatten = others.flatten)
    (interruption : Option TransferFault) (later : List Response) (host : Host)
    : perform (cache.download expected path)
        (host.awaiting (.body pieces interruption :: later))
      = perform (cache.download expected path)
          (host.awaiting (.body others interruption :: later)) := by
  have received := perform_receive_of_flatten_eq same interruption (partPath path)
  simp only [download]
  rw [Offline.perform_bind (.note _ _), Offline.perform_bind (.note _ _)]
  simp only [perform_note]
  rw [perform_bind_ok (perform_request_awaiting _ _ _ _ _),
    perform_bind_ok (perform_request_awaiting _ _ _ _ _), perform_bind, received, ← perform_bind]

-----------------------------------------------------------------------------------------
-- Obtaining an artifact
-----------------------------------------------------------------------------------------

theorem offline_fileDigest (size : Int) (path : Path) : Offline (fileDigest size path) :=
  .bind (.ask path _) fun _ => .looking (fun _ _ => rfl) fun _ => .ofExcept _

theorem offline_reuse (expected : Digest) (path : Path) : Offline (reuse expected path) := by
  rw [reuse]
  refine .bind (.fileExists path) fun there => ?_
  cases there with
  | false => exact .pure _
  | true =>
      refine .bind (offline_fileDigest readSize path) fun digest => ?_
      split
      · exact .bind (.note _ _) fun _ => .pure _
      · exact .bind (.note _ _) fun _ => .bind (.change path _) fun _ => .pure _

theorem offline_copyLocal (expected : Digest) (source : Option Path) (path : Path)
    : Offline (copyLocal expected source path) := by
  cases source with
  | none => exact .pure _
  | some source =>
      rw [copyLocal]
      refine .bind (.fileExists source) fun there => ?_
      cases there with
      | false => exact .pure _
      | true =>
          refine .bind (offline_fileDigest readSize source) fun digest => ?_
          split
          · exact .bind (.note _ _) fun _ => .bind (.ask source _) fun _ =>
              .bind (.change path _) fun _ => .pure _
          · exact .pure _

/-- Nothing depends on the pieces of the first response: not what a call comes to, and not what it
leaves apart from the responses that are still to come. All but the download is offline, and the
download is the same.
-/
theorem sameRun_obtain (cache : ArtifactCache) (digest : String) (source : Option Path)
    (directory : Path) (host : Host) {pieces others : List Bytes}
    (same : pieces.flatten = others.flatten) (interruption : Option TransferFault)
    (later : List Response)
    : SameRun
        (perform (cache.obtain digest source directory)
          (host.awaiting (.body pieces interruption :: later)))
        (perform (cache.obtain digest source directory)
          (host.awaiting (.body others interruption :: later))) := by
  rw [obtain]
  split
  · exact Offline.sameRun (.bind (.note _ _) fun _ => .pure none) _ _ _
  · refine Offline.sameRun_bind (.ofExcept _) fun expected host => ?_
    refine Offline.sameRun_bind (.ensureDirectory directory) fun _ host => ?_
    refine Offline.sameRun_bind (offline_reuse expected _) fun found host => ?_
    cases found with
    | true => exact Offline.sameRun (.pure _) _ _ _
    | false =>
        refine Offline.sameRun_bind (offline_copyLocal expected source _) fun taken host => ?_
        cases taken with
        | true => exact Offline.sameRun (.pure _) _ _ _
        | false =>
            -- All that was done so far has left the response where it was
            have fetched := perform_download_of_flatten_eq cache expected
              (directory.child cache.settings.filename) same interruption later host
            refine .of_eq ?_
            simp only [Bool.false_eq_true, if_false]
            rw [perform_bind, fetched, ← perform_bind]

/-- However a content is cut, it is the same content. A file has the digest of its content at every
size of a read that stands for everything or can be the size of a byte string, where the machine has
memory for the read, and at any other size but zero the read is refused; parts have the digest of
what they make up; and a call for an artifact comes to the same, with the same files, log and
requests, whatever the pieces of the body are that the network answers with, even if the body is cut
off behind the last. Witness: the pieces are taken in one behind the other, by the hash and by the
file alike.
-/
theorem digests_ignore_cuts
    : (∀ (size : Int) (path : Path) (content : Bytes) (host : Host),
          size ≠ 0
          → Held path content host
          → (Digest.Usable host.limits.memory size content
              → perform (fileDigest size path) host = (.ok (Digest.ofParts [content]), host))
            ∧ (¬ Digest.Usable host.limits.memory size content
              → ∃ fault, perform (fileDigest size path) host = (.error (.digest fault), host)))
      ∧ (∀ parts : List Bytes,
          Digest.ofParts parts = Digest.ofParts [parts.flatten]
          ∧ Digest.ofParts parts = Digest.ofContent parts.flatten)
      ∧ ∀ (cache : ArtifactCache) (digest : String) (source : Option Path) (directory : Path)
          (host : Host) (pieces others : List Bytes) (interruption : Option TransferFault)
          (later : List Response),
          pieces.flatten = others.flatten
          → let obtained := fun body =>
              perform (cache.obtain digest source directory)
                (host.awaiting (.body body interruption :: later))
            (obtained pieces).1 = (obtained others).1
            ∧ (obtained pieces).2.files = (obtained others).2.files
            ∧ (obtained pieces).2.log = (obtained others).2.log
            ∧ (obtained pieces).2.events = (obtained others).2.events := by
  refine ⟨?_, ?_, ?_⟩
  · intro size path content host something held
    refine ⟨fun usable => ?_, fun unusable => ?_⟩
    · rw [Digest.ofParts_single]
      exact perform_fileDigest_of_usable usable held
    · exact perform_fileDigest_of_unusable something unusable held
  · intro parts
    have parted := Digest.ofParts_eq_ofContent parts
    exact ⟨parted.trans (Digest.ofParts_single _).symm, parted⟩
  · intro cache digest source directory host pieces others interruption later same
    have run := sameRun_obtain cache digest source directory host same interruption later
    exact ⟨run.outcome, run.files, run.log, run.events⟩

/-- A file is read two bytes at a time, with one byte left for the last read, and an artifact is
handed out whose body came with an empty piece in it, as it is if the body comes cut elsewhere.
-/
theorem digests_ignore_cuts_pieces
    : let path := Path.ofString "file"
      let held := Host.quiet ⟨[(["file"], .file [1, 2, 3])]⟩
      let cache : ArtifactCache := ⟨{ ArtifactSettings.standard with filename := "a.zip" }, 600⟩
      let obtained := fun pieces =>
        perform
          (cache.obtain "039058c6f2c0cb492c533b0a4d14ef77cc0f78abccced5287d84a1a2011cfb81" none
            .here)
          ((Host.quiet .empty).awaiting [.body pieces none])
      perform (fileDigest 2 path) held = (.ok (Digest.ofParts [[1, 2, 3]]), held)
      ∧ Digest.ofParts [[1], [], [2, 3]] = Digest.ofParts [[1, 2, 3]]
      ∧ (obtained [[1, 2], [3]]).1
        = .ok (some ⟨"a.zip", .ofString "a.zip", Digest.ofContent [1, 2, 3]⟩)
      ∧ (obtained [[1], [], [2, 3]]).1 = (obtained [[1, 2], [3]]).1
      ∧ (obtained [[1], [], [2, 3]]).2.files = (obtained [[1, 2], [3]]).2.files := by
  intro path held cache obtained
  have found : Held path [1, 2, 3] held := held_iff.mpr ⟨by decide, by decide⟩
  obtain ⟨read, parts, fetched⟩ := digests_ignore_cuts
  have digested := (read 2 path [1, 2, 3] held (by decide) found).1 (.inr (by decide))
  obtain ⟨outcome, files, _⟩ :=
    fetched cache "039058c6f2c0cb492c533b0a4d14ef77cc0f78abccced5287d84a1a2011cfb81" none .here
      (Host.quiet .empty) [[1], [], [2, 3]] [[1, 2], [3]] none [] rfl
  exact ⟨digested, (parts [[1], [], [2, 3]]).1, by decide +kernel, outcome, files⟩

/-- There are sizes other than zero at which a file has no digest: minus two is no size of a read,
and on no machine a read can be of a size beyond a signed word.
-/
theorem not_fileDigest_of_unusable
    : (¬ ∀ (size : Int) (path : Path) (content : Bytes) (host : Host),
          size ≠ 0
          → Held path content host
          → (perform (fileDigest size path) host).1 = .ok (Digest.ofParts [content]))
      ∧ ∀ limits : Limits,
          ¬ ∀ (size : Int) (path : Path) (content : Bytes) (host : Host),
              0 < size
              → host.limits = limits
              → Held path content host
              → (perform (fileDigest size path) host).1 = .ok (Digest.ofParts [content]) := by
  let files : FileTree := ⟨[(["file"], .file [97])]⟩
  have read : files.read [] (.ofString "file") = .ok [97] := by decide
  have held (limits : Limits)
      : Held (.ofString "file") [97] { Host.quiet files with limits := limits } :=
    held_iff.mpr ⟨by decide, read⟩
  constructor
  · intro every
    have digested := every (-2) _ _ _ (by decide) (held .usual)
    rw [perform_fileDigest_of_held (held .usual)] at digested
    cases digested
  · intro limits every
    have digested := every (2 ^ 63) _ _ _ (by decide) rfl (held limits)
    rw [perform_fileDigest_of_held (held limits)] at digested
    cases digested

end VerifierBootstrap.ArtifactCache
