import VerifierBootstrap.Proofs.Host.Silence
import VerifierBootstrap.Proofs.Json.Refusals
import VerifierBootstrap.Proofs.Witness.Document
import VerifierBootstrap.Proofs.Witness.Exchange
import VerifierBootstrap.Proofs.Witness.ProverOutput

/-!
What is handed to the prover and taken from it. Once the witness is written, a reader of the work
directory finds the seal and a document of it; what is read as a proof is written in the output
that is there.
-/

namespace VerifierBootstrap.Witness

open VerifierBootstrap.Action

/-- Two files of an exchange are at two places. -/
theorem locate_ne {files : FileTree} {directory place : Location} {work : Path}
    {name other : String} (member : name ∈ exchangeNames) (otherMember : other ∈ exchangeNames)
    (apart : name ≠ other) (found : files.locate directory (work.child name) = .ok place)
    : files.locate directory (work.child other) ≠ .ok place := by
  intro otherFound
  obtain ⟨base, located, _, rfl⟩ := Exchange.locate_child member found
  obtain ⟨again, relocated, _, same⟩ := Exchange.locate_child otherMember otherFound
  obtain rfl := Except.ok.inj (located.symm.trans relocated)
  exact apart (List.singleton_inj.mp (List.append_cancel_left same))

/-- A seal and a document of it are in a work directory. -/
structure Holds (files : FileTree) (directory : Location) (work : Path) (sealBytes : Bytes)
    : Prop where
  stamp : files.read directory (work.child sealName) = .ok sealBytes
  document
    : ∃ content,
        files.read directory (work.child witnessName) = .ok content
        ∧ IsDocument sealBytes content

/-- The output in a work directory is a text of groups that hold a proof. -/
def Yields (files : FileTree) (directory : Location) (work : Path) (proof : Groth16Seal)
    : Prop :=
  ∃ content text items,
    files.read directory (work.child outputName) = .ok content
    ∧ Utf8.decode content = .ok text
    ∧ Json.parse ('[' :: Text.unifyLines text ++ [']']) = .ok (.array items)
    ∧ IsProof items proof

-----------------------------------------------------------------------------------------
-- What is written
-----------------------------------------------------------------------------------------

theorem ends_written (path : Path) (content : Bytes) (host : Host)
    : Ends (Host.writeBytes path content) host
        (fun _ after =>
          ∃ files,
            host.files.write host.directory path content = .ok files
            ∧ after = { host with files := files })
        (fun _ _ => True) :=
  (Host.ends_change path _ host).mono (fun _ _ => And.right) fun _ _ _ => trivial

/-- Once the witness is written, the seal and its document are found. Witness: the two writes of the
document are at another place than the seal.
-/
theorem ends_write (sealBytes : Bytes) (work : Path) (host : Host)
    : Ends (write sealBytes work) host
        (fun _ after =>
          ∃ files,
            after = { host with files := files } ∧ Holds files host.directory work sealBytes)
        (fun _ _ => True) := by
  have sealed : sealName ∈ exchangeNames := by simp [exchangeNames]
  have witnessed : witnessName ∈ exchangeNames := by simp [exchangeNames]
  have apart {files : FileTree} (place : Location)
      (found : files.locate host.directory (work.child sealName) = .ok place)
      : files.locate host.directory (work.child witnessName) ≠ .ok place :=
    locate_ne sealed witnessed (by decide) found
  refine (ends_written _ sealBytes host).bind ?_
  rintro _ _ ⟨first, stamped, rfl⟩
  refine (ends_written _ [] _).bind ?_
  rintro _ _ ⟨second, opened, rfl⟩
  refine (Ends.ofExcept _ _).andThen (fun _ _ _ => trivial) ?_
  rintro document _ ⟨rfl, made⟩
  refine (ends_written _ document _).bind ?_
  rintro _ _ ⟨third, written, rfl⟩
  have stamp := FileTree.read_of_write_elsewhere opened apart (FileTree.read_of_write stamped)
  exact ⟨third, rfl, FileTree.read_of_write_elsewhere written apart stamp,
    document, FileTree.read_of_write written, isDocument_documentBytes made⟩

/-- The files of a work directory that are written before the prover is run. -/
def preparedPaths (work : Path) : List Path :=
  [work.child sealName, work.child witnessName]

theorem editsOnly_write (sealBytes : Bytes) (work : Path)
    : Host.EditsOnly (preparedPaths work) (write sealBytes work) := by
  have sealed : work.child sealName ∈ preparedPaths work := by simp [preparedPaths]
  have witnessed : work.child witnessName ∈ preparedPaths work := by simp [preparedPaths]
  exact .bind (.writeBytes sealed _) fun _ => .bind (.writeBytes witnessed _) fun _ =>
    .bind (.ofExcept _) fun _ => .bind (.writeBytes witnessed _) fun _ => .pure _

theorem silent_write (sealBytes : Bytes) (work : Path) : Host.Silent (write sealBytes work) :=
  .bind (.change _ _) fun _ => .bind (.change _ _) fun _ => .bind (.ofExcept _) fun _ =>
    .bind (.change _ _) fun _ => .pure _

/-- Reading the output changes nothing but the log, whatever is in it. -/
theorem onlyLogs_readOutput (work : Path) : Host.OnlyLogs (readOutput work) := by
  refine .bind (.of_ends fun host => ?_) fun there => ?_
  · exact (Host.ends_fileExists _ host).mono (fun _ _ => And.left) fun _ _ => And.left
  · cases there with
    | false => exact .throw _
    | true =>
        refine .bind (.of_ends fun host => ?_) fun output =>
          .bind (.note _ _) fun _ => .bind .get fun _ => .of_logs (logs_readGroups _ output)
        exact (Host.ends_readText _ host).mono (fun _ _ => And.left) fun _ _ => id

/-- What is accepted is an array in brackets that there is room for, with a proof in it. -/
theorem exists_isProof_of_readProof {nesting : Nat} {output : Text} {proof : Groth16Seal}
    (accepted : readProof nesting output = .ok proof)
    : ∃ items,
        Json.parse ('[' :: output ++ [']']) = .ok (.array items)
        ∧ Json.depth ('[' :: output ++ [']']) ≤ nesting
        ∧ IsProof items proof := by
  cases found : groups nesting output with
  | error failure =>
      rw [readProof, parse, found] at accepted
      cases accepted
  | ok items =>
      have isProof := (readProof_eq_ok_iff found).mp accepted
      rw [groups] at found
      split at found
      · rename_i parsed
        obtain rfl := Except.ok.inj found
        obtain ⟨parsed, fits⟩ := Json.parseWithin_eq_ok_iff.mp parsed
        exact ⟨_, parsed, fits, isProof⟩
      · obtain rfl := Except.ok.inj found
        cases isProof
      · cases found
      · cases found
      · cases found

/-- What is read as a proof is in the output, and reading it changes nothing but the log. -/
theorem ends_readOutput (work : Path) (host : Host)
    : Ends (readOutput work) host
        (fun proof after =>
          Yields host.files host.directory work proof ∧ ∃ log, after = { host with log := log })
        (fun _ _ => True) := by
  rw [readOutput]
  refine (Host.ends_fileExists _ host).andThen (fun _ _ _ => trivial) ?_
  rintro there _ ⟨rfl, -⟩
  cases there with
  | false => exact trivial
  | true =>
      refine Ends.andThen (Host.ends_readText _ _) (fun _ _ _ => trivial) ?_
      rintro output _ ⟨rfl, content, text, held, decoded, rfl⟩
      refine .bind_ok (Host.perform_note _ _ _) (.bind_ok (perform_get _) ?_)
      refine ((logs_readGroups _ _).ends _).mono ?_ fun _ _ _ => trivial
      rintro proof _ ⟨accepted, log, rfl⟩
      obtain ⟨items, parsed, _, isProof⟩ := exists_isProof_of_readProof accepted
      exact ⟨⟨content, text, items, held, decoded, parsed, isProof⟩, log, rfl⟩

end VerifierBootstrap.Witness
