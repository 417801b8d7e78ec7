import VerifierBootstrap.Proofs.FileTree.Edits
import VerifierBootstrap.Proofs.Source.ByteRevision
import VerifierBootstrap.Proofs.Tools.Formatter
import VerifierBootstrap.Source.VerifierFiles

/-!
The bytes of the host verifier that its formatter is given. The literals with another value are
patched in the text as it was read, in which every line is ended by a line feed. So the bytes
around the literals are those of the file exactly if there is no carriage return in it.
-/

namespace VerifierBootstrap.VerifyingKey

open VerifierBootstrap.Action

/-- The literals of the key that have another value in the contract, as patches of the bytes of
the host verifier.
-/
def literalPatches (contract text : Text) : List Sync.Patch :=
  (Sync.revisions .rust text (Sync.newlyGiven .verifiers contract text pairings)).map
    (Sync.Revision.toPatch text)

-----------------------------------------------------------------------------------------
-- The synchronized text in bytes
-----------------------------------------------------------------------------------------

theorem encode_synchronize (contract text : Text)
    : Utf8.encode (synchronize contract text).text
      = Sync.patch 0 (Utf8.encode text) (literalPatches contract text) := by
  rw [synchronize, Sync.text_eq_revise .verifiers]
  exact Sync.encode_revise_revisions .rust text _

/-- Synchronizing neither brings nor takes away carriage returns. -/
theorem return_mem_encode_synchronize (contract text : Text)
    : 0x0D ∈ Utf8.encode (synchronize contract text).text ↔ 0x0D ∈ Utf8.encode text := by
  have mem_encode (text : Text) : 0x0D ∈ Utf8.encode text ↔ '\r' ∈ text :=
    Utf8.mem_encode '\r' (by decide)
  rw [mem_encode, mem_encode]
  exact Sync.mem_text_synchronize (by decide) (by decide) .verifiers contract text pairings

theorem return_not_mem_written (contract text : Text)
    : 0x0D ∉ Utf8.encode (synchronize contract (Text.unifyLines text)).text := by
  rw [return_mem_encode_synchronize]
  exact fun member => Text.not_mem_unifyLines text ((Utf8.mem_encode '\r' (by decide)).mp member)

section Lines

variable {original : Bytes} {text : Text} (decoded : Utf8.decode original = .ok text)
include decoded

theorem unifyLines_of_decode (absent : 0x0D ∉ original) : Text.unifyLines text = text := by
  rw [← Utf8.encode_of_decode decoded] at absent
  exact Text.unifyLines_of_not_mem fun member =>
    absent ((Utf8.mem_encode '\r' (by decide)).mpr member)

/-- What is written is the file with its literals patched, unless the file has a carriage
return.
-/
theorem encode_synchronize_eq_iff (contract : Text)
    : Utf8.encode (synchronize contract (Text.unifyLines text)).text
        = Sync.patch 0 original (literalPatches contract text)
      ↔ 0x0D ∉ original := by
  have bytes := encode_synchronize contract text
  rw [Utf8.encode_of_decode decoded] at bytes
  constructor
  · intro same member
    apply return_not_mem_written contract text
    rw [same, ← bytes, return_mem_encode_synchronize, Utf8.encode_of_decode decoded]
    exact member
  · intro absent
    rw [unifyLines_of_decode decoded absent, bytes]

/-- Where no value differs, what is written is the file, unless the file has a carriage return. -/
theorem encode_synchronize_eq_original_iff {contract : Text}
    (same : (synchronize contract (Text.unifyLines text)).replaced = [])
    : Utf8.encode (synchronize contract (Text.unifyLines text)).text = original
      ↔ 0x0D ∉ original := by
  constructor
  · intro kept
    exact kept ▸ return_not_mem_written contract text
  · intro absent
    rw [synchronize, Sync.text_of_replaced_nil same, unifyLines_of_decode decoded absent]
    exact Utf8.encode_of_decode decoded

end Lines

-----------------------------------------------------------------------------------------
-- The run up to the formatter
-----------------------------------------------------------------------------------------

theorem ends_readVerifier {path : Path} {content : Bytes} {text : Text} {host : Host}
    (held : host.files.read host.directory path = .ok content)
    (read : Utf8.decode content = .ok text) (subject : String)
    : Ends (readVerifier path subject) host
        (fun result after => result = Text.unifyLines text ∧ after = host)
        (fun _ after => after.events = host.events) := by
  refine ((Host.ends_readText path host).mono ?_ fun _ _ => id).tryCatch ?_
  · intro _ host ended
    rcases ended with ⟨rfl, other, decoded, found, decoding, rfl⟩
    obtain rfl := Except.ok.inj (held.symm.trans found)
    exact ⟨congrArg _ (Except.ok.inj (decoding.symm.trans read)), rfl⟩
  · rintro failure host rfl
    cases failure with
    | file fault => exact .throw rfl
    | _ => exact .throw rfl

theorem ends_noteWarnings (result : Sync.Result) (host : Host)
    : Ends (noteWarnings result) host
        (fun _ after =>
          after.files = host.files
          ∧ after.directory = host.directory
          ∧ after.events = host.events)
        (fun _ after => after.events = host.events) := by
  have logs : Host.Logs (noteWarnings result) (.ok ()) := .forM fun _ => .note .warning _
  obtain ⟨log, run⟩ := logs host
  rw [Ends, run]
  exact ⟨rfl, rfl, rfl⟩

theorem ends_writeVerifier (path : Path) (text : Text) (host : Host)
    : Ends (writeVerifier path text) host
        (fun _ after =>
          ∃ files,
            host.files.write host.directory path (Utf8.encode text) = .ok files
            ∧ after = { host with files := files })
        (fun _ after => after.events = host.events) := by
  refine ((Host.ends_writeSource path text host).mono (fun _ _ ended => ended.2.2)
    fun _ _ => id).tryCatch ?_
  rintro failure host rfl
  cases failure with
  | file fault => exact .throw rfl
  | _ => exact .throw rfl

/-- The one program that was started is given the synchronized text of the two verifiers. -/
def HandsOver (settings : BootstrapSettings) (contract text : Text) (host after : Host) : Prop :=
  ∃ command files,
    after.events = host.events ++ [.started command files]
    ∧ files.read host.directory (settings.path settings.rustVerifier)
      = .ok (Utf8.encode (synchronize (Text.unifyLines contract) (Text.unifyLines text)).text)

section Run

variable {settings : BootstrapSettings} {host : Host} {contractBytes original : Bytes}
  {contract text : Text}
  (contractHeld
    : host.files.read host.directory (settings.path settings.solidityVerifier)
      = .ok contractBytes)
  (contractRead : Utf8.decode contractBytes = .ok contract)
  (held : host.files.read host.directory (settings.path settings.rustVerifier) = .ok original)
  (read : Utf8.decode original = .ok text)

include contractHeld contractRead held read

/-- A run that succeeds has handed over to the formatter, and one that fails did so or started
nothing.
-/
theorem ends_synchronizeFiles (formatter : Formatter)
    : Ends (synchronizeFiles settings formatter) host
        (fun _ after => HandsOver settings contract text host after)
        (fun _ after =>
          after.events = host.events ∨ HandsOver settings contract text host after) := by
  refine (ends_readVerifier contractHeld contractRead _).andThen (fun _ _ => .inl) ?_
  intro _ host ended
  rcases ended with ⟨rfl, rfl⟩
  refine (ends_readVerifier held read _).andThen (fun _ _ => .inl) ?_
  intro _ host ended
  rcases ended with ⟨rfl, rfl⟩
  refine (ends_noteWarnings _ _).andThen (fun _ _ => .inl) ?_
  intro _ noted ended
  rcases ended with ⟨sameFiles, sameDirectory, sameEvents⟩
  dsimp only
  split
  · exact .throw (.inl sameEvents)
  · refine (ends_writeVerifier _ _ noted).andThen
      (fun _ _ same => .inl (same.trans sameEvents)) ?_
    intro _ _ ended
    rcases ended with ⟨files, written, rfl⟩
    have handed {command : List String} (after : Host)
        (started : after.events = noted.events ++ [.started command files])
        : HandsOver settings contract text host after :=
      ⟨command, files, sameEvents ▸ started, sameDirectory ▸ FileTree.read_of_write written⟩
    refine .bind_ok (Host.perform_note _ _ _) ?_
    exact ((formatter.ends_format _ _).mono (fun _ => handed) fun _ after started =>
      .inr (handed after started)).bind fun _ _ done => .pure done

/-- The bytes of the host verifier that the formatter is started on are those of the text with
its lines unified and its literals patched. They are the bytes of the file with its literals
patched, and where no value differs the very bytes of the file, exactly if there is no carriage
return in the file. Witness: what is written has no carriage return, and what the literals are
patched in keeps its own.
-/
theorem read_handed_over {formatter : Formatter} {command : List String} {files : FileTree}
    (reached
      : (perform (synchronizeFiles settings formatter) host).2.events
        = host.events ++ [.started command files])
    : ∃ written,
        files.read host.directory (settings.path settings.rustVerifier) = .ok written
        ∧ written
          = Sync.patch 0 (Utf8.encode (Text.unifyLines text))
              (literalPatches (Text.unifyLines contract) (Text.unifyLines text))
        ∧ (written = Sync.patch 0 original (literalPatches (Text.unifyLines contract) text)
            ↔ 0x0D ∉ original)
        ∧ ((synchronize (Text.unifyLines contract) (Text.unifyLines text)).replaced = []
            → (written = original ↔ 0x0D ∉ original)) := by
  have ends := ends_synchronizeFiles contractHeld contractRead held read formatter
  have handed
      : HandsOver settings contract text host
          (perform (synchronizeFiles settings formatter) host).2 := by
    cases run : perform (synchronizeFiles settings formatter) host with
    | mk result after =>
        cases result with
        | ok result => exact ends.ok run
        | error failure =>
            rw [run] at reached
            rcases ends.error run with silent | handed
            · simp [silent] at reached
            · exact handed
  obtain ⟨_, _, started, handed⟩ := handed
  have same := List.append_cancel_left (reached.symm.trans started)
  obtain ⟨rfl, rfl⟩ : _ ∧ files = _ := by simpa using same
  exact ⟨_, handed, encode_synchronize _ _, encode_synchronize_eq_iff read _,
    encode_synchronize_eq_original_iff read⟩

end Run

/-- The file has one constant of the key, in a line that is ended by a carriage return and a
line feed. Only the literal should be new, but the carriage return is gone too.
-/
theorem read_handed_over_carriage_return
    : let contract := "uint256 constant alphax = 20;".toList
      let text := "const ALPHA_X: &str = \"1\";\r\n".toList
      let revised := "const ALPHA_X: &str = \"20\";\n".toList
      let settings : BootstrapSettings := ⟨.here, "key.sol", "", "", "key.rs", none, none⟩
      let given : FileTree :=
        ⟨[(["key.sol"], .file (Utf8.encode contract)), (["key.rs"], .file (Utf8.encode text))]⟩
      let handed : FileTree :=
        ⟨[(["key.rs"], .file (Utf8.encode revised)), (["key.sol"], .file (Utf8.encode contract))]⟩
      let host : Host :=
        ⟨given, [], [], "", [], .usual, none, false, [], fun _ _ files => .exited 0 files, [], []⟩
      (perform (synchronizeFiles settings .rust) host).2.events
          = [.started ["rustfmt", "key.rs"] handed]
        ∧ handed.read [] (settings.path settings.rustVerifier) = .ok (Utf8.encode revised)
        ∧ Utf8.encode revised
          ≠ Sync.patch 0 (Utf8.encode text)
              (literalPatches (Text.unifyLines contract) text) := by
  intro contract text revised settings given handed host
  have reached
      : (perform (synchronizeFiles settings .rust) host).2.events
        = [] ++ [.started ["rustfmt", "key.rs"] handed] := by decide +kernel
  have contractHeld
      : host.files.read host.directory (settings.path settings.solidityVerifier)
        = .ok (Utf8.encode contract) := by decide +kernel
  have held
      : host.files.read host.directory (settings.path settings.rustVerifier)
        = .ok (Utf8.encode text) := by decide +kernel
  have contractRead : Utf8.decode (Utf8.encode contract) = .ok contract := by decide +kernel
  have read : Utf8.decode (Utf8.encode text) = .ok text := by decide +kernel
  obtain ⟨written, found, _, patched, _⟩ :=
    read_handed_over contractHeld contractRead held read reached
  have revision
      : handed.read host.directory (settings.path settings.rustVerifier)
        = .ok (Utf8.encode revised) := by decide +kernel
  obtain rfl := Except.ok.inj (found.symm.trans revision)
  exact ⟨reached, revision, patched.not.mpr (by decide +kernel)⟩

end VerifierBootstrap.VerifyingKey
