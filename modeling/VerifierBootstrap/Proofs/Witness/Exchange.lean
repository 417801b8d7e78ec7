import VerifierBootstrap.Proofs.Host.Directories
import VerifierBootstrap.Witness.Exchange

/-!
The directory of an exchange with the prover. Its three files are at three places of one directory,
and a write to one of them leaves the others as they are. What is read as the proof depends on the
content of the output alone.
-/

namespace VerifierBootstrap

/-- The content of the file at a place, if a file is there. -/
def FileTree.content? (files : FileTree) (location : Location) : Option Bytes :=
  match files.lookup location with
  | some (.file content) => some content
  | _ => none

theorem FileTree.content?_eq_some {files : FileTree} {location : Location} {content : Bytes}
    : files.content? location = some content
      ↔ files.lookup location = some (.file content) := by
  rw [content?]
  cases files.lookup location with
  | none => simp
  | some node => cases node <;> simp

namespace Witness

open VerifierBootstrap.Action

/-- The names of the files that are exchanged. -/
def exchangeNames : List String :=
  [sealName, witnessName, outputName]

/-- A work directory is at `base`, and each file of an exchange is a file there or absent. -/
structure Exchange (work : Path) (directory : Location) (base : Location) (files : FileTree)
    : Prop where
  passable : work.holdsNul = false
  located
    : ∀ name ∈ exchangeNames,
        files.locate directory (work.child name) = .ok (base ++ [name])
  plain : ∀ name ∈ exchangeNames, files.lookup (base ++ [name]) ≠ some .directory

/-- The proof in an output, if there is one. The parser has room for so many arrays and objects to
be open at once.
-/
def proofOf (nesting : Nat) (path : Path) : Option Bytes → Except Failure Groth16Seal
  | none => .error (.availability (.noProverOutput path.text))
  | some content =>
      match Utf8.decode content with
      | .ok text => readProof nesting (Text.unifyLines text)
      | .error fault => .error (.undecodable fault)

theorem mem_exchangeNames {name : String}
    : name ∈ exchangeNames ↔ name = sealName ∨ name = witnessName ∨ name = outputName := by
  simp [exchangeNames]

/-- A file of an exchange is a name in the work directory. -/
theorem child_eq (work : Path) {name : String} (member : name ∈ exchangeNames)
    : work.child name = ⟨work.anchor, work.parts ++ [name]⟩ := by
  rcases mem_exchangeNames.mp member with rfl | rfl | rfl
  · rfl
  · rfl
  · rfl

theorem ne_of_mem_exchangeNames {name : String} (member : name ∈ exchangeNames)
    : name ≠ ".." ∧ name ≠ "" ∧ name.toList.contains '\x00' = false := by
  rcases mem_exchangeNames.mp member with rfl | rfl | rfl
  · decide
  · decide
  · decide

namespace Exchange

variable {work : Path} {directory base : Location} {files : FileTree} {name : String}

/-- A file of an exchange is in the directory that the path of the work directory leads to. -/
theorem locate_child (member : name ∈ exchangeNames) {place : Location}
    (found : files.locate directory (work.child name) = .ok place)
    : ∃ base : Location,
        files.locate directory work = .ok base
        ∧ files.lookup base = some .directory
        ∧ place = base ++ [name] := by
  obtain ⟨plain, filled, _⟩ := ne_of_mem_exchangeNames member
  have shorter := Path.utf8ByteSize_text_le work filled
  rw [child_eq work member, FileTree.locate] at found
  split at found
  · exact absurd found (by simp)
  · rename_i short
    rw [FileTree.walk_append] at found
    cases reached : files.walk (FileTree.origin directory work) work.parts with
    | error refusal =>
        rw [show FileTree.origin directory ⟨work.anchor, work.parts ++ [name]⟩
          = FileTree.origin directory work from rfl, reached] at found
        exact absurd found (by simp [Except.bind])
    | ok base =>
        rw [show FileTree.origin directory ⟨work.anchor, work.parts ++ [name]⟩
          = FileTree.origin directory work from rfl, reached] at found
        obtain ⟨there, same⟩ := FileTree.walk_single plain found
        refine ⟨base, ?_, there, same⟩
        rw [FileTree.locate, if_neg (by omega), reached]

/-- Each file is at its name in one directory. Witness: all paths lead through the work directory.
-/
theorem of_located (passable : work.holdsNul = false)
    (places
      : ∀ name ∈ exchangeNames, ∃ place,
          files.locate directory (work.child name) = .ok place
          ∧ files.lookup place ≠ some .directory)
    : ∃ base, Exchange work directory base files := by
  obtain ⟨place, found, _⟩ := places sealName (by simp [exchangeNames])
  obtain ⟨base, reached, _, _⟩ := locate_child (by simp [exchangeNames]) found
  have located
      : ∀ name ∈ exchangeNames,
          files.locate directory (work.child name) = .ok (base ++ [name])
          ∧ files.lookup (base ++ [name]) ≠ some .directory := by
    intro name member
    obtain ⟨place, found, plain⟩ := places name member
    obtain ⟨other, again, _, rfl⟩ := locate_child member found
    rw [reached] at again
    obtain rfl := Except.ok.inj again
    exact ⟨found, plain⟩
  exact ⟨base, passable, fun name member => (located name member).1,
    fun name member => (located name member).2⟩

variable (exchange : Exchange work directory base files)
include exchange

theorem holdsNul_child (member : name ∈ exchangeNames) : (work.child name).holdsNul = false := by
  have passable := exchange.passable
  have named := (ne_of_mem_exchangeNames member).2.2
  rw [child_eq work member]
  rw [Path.holdsNul] at passable ⊢
  rw [List.any_append, passable, List.any_cons, named]
  rfl

theorem directory_located
    : files.locate directory work = .ok base ∧ files.lookup base = some .directory := by
  have member : sealName ∈ exchangeNames := by simp [exchangeNames]
  obtain ⟨other, reached, there, same⟩ := locate_child member (exchange.located sealName member)
  obtain ⟨rfl, _⟩ := List.append_inj' same rfl
  exact ⟨reached, there⟩

/-- Another tree with the same directories is one of the exchange as well, if it has files or
nothing at the three places.
-/
theorem keep {other : FileTree}
    (kept
      : ∀ location, files.lookup location = some .directory
          → other.lookup location = some .directory)
    (plain : ∀ name ∈ exchangeNames, other.lookup (base ++ [name]) ≠ some .directory)
    : Exchange work directory base other :=
  ⟨exchange.passable, fun name member =>
    FileTree.locate_of_directories kept (exchange.located name member), plain⟩

theorem set (member : name ∈ exchangeNames) (content : Bytes)
    : Exchange work directory base (files.set (base ++ [name]) (.file content)) := by
  refine exchange.keep (fun _ => FileTree.lookup_set_directory (exchange.plain name member)) ?_
  intro other inside
  by_cases same : base ++ [other] = base ++ [name]
  · rw [same, FileTree.lookup_set_self _ _ (by simp)]
    simp
  · rw [FileTree.lookup_set_of_ne _ _ same]
    exact exchange.plain other inside

theorem remove (member : name ∈ exchangeNames)
    : Exchange work directory base (files.remove (base ++ [name])) := by
  refine exchange.keep (fun _ => FileTree.lookup_remove_directory (exchange.plain name member)) ?_
  intro other inside
  by_cases same : base ++ [other] = base ++ [name]
  · rw [same, FileTree.lookup_remove_self _ (by simp)]
    simp
  · rw [FileTree.lookup_remove_of_ne _ same]
    exact exchange.plain other inside

end Exchange

-----------------------------------------------------------------------------------------
-- Runs in the directory of an exchange
-----------------------------------------------------------------------------------------

/-- Reading the groups of an output logs those that are begun, and comes to the proof. -/
theorem logs_readGroups (nesting : Nat) (output : Text)
    : Host.Logs (readGroups nesting output) (readProof nesting output) :=
  .bind (.forM fun _ => .note _ _) fun _ => .ofExcept _

section
variable {work : Path} {host : Host}

theorem perform_readOutput_of_absent (absent : Host.Absent (work.child outputName) host)
    : (perform (readOutput work) host).1
      = proofOf host.limits.nesting (work.child outputName) none := by
  rw [readOutput, perform_bind_ok absent]
  rfl

theorem perform_readOutput_of_held {content : Bytes}
    (held : Host.Held (work.child outputName) content host)
    : (perform (readOutput work) host).1
      = proofOf host.limits.nesting (work.child outputName) (some content) := by
  obtain ⟨passable, read⟩ := Host.held_iff.mp held
  obtain ⟨place, located, there⟩ := FileTree.read_eq_ok read
  have found := FileTree.node?_of_locate located
  have readText := Host.perform_readText passable read
  rw [readOutput, perform_bind_ok (Host.perform_fileExists passable found), there]
  change
    (perform
        (do
          let output ← Host.readText (work.child outputName)
          Host.note .info (String.ofList output)
          readGroups (← get).limits.nesting output)
        host).1
      = _
  rw [proofOf]
  cases decoded : Utf8.decode content with
  | error fault =>
      rw [decoded] at readText
      rw [perform_bind_error readText]
  | ok text =>
      rw [decoded] at readText
      obtain ⟨log, groups⟩ :=
        logs_readGroups host.limits.nesting (Text.unifyLines text)
          { host with log := host.log ++ [⟨.info, String.ofList (Text.unifyLines text)⟩] }
      rw [perform_bind_ok readText, perform_bind_ok (Host.perform_note _ _ host),
        perform_bind_ok (perform_get _), groups]

end

namespace Exchange

variable {work : Path} {base : Location} {host : Host} {name : String}
  (exchange : Exchange work host.directory base host.files)
include exchange

theorem perform_ensureDirectory
    : perform (Host.ensureDirectory work) host = (.ok (), host) :=
  Host.perform_ensureDirectory_of_located exchange.passable exchange.directory_located.1
    exchange.directory_located.2

theorem perform_writeBytes (member : name ∈ exchangeNames) (content : Bytes)
    : perform (Host.writeBytes (work.child name) content) host
      = (.ok (), { host with files := host.files.set (base ++ [name]) (.file content) }) := by
  exact Host.perform_writeBytes (exchange.holdsNul_child member)
    (FileTree.write_of_locate (exchange.located name member) (exchange.plain name member) content)

/-- The bytes that can be read of a file of the exchange are its content. -/
theorem toOption_readBytes (member : name ∈ exchangeNames)
    : (perform (Host.readBytes (work.child name)) host).1.toOption
      = host.files.content? (base ++ [name]) := by
  have passable := exchange.holdsNul_child member
  have located := exchange.located name member
  rw [Host.readBytes, Host.perform_ask passable, FileTree.content?]
  cases there : host.files.lookup (base ++ [name]) with
  | none =>
      rw [FileTree.read_of_locate_none located there]
      rfl
  | some node =>
      cases node with
      | directory => exact absurd there (exchange.plain name member)
      | file content =>
          rw [FileTree.read_of_locate located there]
          rfl

/-- Before the document is made its file is emptied, so a seal without one leaves an empty file. -/
theorem perform_write_opened (sealBytes : Bytes)
    : ∃ files,
        perform (write sealBytes work) host
          = perform
              (do
                Host.writeBytes (work.child witnessName)
                  (← Action.ofExcept (documentBytes sealBytes))
                return work.child witnessName)
              { host with files := files }
        ∧ Exchange work host.directory base files
        ∧ files.lookup (base ++ [outputName]) = host.files.lookup (base ++ [outputName]) := by
  have sealed : sealName ∈ exchangeNames := by simp [exchangeNames]
  have witnessed : witnessName ∈ exchangeNames := by simp [exchangeNames]
  have apart : outputName ≠ witnessName ∧ outputName ≠ sealName := by decide
  let first := host.files.set (base ++ [sealName]) (.file sealBytes)
  let second := first.set (base ++ [witnessName]) (.file [])
  have atFirst : Exchange work host.directory base first := exchange.set sealed sealBytes
  have opened
      : perform (Host.writeBytes (work.child witnessName) []) { host with files := first }
        = (.ok (), { host with files := second }) :=
    atFirst.perform_writeBytes witnessed []
  refine ⟨second, ?_, atFirst.set witnessed [], ?_⟩
  · rw [write, perform_bind_ok (exchange.perform_writeBytes sealed sealBytes),
      perform_bind_ok opened]
  · rw [FileTree.lookup_set_of_ne _ _ (by simp [apart]),
      FileTree.lookup_set_of_ne _ _ (by simp [apart])]

/-- A seal and its document are written, and the output is not touched. -/
theorem perform_write {sealBytes document : Bytes}
    (made : documentBytes sealBytes = .ok document)
    : ∃ files,
        perform (write sealBytes work) host
          = (.ok (work.child witnessName), { host with files := files })
        ∧ Exchange work host.directory base files
        ∧ files.content? (base ++ [witnessName]) = some document
        ∧ files.content? (base ++ [outputName])
          = host.files.content? (base ++ [outputName]) := by
  have witnessed : witnessName ∈ exchangeNames := by simp [exchangeNames]
  have apart : outputName ≠ witnessName := by decide
  obtain ⟨files, opened, atFiles, untouched⟩ := exchange.perform_write_opened sealBytes
  have written
      : perform (Host.writeBytes (work.child witnessName) document) { host with files := files }
        = (.ok (), { host with files := files.set (base ++ [witnessName]) (.file document) }) :=
    atFiles.perform_writeBytes witnessed document
  refine ⟨_, ?_, atFiles.set witnessed document, ?_, ?_⟩
  · rw [opened, made, perform_bind_ok (perform_ofExcept _ _), perform_bind_ok written,
      perform_pure]
  · rw [FileTree.content?, FileTree.lookup_set_self _ _ (by simp)]
  · rw [FileTree.content?, FileTree.lookup_set_of_ne _ _ (by simp [apart]), untouched]
    rfl

theorem perform_write_error {sealBytes : Bytes} {failure : Failure}
    (unmade : documentBytes sealBytes = .error failure)
    : (perform (write sealBytes work) host).1 = .error failure := by
  obtain ⟨files, opened, _, _⟩ := exchange.perform_write_opened sealBytes
  rw [opened, unmade, perform_bind_error (perform_ofExcept _ _)]

/-- What is read as the proof is the proof in the output. -/
theorem perform_readOutput
    : (perform (readOutput work) host).1
      = proofOf host.limits.nesting (work.child outputName)
          (host.files.content? (base ++ [outputName])) := by
  have member : outputName ∈ exchangeNames := by simp [exchangeNames]
  have passable := exchange.holdsNul_child member
  have located := exchange.located outputName member
  cases there : host.files.lookup (base ++ [outputName]) with
  | none =>
      simp only [FileTree.content?, there]
      exact perform_readOutput_of_absent (Host.absent_of_names ⟨passable, located⟩ there)
  | some node =>
      cases node with
      | directory => exact absurd there (exchange.plain outputName member)
      | file content =>
          simp only [FileTree.content?, there]
          exact perform_readOutput_of_held
            (Host.held_iff.mpr ⟨passable, FileTree.read_of_locate located there⟩)

end Exchange

end Witness

end VerifierBootstrap
