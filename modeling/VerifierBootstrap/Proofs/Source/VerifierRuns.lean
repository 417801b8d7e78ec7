import VerifierBootstrap.Proofs.FileTree.Locations
import VerifierBootstrap.Proofs.Host.Delivery
import VerifierBootstrap.Proofs.Host.Silence
import VerifierBootstrap.Proofs.Source.Settlement
import VerifierBootstrap.Proofs.Source.VerifierFiles

/-!
The course of a synchronization of the verifier files. It fails while both files are as they were,
or it writes the synchronized text over the host verifier and runs the formatter on it once. What
else is different afterwards was the formatter's doing.
-/

namespace VerifierBootstrap.VerifyingKey

open VerifierBootstrap.Action

/-- The texts of both verifiers on a host. -/
structure Found (settings : BootstrapSettings) (host : Host) (contract text : Text) : Prop where
  contract : host.HoldsText (settings.path settings.solidityVerifier) contract
  verifier : host.HoldsText (settings.path settings.rustVerifier) text

/-- A contract declares a constant of the key. -/
def Declares (contract : Text) : Prop :=
  ∃ pairing ∈ pairings, ∃ declaration ∈ declarations .solidity contract,
    declaration.name = pairing.source

/-- A synchronization comes to write the host verifier. -/
def Writes (settings : BootstrapSettings) (host : Host) : Prop :=
  host.sourcesLocked = false
  ∧ ∃ contract text, Found settings host contract text ∧ Declares contract

/-- What a synchronization of the verifier files can come to. -/
inductive Course (settings : BootstrapSettings) (formatter : Formatter) (host : Host)
    : Except Failure Sync.Result → Host → Prop where
  /-- A verifier cannot be read as a text. -/
  | unread {failure : Failure} (unfound : ∀ contract text, ¬ Found settings host contract text)
    (other : failure.kind ≠ "SyncError")
    : Course settings formatter host (.error failure) host
  /-- The contract has nothing to synchronize with. -/
  | bare {contract text : Text} {log : List LogLine} (found : Found settings host contract text)
    (bare : ¬ Declares contract)
    : Course settings formatter host
        (.error (.noConstants (settings.path settings.solidityVerifier).text))
        { host with log := log }
  /-- The host verifier cannot be written. -/
  | unwritten {contract text : Text} {log : List LogLine}
    (found : Found settings host contract text) (declares : Declares contract)
    (locked : host.sourcesLocked = true)
    : Course settings formatter host
        (.error (.availability (.unwritable (some "Rust verifier")
          (settings.path settings.rustVerifier).text
          ⟨.notPermitted, (settings.path settings.rustVerifier).text⟩)))
        { host with log := log }
  /-- The host verifier was written, and the formatter was run on it. -/
  | formatted {contract text : Text} {files : FileTree} {log : List LogLine}
    (found : Found settings host contract text) (declares : Declares contract)
    (unlocked : host.sourcesLocked = false)
    (written
      : host.files.write host.directory (settings.path settings.rustVerifier)
          (Utf8.encode (synchronize contract text).text)
        = .ok files)
    {outcome : Except Failure Unit} {after : Host}
    (run
      : perform (formatter.format (settings.path settings.rustVerifier))
          { host with files := files, log := log }
        = (outcome, after))
    : Course settings formatter host (outcome.map fun _ => synchronize contract text) after

variable {settings : BootstrapSettings} {host : Host} {contract text : Text}

-----------------------------------------------------------------------------------------
-- The steps
-----------------------------------------------------------------------------------------

theorem Found.unique {other otherText : Text} (found : Found settings host contract text)
    (again : Found settings host other otherText)
    : contract = other ∧ text = otherText :=
  ⟨found.contract.unique again.contract, found.verifier.unique again.verifier⟩

/-- All constants are missing from a contract that declares none of them, and from no other. -/
theorem length_missingSource_iff (contract text : Text)
    : (synchronize contract text).missingSource.length = pairings.length ↔ ¬ Declares contract := by
  rw [synchronize, Sync.missingSource_synchronize, List.length_map, List.length_filter_eq_length_iff]
  simp [Sync.given, findDeclaration, Declares, Sync.Sides.verifiers]

theorem ends_readVerifier_found (path : Path) (subject : String) (host : Host)
    : Ends (readVerifier path subject) host
        (fun text after => after = host ∧ host.HoldsText path text)
        (fun failure after =>
          after = host ∧ (∀ text, ¬ host.HoldsText path text) ∧ failure.kind ≠ "SyncError") := by
  refine (Host.ends_readText_held path host).tryCatch ?_
  rintro failure _ ⟨rfl, unheld, reason⟩
  rcases reason with refused | ⟨fault, rfl⟩
  · cases failure with
    | file fault => exact .throw ⟨rfl, unheld, show Family.availability.name ≠ _ by decide⟩
    | embeddedNul => exact .throw ⟨rfl, unheld, show "ValueError" ≠ _ by decide⟩
    | _ => exact refused.elim
  · exact .throw ⟨rfl, unheld, show "UnicodeDecodeError" ≠ _ by decide⟩

/-- A host verifier that can be read can be written, unless sources are locked. -/
theorem ends_writeVerifier_held {path : Path} (held : host.HoldsText path text) (revised : Text)
    : Ends (writeVerifier path revised) host
        (fun _ after =>
          host.sourcesLocked = false
          ∧ ∃ files,
              host.files.write host.directory path (Utf8.encode revised) = .ok files
              ∧ after = { host with files := files })
        (fun failure after =>
          host.sourcesLocked = true
          ∧ after = host
          ∧ failure
            = .availability
                (.unwritable (some "Rust verifier") path.text ⟨.notPermitted, path.text⟩)) := by
  rw [Ends, writeVerifier, perform_tryCatch]
  rcases Bool.eq_false_or_eq_true host.sourcesLocked with locked | unlocked
  · rw [Host.perform_writeSource_of_locked locked]
    exact ⟨locked, rfl, rfl⟩
  · obtain ⟨passable, content, _, read, _⟩ := held
    obtain ⟨place, located, there⟩ := FileTree.read_eq_ok read
    have written := FileTree.write_of_locate located (by simp [there]) (Utf8.encode revised)
    rw [Host.perform_writeSource unlocked, Host.perform_writeBytes passable written]
    exact ⟨unlocked, _, written, rfl⟩

/-- Every synchronization of the verifier files takes its course. -/
theorem course_synchronizeFiles (settings : BootstrapSettings) (formatter : Formatter)
    (host : Host)
    : Course settings formatter host (perform (synchronizeFiles settings formatter) host).1
        (perform (synchronizeFiles settings formatter) host).2 := by
  refine Ends.outcome ?_
  refine (ends_readVerifier_found _ _ host).andThen ?_ ?_
  · rintro failure _ ⟨rfl, unheld, other⟩
    exact .unread (fun contract _ found => unheld contract found.contract) other
  rintro contract _ ⟨rfl, contractHeld⟩
  refine (ends_readVerifier_found _ _ _).andThen ?_ ?_
  · rintro failure _ ⟨rfl, unheld, other⟩
    exact .unread (fun _ text found => unheld text found.verifier) other
  rintro text host ⟨rfl, held⟩
  have found : Found settings _ contract text := ⟨contractHeld, held⟩
  have noted : Host.Logs (noteWarnings (synchronize contract text)) (.ok ()) :=
    .forM fun _ => .note .warning _
  obtain ⟨log, warned⟩ := noted _
  refine .bind_ok warned ?_
  dsimp only
  have allMissing := length_missingSource_iff contract text
  by_cases declares : Declares contract
  · rw [if_neg fun none => allMissing.mp none declares]
    have heldStill : Host.HoldsText { host with log := log } _ text := held
    refine (ends_writeVerifier_held heldStill _).andThen ?_ ?_
    · rintro _ _ ⟨locked, rfl, rfl⟩
      exact .unwritten found declares locked
    rintro _ _ ⟨unlocked, files, written, rfl⟩
    refine .bind_ok (Host.perform_note _ _ _) ?_
    refine (Ends.of_run (formatter.format _) _).andThen ?_ ?_
    · intro _ _ run
      exact .formatted found declares unlocked written run
    · intro _ _ run
      exact .formatted found declares unlocked written run
  · rw [if_pos (allMissing.mpr declares)]
    exact .throw (.bare found declares)

-----------------------------------------------------------------------------------------
-- What a synchronization comes to
-----------------------------------------------------------------------------------------

/-- The synchronized text is in the host verifier, and nothing else is different. -/
structure Written (settings : BootstrapSettings) (host : Host) (contract text : Text)
    (files : FileTree) : Prop where
  bytes
    : files.read host.directory (settings.path settings.rustVerifier)
      = .ok (Utf8.encode (synchronize contract text).text)
  text
    : Host.HoldsText { host with files := files } (settings.path settings.rustVerifier)
        (synchronize contract text).text
  elsewhere
    : ∀ place,
        place ≠ (settings.path settings.rustVerifier).location host.directory
        → files.lookup place = host.files.lookup place

/-- What the synchronization reports, and the files that it leaves, are told from what becomes of
starting the formatter on the written files.
-/
def Reports (formatter : Formatter) (given : Sync.Result) (files : FileTree) (launch : Launch)
    (result : Except Failure Sync.Result) (left : FileTree)
    : Prop :=
  match launch with
  | .refused _ =>
      left = files ∧ ∃ detail, result = .error (.process formatter.name none detail)
  | .exited status leaves =>
      left = leaves
      ∧ (status = 0 → result = .ok given)
      ∧ (status ≠ 0 → ∃ detail, result = .error (.process formatter.name (some status) detail))

/-- A text of which every line is ended by a line feed is read as it was written. -/
theorem Written.of_write {files : FileTree} (found : Found settings host contract text)
    (written
      : host.files.write host.directory (settings.path settings.rustVerifier)
          (Utf8.encode (synchronize contract text).text)
        = .ok files)
    : Written settings host contract text files where
  bytes := FileTree.read_of_write written
  text := by
    obtain ⟨passable, _, decoded, _, _, rfl⟩ := found.verifier
    refine ⟨passable, _, _, FileTree.read_of_write written, Utf8.decode_encode _, ?_⟩
    have noReturn := return_not_mem_written contract decoded
    exact (Text.unifyLines_of_not_mem fun member =>
      noReturn ((Utf8.mem_encode '\r' (by decide)).mpr member)).symm
  elsewhere := by
    intro place other
    obtain ⟨target, located, plain, rfl⟩ := FileTree.write_eq_ok written
    exact FileTree.lookup_set_of_ne _ _ (FileTree.eq_location_of_locate located ▸ other)

theorem Written.content? {files : FileTree} (written : Written settings host contract text files)
    {place : Location}
    (other : place ≠ (settings.path settings.rustVerifier).location host.directory)
    : files.content? place = host.files.content? place := by
  rw [FileTree.content?, FileTree.content?, written.elsewhere place other]

/-- What the formatter fails with has its own name. -/
theorem Reports.kind {formatter : Formatter} {given : Sync.Result} {files left : FileTree}
    {launch : Launch} {failure : Failure}
    (reports : Reports formatter given files launch (.error failure) left)
    : failure.kind = "ExternalProcessError" := by
  cases launch with
  | refused refusal =>
      obtain ⟨_, _, same⟩ := reports
      rw [Except.error.inj same]
      rfl
  | exited status leaves =>
      obtain ⟨_, well, ill⟩ := reports
      by_cases zero : status = 0
      · exact nomatch well zero
      · obtain ⟨_, same⟩ := ill zero
        rw [Except.error.inj same]
        rfl

theorem reports_outcome (formatter : Formatter) (path : Path) (given : Sync.Result)
    (files : FileTree) (launch : Launch)
    : Reports formatter given files launch ((formatter.outcome path launch).map fun _ => given)
        (launch.left files) := by
  cases launch with
  | refused refusal => exact ⟨rfl, _, rfl⟩
  | exited status leaves =>
      refine ⟨rfl, fun well => ?_, fun ill => ?_⟩
      · rw [Formatter.outcome, if_pos well]
        rfl
      · rw [Formatter.outcome, if_neg ill]
        exact ⟨_, rfl⟩

namespace Course

variable {formatter : Formatter} {result : Except Failure Sync.Result} {after : Host}

theorem of_unfound (course : Course settings formatter host result after)
    (unfound : ∀ contract text, ¬ Found settings host contract text)
    : host.Untouched after ∧ ∃ failure, result = .error failure ∧ failure.kind ≠ "SyncError" := by
  cases course with
  | unread _ other => exact ⟨.refl host, _, rfl, other⟩
  | bare found => exact (unfound _ _ found).elim
  | unwritten found => exact (unfound _ _ found).elim
  | formatted found => exact (unfound _ _ found).elim

theorem of_bare (course : Course settings formatter host result after)
    (found : Found settings host contract text) (bare : ¬ Declares contract)
    : host.Untouched after
      ∧ result = .error (.noConstants (settings.path settings.solidityVerifier).text) := by
  cases course with
  | unread unfound => exact (unfound _ _ found).elim
  | bare => exact ⟨⟨rfl, rfl⟩, rfl⟩
  | unwritten again declares =>
      obtain ⟨rfl, rfl⟩ := found.unique again
      exact (bare declares).elim
  | formatted again declares =>
      obtain ⟨rfl, rfl⟩ := found.unique again
      exact (bare declares).elim

theorem of_declares (course : Course settings formatter host result after)
    (found : Found settings host contract text) (declares : Declares contract)
    : let path := settings.path settings.rustVerifier
      let command := formatter.command ++ [path.text]
      (host.sourcesLocked = true
        ∧ host.Untouched after
        ∧ result
          = .error
              (.availability
                (.unwritable (some "Rust verifier") path.text ⟨.notPermitted, path.text⟩)))
      ∨ host.sourcesLocked = false
        ∧ ∃ files,
            Written settings host contract text files
            ∧ after.events = host.events ++ [.started command files]
            ∧ Reports formatter (synchronize contract text) files
                (host.launch host.events command files) result after.files := by
  intro path command
  cases course with
  | unread unfound => exact (unfound _ _ found).elim
  | bare again bare =>
      obtain ⟨rfl, rfl⟩ := found.unique again
      exact (bare declares).elim
  | unwritten _ _ locked => exact .inl ⟨locked, ⟨rfl, rfl⟩, rfl⟩
  | @formatted _ _ files _ again _ unlocked written _ _ run =>
      obtain ⟨rfl, rfl⟩ := found.unique again
      rw [Formatter.perform_format] at run
      obtain ⟨rfl, rfl⟩ := Prod.mk.inj run
      exact .inr ⟨unlocked, files, .of_write found written, rfl, reports_outcome _ path _ _ _⟩

theorem kind_iff (course : Course settings formatter host result after)
    : (∃ failure, result = .error failure ∧ failure.kind = "SyncError")
      ↔ ∃ contract text, Found settings host contract text ∧ ¬ Declares contract := by
  constructor
  · rintro ⟨failure, rfl, kind⟩
    by_contra none
    have declared {contract text : Text} (found : Found settings host contract text)
        : Declares contract :=
      not_not.mp fun bare => none ⟨contract, text, found, bare⟩
    by_cases unfound : ∃ contract text, Found settings host contract text
    · obtain ⟨contract, text, found⟩ := unfound
      rcases course.of_declares found (declared found) with
        ⟨_, _, same⟩ | ⟨_, files, _, _, reports⟩
      · rw [Except.error.inj same] at kind
        exact absurd kind (show Family.availability.name ≠ _ by decide)
      · rw [reports.kind] at kind
        exact absurd kind (by decide)
    · obtain ⟨_, _, same, other⟩ :=
        course.of_unfound fun contract text found => unfound ⟨contract, text, found⟩
      exact other (Except.error.inj same ▸ kind)
  · rintro ⟨contract, text, found, bare⟩
    exact ⟨_, (course.of_bare found bare).2, rfl⟩

/-- The host verifier was formatted, or nothing was asked for and no file is different. -/
theorem idle_or_formatted (course : Course settings formatter host result after)
    : (¬ Writes settings host ∧ ∃ log, after = { host with log := log })
      ∨ ∃ contract text files,
          host.sourcesLocked = false
          ∧ Found settings host contract text
          ∧ Declares contract
          ∧ host.Formatted formatter (settings.path settings.rustVerifier)
              (synchronize contract text).text files after := by
  cases course with
  | unread unfound =>
      refine .inl ⟨?_, host.log, rfl⟩
      rintro ⟨_, contract, text, found, _⟩
      exact unfound contract text found
  | @bare _ _ log found bare =>
      refine .inl ⟨?_, log, rfl⟩
      rintro ⟨_, contract, text, again, declares⟩
      obtain ⟨rfl, rfl⟩ := found.unique again
      exact bare declares
  | @unwritten _ _ log _ _ locked =>
      refine .inl ⟨?_, log, rfl⟩
      rintro ⟨unlocked, _⟩
      exact nomatch locked.symm.trans unlocked
  | @formatted contract text files _ found declares unlocked written _ _ run =>
      have writes := Written.of_write found written
      exact .inr ⟨contract, text, files, unlocked, found, declares,
        Host.formatted_of_format writes.bytes (fun _ => writes.content?) run⟩

/-- The host verifier was delivered, or all files were kept. -/
theorem exists_delivered (course : Course settings formatter host result after)
    : ∃ content,
        Delivered formatter (settings.path settings.rustVerifier) content host result after := by
  cases course with
  | unread => exact ⟨[], .kept (.refl host)⟩
  | bare => exact ⟨[], .kept (.of_log _)⟩
  | unwritten => exact ⟨[], .kept (.of_log _)⟩
  | formatted found _ _ written run =>
      have writes := Written.of_write found written
      exact ⟨_, (Delivered.of_format writes.bytes (fun _ => writes.content?) run).map _⟩

end Course

/-- A synchronization fails before anything is written if a verifier is no text that can be read, or
if the contract declares no constant of the key, and of all failures only the last is one of
synchronization. Otherwise sources are locked and the host verifier cannot be written, or it has the
synchronized text when the formatter is started on it, once; what becomes of that is reported. Up to
then no other file is different. Witness: the course of the run.
-/
theorem outcome_synchronizeFiles (settings : BootstrapSettings) (formatter : Formatter)
    (host : Host)
    : let path := settings.path settings.rustVerifier
      let contractPath := settings.path settings.solidityVerifier
      let command := formatter.command ++ [path.text]
      let result := (perform (synchronizeFiles settings formatter) host).1
      let after := (perform (synchronizeFiles settings formatter) host).2
      ((∀ contract text, ¬ Found settings host contract text)
        → host.Untouched after ∧ ∃ failure, result = .error failure ∧ failure.kind ≠ "SyncError")
      ∧ (∀ contract text, Found settings host contract text → ¬ Declares contract
          → host.Untouched after ∧ result = .error (.noConstants contractPath.text))
      ∧ ((∃ failure, result = .error failure ∧ failure.kind = "SyncError")
          ↔ ∃ contract text, Found settings host contract text ∧ ¬ Declares contract)
      ∧ (∀ contract text, Found settings host contract text → Declares contract
          → (host.sourcesLocked = true
              ∧ host.Untouched after
              ∧ result
                = .error
                    (.availability
                      (.unwritable (some "Rust verifier") path.text ⟨.notPermitted, path.text⟩)))
            ∨ host.sourcesLocked = false
              ∧ ∃ files,
                  Written settings host contract text files
                  ∧ after.events = host.events ++ [.started command files]
                  ∧ Reports formatter (synchronize contract text) files
                      (host.launch host.events command files) result after.files)
      ∧ ∀ root environment,
          settings = .ofEnvironment root environment
          → contractPath.location host.directory ≠ path.location host.directory := by
  intro path contractPath command result after
  have course : Course settings formatter host result after :=
    course_synchronizeFiles settings formatter host
  refine ⟨course.of_unfound, fun _ _ => course.of_bare, course.kind_iff,
    fun _ _ => course.of_declares, ?_⟩
  rintro root environment rfl
  exact BootstrapSettings.location_usualFiles_ne root host.directory (.head _)
    (.tail _ (.tail _ (.tail _ (.head _))))
    (by simp [BootstrapSettings.ofEnvironment, BootstrapSettings.below])

/-- The contract declares one constant of the key. It is written to the host verifier, and the
formatter is started on that and ends well.
-/
theorem outcome_synchronizeFiles_single_constant
    : let contract := "uint256 constant alphax = 20;".toList
      let text := "const ALPHA_X: &str = \"1\";".toList
      let settings : BootstrapSettings := ⟨.here, "key.sol", "", "", "key.rs", none, none⟩
      let host :=
        Host.quiet
          ⟨[(["key.sol"], .file (Utf8.encode contract)), (["key.rs"], .file (Utf8.encode text))]⟩
      Found settings host contract text
      ∧ Declares contract
      ∧ ∃ files after,
          perform (synchronizeFiles settings .rust) host
            = (.ok (synchronize contract text), after)
          ∧ after.events = [.started ["rustfmt", "key.rs"] files]
          ∧ files.read [] ⟨.relative, ["key.rs"]⟩
            = .ok (Utf8.encode "const ALPHA_X: &str = \"20\";".toList)
          ∧ after.files = files := by
  intro contract text settings host
  have found : Found settings host contract text := by
    refine ⟨⟨by decide +kernel, Utf8.encode contract, contract, by decide +kernel,
        Utf8.decode_encode _, by decide +kernel⟩,
      ⟨by decide +kernel, Utf8.encode text, text, by decide +kernel, Utf8.decode_encode _,
        by decide +kernel⟩⟩
  have declares : Declares contract := by
    have given : (synchronize contract text).missingSource.length ≠ pairings.length := by
      decide +kernel
    exact not_not.mp (mt (length_missingSource_iff contract text).mpr given)
  have path : settings.path settings.rustVerifier = ⟨.relative, ["key.rs"]⟩ := by decide +kernel
  have command
      : Formatter.rust.command ++ [(settings.path settings.rustVerifier).text]
        = ["rustfmt", "key.rs"] := by
    decide +kernel
  have revised
      : (synchronize contract text).text = "const ALPHA_X: &str = \"20\";".toList := by
    decide +kernel
  cases run : perform (synchronizeFiles settings .rust) host with
  | mk result after =>
      obtain ⟨_, _, _, course, _⟩ := outcome_synchronizeFiles settings .rust host
      rcases course contract text found declares with
        ⟨locked, _⟩ | ⟨_, files, written, events, same, well, _⟩
      · cases locked
      · have bytes := written.bytes
        simp only [run, command] at events well same
        rw [path, revised] at bytes
        obtain rfl := well trivial
        exact ⟨found, declares, files, after, rfl, events, bytes, same⟩

end VerifierBootstrap.VerifyingKey
