import VerifierBootstrap.Proofs.FileTree.Locations
import VerifierBootstrap.Proofs.Host.Silence
import VerifierBootstrap.Proofs.Tools.Formatter
import VerifierBootstrap.Proofs.Witness.Exchange

/-!
What is left to programs. An action that writes one file and has it formatted changes the content
of that file alone; whatever else is different afterwards is what the formatter did. So a place that
no action writes is handed from program to program.
-/

namespace VerifierBootstrap

open VerifierBootstrap.Action

/-- A place is handed on: the first of some programs finds there what was there before, each of the
others what the one before it has left, and what the last leaves is there in the end.
-/
def Relayed (launch : List Event → List String → FileTree → Launch) (place : Location)
    : List Event → List Event → Option Bytes → Option Bytes → Prop
  | _, [], before, after => after = before
  | past, .started command files :: later, before, after =>
      files.content? place = before
      ∧ Relayed launch place (past ++ [.started command files]) later
          (((launch past command files).left files).content? place) after
  | past, event :: later, before, after =>
      Relayed launch place (past ++ [event]) later before after

/-- What is handed on twice is handed on. By induction on the first events. -/
theorem Relayed.trans {launch : List Event → List String → FileTree → Launch} {place : Location}
    {first second past : List Event} {before middle after : Option Bytes}
    (left : Relayed launch place past first before middle)
    (right : Relayed launch place (past ++ first) second middle after)
    : Relayed launch place past (first ++ second) before after := by
  induction first generalizing past before with
  | nil =>
      obtain rfl := left
      rw [List.append_nil] at right
      exact right
  | cons event later ih =>
      rw [List.append_cons] at right
      cases event with
      | started command files => exact ⟨left.1, ih left.2 right⟩
      | requested url timeout => exact ih left right
      | proved work files => exact ih left right

namespace Host

/-- The content of a place is left to programs. -/
structure Relays (place : Location) (before after : Host) : Prop where
  directory : after.directory = before.directory
  launch : after.launch = before.launch
  relayed
    : ∃ asked,
        after.events = before.events ++ asked
        ∧ Relayed before.launch place before.events asked (before.files.content? place)
            (after.files.content? place)

/-- Directories may be new, but all files have their content, and no program was started. -/
structure Kept (before after : Host) : Prop where
  directory : after.directory = before.directory
  launch : after.launch = before.launch
  events : after.events = before.events
  content? : ∀ place, after.files.content? place = before.files.content? place

/-- A text was written to a file, and the formatter was started on it; these were the files then,
and what they are now is what the formatter has left.
-/
structure Formatted (formatter : Formatter) (path : Path) (content : Text) (files : FileTree)
    (before after : Host) : Prop where
  directory : after.directory = before.directory
  launch : after.launch = before.launch
  held : files.read before.directory path = .ok (Utf8.encode content)
  elsewhere
    : ∀ place,
        place ≠ path.location before.directory
        → files.content? place = before.files.content? place
  events : after.events = before.events ++ [.started (formatter.command ++ [path.text]) files]
  left
    : after.files
      = (before.launch before.events (formatter.command ++ [path.text]) files).left files

variable {formatter : Formatter} {path : Path} {content : Text} {files : FileTree}
  {place : Location} {before middle after : Host}

theorem Kept.refl (host : Host) : Kept host host := ⟨rfl, rfl, rfl, fun _ => rfl⟩

/-- The log is not among what is kept. -/
theorem Kept.of_log {host : Host} (log : List LogLine) : Kept host { host with log := log } :=
  ⟨rfl, rfl, rfl, fun _ => rfl⟩

theorem Kept.trans (first : Kept before middle) (second : Kept middle after) : Kept before after :=
  ⟨second.directory.trans first.directory, second.launch.trans first.launch,
    second.events.trans first.events,
    fun place => (second.content? place).trans (first.content? place)⟩

theorem Formatted.of_log {log : List LogLine}
    (formatted : Formatted formatter path content files { before with log := log } after)
    : Formatted formatter path content files before after :=
  ⟨formatted.directory, formatted.launch, formatted.held, formatted.elsewhere, formatted.events,
    formatted.left⟩

theorem Formatted.set_log (formatted : Formatted formatter path content files before after)
    (log : List LogLine)
    : Formatted formatter path content files before { after with log := log } :=
  ⟨formatted.directory, formatted.launch, formatted.held, formatted.elsewhere, formatted.events,
    formatted.left⟩

theorem Grown.kept {files : FileTree} (grown : Grown path before { before with files := files })
    : Kept before { before with files := files } := by
  refine ⟨rfl, rfl, rfl, fun place => ?_⟩
  rw [FileTree.content?, FileTree.content?]
  rcases grown.lookup place with same | ⟨empty, made, _⟩
  · rw [same]
  · rw [empty, made]

theorem Relays.trans (first : Relays place before middle) (second : Relays place middle after)
    : Relays place before after := by
  obtain ⟨asked, events, left⟩ := first.relayed
  obtain ⟨more, later, right⟩ := second.relayed
  refine ⟨second.directory.trans first.directory, second.launch.trans first.launch,
    asked ++ more, ?_, ?_⟩
  · rw [later, events, List.append_assoc]
  · rw [first.launch, events] at right
    exact left.trans right

theorem Kept.relays (kept : Kept before after) (place : Location) : Relays place before after :=
  ⟨kept.directory, kept.launch, [], by rw [kept.events, List.append_nil], kept.content? place⟩

/-- All places but that of the file are left to the formatter. -/
theorem Formatted.relays (formatted : Formatted formatter path content files before after)
    (other : place ≠ path.location before.directory)
    : Relays place before after :=
  ⟨formatted.directory, formatted.launch, _, formatted.events,
    formatted.elsewhere place other, congrArg (FileTree.content? · place) formatted.left⟩

/-- What was formatted is not untouched. -/
theorem Formatted.not_untouched (formatted : Formatted formatter path content files before after)
    : ¬ before.Untouched after := by
  intro untouched
  have same := formatted.events.symm.trans untouched.events
  simp at same

/-- A text that was written is given to the formatter. -/
theorem formatted_of_format {log : List LogLine} {outcome : Except Failure Unit}
    (held : files.read before.directory path = .ok (Utf8.encode content))
    (elsewhere
      : ∀ place,
          place ≠ path.location before.directory
          → files.content? place = before.files.content? place)
    (run
      : perform (formatter.format path) { before with files := files, log := log }
        = (outcome, after))
    : Formatted formatter path content files before after := by
  rw [Formatter.perform_format] at run
  obtain ⟨-, rfl⟩ := Prod.mk.inj run
  exact ⟨rfl, rfl, held, elsewhere, rfl, rfl⟩

end Host

end VerifierBootstrap
