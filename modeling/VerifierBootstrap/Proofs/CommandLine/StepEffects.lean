import VerifierBootstrap.Proofs.CommandLine.BootstrapSteps
import VerifierBootstrap.Proofs.Pipeline.Footprint
import VerifierBootstrap.Proofs.Solidity.FailedRuns

/-!
The effects of each step of the command that brings both verifiers up to date. A step touches its
output and nothing else but the footprint of its pipeline, and it completes just in case the
formatter of its output has ended well.
-/

namespace VerifierBootstrap.CommandLine

open VerifierBootstrap.Action

/-- A step of the command. -/
inductive Step where
  | verifyingKey
  | controlId
  | testReceipt
deriving Repr, DecidableEq

namespace Step

/-- The steps in their order. -/
def all : List Step := [.verifyingKey, .controlId, .testReceipt]

theorem mem_all (step : Step) : step ∈ all := by
  cases step with
  | verifyingKey => decide
  | controlId => decide
  | testReceipt => decide

/-- The file that a step writes, as it is written below a root. -/
def file : Step → String
  | verifyingKey => "risc0/zkvm/src/host/groth16.rs"
  | controlId => "bonsai/ethereum/contracts/groth16/ControlID.sol"
  | testReceipt => "bonsai/ethereum/contracts/test/TestReceipt.sol"

/-- The file that a step writes, below a root. -/
def output (step : Step) (root : Path) : Path :=
  root.child step.file

/-- The formatter of the file. -/
def formatter : Step → Formatter
  | verifyingKey => .rust
  | controlId => .solidity
  | testReceipt => .solidity

/-- The command that formats the output of a step. -/
def command (step : Step) (root : Path) : List String :=
  step.formatter.command ++ [(step.output root).text]

/-- What was started for a step has completed it: the formatter of its output came last, and has
ended well. `past` is what was asked for before the step.
-/
def Completes (step : Step) (root : Path) (launch : List Event → List String → FileTree → Launch)
    (past started : List Event)
    : Prop :=
  ∃ asked files left,
    started = asked ++ [.started (step.command root) files]
    ∧ launch (past ++ asked) (step.command root) files = .exited 0 left

end Step

namespace BootstrapOrder

/-- Whether an order leaves out a step. -/
def skips (order : BootstrapOrder) : Step → Bool
  | .verifyingKey => order.skipVerifyingKey
  | .controlId => order.skipControlId
  | .testReceipt => order.skipTestReceipt

/-- What a step does if it is not left out. -/
def action (order : BootstrapOrder) (settings : BootstrapSettings) : Step → Action Findings
  | .verifyingKey => order.syncKey settings
  | .controlId => order.writeControlId settings
  | .testReceipt => order.writeTestReceipt settings

/-- The pipeline of the test receipt. -/
def pipeline (order : BootstrapOrder) (environment : Environment) : Pipeline :=
  ⟨DevMode.standard.engine, .container .standard, (order.settings environment).workDirectory, 0⟩

/-- A step asks for the formatter of its output, and that of the test receipt for its prover. -/
def Asks (order : BootstrapOrder) (host : Host) (step : Step) (event : Event) : Prop :=
  (∃ files, event = .started (step.command order.root) files)
  ∨ (step = .testReceipt
    ∧ (Prover.container .standard).Asks ((order.pipeline host.environment).workPath host) host
        event)

/-- A step touches its output, and that of the test receipt the footprint of its pipeline. -/
def Touches (order : BootstrapOrder) (host : Host) (step : Step) (place : Location) : Prop :=
  place = (step.output order.root).location host.directory
  ∨ (step = .testReceipt ∧ (order.pipeline host.environment).Occupies host place)

/-- If the test receipt is made in a temporary directory, that is a new one: the root is not in it.
-/
def WorksApart (order : BootstrapOrder) (host : Host) : Prop :=
  order.skipTestReceipt = false
  → order.workDirectory.or (BootstrapSettings.workDirectoryOf host.environment) = none
  → ".." ∉ host.temporary
    ∧ ¬ Pipeline.temporaryLocation host <+: order.root.location host.directory

/-- A step was run on a host and has asked for some events, with success or without. `origin` is the
host that the command was run on.
-/
structure Stepped (order : BootstrapOrder) (origin host : Host) (step : Step) (asked : List Event)
    (success : Bool) (after : Host) : Prop where
  setup : host.SameSetup after
  events : after.events = host.events ++ asked
  idle : order.skips step = true → asked = []
  asks : ∀ event ∈ asked, order.Asks origin step event
  relays
    : ∀ place,
        (order.skips step = false → ¬ order.Touches origin step place) → host.Relays place after
  success_iff
    : success = true
      ↔ (order.skips step = false
        → step.Completes order.root host.launch host.events asked)

variable {order : BootstrapOrder} {origin host middle after : Host} {step : Step}

-----------------------------------------------------------------------------------------
-- The setup of the host
-----------------------------------------------------------------------------------------

theorem keepsSetup_format (formatter : Formatter) (path : Path)
    : Host.KeepsSetup (formatter.format path) := by
  intro host
  rw [Formatter.perform_format]
  rfl

theorem keepsSetup_writeLibrary (path : Path) (content : Text) (formatter : Formatter)
    : Host.KeepsSetup (Solidity.writeLibrary path content formatter) := by
  have placed : Host.KeepsSetup (Solidity.place path content) :=
    .bind (.of_filesOnly (Host.filesOnly_ensureDirectory _)) fun _ =>
      .of_filesOnly (Host.filesOnly_writeSource path content)
  refine .bind (.tryCatch placed fun failure => ?_) fun _ => .bind (.note _ _) fun _ =>
    keepsSetup_format formatter path
  cases failure with
  | _ => exact .throw _

theorem keepsSetup_synchronizeFiles (settings : BootstrapSettings) (formatter : Formatter)
    : Host.KeepsSetup (VerifyingKey.synchronizeFiles settings formatter) := by
  have read (path : Path) (subject : String)
      : Host.KeepsSetup (VerifyingKey.readVerifier path subject) := by
    have text : Host.OnlyLogs (Host.readText path) := .of_ends fun host =>
      (Host.ends_readText path host).mono (fun _ _ => And.left) fun _ _ => id
    refine .tryCatch (.of_onlyLogs text) fun failure => ?_
    cases failure with
    | _ => exact .throw _
  have written (path : Path) (text : Text)
      : Host.KeepsSetup (VerifyingKey.writeVerifier path text) := by
    refine .tryCatch (.of_filesOnly (Host.filesOnly_writeSource path text)) fun failure => ?_
    cases failure with
    | _ => exact .throw _
  refine .bind (read _ _) fun contract => .bind (read _ _) fun text => ?_
  refine .bind (.of_onlyLogs (.of_logs (.forM fun _ => .note .warning _))) fun _ => ?_
  dsimp only
  split
  · exact .bind (.throw _) fun _ => .bind (written _ _) fun _ => .bind (.note _ _) fun _ =>
      .bind (keepsSetup_format formatter _) fun _ => .pure _
  · exact .bind (written _ _) fun _ => .bind (.note _ _) fun _ =>
      .bind (keepsSetup_format formatter _) fun _ => .pure _

-----------------------------------------------------------------------------------------
-- The pipeline of the test receipt
-----------------------------------------------------------------------------------------

theorem pipeline_workDirectory (order : BootstrapOrder) (environment : Environment)
    : (order.pipeline environment).workDirectory.or (BootstrapSettings.workDirectoryOf environment)
      = order.workDirectory.or (BootstrapSettings.workDirectoryOf environment) := by
  change (order.workDirectory.or (BootstrapSettings.workDirectoryOf environment)).or
    (BootstrapSettings.workDirectoryOf environment) = _
  rw [Option.or_assoc, Option.or_self]

theorem wellPlaced_of_worksApart (wanted : order.skipTestReceipt = false)
    (apart : order.WorksApart host)
    : (order.pipeline host.environment).WellPlaced host := by
  intro chosen
  rw [pipeline_workDirectory] at chosen
  exact (apart wanted chosen).1

-----------------------------------------------------------------------------------------
-- Steps that deliver
-----------------------------------------------------------------------------------------

/-- No prover is started by the command of a formatter. -/
theorem not_formats_of_asks {work : Path} {event : Event}
    (asked : (Prover.container .standard).Asks work host event) (step : Step) (root : Path)
    (files : FileTree)
    : event ≠ .started (step.command root) files := by
  rintro rfl
  obtain ⟨command, found, made, same⟩ := asked
  obtain ⟨rfl, -⟩ := Event.started.inj same
  have short : (step.command root).length ≤ 3 := by
    cases step with
    | _ => exact Nat.le_of_ble_eq_true rfl
  rw [Container.length_command made] at short
  exact absurd short (by decide)

/-- A step that asks a prover at most and delivers its output then is a step of the command. -/
theorem exists_stepped_of_delivered {α : Type} {result : Except Failure α} {content : Text}
    {prior : List Event} (wanted : order.skips step = false)
    (directory : host.directory = origin.directory) (setup : host.SameSetup after)
    (entered : host.SameSetup middle)
    (events : middle.events = host.events ++ prior)
    (asks
      : ∀ event ∈ prior,
          order.Asks origin step event
          ∧ ∀ files, event ≠ .started (step.command order.root) files)
    (relays : ∀ place, ¬ order.Touches origin step place → host.Relays place middle)
    (delivered
      : Delivered step.formatter (step.output order.root) content middle result after)
    : ∃ asked, Stepped order origin host step asked result.isOk after := by
  have unskipped {P : Prop} (skipped : order.skips step = true) : P :=
    nomatch skipped.symm.trans wanted
  cases delivered with
  | kept kept =>
      refine ⟨prior, setup, kept.events.trans events, unskipped,
        fun event member => (asks event member).1,
        fun place free => (relays place (free wanted)).trans (kept.relays place), ?_⟩
      refine iff_of_false nofun fun completes => ?_
      obtain ⟨asked, files, _, rfl, _⟩ := completes wanted
      exact (asks (.started (step.command order.root) files) (by simp)).2 files rfl
  | @formatted _ files _ formatted well =>
      refine ⟨prior ++ [.started (step.command order.root) files], setup, ?_,
        unskipped, ?_, ?_, ?_⟩
      · rw [formatted.events, events, List.append_assoc]
        rfl
      · intro event member
        rcases List.mem_append.mp member with early | last
        · exact (asks event early).1
        · exact .inl ⟨files, List.mem_singleton.mp last⟩
      · intro place free
        refine (relays place (free wanted)).trans (formatted.relays fun output => ?_)
        rw [entered.directory, directory] at output
        exact free wanted (.inl output)
      · rw [well, events, entered.launch]
        constructor
        · rintro ⟨left, ended⟩ _
          exact ⟨prior, files, left, rfl, ended⟩
        · intro completes
          obtain ⟨asked, found, left, same, ended⟩ := completes wanted
          obtain ⟨rfl, last⟩ := List.append_inj' same rfl
          obtain ⟨-, rfl⟩ := Event.started.inj (List.singleton_inj.mp last)
          exact ⟨left, ended⟩

-----------------------------------------------------------------------------------------
-- The steps
-----------------------------------------------------------------------------------------

theorem exists_delivered_emitTestReceipt {pipeline : Pipeline} {path : Path}
    {formatter : Formatter} {result : Except Failure Pipeline.Product}
    (run : perform pipeline.run host = (result, middle))
    : ∃ content,
        Delivered formatter path content middle
          (perform (Solidity.emitTestReceipt pipeline path formatter) host).1
          (perform (Solidity.emitTestReceipt pipeline path formatter) host).2 := by
  cases result with
  | error failure =>
      rw [Solidity.perform_emitTestReceipt_error path formatter run]
      exact ⟨[], .kept (.refl middle)⟩
  | ok product =>
      obtain ⟨vector, made⟩ := Solidity.exists_testVector run
      have vectored
          : perform (Action.ofExcept (Solidity.testVector product)) middle
            = (.ok vector, middle) := by
        rw [perform_ofExcept, made]
      rw [Solidity.emitTestReceipt, perform_bind_ok run, perform_bind_ok vectored]
      exact ⟨_, delivered_bind_pure _ (Solidity.delivered_writeLibrary path _ formatter middle)⟩

/-- The step of the verifying key delivers the host verifier. -/
theorem exists_delivered_syncKey (wanted : order.skipVerifyingKey = false)
    (settings : BootstrapSettings) (host : Host)
    : ∃ content,
        Delivered .rust (settings.path settings.rustVerifier) content host
          (perform (order.syncKey settings) host).1 (perform (order.syncKey settings) host).2 := by
  obtain ⟨content, delivered⟩ :=
    (VerifyingKey.course_synchronizeFiles settings .rust host).exists_delivered
  rw [syncKey, if_neg (by simp [wanted])]
  exact ⟨content, delivered_bind_pure _ delivered⟩

/-- The step of the control root delivers its library. -/
theorem exists_delivered_writeControlId (wanted : order.skipControlId = false)
    (settings : BootstrapSettings) (host : Host)
    : ∃ content,
        Delivered .solidity (settings.path settings.solidityControlId) content host
          (perform (order.writeControlId settings) host).1
          (perform (order.writeControlId settings) host).2 := by
  rcases delivered_writeControlId wanted settings host with
    ⟨failure, run⟩ | ⟨controlRoot, _, delivered⟩
  · rw [run]
    exact ⟨[], .kept (.refl host)⟩
  · exact ⟨_, delivered⟩

/-- The step of the test receipt delivers its library, once its pipeline has been run. -/
theorem exists_delivered_writeTestReceipt (wanted : order.skipTestReceipt = false)
    (environment : Environment) (host : Host)
    : let settings := order.settings environment
      ∃ log result middle content,
        perform (order.pipeline environment).run { host with log := log } = (result, middle)
        ∧ Delivered .solidity (settings.path settings.solidityTestReceipt) content middle
            (perform (order.writeTestReceipt settings) host).1
            (perform (order.writeTestReceipt settings) host).2 := by
  intro settings
  rw [writeTestReceipt, if_neg (by simp [wanted]), perform_bind_ok (Host.perform_note _ _ host)]
  let log := host.log ++ [⟨.warning, "generating TestReceipt.sol from the dev-mode zkVM"⟩]
  cases run : perform (order.pipeline environment).run { host with log := log } with
  | mk result middle =>
      obtain ⟨content, delivered⟩ := exists_delivered_emitTestReceipt run
      have reported :=
        delivered_bind_pure (fun given => [("image_id", Json.ofString given.2.text)]) delivered
      exact ⟨log, result, middle, content, run, reported⟩

/-- Whatever comes of a step, the setup of the host is the same. -/
theorem keepsSetup_action (order : BootstrapOrder) (settings : BootstrapSettings) (step : Step)
    : Host.KeepsSetup (order.action settings step) := by
  cases step with
  | verifyingKey =>
      rw [action, syncKey]
      split
      · exact .pure _
      · exact .bind (keepsSetup_synchronizeFiles settings _) fun _ => .pure _
  | controlId =>
      rw [action, writeControlId]
      split
      · exact .pure _
      · refine .bind ?_ fun controlRoot =>
          .bind (.bind (.bind (keepsSetup_writeLibrary _ _ _) fun _ => .pure _) fun _ => .pure _)
            fun _ => .pure _
        rw [chooseControlRoot]
        split
        · exact .ofExcept _
        · exact .bind (.note _ _) fun _ => .pure _
  | testReceipt =>
      rw [action, writeTestReceipt]
      split
      · exact .pure _
      · refine .bind (.note _ _) fun _ => .bind (.bind ?_ fun product => ?_) fun _ => .pure _
        · exact Pipeline.keepsSetup_run rfl
        · exact .bind (.ofExcept _) fun _ => .bind (keepsSetup_writeLibrary _ _ _) fun _ => .pure _

/-- A step that is left out does nothing. -/
theorem perform_action_of_skips (skipped : order.skips step = true) (settings : BootstrapSettings)
    (host : Host)
    : perform (order.action settings step) host = (.ok [], host) := by
  cases step with
  | verifyingKey =>
      rw [action, syncKey, if_pos (by exact skipped)]
      rfl
  | controlId =>
      rw [action, writeControlId, if_pos (by exact skipped)]
      rfl
  | testReceipt =>
      rw [action, writeTestReceipt, if_pos (by exact skipped)]
      rfl

/-- The step of the test receipt asks its prover at most, and then delivers its library. -/
theorem exists_stepped_testReceipt (wanted : order.skips .testReceipt = false)
    (setup : origin.SameSetup host) (apart : order.WorksApart origin)
    : let action := order.action (order.settings origin.environment) .testReceipt
      ∃ asked,
        Stepped order origin host .testReceipt asked (perform action host).1.isOk
          (perform action host).2 := by
  intro action
  obtain ⟨log, result, middle, content, run, delivered⟩ :=
    exists_delivered_writeTestReceipt wanted origin.environment host
  have contained : (order.pipeline origin.environment).prover = .container .standard := rfl
  have kept := keepsSetup_action order (order.settings origin.environment) .testReceipt host
  have entered : host.SameSetup middle := by
    have entered := Pipeline.keepsSetup_run contained { host with log := log }
    rw [run] at entered
    exact entered
  have placed : (order.pipeline origin.environment).WellPlaced { host with log := log } := by
    have placed := wellPlaced_of_worksApart wanted apart
    rw [setup]
    exact placed
  obtain ⟨found, left, handed, _⟩ := Pipeline.exists_handedOver_of_run placed run
  obtain ⟨prior, _, asks, events⟩ := handed.exists_asked
  refine exists_stepped_of_delivered wanted setup.directory kept entered events ?_ ?_ delivered
  · intro event member
    have asked := asks event member
    refine ⟨.inr ⟨rfl, ?_⟩, not_formats_of_asks asked _ _⟩
    rw [setup] at asked
    exact asked
  · intro place free
    have outside
        : ¬ (order.pipeline origin.environment).Occupies { host with log := log } place := by
      rw [setup]
      exact fun occupied => free (.inr ⟨rfl, occupied⟩)
    have relays := Pipeline.relays_of_run contained placed outside run
    exact ((Host.Kept.of_log log).relays place).trans relays

/-- Each step of the command, whether it is left out, succeeds or fails. -/
theorem exists_stepped (setup : origin.SameSetup host) (apart : order.WorksApart origin)
    (step : Step)
    : let action := order.action (order.settings origin.environment) step
      ∃ asked,
        Stepped order origin host step asked (perform action host).1.isOk
          (perform action host).2 := by
  intro action
  cases skipped : order.skips step with
  | true =>
      refine ⟨[], ?_⟩
      rw [perform_action_of_skips skipped]
      exact {
        setup := .refl host
        events := (List.append_nil _).symm
        idle := fun _ => rfl
        asks := fun _ => nofun
        relays := fun place _ => (Host.Kept.refl host).relays place
        success_iff := iff_of_true rfl fun wanted => nomatch wanted.symm.trans skipped
      }
  | false =>
      have kept := keepsSetup_action order (order.settings origin.environment) step host
      have unasked (event : Event) (member : event ∈ [])
          : order.Asks origin step event
            ∧ ∀ files, event ≠ .started (step.command order.root) files :=
        (List.not_mem_nil member).elim
      have same (place : Location) (_ : ¬ order.Touches origin step place)
          : host.Relays place host :=
        (Host.Kept.refl host).relays place
      cases step with
      | verifyingKey =>
          obtain ⟨content, delivered⟩ :=
            exists_delivered_syncKey skipped (order.settings origin.environment) host
          exact exists_stepped_of_delivered skipped setup.directory kept (.refl host)
            (List.append_nil _).symm unasked same delivered
      | controlId =>
          obtain ⟨content, delivered⟩ :=
            exists_delivered_writeControlId skipped (order.settings origin.environment) host
          exact exists_stepped_of_delivered skipped setup.directory kept (.refl host)
            (List.append_nil _).symm unasked same delivered
      | testReceipt => exact exists_stepped_testReceipt skipped setup apart

end BootstrapOrder

end VerifierBootstrap.CommandLine
