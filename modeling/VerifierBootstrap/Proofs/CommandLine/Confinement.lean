import VerifierBootstrap.Proofs.CommandLine.Guards
import VerifierBootstrap.Proofs.CommandLine.StepRuns
import VerifierBootstrap.Proofs.Json.OneLine

/-!
What the command that brings both verifiers up to date is confined to: the outputs of the steps that
it begins, and the footprint of their pipeline. The outputs of all other steps, and all places
besides, are left to the programs that were started. The status and the one line that is reported
tell whether every step that was not left out has completed.
-/

namespace VerifierBootstrap.CommandLine

open VerifierBootstrap.Action BootstrapOrder

-----------------------------------------------------------------------------------------
-- The report
-----------------------------------------------------------------------------------------

/-- A line reports success or failure: it is the text of a JSON object of which that is the first
field, and a single line, in ASCII.
-/
def Tells (success : Bool) (line : String) : Prop :=
  Json.IsVisible line.toList
  ∧ ∃ findings : Findings, line = (Json.ofFields (("success", .boolean success) :: findings)).text

theorem tells_text (success : Bool) (findings : Findings)
    : Tells success (Json.ofFields (("success", .boolean success) :: findings)).text := by
  refine ⟨?_, findings, rfl⟩
  rw [Json.text, String.toList_ofList]
  exact Json.isVisible_print _

/-- The fields behind the first come behind its value. -/
theorem exists_printFields_eq (key : Json.Points) (value : Json)
    (fields : List (Json.Points × Json))
    : ∃ behind,
        Json.printFields ((key, value) :: fields)
        = Json.printPoints key ++ ':' :: ' ' :: value.print ++ behind := by
  cases fields with
  | nil => exact ⟨[], by rw [Json.printFields, List.append_nil]⟩
  | cons field rest =>
      refine ⟨',' :: ' ' :: Json.printFields (field :: rest), ?_⟩
      rw [Json.printFields]
      simp

/-- A report begins with success or failure. -/
theorem exists_print_eq (success : Bool) (findings : Findings)
    : ∃ behind,
        (Json.ofFields (("success", .boolean success) :: findings)).print
        = '\x7b' :: Json.printPoints (.ofText "success".toList)
            ++ ':' :: ' ' :: (Json.boolean success).print ++ behind := by
  rw [Json.ofFields, List.map_cons, Json.print]
  obtain ⟨behind, printed⟩ := exists_printFields_eq _ (.boolean success) _
  refine ⟨behind ++ ['\x7d'], ?_⟩
  rw [printed]
  simp

/-- A line does not report both. -/
theorem Tells.unique {success other : Bool} {line : String} (tells : Tells success line)
    (again : Tells other line)
    : success = other := by
  obtain ⟨_, findings, rfl⟩ := tells
  obtain ⟨_, others, same⟩ := again
  have same := congrArg String.toList same
  rw [Json.text, Json.text, String.toList_ofList, String.toList_ofList] at same
  obtain ⟨behind, printed⟩ := exists_print_eq success findings
  obtain ⟨rest, reprinted⟩ := exists_print_eq other others
  rw [printed, reprinted, List.append_assoc, List.append_assoc] at same
  have value := List.append_cancel_left same
  cases success with
  | true =>
      cases other with
      | true => rfl
      | false => simp [Json.print] at value
  | false =>
      cases other with
      | true => simp [Json.print] at value
      | false => rfl

/-- The status and the line of an ending say the same. -/
theorem exists_report (outcome : Except Failure Findings)
    : ∃ line,
        (endingOf outcome).report = some line
        ∧ (Tells true line ∨ Tells false line)
        ∧ ((endingOf outcome).status = 0 ↔ Tells true line)
        ∧ (Tells true line ↔ outcome.isOk = true) := by
  cases outcome with
  | ok findings =>
      have tells : Tells true (successLine findings) := tells_text true findings
      exact ⟨_, rfl, .inl tells, iff_of_true rfl tells, iff_of_true tells rfl⟩
  | error failure =>
      have tells : Tells false (failureLine failure) := tells_text false _
      have untold : ¬ Tells true (failureLine failure) := fun told =>
        Bool.false_ne_true (tells.unique told)
      exact ⟨_, rfl, .inr tells, iff_of_false Nat.one_ne_zero untold,
        iff_of_false untold Bool.false_ne_true⟩

namespace BootstrapOrder

variable {order : BootstrapOrder} {host after : Host} {step other : Step}

-----------------------------------------------------------------------------------------
-- Outputs
-----------------------------------------------------------------------------------------

theorem plain_file (step : Step)
    : (Path.ofString step.file).anchor = .relative
      ∧ ".." ∉ (Path.ofString step.file).parts
      ∧ (Path.ofString step.file).parts.getLast? ≠ some "seal.r0"
      ∧ (Path.ofString step.file).parts.getLast? ≠ some "input.json"
      ∧ (Path.ofString step.file).parts ≠ []
      ∧ ∀ part ∈ (Path.ofString step.file).parts,
          ¬ Pipeline.temporaryLabel.toList <+: part.toList := by
  cases step with
  | verifyingKey => decide +kernel
  | controlId => decide +kernel
  | testReceipt => decide +kernel

theorem location_output (step : Step) (root : Path) (directory : Location)
    : (step.output root).location directory
      = root.location directory ++ (Path.ofString step.file).parts :=
  Path.location_child root directory (plain_file step).1 (plain_file step).2.1

theorem location_output_ne (differ : step ≠ other) (root : Path) (directory : Location)
    : (step.output root).location directory ≠ (other.output root).location directory := by
  have usual (step : Step) : step.file ∈ BootstrapSettings.usualFiles := by
    cases step with
    | verifyingKey => decide
    | controlId => decide
    | testReceipt => decide
  refine BootstrapSettings.location_usualFiles_ne root directory (usual step) (usual other) ?_
  revert differ
  cases step <;> cases other <;> decide

/-- A new directory for temporary files is above no output, unless it is above the root. -/
theorem not_temporaryLocation_prefix_output (step : Step) {root : Path}
    (apart : ¬ Pipeline.temporaryLocation host <+: root.location host.directory)
    : ¬ Pipeline.temporaryLocation host <+: (step.output root).location host.directory := by
  rw [location_output]
  intro above
  rcases List.prefix_or_prefix_of_prefix above (List.prefix_append _ _) with inside | ⟨rest, split⟩
  · exact apart inside
  rw [← split, List.prefix_append_right_inj] at above
  -- The last part of the temporary directory is then among the parts of the file
  rcases rest.eq_nil_or_concat with rfl | ⟨front, last, rfl⟩
  · rw [List.append_nil] at split
    exact apart (split ▸ List.prefix_rfl)
  · rw [List.concat_eq_append] at split above
    rw [← List.append_assoc, Pipeline.temporaryLocation] at split
    obtain ⟨-, named⟩ := List.append_inj' split rfl
    obtain rfl := List.singleton_inj.mp named
    refine (plain_file step).2.2.2.2.2 _ (above.subset (List.mem_append_right _ (.head _))) ?_
    rw [String.toList_append]
    exact List.prefix_append _ _

/-- No output is in the footprint of the pipeline. -/
theorem not_occupies_output (wanted : order.skipTestReceipt = false)
    (apart : order.WorksApart host) (step : Step)
    : ¬ (order.pipeline host.environment).Occupies host
        ((step.output order.root).location host.directory) := by
  simp only [Pipeline.Occupies, pipeline_workDirectory]
  cases chosen
      : order.workDirectory.or (BootstrapSettings.workDirectoryOf host.environment) with
  | none => exact not_temporaryLocation_prefix_output step (apart wanted chosen).2
  | some work =>
      obtain ⟨_, _, noSeal, noWitness, filled, _⟩ := plain_file step
      have last
          : ((step.output order.root).location host.directory).getLast?
            = (Path.ofString step.file).parts.getLast? := by
        rw [location_output, List.getLast?_append_of_ne_nil _ filled]
      have exchanged {name : String} (relative : (Path.ofString name).anchor = .relative)
          (single : (Path.ofString name).parts = [name]) (down : ".." ≠ name)
          : ((work.child name).location host.directory).getLast? = some name := by
        rw [Path.location_child work host.directory relative (by simpa [single] using down), single]
        simp
      rintro (same | same)
      · rw [same, exchanged (by decide +kernel) (by decide +kernel) (by decide)] at last
        exact noSeal last.symm
      · rw [same, exchanged (by decide +kernel) (by decide +kernel) (by decide)] at last
        exact noWitness last.symm

/-- A step does not touch the output of another. -/
theorem not_touches_output (wanted : order.skips other = false) (apart : order.WorksApart host)
    (differ : other ≠ step)
    : ¬ order.Touches host other ((step.output order.root).location host.directory) := by
  rintro (same | ⟨rfl, occupied⟩)
  · exact location_output_ne differ.symm order.root host.directory same
  · exact not_occupies_output wanted apart step occupied

-----------------------------------------------------------------------------------------
-- Orders
-----------------------------------------------------------------------------------------

theorem perform_carryOut_of_refused {failure : Failure} (refused : order.check = .error failure)
    (host : Host)
    : perform order.carryOut host = (.error failure, host) := by
  have checked : perform (Action.ofExcept order.check) host = (.error failure, host) := by
    rw [perform_ofExcept, refused]
  rw [carryOut, perform_bind_ok (perform_get host)]
  exact perform_bind_error checked _

/-- An order that passes the check is carried out step by step. -/
theorem perform_carryOut (passed : order.check = .ok ()) (host : Host)
    : let steps := order.runSteps (order.settings host.environment) Step.all
      perform order.carryOut host
      = ((perform steps host).1.map fun findings =>
            ("dev_mode", .boolean order.devMode) :: findings,
          (perform steps host).2) := by
  intro steps
  have checked : perform (Action.ofExcept order.check) host = (.ok (), host) := by
    rw [perform_ofExcept, passed]
  rw [← perform_bind_pure, carryOut, perform_bind_ok (perform_get host)]
  dsimp only
  rw [perform_bind_ok checked]
  simp only [steps, runSteps, Step.all, action, bind_assoc, pure_bind, List.append_nil,
    List.append_assoc]

/-- An order is refused only for a step that it does not leave out. -/
theorem exists_wanted_of_refused {failure : Failure} (refused : order.check = .error failure)
    : ∃ step, order.skips step = false := by
  by_contra none
  have skipped (step : Step) : order.skips step = true := by
    rw [← Bool.not_eq_false]
    exact fun wanted => none ⟨step, wanted⟩
  have controlId : order.skipControlId = true := skipped .controlId
  have testReceipt : order.skipTestReceipt = true := skipped .testReceipt
  rw [check, controlId, testReceipt] at refused
  cases mode : order.devMode with
  | true => simp [mode] at refused
  | false => simp [mode] at refused

/-- An order passes the check, and comes to begin a step. -/
def Begins (order : BootstrapOrder) (host : Host) (started : Step → List Event) (step : Step)
    : Prop :=
  order.check = .ok () ∧ order.Begun host Step.all started step

/-- An order was carried out on a host, and what was started is accounted for step by step. -/
structure Confined (order : BootstrapOrder) (host : Host) (started : Step → List Event)
    (after : Host) : Prop where
  events : after.events = host.events ++ Step.all.flatMap started
  asks : ∀ step, ∀ event ∈ started step, order.Asks host step event
  /-- A step that is not begun starts nothing, and its output is left to programs. -/
  unbegun
    : ∀ step,
        ¬ order.Begins host started step
        → started step = []
          ∧ host.Relays ((step.output order.root).location host.directory) after
  /-- What no step touches that was begun is left to programs. -/
  elsewhere
    : ∀ place,
        (∀ step, order.Begins host started step → ¬ order.Touches host step place)
        → host.Relays place after

theorem Confined.set_log {started : Step → List Event}
    (confined : order.Confined host started after) (log : List LogLine)
    : order.Confined host started { after with log := log } where
  events := confined.events
  asks := confined.asks
  unbegun step idle :=
    ⟨(confined.unbegun step idle).1,
      (confined.unbegun step idle).2.trans ((Host.Kept.of_log log).relays _)⟩
  elsewhere place free := (confined.elsewhere place free).trans ((Host.Kept.of_log log).relays _)

/-- An order is confined as long as nothing is done. -/
theorem Confined.none (order : BootstrapOrder) (host : Host)
    : order.Confined host (fun _ => []) host where
  events := by simp [Step.all]
  asks := fun _ _ => nofun
  unbegun := fun _ _ => ⟨rfl, (Host.Kept.refl host).relays _⟩
  elsewhere := fun _ _ => (Host.Kept.refl host).relays _

/-- An account of all steps confines the order. -/
theorem Accounted.confined {started : Step → List Event} {success : Bool}
    (accounted : Accounted order host Step.all host started success after)
    (passed : order.check = .ok ()) (apart : order.WorksApart host)
    : order.Confined host started after := by
  have begins {step : Step} (begun : order.Begun host Step.all started step)
      : order.Begins host started step :=
    ⟨passed, begun⟩
  refine ⟨accounted.events, fun step => accounted.asks step step.mem_all, ?_, ?_⟩
  · intro step idle
    refine ⟨accounted.unbegun step step.mem_all (mt begins idle), ?_⟩
    refine accounted.relays _ fun other _ begun => not_touches_output begun.1 apart ?_
    rintro rfl
    exact idle (begins begun)
  · exact fun place free => accounted.relays place fun step _ begun => free step (begins begun)

/-- Whatever comes of an order, it is confined, and it is a success just in case every step that it
does not leave out has completed.
-/
theorem exists_confined (apart : order.WorksApart host)
    : ∃ started,
        order.Confined host started (perform order.carryOut host).2
        ∧ ((perform order.carryOut host).1.isOk = true
          ↔ ∀ step, order.skips step = false → order.Completed host Step.all started step) := by
  cases checked : order.check with
  | error failure =>
      rw [perform_carryOut_of_refused checked]
      refine ⟨_, Confined.none order host, iff_of_false Bool.false_ne_true ?_⟩
      intro completed
      obtain ⟨step, wanted⟩ := exists_wanted_of_refused checked
      obtain ⟨asked, files, _, none, _⟩ := completed step wanted
      simp at none
  | ok _ =>
      obtain ⟨started, accounted⟩ :=
        exists_accounted apart (by decide : Step.all.Nodup) (.refl host)
      rw [perform_carryOut checked, isOk_map]
      refine ⟨started, accounted.confined checked apart, ?_⟩
      rw [accounted.success_iff]
      exact forall_congr' fun step => forall_prop_of_true step.mem_all

end BootstrapOrder

-----------------------------------------------------------------------------------------
-- The command
-----------------------------------------------------------------------------------------

/-- The command touches only the outputs of the steps that it begins, and the footprint of their
pipeline. A step is begun once those before it have completed or are left out; no other starts any
program, and its output is left to the programs of the steps that were begun, as is every place
that these do not touch. The status is zero just in case the one line of JSON reports success, which
it does just in case every step that is not left out has completed. Only if two hyphens stand in
place of the path of a root no order is made, and the command fails as it stands. Witness: each
step is accounted for on its own, and a run is put together from the accounts.
-/
theorem bootstrap_confined {arguments : List String} {given : List Given} {host after : Host}
    {ending : Exit} (reading : read choices arguments = .options given)
    (run : (bootstrap arguments).run host = (ending, after))
    : ∃ line,
        ending.report = some line
        ∧ (Tells true line ∨ Tells false line)
        ∧ (ending.status = 0 ↔ Tells true line)
        ∧ ((rootOf given = .error .noPath
              ∧ host.Untouched after
              ∧ ending = ⟨1, some (failureLine .noPath)⟩)
            ∨ ∃ order,
                ofGiven given = .ok order
                ∧ (order.WorksApart host
                  → ∃ started,
                      order.Confined host started after
                      ∧ (Tells true line
                        ↔ ∀ step,
                            order.skips step = false
                            → order.Completed host Step.all started step))) := by
  obtain ⟨log, rfl, rfl⟩ := exists_left_of_run reading run
  obtain ⟨line, report, tells, status_iff, success_iff⟩ :=
    exists_report (perform (actionOf given) host).1
  refine ⟨line, report, tells, status_iff, ?_⟩
  cases named : rootOf given with
  | error failure =>
      obtain ⟨rfl, unmade⟩ := ofGiven_of_unrooted named
      rw [perform_actionOf_error unmade]
      exact .inl ⟨rfl, ⟨rfl, rfl⟩, rfl⟩
  | ok root =>
      obtain ⟨order, made, _⟩ := exists_ofGiven named
      refine .inr ⟨order, made, fun apart => ?_⟩
      rw [perform_actionOf made] at success_iff ⊢
      obtain ⟨started, confined, completed_iff⟩ := exists_confined apart
      exact ⟨started, confined.set_log log, success_iff.trans completed_iff⟩

/-- The formatter of the library of the control root fails, so the step of the test receipt is not
begun, though it was asked for.
-/
theorem bootstrap_confined_failing
    : let host : Host := { Host.quiet ⟨[]⟩ with launch := fun _ _ files => .exited 1 files }
      let written := "00000000000000000000000000000000000000000000000000000000000000ff"
      let arguments := ["--dev-mode", "--skip-verifying-key", "--control-root", written]
      let testReceipt : Location := ["bonsai", "ethereum", "contracts", "test", "TestReceipt.sol"]
      ∃ given order started ending after,
        read choices arguments = .options given
        ∧ (bootstrap arguments).run host = (ending, after)
        ∧ ofGiven given = .ok order
        ∧ order.skips .testReceipt = false
        ∧ ending.status = 1
        ∧ order.Confined host started after
        ∧ started .testReceipt = []
        ∧ host.Relays testReceipt after := by
  intro host written arguments testReceipt
  let given : List Given :=
    [⟨devModeChoice, none⟩, ⟨skipVerifyingKeyChoice, none⟩,
      ⟨controlRootChoice, some written.toList⟩]
  let order : BootstrapOrder := ⟨.here, none, some written, true, true, false, false⟩
  have reading : read choices arguments = .options given := by decide +kernel
  have made : ofGiven given = .ok order := by decide +kernel
  have status : ((bootstrap arguments).run host).1.status = 1 := by decide +kernel
  cases run : (bootstrap arguments).run host with
  | mk ending after =>
      rw [run] at status
      obtain ⟨line, _, _, _, ⟨unnamed, _⟩ | ⟨other, again, accounted⟩⟩ :=
        bootstrap_confined reading run
      · exact nomatch unnamed
      obtain rfl := Except.ok.inj (made.symm.trans again)
      obtain ⟨started, confined, _⟩ := accounted fun _ _ => ⟨by decide, by decide⟩
      refine ⟨given, order, started, ending, after, reading, rfl, made, rfl, status, confined, ?_⟩
      refine confined.unbegun .testReceipt ?_
      rintro ⟨_, _, completed⟩
      obtain ⟨_, _, _, _, ended⟩ := completed .controlId (by decide) rfl
      have failed : (1 : Int) = 0 := (Launch.exited.inj ended).1
      exact absurd failed (by decide)

/-- All steps are left out, but two hyphens stand in place of the path of a root, so the command
fails though no step does.
-/
theorem bootstrap_fails_without_steps
    : let given : List Given :=
        [⟨rootChoice, none⟩, ⟨skipVerifyingKeyChoice, none⟩, ⟨skipControlIdChoice, none⟩,
          ⟨skipTestReceiptChoice, none⟩]
      let arguments :=
        ["--root=--", "--skip-verifying-key", "--skip-control-id", "--skip-test-receipt"]
      read choices arguments = .options given
      ∧ isGiven given skipVerifyingKeyChoice = true
      ∧ isGiven given skipControlIdChoice = true
      ∧ isGiven given skipTestReceiptChoice = true
      ∧ ((bootstrap arguments).run (Host.quiet ⟨[]⟩)).1
        = ⟨1,
            some
              ("\x7b\"success\": false, "
                ++ "\"error\": \"expected str, bytes or os.PathLike object, not list\", "
                ++ "\"error_type\": \"TypeError\"\x7d")⟩ := by
  decide +kernel

end VerifierBootstrap.CommandLine
