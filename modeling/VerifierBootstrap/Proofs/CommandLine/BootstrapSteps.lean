import VerifierBootstrap.CommandLine.Bootstrap
import VerifierBootstrap.Proofs.Solidity.ControlId
import VerifierBootstrap.Proofs.Source.VerifierRuns

/-!
The steps of the command that brings both verifiers up to date. The step of the verifying key and
that of the control root each write one file and have it formatted, or leave all files as they are.
-/

namespace VerifierBootstrap

open VerifierBootstrap.Action

namespace CommandLine

/-- How a command ends that has come to this. -/
def endingOf : Except Failure Findings → Exit
  | .ok findings => ⟨0, some (successLine findings)⟩
  | .error failure => ⟨1, some (failureLine failure)⟩

/-- A command ends as its action does, and leaves what the action left but for the log. -/
theorem exists_run_finish (action : Action Findings) (host : Host)
    : ∃ log,
        (finish action).run host
        = (endingOf (perform action host).1, { (perform action host).2 with log := log }) := by
  rw [finish, StateT.run_bind]
  cases run : perform action host with
  | mk result after =>
      have run : (ExceptT.run action).run host = (result, after) := run
      rw [run]
      cases result with
      | ok findings => exact ⟨after.log, rfl⟩
      | error failure => exact ⟨_, rfl⟩

namespace BootstrapOrder

variable {order : BootstrapOrder} {settings : BootstrapSettings} {host after : Host}

/-- What the step of the verifying key has done. -/
inductive KeyStep (order : BootstrapOrder) (settings : BootstrapSettings) (host : Host)
    : Host → Prop where
  | idle {log : List LogLine}
    (spared : order.skipVerifyingKey = true ∨ ¬ VerifyingKey.Writes settings host)
    : KeyStep order settings host { host with log := log }
  | formatted {contract text : Text} {files : FileTree} {after : Host}
    (asked : order.skipVerifyingKey = false) (unlocked : host.sourcesLocked = false)
    (found : VerifyingKey.Found settings host contract text)
    (declares : VerifyingKey.Declares contract)
    (formatted
      : host.Formatted .rust (settings.path settings.rustVerifier)
          (VerifyingKey.synchronize contract text).text files after)
    : KeyStep order settings host after

/-- What the step of the control root has done. -/
inductive ControlIdStep (order : BootstrapOrder) (settings : BootstrapSettings) (host after : Host)
    : Prop where
  | idle (kept : host.Kept after)
  | formatted {controlRoot : Digest} {files : FileTree} (asked : order.skipControlId = false)
    (chosen
      : ∀ written,
          settings.controlRoot = some written → Digest.parse written.toList = .ok controlRoot)
    (formatted
      : host.Formatted .solidity (settings.path settings.solidityControlId)
          (Solidity.controlIdLibrary controlRoot).render files after)

/-- Whether it succeeds or fails, the step of the verifying key is idle or has the host verifier
formatted.
-/
theorem ends_syncKey (order : BootstrapOrder) (settings : BootstrapSettings) (host : Host)
    : Ends (order.syncKey settings) host (fun _ after => KeyStep order settings host after)
        (fun _ after => KeyStep order settings host after) := by
  rw [syncKey]
  cases skipped : order.skipVerifyingKey with
  | true => exact .pure (.idle (.inl skipped))
  | false =>
      have step
          : KeyStep order settings host
              (perform (VerifyingKey.synchronizeFiles settings .rust) host).2 := by
        rcases (VerifyingKey.course_synchronizeFiles settings .rust host).idle_or_formatted with
          ⟨spared, log, same⟩ | ⟨contract, text, files, unlocked, found, declares, formatted⟩
        · rw [same]
          exact .idle (.inr spared)
        · exact .formatted skipped unlocked found declares formatted
      exact (Ends.of_left step).bind fun _ _ step => .pure step

/-- A given control root is chosen if it can be read. -/
theorem ends_chooseControlRoot (settings : BootstrapSettings) (host : Host)
    : Ends (chooseControlRoot settings) host
        (fun controlRoot after =>
          (∃ log, after = { host with log := log })
          ∧ ∀ written,
              settings.controlRoot = some written → Digest.parse written.toList = .ok controlRoot)
        (fun _ after => after = host) := by
  rw [chooseControlRoot]
  cases settings.controlRoot with
  | none => exact .bind_ok (Host.perform_note _ _ _) (.pure ⟨⟨_, rfl⟩, fun _ => nofun⟩)
  | some written =>
      refine (Ends.ofExcept _ host).mono ?_ fun _ _ => And.left
      rintro controlRoot _ ⟨rfl, read⟩
      refine ⟨⟨_, rfl⟩, ?_⟩
      intro other given
      obtain rfl := Option.some.inj given
      cases parsed : Digest.parse written.toList with
      | error fault => exact nomatch parsed ▸ read
      | ok digest =>
          rw [parsed] at read
          exact congrArg _ (Except.ok.inj read)

/-- The step of the control root fails before anything is done, or it delivers the library of the
root that it chose.
-/
theorem delivered_writeControlId (wanted : order.skipControlId = false)
    (settings : BootstrapSettings) (host : Host)
    : (∃ failure, perform (order.writeControlId settings) host = (.error failure, host))
      ∨ ∃ controlRoot : Digest,
          (∀ written,
            settings.controlRoot = some written → Digest.parse written.toList = .ok controlRoot)
          ∧ Delivered .solidity (settings.path settings.solidityControlId)
              (Solidity.controlIdLibrary controlRoot).render host
              (perform (order.writeControlId settings) host).1
              (perform (order.writeControlId settings) host).2 := by
  rw [writeControlId, if_neg (by simp [wanted])]
  cases choosing : perform (chooseControlRoot settings) host with
  | mk outcome chosen =>
      cases outcome with
      | error failure =>
          obtain rfl := (ends_chooseControlRoot settings host).error choosing
          exact .inl ⟨failure, perform_bind_error choosing _⟩
      | ok controlRoot =>
          obtain ⟨⟨log, rfl⟩, read⟩ := (ends_chooseControlRoot settings host).ok choosing
          rw [perform_bind_ok choosing]
          have emitted :=
            Solidity.delivered_bootstrapControlId settings controlRoot .solidity
              { host with log := log }
          have discarded := delivered_bind_pure (fun _ => ()) emitted
          exact .inr ⟨controlRoot, read, (delivered_bind_pure _ discarded).of_log⟩

/-- Whether it succeeds or fails, the step of the control root keeps all files or has its library
formatted.
-/
theorem ends_writeControlId (order : BootstrapOrder) (settings : BootstrapSettings) (host : Host)
    : Ends (order.writeControlId settings) host
        (fun _ after => ControlIdStep order settings host after)
        (fun _ after => ControlIdStep order settings host after) := by
  refine .of_left ?_
  cases wanted : order.skipControlId with
  | true =>
      rw [writeControlId, if_pos wanted]
      exact .idle (.refl host)
  | false =>
      rcases delivered_writeControlId wanted settings host with
        ⟨failure, run⟩ | ⟨controlRoot, chosen, delivered⟩
      · rw [run]
        exact .idle (.refl host)
      · rcases delivered.kept_or_formatted with kept | ⟨files, formatted⟩
        · exact .idle kept
        · exact .formatted wanted chosen formatted

/-- A given control root that cannot be read ends the step before anything is done. -/
theorem perform_writeControlId_of_rejected {written : String} {fault : Digest.Fault}
    (asked : order.skipControlId = false) (chosen : settings.controlRoot = some written)
    (rejected : Digest.parse written.toList = .error fault) (host : Host)
    : perform (order.writeControlId settings) host = (.error (.digest fault), host) := by
  have choice : perform (chooseControlRoot settings) host = (.error (.digest fault), host) := by
    rw [chooseControlRoot, chosen]
    dsimp only
    rw [perform_ofExcept, rejected]
    rfl
  rw [writeControlId, if_neg (by simp [asked])]
  exact perform_bind_error choice _

-----------------------------------------------------------------------------------------
-- Orders
-----------------------------------------------------------------------------------------

/-- An order without development mode that would need the development engine. -/
def NeedsDevMode (order : BootstrapOrder) : Prop :=
  order.skipControlId = false ∧ order.controlRoot = none ∨ order.skipTestReceipt = false

/-- Without development mode an order passes the check if it does not need it. -/
theorem check_of_plain (plain : order.devMode = false)
    : (order.NeedsDevMode ∧ ∃ fault, order.check = .error (.config fault))
      ∨ (¬ order.NeedsDevMode ∧ order.check = .ok ()) := by
  rw [check, plain, NeedsDevMode]
  cases order.skipControlId with
  | true =>
      cases order.skipTestReceipt with
      | true => simp
      | false => simp
  | false =>
      cases order.controlRoot with
      | none => simp
      | some written =>
          cases order.skipTestReceipt with
          | true => simp
          | false => simp

/-- Both steps of an order that leaves out the test receipt, one after the other. -/
def Steps (order : BootstrapOrder) (settings : BootstrapSettings) (host after : Host) : Prop :=
  ∃ middle, KeyStep order settings host middle ∧ ControlIdStep order settings middle after

theorem KeyStep.steps (step : KeyStep order settings host after)
    : Steps order settings host after :=
  ⟨after, step, .idle (.refl after)⟩

/-- A place that is not the host verifier's is left to the formatter. -/
theorem KeyStep.relays (step : KeyStep order settings host after) {place : Location}
    (other : place ≠ (settings.path settings.rustVerifier).location host.directory)
    : Host.Relays place host after := by
  cases step with
  | @idle log _ => exact (Host.Kept.of_log log).relays place
  | formatted _ _ _ _ formatted => exact formatted.relays other

/-- A place that is not the library's is left to the formatter. -/
theorem ControlIdStep.relays (step : ControlIdStep order settings host after) {place : Location}
    (other : place ≠ (settings.path settings.solidityControlId).location host.directory)
    : Host.Relays place host after := by
  cases step with
  | idle kept => exact kept.relays place
  | formatted _ _ formatted => exact formatted.relays other

theorem KeyStep.set_log (step : KeyStep order settings host after) (log : List LogLine)
    : KeyStep order settings host { after with log := log } := by
  cases step with
  | idle spared => exact .idle spared
  | formatted asked unlocked found declares formatted =>
      exact .formatted asked unlocked found declares (formatted.set_log log)

/-- Either the host verifier is formatted or all is as it was. -/
theorem KeyStep.untouched_iff (step : KeyStep order settings host after)
    : host.Untouched after
      ↔ ¬ (order.skipVerifyingKey = false ∧ VerifyingKey.Writes settings host) := by
  cases step with
  | idle spared =>
      refine iff_of_true ⟨rfl, rfl⟩ ?_
      rintro ⟨wanted, writes⟩
      rcases spared with skipped | spared
      · exact nomatch skipped.symm.trans wanted
      · exact spared writes
  | formatted wanted unlocked found declares formatted =>
      exact iff_of_false formatted.not_untouched
        (not_not_intro ⟨wanted, unlocked, _, _, found, declares⟩)

theorem KeyStep.exists_formatted (step : KeyStep order settings host after)
    (touched : ¬ host.Untouched after)
    : ∃ contract text files,
        VerifyingKey.Found settings host contract text
        ∧ host.Formatted .rust (settings.path settings.rustVerifier)
            (VerifyingKey.synchronize contract text).text files after := by
  cases step with
  | idle => exact (touched ⟨rfl, rfl⟩).elim
  | formatted _ _ found _ formatted => exact ⟨_, _, _, found, formatted⟩

theorem KeyStep.exists_asked (step : KeyStep order settings host after)
    : ∃ asked,
        after.events = host.events ++ asked
        ∧ ∀ event ∈ asked,
            ∃ files,
              event = .started ["rustfmt", (settings.path settings.rustVerifier).text] files := by
  cases step with
  | idle => exact ⟨[], by simp, by simp⟩
  | @formatted _ _ files _ _ _ _ _ formatted =>
      exact ⟨_, formatted.events, fun event member => ⟨files, List.mem_singleton.mp member⟩⟩

/-- A place of no file that is written is left to the formatters. -/
theorem Steps.relays (steps : Steps order settings host after) {place : Location}
    (noVerifier : place ≠ (settings.path settings.rustVerifier).location host.directory)
    (noLibrary : place ≠ (settings.path settings.solidityControlId).location host.directory)
    : Host.Relays place host after := by
  obtain ⟨middle, key, controlId⟩ := steps
  have first := key.relays noVerifier
  rw [← first.directory] at noLibrary
  exact first.trans (controlId.relays noLibrary)

/-- The formatter of contracts is started on the library of the control root that was chosen. -/
def FormatsLibrary (order : BootstrapOrder) (settings : BootstrapSettings) (host : Host)
    (event : Event)
    : Prop :=
  ∃ controlRoot files,
    event = .started ["forge", "fmt", (settings.path settings.solidityControlId).text] files
    ∧ order.skipControlId = false
    ∧ (∀ written,
        settings.controlRoot = some written → Digest.parse written.toList = .ok controlRoot)
    ∧ files.read host.directory (settings.path settings.solidityControlId)
      = .ok (Utf8.encode (Solidity.controlIdLibrary controlRoot).render)

/-- The two formatters are all that is asked for, and unless that of contracts is, the place of the
library is left to the other one.
-/
theorem Steps.exists_asked (steps : Steps order settings host after)
    (apart
      : (settings.path settings.solidityControlId).location host.directory
        ≠ (settings.path settings.rustVerifier).location host.directory)
    : ∃ asked,
        after.events = host.events ++ asked
        ∧ (∀ event ∈ asked,
            (∃ files,
              event = .started ["rustfmt", (settings.path settings.rustVerifier).text] files)
            ∨ order.FormatsLibrary settings host event)
        ∧ ((∀ event ∈ asked, ¬ order.FormatsLibrary settings host event)
            → Host.Relays ((settings.path settings.solidityControlId).location host.directory) host
                after) := by
  obtain ⟨middle, key, controlId⟩ := steps
  obtain ⟨asked, events, rustOnly⟩ := key.exists_asked
  have first := key.relays apart
  cases controlId with
  | idle kept =>
      refine ⟨asked, kept.events.trans events, fun event member => .inl (rustOnly event member), ?_⟩
      exact fun _ => first.trans (kept.relays _)
  | @formatted controlRoot files wanted chosen formatted =>
      have held := formatted.held
      rw [first.directory] at held
      let command := ["forge", "fmt", (settings.path settings.solidityControlId).text]
      have library : order.FormatsLibrary settings host (.started command files) :=
        ⟨controlRoot, files, rfl, wanted, chosen, held⟩
      refine ⟨asked ++ [.started command files], ?_, ?_, fun none => (none _ ?_ library).elim⟩
      · rw [formatted.events, events, List.append_assoc]
        rfl
      · intro event member
        rcases List.mem_append.mp member with early | last
        · exact .inl (rustOnly event early)
        · exact .inr (List.mem_singleton.mp last ▸ library)
      · exact List.mem_append_right _ (.head _)

/-- What comes of an order without development mode: it is refused as it stands, or its first two
steps are all that is done.
-/
def PlainOutcome (order : BootstrapOrder) (host : Host) (result : Except Failure Findings)
    (left : Host)
    : Prop :=
  (order.NeedsDevMode ∧ left = host ∧ ∃ fault, result = .error (.config fault))
  ∨ (¬ order.NeedsDevMode ∧ Steps order (order.settings host.environment) host left)

theorem plainOutcome_carryOut (plain : order.devMode = false) (host : Host)
    : PlainOutcome order host (perform order.carryOut host).1 (perform order.carryOut host).2 := by
  refine Ends.outcome ?_
  refine .bind_ok (perform_get host) ?_
  refine (Ends.ofExcept order.check host).andThen ?_ ?_
  · rintro failure _ ⟨rfl, refused⟩
    rcases check_of_plain plain with ⟨needs, fault, check⟩ | ⟨_, check⟩
    · exact .inl ⟨needs, rfl, fault, congrArg _ (Except.error.inj (refused.symm.trans check))⟩
    · exact nomatch check.symm.trans refused
  rintro _ _ ⟨rfl, passed⟩
  obtain ⟨enough, -⟩ : ¬ order.NeedsDevMode ∧ order.check = .ok () := by
    rcases check_of_plain plain with ⟨_, _, check⟩ | passes
    · exact nomatch check.symm.trans passed
    · exact passes
  have skipped : order.skipTestReceipt = true := by
    rw [← Bool.not_eq_false]
    exact fun wanted => enough (.inr wanted)
  refine (ends_syncKey order _ _).andThen (fun _ _ step => .inr ⟨enough, step.steps⟩) ?_
  intro key middle keyStep
  refine (ends_writeControlId order _ middle).andThen
    (fun _ _ step => .inr ⟨enough, middle, keyStep, step⟩) ?_
  intro controlId after step
  rw [writeTestReceipt, if_pos skipped]
  exact .pure (.inr ⟨enough, middle, keyStep, step⟩)

/-- An order for a control root that cannot be read fails after the step of the verifying key, if it
gets there.
-/
theorem ends_carryOut_of_rejected {written : String} {fault : Digest.Fault}
    (asked : order.skipControlId = false) (chosen : order.controlRoot = some written)
    (rejected : Digest.parse written.toList = .error fault) (host : Host)
    : Ends order.carryOut host (fun _ _ => False)
        (fun _ after =>
          (order.check ≠ .ok () ∧ after = host)
          ∨ (order.check = .ok ()
            ∧ KeyStep order (order.settings host.environment) host after)) := by
  refine .bind_ok (perform_get host) ?_
  refine (Ends.ofExcept order.check host).andThen ?_ ?_
  · rintro failure _ ⟨rfl, refused⟩
    exact .inl ⟨by simp [refused], rfl⟩
  rintro _ host ⟨rfl, passed⟩
  refine (ends_syncKey order _ _).andThen (fun _ _ step => .inr ⟨passed, step⟩) ?_
  intro key middle step
  have root : (order.settings host.environment).controlRoot = some written := chosen
  refine (Ends.of_run (order.writeControlId _) middle).andThen ?_ ?_
  · intro failure after run
    rw [perform_writeControlId_of_rejected asked root rejected] at run
    obtain ⟨-, rfl⟩ := Prod.mk.inj run
    exact .inr ⟨passed, step⟩
  · intro controlId after run
    rw [perform_writeControlId_of_rejected asked root rejected] at run
    exact nomatch run

end BootstrapOrder

end CommandLine

end VerifierBootstrap
