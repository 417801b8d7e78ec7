import VerifierBootstrap.Proofs.CommandLine.BootstrapSteps

/-!
What the command that brings both verifiers up to date is kept from. Without development mode it
writes nothing of the development engine. A control root that cannot be read ends it, but only
after the host verifier may have been written.
-/

namespace VerifierBootstrap.CommandLine

open VerifierBootstrap.Action BootstrapOrder

variable {arguments : List String} {given : List Given} {host after : Host} {ending : Exit}

/-- The action of given options. -/
def actionOf (given : List Given) : Action Findings := do
  (← Action.ofExcept (ofGiven given)).carryOut

/-- The command ends as the action of its options does. -/
theorem exists_left_of_run (reading : read choices arguments = .options given)
    (run : (bootstrap arguments).run host = (ending, after))
    : ∃ log,
        ending = endingOf (perform (actionOf given) host).1
        ∧ after = { (perform (actionOf given) host).2 with log := log } := by
  obtain ⟨log, finished⟩ := exists_run_finish (actionOf given) host
  have served : bootstrap arguments = finish (actionOf given) := by
    rw [bootstrap, serve, reading]
    rfl
  rw [served, finished] at run
  obtain ⟨rfl, rfl⟩ := Prod.mk.inj run
  exact ⟨log, rfl, rfl⟩

/-- The order of given options that name a root. -/
theorem exists_ofGiven {root : Path} (named : rootOf given = .ok root)
    : ∃ order,
        ofGiven given = .ok order
        ∧ order.root = root
        ∧ order.controlRoot = filledValue? given controlRootChoice
        ∧ order.devMode = isGiven given devModeChoice
        ∧ order.skipVerifyingKey = isGiven given skipVerifyingKeyChoice
        ∧ order.skipControlId = isGiven given skipControlIdChoice
        ∧ order.skipTestReceipt = isGiven given skipTestReceiptChoice := by
  rw [ofGiven, named]
  exact ⟨_, rfl, rfl, rfl, rfl, rfl, rfl, rfl⟩

theorem perform_actionOf {order : BootstrapOrder} (made : ofGiven given = .ok order) (host : Host)
    : perform (actionOf given) host = perform order.carryOut host := by
  have read : perform (Action.ofExcept (ofGiven given)) host = (.ok order, host) := by
    rw [perform_ofExcept, made]
  exact perform_bind_ok read _

theorem perform_actionOf_error {failure : Failure} (unmade : ofGiven given = .error failure)
    (host : Host)
    : perform (actionOf given) host = (.error failure, host) := by
  have read : perform (Action.ofExcept (ofGiven given)) host = (.error failure, host) := by
    rw [perform_ofExcept, unmade]
  exact perform_bind_error read _

/-- A root that is given without a path is all that keeps options from being an order. -/
theorem ofGiven_of_unrooted {failure : Failure} (unnamed : rootOf given = .error failure)
    : failure = .noPath ∧ ofGiven given = .error .noPath := by
  have only : failure = .noPath := by
    rw [rootOf] at unnamed
    split at unnamed
    · exact nomatch unnamed
    · exact (Except.error.inj unnamed).symm
    · exact nomatch unnamed
  subst only
  rw [ofGiven, unnamed]
  exact ⟨rfl, rfl⟩

/-- A value that counts is not empty. -/
theorem ne_empty_of_filledValue? {choice : Choice} {written : String}
    (filled : filledValue? given choice = some written)
    : written ≠ "" := by
  rw [filledValue?] at filled
  split at filled
  · exact nomatch filled
  · exact nomatch filled
  · rename_i value nonempty _
    obtain rfl := Option.some.inj filled
    intro empty
    have none : value = [] := by simpa using congrArg String.toList empty
    exact nonempty none

-----------------------------------------------------------------------------------------
-- Development mode
-----------------------------------------------------------------------------------------

/-- The formatter of contracts is started on a library of the two halves of the control root that was
given.
-/
def GivenLibraryFormatted (given : List Given) (path : Path) (host : Host) (event : Event)
    : Prop :=
  ∃ written controlRoot text files,
    event = .started ["forge", "fmt", path.text] files
    ∧ filledValue? given controlRootChoice = some written
    ∧ written ≠ ""
    ∧ Digest.parse written.toList = .ok controlRoot
    ∧ files.read host.directory path = .ok (Utf8.encode text)
    ∧ Solidity.IsControlId controlRoot.split text

/-- Nothing of the development engine was written below a root. -/
structure Guarded (given : List Given) (root : Path) (host after : Host) : Prop where
  /-- The contract of a test receipt is left to the formatters. -/
  testReceipt
    : Host.Relays
        ((root.child "bonsai/ethereum/contracts/test/TestReceipt.sol").location host.directory)
        host after
  /-- The formatters are all that was started, that of contracts on the library of the control root
  that was given; and unless it was, the place of the library is left to the other one.
  -/
  started
    : let controlId := root.child "bonsai/ethereum/contracts/groth16/ControlID.sol"
      ∃ asked,
        after.events = host.events ++ asked
        ∧ (∀ event ∈ asked,
            (∃ files,
              event = .started ["rustfmt", (root.child "risc0/zkvm/src/host/groth16.rs").text] files)
            ∨ GivenLibraryFormatted given controlId host event)
        ∧ ((∀ event ∈ asked, ¬ GivenLibraryFormatted given controlId host event)
            → Host.Relays (controlId.location host.directory) host after)

theorem Guarded.of_kept {root : Path} (kept : host.Kept after) : Guarded given root host after :=
  ⟨kept.relays _, [], by simp [kept.events], by simp, fun _ => kept.relays _⟩

/-- A library of a control root that an order chose is one of the control root that was given. -/
theorem givenLibraryFormatted_of_order {order : BootstrapOrder} {event : Event}
    (chosen : order.controlRoot = filledValue? given controlRootChoice)
    (enough : ¬ order.NeedsDevMode)
    (library : order.FormatsLibrary (order.settings host.environment) host event)
    : GivenLibraryFormatted given
        (order.root.child "bonsai/ethereum/contracts/groth16/ControlID.sol") host event := by
  obtain ⟨controlRoot, files, rfl, asked, parsed, held⟩ := library
  obtain ⟨written, filled⟩ : ∃ written, order.controlRoot = some written := by
    rw [← Option.ne_none_iff_exists']
    exact fun none => enough (.inl ⟨asked, none⟩)
  have named := chosen.symm.trans filled
  exact ⟨written, controlRoot, _, files, rfl, named, ne_empty_of_filledValue? named,
    parsed written filled, held, Solidity.isControlId_render controlRoot⟩

theorem Guarded.of_steps {order : BootstrapOrder}
    (chosen : order.controlRoot = filledValue? given controlRootChoice)
    (enough : ¬ order.NeedsDevMode)
    (steps : Steps order (order.settings host.environment) host after)
    : Guarded given order.root host after := by
  let place (written : String) : Location := (order.root.child written).location host.directory
  have apart
      : place "bonsai/ethereum/contracts/groth16/ControlID.sol"
          ≠ place "risc0/zkvm/src/host/groth16.rs"
        ∧ place "bonsai/ethereum/contracts/test/TestReceipt.sol"
          ≠ place "risc0/zkvm/src/host/groth16.rs"
        ∧ place "bonsai/ethereum/contracts/test/TestReceipt.sol"
          ≠ place "bonsai/ethereum/contracts/groth16/ControlID.sol" := by
    have differ {written other : String} :=
      @BootstrapSettings.location_usualFiles_ne order.root host.directory written other
    exact ⟨differ (by decide) (by decide) (by decide), differ (by decide) (by decide) (by decide),
      differ (by decide) (by decide) (by decide)⟩
  obtain ⟨asked, events, formatters, spared⟩ := steps.exists_asked apart.1
  refine ⟨steps.relays apart.2.1 apart.2.2, asked, events, ?_, ?_⟩
  · exact fun event member =>
      (formatters event member).imp_right (givenLibraryFormatted_of_order chosen enough)
  · exact fun none => spared fun event member library =>
      none event member (givenLibraryFormatted_of_order chosen enough library)

theorem Guarded.of_log {root : Path} {log : List LogLine} (guarded : Guarded given root host after)
    : Guarded given root host { after with log := log } := by
  obtain ⟨asked, events, formatters, spared⟩ := guarded.started
  have kept : after.Kept { after with log := log } := .of_log log
  exact ⟨guarded.testReceipt.trans (kept.relays _), asked, events, formatters,
    fun none => (spared none).trans (kept.relays _)⟩

/-- Without development mode nothing of the development engine is written. The contract of a test
receipt is left to the formatters, which are all that is started; that of contracts is started only
on the library of the control root that was given, and without that the library is left alone too.
Options that would need the development engine are refused as they stand. Witness: the check lets
the first two steps through at most, and the second only with a control root.
-/
theorem development_guarded (reading : read choices arguments = .options given)
    (plain : isGiven given devModeChoice = false)
    (run : (bootstrap arguments).run host = (ending, after))
    : (∀ root,
          rootOf given = .ok root
          → Guarded given root host after
            ∧ ((isGiven given skipControlIdChoice = false
                  ∧ filledValue? given controlRootChoice = none
                ∨ isGiven given skipTestReceiptChoice = false)
                → host.Untouched after
                  ∧ ∃ failure,
                      ending = ⟨1, some (failureLine failure)⟩ ∧ failure.kind = "ConfigError"))
      ∧ ∀ failure,
          rootOf given = .error failure
          → host.Untouched after
            ∧ ending = ⟨1, some (failureLine failure)⟩
            ∧ failure.kind = "TypeError" := by
  obtain ⟨log, rfl, rfl⟩ := exists_left_of_run reading run
  constructor
  · intro root named
    obtain ⟨order, made, rfl, chosen, mode, -, skipsId, skipsReceipt⟩ := exists_ofGiven named
    rw [perform_actionOf made, ← chosen, ← skipsId, ← skipsReceipt]
    rcases plainOutcome_carryOut (mode.trans plain) host with
      ⟨_, left, fault, refused⟩ | ⟨enough, steps⟩
    · rw [left, refused]
      exact ⟨.of_kept (.of_log log), fun _ => ⟨⟨rfl, rfl⟩, .config fault, rfl, rfl⟩⟩
    · exact ⟨(Guarded.of_steps chosen enough steps).of_log, fun needs => (enough needs).elim⟩
  · intro failure unnamed
    obtain ⟨rfl, unmade⟩ := ofGiven_of_unrooted unnamed
    rw [perform_actionOf_error unmade]
    exact ⟨⟨rfl, rfl⟩, rfl, rfl⟩

/-- The command of an event, if that is a program that was started. -/
def commandOf : Event → List String
  | .started command _ => command
  | _ => []

/-- A control root is given, so its library is written and formatted; without one, and without
development mode, the command is refused.
-/
theorem development_guarded_library
    : let host := Host.quiet ⟨[]⟩
      let written := "00000000000000000000000000000000000000000000000000000000000000ff"
      let arguments := ["--skip-verifying-key", "--skip-test-receipt", "--control-root", written]
      let path : Path :=
        ⟨.relative, ["bonsai", "ethereum", "contracts", "groth16", "ControlID.sol"]⟩
      (∃ given event,
          read choices arguments = .options given
          ∧ ((bootstrap arguments).run host).2.events = [event]
          ∧ GivenLibraryFormatted given path host event)
        ∧ ∃ failure,
            ((bootstrap ["--skip-verifying-key", "--skip-test-receipt"]).run host).1
              = ⟨1, some (failureLine failure)⟩
            ∧ failure.kind = "ConfigError" := by
  intro host written arguments path
  constructor
  · let given : List Given :=
      [⟨skipVerifyingKeyChoice, none⟩, ⟨skipTestReceiptChoice, none⟩,
        ⟨controlRootChoice, some written.toList⟩]
    have reading : read choices arguments = .options given := by decide +kernel
    have commands
        : ((bootstrap arguments).run host).2.events.map commandOf
          = [["forge", "fmt", path.text]] := by
      decide +kernel
    cases run : (bootstrap arguments).run host with
    | mk ending after =>
        rw [run] at commands
        obtain ⟨guarded, _⟩ := (development_guarded reading (by decide) run).1 .here (by rfl)
        obtain ⟨asked, events, formatters, _⟩ := guarded.started
        obtain rfl : after.events = asked := events
        obtain ⟨event, single, command⟩ := List.map_eq_singleton_iff.mp commands
        have single : after.events = [event] := single
        have member : event ∈ after.events := single ▸ .head _
        refine ⟨given, event, reading, single, ?_⟩
        rcases formatters event member with ⟨_, rfl⟩ | library
        · have lengths : 2 = 3 := congrArg List.length command
          exact absurd lengths (by decide)
        · exact library
  · have reading
        : read choices ["--skip-verifying-key", "--skip-test-receipt"]
          = .options [⟨skipVerifyingKeyChoice, none⟩, ⟨skipTestReceiptChoice, none⟩] := by
      decide +kernel
    cases run : (bootstrap ["--skip-verifying-key", "--skip-test-receipt"]).run host with
    | mk ending after =>
        obtain ⟨_, refused⟩ := (development_guarded reading (by decide) run).1 .here (by rfl)
        exact (refused (.inl ⟨by decide, by rfl⟩)).2

/-- What is beyond the guards. Where two hyphens stand in place of the path of a root no order is made
of the options, so the command fails before the check that would have refused it; and a formatter may
write whatever it likes, the contract of a test receipt included.
-/
theorem bootstrap_beyond_guards
    : let given : List Given := [⟨rootChoice, none⟩]
      let host := Host.quiet ⟨[]⟩
      let testReceipt : Location := ["bonsai", "ethereum", "contracts", "test", "TestReceipt.sol"]
      let meddling : Host :=
        { host with
            launch := fun _ _ files => .exited 0 ⟨(testReceipt, .file [0]) :: files.entries⟩ }
      let written := "00000000000000000000000000000000000000000000000000000000000000ff"
      let arguments := ["--skip-verifying-key", "--skip-test-receipt", "--control-root", written]
      (read choices ["--root=--"] = .options given
        ∧ isGiven given devModeChoice = false
        ∧ isGiven given skipControlIdChoice = false
        ∧ filledValue? given controlRootChoice = none
        ∧ ((bootstrap ["--root=--"]).run host).1
          = ⟨1,
              some
                ("\x7b\"success\": false, "
                  ++ "\"error\": \"expected str, bytes or os.PathLike object, not list\", "
                  ++ "\"error_type\": \"TypeError\"\x7d")⟩)
      ∧ meddling.files.content? testReceipt = none
      ∧ ((bootstrap arguments).run meddling).2.files.content? testReceipt = some [0] := by
  decide +kernel

-----------------------------------------------------------------------------------------
-- Control roots that cannot be read
-----------------------------------------------------------------------------------------

/-- The options are an order that passes the check, and its step of the verifying key comes to write
the host verifier.
-/
def Overwrites (given : List Given) (host : Host) : Prop :=
  ∃ order,
    ofGiven given = .ok order
    ∧ order.check = .ok ()
    ∧ order.skipVerifyingKey = false
    ∧ VerifyingKey.Writes (order.settings host.environment) host

theorem overwrites_iff_of_order {order : BootstrapOrder} (host : Host)
    (made : ofGiven given = .ok order)
    : Overwrites given host
      ↔ order.check = .ok ()
        ∧ order.skipVerifyingKey = false
        ∧ VerifyingKey.Writes (order.settings host.environment) host := by
  constructor
  · rintro ⟨other, again, passes⟩
    obtain rfl := Except.ok.inj (made.symm.trans again)
    exact passes
  · exact fun passes => ⟨order, made, passes⟩

/-- A control root that cannot be read ends the command with a failure, but not always as it stands.
Just in case the step of the verifying key comes to write the host verifier it has the synchronized
text and its formatter was started. Witness: the control root is read when its own step comes, which
is behind that of the verifying key.
-/
theorem untouched_iff_of_rejected {written : String} {fault : Digest.Fault}
    (reading : read choices arguments = .options given)
    (asked : isGiven given skipControlIdChoice = false)
    (chosen : filledValue? given controlRootChoice = some written)
    (rejected : Digest.parse written.toList = .error fault)
    (run : (bootstrap arguments).run host = (ending, after))
    : (∃ failure, ending = ⟨1, some (failureLine failure)⟩)
      ∧ (host.Untouched after ↔ ¬ Overwrites given host)
      ∧ (Overwrites given host
          → ∃ order contract text files,
              let settings := order.settings host.environment
              ofGiven given = .ok order
              ∧ VerifyingKey.Found settings host contract text
              ∧ host.Formatted .rust (settings.path settings.rustVerifier)
                  (VerifyingKey.synchronize contract text).text files after) := by
  obtain ⟨log, rfl, rfl⟩ := exists_left_of_run reading run
  cases named : rootOf given with
  | error failure =>
      obtain ⟨rfl, unmade⟩ := ofGiven_of_unrooted named
      have spared : ¬ Overwrites given host := by
        rintro ⟨order, made, _⟩
        exact nomatch unmade.symm.trans made
      rw [perform_actionOf_error unmade]
      exact ⟨⟨_, rfl⟩, iff_of_true ⟨rfl, rfl⟩ spared, fun overwrites => (spared overwrites).elim⟩
  | ok root =>
      obtain ⟨order, made, rfl, root, -, -, skipsId, -⟩ := exists_ofGiven named
      have ends :=
        ends_carryOut_of_rejected (skipsId.trans asked) (root.trans chosen) rejected host
      rw [perform_actionOf made]
      cases carried : perform order.carryOut host with
      | mk outcome left =>
          cases outcome with
          | ok findings => exact (ends.ok carried).elim
          | error failure =>
              refine ⟨⟨failure, rfl⟩, ?_⟩
              have overwrites_iff := overwrites_iff_of_order host made
              rcases ends.error carried with ⟨refused, rfl⟩ | ⟨passed, step⟩
              · have spared : ¬ Overwrites given left := fun overwrites =>
                  refused (overwrites_iff.mp overwrites).1
                exact ⟨iff_of_true ⟨rfl, rfl⟩ spared, fun overwrites => (spared overwrites).elim⟩
              · have step := step.set_log log
                have same : host.Untouched { left with log := log } ↔ ¬ Overwrites given host := by
                  rw [step.untouched_iff, overwrites_iff, and_iff_right passed]
                refine ⟨same, fun overwrites => ?_⟩
                obtain ⟨contract, text, files, found, formatted⟩ :=
                  step.exists_formatted fun untouched => same.mp untouched overwrites
                exact ⟨order, contract, text, files, made, found, formatted⟩

/-- The control root is no numeral, but the host verifier is synchronized before that is found. -/
theorem untouched_iff_of_rejected_overwritten
    : let contractPath : Path :=
        ⟨.relative, ["bonsai", "ethereum", "contracts", "groth16", "Groth16Verifier.sol"]⟩
      let path : Path := ⟨.relative, ["risc0", "zkvm", "src", "host", "groth16.rs"]⟩
      let directories : List (Location × Node) :=
        [(["bonsai"], .directory), (["bonsai", "ethereum"], .directory),
          (["bonsai", "ethereum", "contracts"], .directory),
          (["bonsai", "ethereum", "contracts", "groth16"], .directory), (["risc0"], .directory),
          (["risc0", "zkvm"], .directory), (["risc0", "zkvm", "src"], .directory),
          (["risc0", "zkvm", "src", "host"], .directory)]
      let host :=
        Host.quiet
          ⟨(contractPath.parts, .file (Bytes.ofLabel "uint256 constant alphax = 20;\n"))
            :: (path.parts, .file (Bytes.ofLabel "const ALPHA_X: &str = \"1\";\n"))
            :: directories⟩
      let arguments := ["--skip-test-receipt", "--control-root", "xyz"]
      ∃ given failure after,
        read choices arguments = .options given
        ∧ (bootstrap arguments).run host = (⟨1, some (failureLine failure)⟩, after)
        ∧ Overwrites given host
        ∧ after.files.read [] path = .ok (Bytes.ofLabel "const ALPHA_X: &str = \"20\";\n") := by
  intro contractPath path directories host arguments
  let given : List Given :=
    [⟨skipTestReceiptChoice, none⟩, ⟨controlRootChoice, some "xyz".toList⟩]
  have reading : read choices arguments = .options given := by decide +kernel
  have written
      : ((bootstrap arguments).run host).2.files.read [] path
        = .ok (Bytes.ofLabel "const ALPHA_X: &str = \"20\";\n") := by
    decide +kernel
  have given_written
      : host.files.read [] path = .ok (Bytes.ofLabel "const ALPHA_X: &str = \"1\";\n") := by
    decide +kernel
  have rejected : Digest.parse "xyz".toList = .error (.badDigit 0) := by decide +kernel
  cases run : (bootstrap arguments).run host with
  | mk ending after =>
      rw [run] at written
      obtain ⟨⟨failure, rfl⟩, untouched_iff, _⟩ :=
        untouched_iff_of_rejected reading (by decide) (by rfl) rejected run
      refine ⟨given, failure, after, reading, rfl, ?_, written⟩
      by_contra spared
      have same : after.files = host.files := (untouched_iff.mpr spared).files
      have written : after.files.read [] path = _ := written
      rw [same, given_written] at written
      exact absurd written (by decide)

end VerifierBootstrap.CommandLine
