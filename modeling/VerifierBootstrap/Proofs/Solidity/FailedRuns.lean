import VerifierBootstrap.Proofs.Pipeline.Frame
import VerifierBootstrap.Proofs.Solidity.Emission

/-!
Emission of a receipt is all or nothing. A pipeline that fails ends the emission as it is: what
was at the target is still there, and no formatter is started. One that gives a product has its
library written whole before the formatter is started on it.
-/

namespace VerifierBootstrap.Solidity

open VerifierBootstrap.Action Witness

variable {pipeline : Pipeline} {host middle : Host}

/-- The formatter was started once at most, and then on a file with the given text. -/
def Hands (formatter : Formatter) (path : Path) (host : Host) (content : Text)
    (started : List Event)
    : Prop :=
  started.length ≤ 1
  ∧ ∀ event ∈ started,
      ∃ files,
        event = .started (formatter.command ++ [path.text]) files
        ∧ files.read host.directory path = .ok (Utf8.encode content)

/-- A pipeline that fails ends the emission. -/
theorem perform_emitTestReceipt_error {failure : Failure} (path : Path) (formatter : Formatter)
    (run : perform pipeline.run host = (.error failure, middle))
    : perform (emitTestReceipt pipeline path formatter) host = (.error failure, middle) :=
  perform_bind_error run _

/-- Once the pipeline has given a product, the text of its library is written and then handed to
the formatter, or it is not written and nothing is started. The text is what emission gives.
-/
theorem ends_emitTestReceipt_text {product : Pipeline.Product} {vector : TestVector}
    (path : Path) (formatter : Formatter)
    (run : perform pipeline.run host = (.ok product, middle))
    (made : testVector product = .ok vector)
    : Ends (emitTestReceipt pipeline path formatter) host
        (fun given after =>
          given = (vector.library.render, product.imageId)
          ∧ ∃ event,
              after.events = middle.events ++ [event]
              ∧ Hands formatter path middle vector.library.render [event])
        (fun _ after =>
          ∃ started,
            after.events = middle.events ++ started
            ∧ Hands formatter path middle vector.library.render started) := by
  have handed {after : Host} {files : FileTree}
      (started
        : after.events = middle.events ++ [.started (formatter.command ++ [path.text]) files])
      (held : files.read middle.directory path = .ok (Utf8.encode vector.library.render))
      : ∃ event,
          after.events = middle.events ++ [event]
          ∧ Hands formatter path middle vector.library.render [event] :=
    ⟨_, started, by simp, fun event member => ⟨files, List.mem_singleton.mp member, held⟩⟩
  refine .bind_ok run ((Ends.ofExcept (testVector product) middle).andThen ?_ ?_)
  · rintro _ _ ⟨_, unmade⟩
    exact nomatch made.symm.trans unmade
  rintro other middle ⟨rfl, again⟩
  obtain rfl := Except.ok.inj (made.symm.trans again)
  refine (ends_writeLibrary path vector.library.render formatter _).andThen ?_ ?_
  · rintro _ after (same | ⟨files, started, held⟩)
    · exact ⟨[], by simp [same], by simp, by simp⟩
    · obtain ⟨event, events, hands⟩ := handed started held
      exact ⟨[event], events, hands⟩
  · rintro _ after ⟨files, started, held⟩
    exact .pure ⟨rfl, handed started held⟩

/-- Emission of a receipt is all or nothing, with a prover that writes only inside the work directory
and a target that is not in it. Whenever the pipeline fails, the emission fails with it, all files
outside of the work directory and the target among them have their content, the directories of the
work directory are the only new ones but for the prover's, and nothing but the prover was asked for.
Whenever the formatter is started, the target has the text that the emission gives. Witness: what
is outside is left alone by every course of a run, and the formatter comes behind the write.
-/
theorem emission_all_or_nothing (path : Path) (formatter : Formatter)
    {result : Except Failure Pipeline.Product} (absolute : ".." ∉ host.temporary)
    (within : pipeline.prover.StaysWithin (pipeline.workPath host) host)
    (outside
      : ¬ (pipeline.workPath host).location host.directory <+: path.location host.directory)
    (run : perform pipeline.run host = (result, middle))
    : (∀ failure,
          result = .error failure
          → perform (emitTestReceipt pipeline path formatter) host = (.error failure, middle)
            ∧ middle.files.content? (path.location host.directory)
              = host.files.content? (path.location host.directory)
            ∧ (∀ place,
                ¬ (pipeline.workPath host).location host.directory <+: place
                → middle.files.content? place = host.files.content? place)
            ∧ Pipeline.Framed pipeline host middle)
      ∧ ∀ product,
          result = .ok product
          → ∃ vector started,
              testVector product = .ok vector
              ∧ (perform (emitTestReceipt pipeline path formatter) host).2.events
                = middle.events ++ started
              ∧ Hands formatter path host vector.library.render started
              ∧ ∀ text imageId,
                  (perform (emitTestReceipt pipeline path formatter) host).1 = .ok (text, imageId)
                  → text = vector.library.render
                    ∧ imageId = product.imageId
                    ∧ started.length = 1 := by
  constructor
  · rintro failure rfl
    have framed := Pipeline.framed_of_run absolute within run
    exact ⟨perform_emitTestReceipt_error path formatter run, framed.content? outside,
      fun _ => framed.content?, framed⟩
  · rintro product rfl
    obtain ⟨vector, made⟩ := exists_testVector run
    have directory : middle.directory = host.directory := by
      obtain ⟨_, _, _, rfl, _⟩ := (Pipeline.ends_run_host pipeline host).ok run
      rfl
    have ends := ends_emitTestReceipt_text path formatter run made
    cases emitted : perform (emitTestReceipt pipeline path formatter) host with
    | mk outcome after =>
        cases outcome with
        | error failure =>
            obtain ⟨started, events, hands⟩ := ends.error emitted
            rw [Hands, directory] at hands
            exact ⟨vector, started, made, events, hands, fun _ _ given => nomatch given⟩
        | ok given =>
            obtain ⟨rfl, event, events, hands⟩ := ends.ok emitted
            rw [Hands, directory] at hands
            refine ⟨vector, [event], made, events, hands, fun text imageId same => ?_⟩
            obtain ⟨rfl, rfl⟩ := Prod.mk.inj (Except.ok.inj same)
            exact ⟨rfl, rfl, rfl⟩

/-- The prover ends well, but its output is an empty group. The contract of an earlier run is still
there.
-/
theorem emission_all_or_nothing_empty_group
    : let pipeline : Pipeline :=
        ⟨DevMode.standard.engine, .replying "own" [] fun _ => (0, some (Bytes.ofLabel "[]")),
          some ⟨.relative, ["w"]⟩, 0⟩
      let path : Path := ⟨.relative, ["t", "T.sol"]⟩
      let host :=
        Host.quiet
          ⟨[(["w"], .directory), (["t"], .directory), (["t", "T.sol"], .file [1, 2, 3])]⟩
      ∃ after,
        perform (emitTestReceipt pipeline path .solidity) host
          = (.error (.decode "output" (.groupCount 1)), after)
        ∧ after.files.content? ["t", "T.sol"] = some [1, 2, 3] := by
  intro pipeline path host
  have exchange : Exchange ⟨.relative, ["w"]⟩ host.directory ["w"] host.files :=
    ⟨by decide, by decide +kernel, by decide +kernel⟩
  have chosen
      : pipeline.workDirectory.or (BootstrapSettings.workDirectoryOf host.environment)
        = some ⟨.relative, ["w"]⟩ := rfl
  obtain ⟨attempt, made⟩ : ∃ attempt, pipeline.attempt = .ok attempt :=
    Pipeline.exists_attempt_standard rfl rfl
  have refused
      : proofOf Limits.usual.nesting (Path.child ⟨.relative, ["w"]⟩ outputName)
          (some (Bytes.ofLabel "[]"))
        = .error (.decode "output" (.groupCount 1)) := by
    decide +kernel
  have outcome : (perform pipeline.run host).1 = .error (.decode "output" (.groupCount 1)) := by
    rw [Pipeline.perform_run chosen
      (Prover.answers_replying "own" _ host fun _ => (0, some (Bytes.ofLabel "[]")))
      (.of_exchange exchange), made]
    change (proofOf Limits.usual.nesting _ (some _)).map _ = _
    rw [refused]
    rfl
  cases run : perform pipeline.run host with
  | mk result after =>
      rw [run] at outcome
      obtain rfl := outcome
      have within : pipeline.prover.StaysWithin (pipeline.workPath host) host :=
        Prover.staysWithin_replying "own" _ host fun _ => (0, some (Bytes.ofLabel "[]"))
      have outside : ¬ (["w"] : Location) <+: ["t", "T.sol"] := by decide
      obtain ⟨stopped, _⟩ := emission_all_or_nothing path .solidity (by decide) within outside run
      obtain ⟨emitted, kept, _⟩ := stopped _ rfl
      exact ⟨after, emitted, kept⟩

end VerifierBootstrap.Solidity
