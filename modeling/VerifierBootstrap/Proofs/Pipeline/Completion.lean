import VerifierBootstrap.Proofs.Pipeline.Leftovers
import VerifierBootstrap.Proofs.Witness.Handover

/-!
Runs that succeed. The claim of the receipt comes from the lifted proof, the journal from the
execution, and the seal from the output that the prover has left: it was run once, on a directory
that held the seal of the identity receipt and a document of it.
-/

namespace VerifierBootstrap.Pipeline

open VerifierBootstrap.Action Witness

/-- Where a run works: in the directory that is given or that the environment names, or else in a
temporary one.
-/
def workPath (pipeline : Pipeline) (host : Host) : Path :=
  (pipeline.workDirectory.or (BootstrapSettings.workDirectoryOf host.environment)).getD
    ⟨.root, host.temporary ++ [temporaryLabel ++ host.temporaryEnding]⟩

/-- A run has passed all stages in a work directory, and its prover is remembered by an event. -/
inductive Completed (pipeline : Pipeline) (work : Path) (host : Host) : Product → Event → Prop where
  | intro {segment : Segment} {session : Session} {lifted : SuccinctReceipt}
    {identity : IdentityReceipt} {proof : Groth16Seal} {files left : FileTree}
    {log : List LogLine} {event : Event}
    (executed : pipeline.executed = .ok (segment, session))
    (proved : pipeline.lifted segment = .ok lifted)
    (identified : pipeline.engine.identity lifted = .ok identity)
    (holds : Holds files host.directory work identity.sealBytes)
    (ran : pipeline.prover.Ran work { host with files := files, log := log } 0 event left)
    (yields : Yields left host.directory work proof)
    : Completed pipeline work host (pipeline.product lifted session proof) event

-----------------------------------------------------------------------------------------
-- The stages of a run that succeeds
-----------------------------------------------------------------------------------------

theorem ends_prepareWitness (pipeline : Pipeline) (lifted : SuccinctReceipt) (work : Path)
    (host : Host)
    : Ends (pipeline.prepareWitness lifted work) host
        (fun _ after =>
          ∃ identity files log,
            pipeline.engine.identity lifted = .ok identity
            ∧ Holds files host.directory work identity.sealBytes
            ∧ after = { host with files := files, log := log })
        (fun _ _ => True) := by
  refine .bind_ok (Host.perform_note _ _ _) ?_
  refine (Ends.ofExcept _ _).andThen (fun _ _ _ => trivial) ?_
  rintro identity _ ⟨rfl, identified⟩
  refine .bind_ok (Host.perform_note _ _ _) ?_
  refine (ends_write identity.sealBytes work _).bind ?_
  rintro _ _ ⟨files, rfl, holds⟩
  exact ⟨identity, files, _, identified, holds, rfl⟩

theorem ends_proveWitness (pipeline : Pipeline) (work : Path) (host : Host)
    : Ends (pipeline.proveWitness work) host
        (fun proof after =>
          ∃ log event left later,
            pipeline.prover.Ran work { host with log := log } 0 event left
            ∧ Yields left host.directory work proof
            ∧ after
              = { host with files := left, log := later, events := host.events ++ [event] })
        (fun _ _ => True) := by
  refine .bind_ok (Host.perform_note _ _ _) ?_
  refine (pipeline.prover.ends_run work _).andThen (fun _ _ _ => trivial) ?_
  rintro status _ ⟨event, left, log, ran, rfl⟩
  by_cases failed : status ≠ 0
  · rw [if_pos failed]
    exact trivial
  · obtain rfl : status = 0 := Decidable.not_not.mp failed
    refine (ends_readOutput work _).mono ?_ fun _ _ _ => trivial
    rintro proof _ ⟨yields, later, rfl⟩
    exact ⟨_, event, left, later, ran, yields, rfl⟩

/-- The files at the end are those that the prover has left, and hold its output. -/
theorem ends_runIn (pipeline : Pipeline) (work : Path) (host : Host)
    : Ends (pipeline.runIn work) host
        (fun product after =>
          ∃ event left log,
            after = { host with files := left, log := log, events := host.events ++ [event] }
            ∧ (∃ proof, Yields left host.directory work proof)
            ∧ Completed pipeline work host product event)
        (fun _ _ => True) := by
  refine ((logs_executeGuest pipeline).ends host).andThen (fun _ _ _ => trivial) ?_
  rintro ⟨segment, session⟩ _ ⟨executed, log, rfl⟩
  refine ((logs_proveAndLift pipeline segment).ends _).andThen (fun _ _ _ => trivial) ?_
  rintro lifted _ ⟨proved, log, rfl⟩
  refine (ends_prepareWitness pipeline lifted work _).bind ?_
  rintro _ _ ⟨identity, files, log, identified, holds, rfl⟩
  refine (ends_proveWitness pipeline work _).bind ?_
  rintro proof _ ⟨_, event, left, log, ran, yields, rfl⟩
  refine .bind_ok (Host.perform_note _ _ _) ?_
  exact ⟨event, left, _, rfl, ⟨proof, yields⟩,
    .intro executed proved identified holds ran yields⟩

/-- What was there before is no part of what a run has done. -/
theorem Completed.of_files {pipeline : Pipeline} {work : Path} {host : Host} {files : FileTree}
    {product : Product} {event : Event}
    (completed : Completed pipeline work { host with files := files } product event)
    : Completed pipeline work host product event := by
  obtain ⟨executed, proved, identified, holds, ran, yields⟩ := completed
  exact .intro executed proved identified holds ran yields

/-- A run that succeeds has passed all stages. Of its host it has changed files and the log, and it
is remembered by its prover alone.
-/
theorem ends_run_host (pipeline : Pipeline) (host : Host)
    : Ends pipeline.run host
        (fun product after =>
          ∃ event files log,
            after = { host with files := files, log := log, events := host.events ++ [event] }
            ∧ Completed pipeline (pipeline.workPath host) host product event)
        (fun _ _ => True) := by
  have within (work : Path) (files : FileTree)
      : Ends (pipeline.runIn work) { host with files := files }
          (fun product after =>
            ∃ event files log,
              after = { host with files := files, log := log, events := host.events ++ [event] }
              ∧ Completed pipeline work host product event)
          (fun _ _ => True) := by
    refine (ends_runIn pipeline work _).mono ?_ fun _ _ => id
    rintro product _ ⟨event, left, log, rfl, _, completed⟩
    exact ⟨event, left, log, rfl, completed.of_files⟩
  refine .bind_ok (perform_get host) ?_
  rw [workPath]
  dsimp only
  cases pipeline.workDirectory.or (BootstrapSettings.workDirectoryOf host.environment) with
  | some work =>
      have made := (Host.filesOnly_ensureDirectory work).ends host
      refine made.andThen (fun _ _ _ => trivial) ?_
      rintro _ _ ⟨files, rfl⟩
      exact within work files
  | none =>
      refine Host.ends_withTemporaryDirectory (within _) ?_
      rintro product _ cleared ⟨event, _, log, rfl, completed⟩
      exact ⟨event, cleared, log, rfl, completed⟩

theorem ends_run (pipeline : Pipeline) (host : Host)
    : Ends pipeline.run host
        (fun product after =>
          ∃ event,
            after.events = host.events ++ [event]
            ∧ Completed pipeline (pipeline.workPath host) host product event)
        (fun _ _ => True) := by
  refine (ends_run_host pipeline host).mono ?_ fun _ _ => id
  rintro product _ ⟨event, files, log, rfl, completed⟩
  exact ⟨event, rfl, completed⟩

-----------------------------------------------------------------------------------------
-- Runs with the development engine
-----------------------------------------------------------------------------------------

variable {pipeline : Pipeline} {host after : Host} {product : Product}

/-- The one segment of an execution is the whole of its session. -/
theorem executed_eq_ok {segment : Segment} {session : Session}
    (executed : pipeline.executed = .ok (segment, session))
    : ∃ input,
        GuestInput.encode pipeline.cycles = .ok input
        ∧ pipeline.engine.execute input = .ok session
        ∧ session.segments = [segment] := by
  obtain ⟨input, encoded, executed⟩ := ok_of_bind executed
  obtain ⟨whole, ran, executed⟩ := ok_of_bind executed
  split at executed
  · rename_i single
    obtain ⟨rfl, rfl⟩ := Prod.mk.inj (Except.ok.inj executed)
    exact ⟨input, encoded, ran, single⟩
  · exact nomatch executed

/-- A run that succeeds gives a receipt whose parts come from one passage of its stages: the claim
from the proof of the only segment, the journal from its session, and the seal from the tokens of
the output that the prover left. The prover has run once and ended well, over a directory with the
seal of the identity receipt and its words. Witness: what a stage gives is handed on under its own
name, and only the prover comes between what is written and what is read.
-/
theorem product_of_run {devMode : DevMode} (engine : pipeline.engine = devMode.engine)
    (run : perform pipeline.run host = (.ok product, after))
    : ∃ input session segment proved lifted,
        (GuestInput.encode pipeline.cycles = .ok input
          ∧ devMode.execute input = .ok session
          ∧ session.segments = [segment]
          ∧ devMode.proveSegment segment = .ok proved
          ∧ devMode.lift proved = .ok lifted)
        ∧ product.receipt.claim = proved.claim
        ∧ product.receipt.journal = session.journal
        ∧ product.imageId = devMode.imageId
        ∧ ∃ files log event left,
            pipeline.prover.Ran (pipeline.workPath host)
              { host with files := files, log := log } 0 event left
            ∧ after.events = host.events ++ [event]
            ∧ (DevMode.identity lifted).sealBytes.length = 256
            ∧ Holds files host.directory (pipeline.workPath host)
                (DevMode.identity lifted).sealBytes
            ∧ ∃ a₀ a₁ b₀₀ b₀₁ b₁₀ b₁₁ c₀ c₁,
                Yields left host.directory (pipeline.workPath host)
                  ⟨[a₀, a₁], [[b₀₀, b₀₁], [b₁₀, b₁₁]], [c₀, c₁]⟩
                ∧ product.receipt.groth16.map Groth16Receipt.sealBytes
                  = .ok (a₀ ++ a₁ ++ b₀₀ ++ b₀₁ ++ b₁₀ ++ b₁₁ ++ c₀ ++ c₁) := by
  obtain ⟨event, events, completed⟩ := (ends_run pipeline host).ok run
  cases completed with
  | @intro segment session lifted identity proof files left log _ executed proved identified holds
      ran yields =>
      obtain ⟨input, encoded, executed, single⟩ := executed_eq_ok executed
      rw [lifted_devMode engine] at proved
      obtain ⟨segmentReceipt, proved, lifting⟩ := ok_of_bind proved
      rw [engine] at executed identified
      obtain rfl := Except.ok.inj identified
      obtain ⟨content, text, items, held, decoded, parsed, isProof⟩ := yields
      obtain ⟨a₀, a₁, b₀₀, b₀₁, b₁₀, b₁₁, c₀, c₁, rfl⟩ := isProof.exists_eq
      refine ⟨input, session, segment, segmentReceipt, lifted,
        ⟨encoded, executed, single, proved, lifting⟩, DevMode.claim_lift lifting, rfl,
        congrArg Engine.imageId engine, files, log, event, left, ran, events,
        DevMode.length_identitySeal _, holds, a₀, a₁, b₀₀, b₀₁, b₁₀, b₁₁, c₀, c₁,
        ⟨content, text, items, held, decoded, parsed, isProof⟩, ?_⟩
      simp [product, Receipt.groth16, Except.map, Groth16Seal.toBytes, Groth16Seal.elements]

/-- A prover of the caller's own that leaves an output of single bytes: its run is the one event. -/
theorem product_of_run_single_bytes
    : let output := "[\"01\",\"02\"],[[\"03\",\"04\"],[\"05\",\"06\"]],[\"07\",\"0x08\"]"
      let pipeline : Pipeline :=
        ⟨DevMode.standard.engine, .replying "own" [] fun _ => (0, some (Bytes.ofLabel output)),
          some ⟨.relative, ["w"]⟩, 0⟩
      let host : Host :=
        {
          files := ⟨[(["w"], .directory)]⟩
          directory := []
          temporary := ["tmp"]
          temporaryEnding := "0"
          environment := []
          limits := .usual
          containerTool := none
          sourcesLocked := false
          responses := []
          launch := fun _ _ _ => .refused .notFound
          log := []
          events := []
        }
      ∃ product after event,
        perform pipeline.run host = (.ok product, after)
        ∧ product.imageId = DevMode.standard.imageId
        ∧ product.receipt.groth16.map Groth16Receipt.sealBytes = .ok [1, 2, 3, 4, 5, 6, 7, 8]
        ∧ after.events = [event] := by
  intro output pipeline host
  have exchange : Exchange ⟨.relative, ["w"]⟩ host.directory ["w"] host.files := exchange_single
  obtain ⟨attempt, made⟩ : ∃ attempt, pipeline.attempt = .ok attempt :=
    exists_attempt_standard rfl rfl
  have chosen
      : pipeline.workDirectory.or (BootstrapSettings.workDirectoryOf host.environment)
        = some ⟨.relative, ["w"]⟩ := rfl
  have outcome :=
    perform_run chosen
      (Prover.answers_replying "own" _ host fun _ => (0, some (Bytes.ofLabel output)))
      (.of_exchange exchange)
  have read
      : proofOf Limits.usual.nesting (Path.child ⟨.relative, ["w"]⟩ outputName)
          (some (Bytes.ofLabel output))
        = .ok ⟨[[1], [2]], [[[3], [4]], [[5], [6]]], [[7], [8]]⟩ := by
    decide +kernel
  rw [made] at outcome
  change _ = (proofOf _ _ (some _)).map _ at outcome
  rw [read] at outcome
  cases run : perform pipeline.run host with
  | mk result after =>
      rw [run] at outcome
      obtain rfl := outcome
      obtain ⟨_, _, _, _, _, _, _, _, image, _, _, event, _, _, events, _⟩ :=
        product_of_run rfl run
      exact ⟨_, after, event, rfl, image, rfl, events⟩

end VerifierBootstrap.Pipeline
