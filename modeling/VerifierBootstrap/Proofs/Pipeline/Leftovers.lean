import Mathlib.Data.List.Basic
import VerifierBootstrap.Proofs.Engine.DevMode
import VerifierBootstrap.Proofs.Pipeline.Stages

/-!
Work directories that earlier runs have left files in. Of those a run reads only the output, and it
reads that only when the prover has ended well without writing one. So the results of a pipeline
are those of its current run exactly if its prover writes an output whenever it ends well.
-/

namespace VerifierBootstrap.Pipeline

open VerifierBootstrap.Action Witness

/-- A run can work in a directory: it is there or can be made, and each file of the exchange is a
file there or absent.
-/
def Workable (work : Path) (host : Host) : Prop :=
  ∃ made,
    perform (Host.ensureDirectory work) host = (.ok (), made)
    ∧ ∀ name ∈ exchangeNames, ∃ place,
        made.files.locate made.directory (work.child name) = .ok place
        ∧ made.files.lookup place ≠ some .directory

/-- The output that is in a work directory before the prover runs. -/
def leftover (work : Path) (host : Host) : Option Bytes :=
  (perform
      (do
        Host.ensureDirectory work
        Host.readBytes (work.child outputName))
      host).1.toOption

variable {pipeline : Pipeline} {work : Path} {base : Location} {host : Host}
  {respond : Bytes → Int × Option Bytes}

/-- A directory that can be worked in is one of an exchange once it has been made. -/
theorem Workable.exists_exchange (workable : Workable work host)
    : ∃ base files,
        perform (Host.ensureDirectory work) host = (.ok (), { host with files := files })
        ∧ Exchange work host.directory base files := by
  obtain ⟨made, run, places⟩ := workable
  have frame := Host.filesOnly_ensureDirectory work host
  rw [run] at frame
  dsimp only at frame
  have passable : work.holdsNul = false := by
    cases nul : work.holdsNul with
    | false => rfl
    | true =>
        rw [Host.ensureDirectory,
          perform_bind_error (Host.perform_requirePassable_error nul host)] at run
        exact absurd run (by simp)
  rw [frame] at run places
  obtain ⟨base, exchange⟩ := Exchange.of_located passable places
  exact ⟨base, made.files, run, exchange⟩

theorem Workable.of_exchange (exchange : Exchange work host.directory base host.files)
    : Workable work host :=
  ⟨host, exchange.perform_ensureDirectory, fun name member =>
    ⟨base ++ [name], exchange.located name member, exchange.plain name member⟩⟩

/-- The output that is left over is the content of its file. -/
theorem leftover_of_made {files : FileTree}
    (made : perform (Host.ensureDirectory work) host = (.ok (), { host with files := files }))
    (exchange : Exchange work host.directory base files)
    : leftover work host = files.content? (base ++ [outputName]) := by
  have atMade
      : Exchange work { host with files := files }.directory base
          { host with files := files }.files :=
    exchange
  rw [leftover, perform_bind_ok made, atMade.toOption_readBytes (by simp [exchangeNames])]

/-- In a directory that can be worked in, any output may be left over, or none. -/
theorem exists_leftover (workable : Workable work host) (output : Option Bytes)
    : ∃ files,
        Workable work { host with files := files }
        ∧ leftover work { host with files := files } = output := by
  obtain ⟨base, files, _, exchange⟩ := workable.exists_exchange
  have member : outputName ∈ exchangeNames := by simp [exchangeNames]
  obtain ⟨after, atAfter, held⟩
      : ∃ after, Exchange work host.directory base after
          ∧ after.content? (base ++ [outputName]) = output := by
    cases output with
    | none =>
        refine ⟨_, exchange.remove member, ?_⟩
        rw [FileTree.content?, FileTree.lookup_remove_self _ (by simp)]
    | some content =>
        refine ⟨_, exchange.set member content, ?_⟩
        rw [FileTree.content?, FileTree.lookup_set_self _ _ (by simp)]
  let left : Host := { host with files := after }
  have atLeft : Exchange work left.directory base left.files := atAfter
  refine ⟨after, .of_exchange atLeft, ?_⟩
  rw [← held]
  exact leftover_of_made atLeft.perform_ensureDirectory atLeft

theorem perform_run
    (chosen
      : pipeline.workDirectory.or (BootstrapSettings.workDirectoryOf host.environment)
        = some work)
    (answers : pipeline.prover.Answers work host respond) (workable : Workable work host)
    : (perform pipeline.run host).1
      = pipeline.attempt.bind
          (pipeline.conclusion host.limits.nesting work respond (leftover work host)) := by
  obtain ⟨base, files, made, exchange⟩ := workable.exists_exchange
  rw [leftover_of_made made exchange, run, perform_bind_ok (perform_get host)]
  simp only [chosen]
  rw [perform_bind_ok made]
  have atMade
      : Exchange work { host with files := files }.directory base
          { host with files := files }.files :=
    exchange
  exact perform_runIn atMade answers

-----------------------------------------------------------------------------------------
-- Two runs over different leftovers
-----------------------------------------------------------------------------------------

/-- The results of a run do not depend on its answer to the question for leftovers exactly if it
never asks: the prover has failed, or it has written an output.
-/
theorem conclusion_eq_iff (pipeline : Pipeline) (nesting : Nat) (work : Path)
    (respond : Bytes → Int × Option Bytes) (attempt : Attempt)
    : (∀ left right,
          pipeline.conclusion nesting work respond left attempt
          = pipeline.conclusion nesting work respond right attempt)
      ↔ ((respond attempt.witness).1 = 0 → (respond attempt.witness).2 ≠ none) := by
  cases answer : respond attempt.witness with
  | mk status output =>
      simp only [conclusion, answer]
      constructor
      · rintro same rfl silent
        -- Nothing left over is a missing output, and an octet that is no text another failure
        have differs := same none (some [0xff])
        have undecodable : Utf8.decode [0xff] = .error ⟨0, 0, 0xff, .start⟩ := by
          rw [Utf8.decode, Utf8.decodeFrom]
          rfl
        rw [silent, Option.none_or, Option.none_or, proofOf, proofOf, undecodable] at differs
        exact absurd differs (by simp [Except.map])
      · intro writes left right
        by_cases ended : status = 0
        · obtain ⟨written, rfl⟩ := Option.ne_none_iff_exists'.mp (writes ended)
          rw [Option.some_or, Option.some_or]
        · rw [if_pos ended, if_pos ended]

/-- Runs over different leftovers come to the same result exactly if the prover writes an output
whenever it ends well. A prover that ends well and writes none has the output that was left over
read as its own, and only where none was left over is it found to be missing.
-/
theorem outcome_eq_iff
    (chosen
      : pipeline.workDirectory.or (BootstrapSettings.workDirectoryOf host.environment)
        = some work)
    (answers : pipeline.prover.Answers work host respond) (workable : Workable work host)
    : ((∀ left right,
            Workable work { host with files := left }
            → Workable work { host with files := right }
            → (perform pipeline.run { host with files := left }).1
              = (perform pipeline.run { host with files := right }).1)
        ↔ ∀ attempt,
            pipeline.attempt = .ok attempt
            → (respond attempt.witness).1 = 0
            → (respond attempt.witness).2 ≠ none)
      ∧ ∀ files attempt,
          Workable work { host with files := files }
          → pipeline.attempt = .ok attempt
          → respond attempt.witness = (0, none)
          → (perform pipeline.run { host with files := files }).1
            = (proofOf host.limits.nesting (work.child outputName)
                (leftover work { host with files := files })).map
                  (pipeline.product attempt.lifted attempt.session) := by
  have outcome (files : FileTree) (workable : Workable work { host with files := files })
      : (perform pipeline.run { host with files := files }).1
        = pipeline.attempt.bind
            (pipeline.conclusion host.limits.nesting work respond
              (leftover work { host with files := files })) :=
    perform_run chosen answers workable
  refine ⟨⟨?_, ?_⟩, ?_⟩
  · intro same attempt made
    refine (conclusion_eq_iff pipeline host.limits.nesting work respond attempt).mp ?_
    intro left right
    obtain ⟨leftFiles, workableLeft, rfl⟩ := exists_leftover workable left
    obtain ⟨rightFiles, workableRight, rfl⟩ := exists_leftover workable right
    have equal := same leftFiles rightFiles workableLeft workableRight
    rw [outcome leftFiles workableLeft, outcome rightFiles workableRight, made] at equal
    exact equal
  · intro writes left right workableLeft workableRight
    rw [outcome left workableLeft, outcome right workableRight]
    cases made : pipeline.attempt with
    | error failure => rfl
    | ok attempt => exact (conclusion_eq_iff _ _ _ _ _).mpr (writes attempt made) _ _
  · intro files attempt workable made silent
    rw [outcome files workable, made]
    simp only [Except.bind, conclusion, silent, ne_eq, not_true, if_false, Option.none_or]

/-- With the development engine the check of a lifted receipt is never the one that fails. -/
theorem lifted_devMode {devMode : DevMode} (engine : pipeline.engine = devMode.engine)
    (segment : Segment)
    : pipeline.lifted segment = (devMode.proveSegment segment).bind devMode.lift := by
  rw [lifted, engine]
  change
    (devMode.proveSegment segment).bind (fun proved => (devMode.lift proved).bind fun lifted =>
      lifted.verifyIntegrity.bind fun _ => .ok lifted)
    = _
  cases devMode.proveSegment segment with
  | error failure => rfl
  | ok proved =>
      cases run : devMode.lift proved with
      | error failure => simp only [Except.bind, run]
      | ok lifted => simp only [Except.bind, run, DevMode.verifyIntegrity_lift run]

/-- With the standard engine and no cycles asked for, a run comes as far as the prover. -/
theorem exists_attempt_standard (engine : pipeline.engine = DevMode.standard.engine)
    (idle : pipeline.cycles = 0)
    : ∃ attempt, pipeline.attempt = .ok attempt := by
  have succeeds : pipeline.attempt.toOption.isSome = true := by
    simp only [attempt, lifted_devMode engine, executed, witnessOf, engine, idle]
    decide +kernel
  cases made : pipeline.attempt with
  | ok attempt => exact ⟨attempt, rfl⟩
  | error failure =>
      rw [made] at succeeds
      exact absurd succeeds (by simp [Except.toOption])

/-- A tree of one directory at the top can be worked in there. -/
theorem exchange_single : Exchange ⟨.relative, ["w"]⟩ [] ["w"] ⟨[(["w"], .directory)]⟩ :=
  ⟨by decide, by decide +kernel, by decide +kernel⟩

/-- With the development engine and a prover that ends well without an output, a run in an empty
directory fails for want of one, but runs over different leftovers come to different results.
-/
theorem outcome_eq_iff_silent
    : let work : Path := ⟨.relative, ["w"]⟩
      let pipeline : Pipeline :=
        ⟨DevMode.standard.engine, .replying "silent" [] fun _ => (0, none), some work, 0⟩
      let host : Host :=
        {
          files := ⟨[(["w"], .directory)]⟩
          directory := []
          temporary := ["tmp"]
          temporaryEnding := "0"
          environment := []
          limits := .usual
          containerTool := none
          sourcesLocked := false
          responses := []
          launch := fun _ _ _ => .refused .notFound
          log := []
          events := []
        }
      (perform pipeline.run host).1 = .error (.availability (.noProverOutput "w/output.json"))
      ∧ ¬ ∀ left right,
          Workable work { host with files := left }
          → Workable work { host with files := right }
          → (perform pipeline.run { host with files := left }).1
            = (perform pipeline.run { host with files := right }).1 := by
  intro work pipeline host
  have exchange : Exchange work host.directory ["w"] host.files := exchange_single
  have chosen
      : pipeline.workDirectory.or (BootstrapSettings.workDirectoryOf host.environment)
        = some work := rfl
  have workable : Workable work host := .of_exchange exchange
  have absent : leftover work host = none :=
    leftover_of_made exchange.perform_ensureDirectory exchange
  obtain ⟨attempt, made⟩ : ∃ attempt, pipeline.attempt = .ok attempt :=
    exists_attempt_standard rfl rfl
  obtain ⟨fresh, outcome⟩ :=
    outcome_eq_iff chosen
      (Prover.answers_replying "silent" work host fun _ => (0, none)) workable
  constructor
  · have missing := outcome host.files attempt workable made rfl
    rw [absent] at missing
    exact missing
  · intro same
    exact fresh.mp same attempt made rfl rfl

end VerifierBootstrap.Pipeline
