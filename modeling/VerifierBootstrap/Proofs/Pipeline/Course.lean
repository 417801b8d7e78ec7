import VerifierBootstrap.Proofs.FileTree.Clearing
import VerifierBootstrap.Proofs.Pipeline.Completion

/-!
The course of a run, whatever comes of it. It makes its work directory, goes through its stages up
to the first that fails, and clears the directory away if it is a temporary one. Ahead of the prover
only the files of the witness are written, and behind it nothing is. Clearing away fails only where
the prover has put a file in place of a directory, and takes the place of what the run came to.
-/

namespace VerifierBootstrap.Pipeline

open VerifierBootstrap.Action Witness

-----------------------------------------------------------------------------------------
-- Into the work directory and out of it
-----------------------------------------------------------------------------------------

/-- Where a host makes a temporary work directory. -/
def temporaryLocation (host : Host) : Location :=
  host.temporary ++ [temporaryLabel ++ host.temporaryEnding]

/-- Makes the work directory of a run. -/
def enter (pipeline : Pipeline) (host : Host) : Action Unit :=
  match pipeline.workDirectory.or (BootstrapSettings.workDirectoryOf host.environment) with
  | some work => Host.ensureDirectory work
  | none => Host.makeDirectory ⟨.root, temporaryLocation host⟩

/-- What is left of the files at the end of a run. From a directory that was chosen nothing is
taken, and a temporary one is cleared away.
-/
def leave (pipeline : Pipeline) (host : Host) (files : FileTree) : Except Refusal FileTree :=
  match pipeline.workDirectory.or (BootstrapSettings.workDirectoryOf host.environment) with
  | some _ => .ok files
  | none => files.clear (temporaryLocation host)

variable {pipeline : Pipeline} {host entered : Host}

theorem filesOnly_enter (pipeline : Pipeline) (host : Host) : FilesOnly (pipeline.enter host) := by
  rw [enter]
  split
  · exact Host.filesOnly_ensureDirectory _
  · exact Host.filesOnly_change _ _

/-- Whether the work directory could be made or not, directories along its path are all that was. -/
theorem ends_enter (pipeline : Pipeline) (host : Host)
    : Ends (pipeline.enter host) host
        (fun _ entered => Host.Grown (pipeline.workPath host) host entered)
        (fun _ after => Host.Grown (pipeline.workPath host) host after) := by
  rw [enter, workPath]
  cases pipeline.workDirectory.or (BootstrapSettings.workDirectoryOf host.environment) with
  | some work =>
      exact (Host.ends_ensureDirectory work host).mono (fun _ _ => id) fun _ _ => And.left
  | none =>
      refine (Host.ends_change _ FileTree.makeDirectory host).mono ?_ ?_
      · rintro _ _ ⟨_, files, made, rfl⟩
        exact .of_makeDirectory made
      · rintro _ _ ⟨rfl, _⟩
        exact .refl _ _

theorem eq_of_enter {outcome : Except Failure Unit}
    (made : perform (pipeline.enter host) host = (outcome, entered))
    : entered = { host with files := entered.files } := by
  have kept := filesOnly_enter pipeline host host
  rw [made] at kept
  exact kept

/-- A run that has made its work directory goes through its stages there, and then leaves. -/
theorem perform_run_of_entered (made : perform (pipeline.enter host) host = (.ok (), entered))
    : let ran := perform (pipeline.runIn (pipeline.workPath host)) entered
      perform pipeline.run host
      = match pipeline.leave host ran.2.files with
        | .ok files => (ran.1, { ran.2 with files := files })
        | .error refusal =>
            (.error (.file ⟨refusal, (pipeline.workPath host).text⟩), ran.2) := by
  rw [enter] at made
  rw [run, perform_bind_ok (perform_get host), workPath]
  simp only [leave]
  cases chosen
      : pipeline.workDirectory.or (BootstrapSettings.workDirectoryOf host.environment) with
  | some work =>
      simp only [chosen] at made
      exact perform_bind_ok made fun _ => pipeline.runIn work
  | none =>
      simp only [chosen] at made
      exact Host.perform_withTemporaryDirectory made

/-- A run that can leave comes to what its stages come to. -/
theorem fst_perform_run_of_leave {files : FileTree}
    (made : perform (pipeline.enter host) host = (.ok (), entered))
    (leaving
      : pipeline.leave host (perform (pipeline.runIn (pipeline.workPath host)) entered).2.files
        = .ok files)
    : (perform pipeline.run host).1
      = (perform (pipeline.runIn (pipeline.workPath host)) entered).1 := by
  rw [perform_run_of_entered made]
  simp only [leaving]

/-- A run that cannot make its work directory ends there. -/
theorem perform_run_of_unentered {failure : Failure} {after : Host}
    (unmade : perform (pipeline.enter host) host = (.error failure, after))
    : perform pipeline.run host = (.error failure, after) := by
  rw [enter] at unmade
  rw [run, perform_bind_ok (perform_get host)]
  dsimp only
  cases chosen
      : pipeline.workDirectory.or (BootstrapSettings.workDirectoryOf host.environment) with
  | some work =>
      simp only [chosen] at unmade
      exact perform_bind_error unmade fun _ => pipeline.runIn work
  | none =>
      simp only [chosen] at unmade
      exact Host.perform_withTemporaryDirectory_error unmade

-----------------------------------------------------------------------------------------
-- The stages in the work directory
-----------------------------------------------------------------------------------------

/-- What the prover has answered: the proof in the output that it has left, if it ended well. -/
def answer (pipeline : Pipeline) (work : Path) (outcome : Except Failure Int) (left : Host)
    : Except Failure Groth16Seal :=
  outcome.bind fun status =>
    if status ≠ 0 then .error (.process pipeline.prover.name (some status) "")
    else (perform (readOutput work) left).1

/-- What a run in a work directory can come to, by the stage that ends it. -/
inductive Course (pipeline : Pipeline) (work : Path) (host : Host)
    : Except Failure Product → Host → Prop where
  /-- A stage ahead of the witness has failed, and nothing has changed but the log. -/
  | unproved {failure : Failure} {log : List LogLine}
    (fails
      : (pipeline.executed.bind fun executed => pipeline.lifted executed.1) = .error failure)
    : Course pipeline work host (.error failure) { host with log := log }
  /-- The witness was not written, or not all of it. -/
  | unprepared {segment : Segment} {session : Session} {lifted : SuccinctReceipt}
    {log : List LogLine} {failure : Failure} {after : Host}
    (executed : pipeline.executed = .ok (segment, session))
    (proved : pipeline.lifted segment = .ok lifted)
    (stopped
      : perform (pipeline.prepareWitness lifted work) { host with log := log }
        = (.error failure, after))
    : Course pipeline work host (.error failure) after
  /-- The prover was run over the witness, and then its answer was read. -/
  | asked {segment : Segment} {session : Session} {lifted : SuccinctReceipt}
    {files : FileTree} {log written asking later : List LogLine}
    {outcome : Except Failure Int} {left : Host}
    (executed : pipeline.executed = .ok (segment, session))
    (proved : pipeline.lifted segment = .ok lifted)
    (prepared
      : perform (pipeline.prepareWitness lifted work) { host with log := log }
        = (.ok (), { host with files := files, log := written }))
    (ran
      : perform (pipeline.prover.run work) { host with files := files, log := asking }
        = (outcome, left))
    : Course pipeline work host
        ((pipeline.answer work outcome left).map (pipeline.product lifted session))
        { left with log := later }

theorem editsOnly_prepareWitness (pipeline : Pipeline) (lifted : SuccinctReceipt) (work : Path)
    : Host.EditsOnly (preparedPaths work) (pipeline.prepareWitness lifted work) :=
  .bind (.note _ _) fun _ => .bind (.ofExcept _) fun identity => .bind (.note _ _) fun _ =>
    .bind (editsOnly_write identity.sealBytes work) fun _ => .pure _

theorem silent_prepareWitness (pipeline : Pipeline) (lifted : SuccinctReceipt) (work : Path)
    : Host.Silent (pipeline.prepareWitness lifted work) :=
  .bind (.note _ _) fun _ => .bind (.ofExcept _) fun identity => .bind (.note _ _) fun _ =>
    .bind (silent_write identity.sealBytes work) fun _ => .pure _

/-- Whether the witness could be written or not, its files are all that was touched. -/
theorem edited_of_prepareWitness {lifted : SuccinctReceipt} {work : Path} {log : List LogLine}
    {outcome : Except Failure Unit} {after : Host}
    (ran
      : perform (pipeline.prepareWitness lifted work) { host with log := log }
        = (outcome, after))
    : Host.Edited (preparedPaths work) host after ∧ after.events = host.events := by
  have edited := editsOnly_prepareWitness pipeline lifted work { host with log := log }
  have unasked := silent_prepareWitness pipeline lifted work { host with log := log }
  rw [ran] at edited unasked
  exact ⟨⟨edited.directory, edited.files⟩, unasked⟩

/-- From the prover on, a run comes to the prover's answer and changes nothing but the log. -/
theorem perform_proveWitness_answer (pipeline : Pipeline) (work : Path) (host : Host)
    : ∃ log outcome left later,
        perform (pipeline.prover.run work) { host with log := log } = (outcome, left)
        ∧ perform (pipeline.proveWitness work) host
          = (pipeline.answer work outcome left, { left with log := later }) := by
  let log := host.log ++ [⟨.info, s!"groth16-prover ({pipeline.prover.name})"⟩]
  rw [proveWitness, perform_bind_ok (Host.perform_note _ _ host)]
  cases ran : perform (pipeline.prover.run work) { host with log := log } with
  | mk outcome left =>
      cases outcome with
      | error failure =>
          exact ⟨log, .error failure, left, left.log, ran, perform_bind_error ran _⟩
      | ok status =>
          rw [perform_bind_ok ran]
          by_cases failed : status ≠ 0
          · refine ⟨log, .ok status, left, left.log, ran, ?_⟩
            rw [if_pos failed, answer, Except.bind, if_pos failed]
            rfl
          · obtain ⟨later, read⟩ := onlyLogs_readOutput work left
            refine ⟨log, .ok status, left, later, ran, ?_⟩
            rw [if_neg failed, answer, Except.bind, if_neg failed, ← read]

/-- Every run in a work directory takes its course. -/
theorem course_runIn (pipeline : Pipeline) (work : Path) (host : Host)
    : Course pipeline work host (perform (pipeline.runIn work) host).1
        (perform (pipeline.runIn work) host).2 := by
  refine Ends.outcome ?_
  refine ((logs_executeGuest pipeline).ends host).andThen ?_ ?_
  · rintro failure _ ⟨fails, log, rfl⟩
    exact .unproved (by rw [fails]; rfl)
  rintro ⟨segment, session⟩ _ ⟨executed, log, rfl⟩
  refine ((logs_proveAndLift pipeline segment).ends _).andThen ?_ ?_
  · rintro failure _ ⟨fails, log, rfl⟩
    exact .unproved (by rw [executed]; exact fails)
  rintro lifted _ ⟨proved, log, rfl⟩
  refine ((Ends.of_run (pipeline.prepareWitness lifted work) _).and
    (ends_prepareWitness pipeline lifted work _)).andThen ?_ ?_
  · rintro failure after ⟨stopped, _⟩
    exact .unprepared executed proved stopped
  rintro _ _ ⟨prepared, identity, files, written, _, _, rfl⟩
  obtain ⟨asking, outcome, left, later, ran, answered⟩ :=
    perform_proveWitness_answer pipeline work { host with files := files, log := written }
  -- At success a last line comes into the log, so the course is taken whatever the log is
  have course (later : List LogLine)
      : Course pipeline work host
          ((pipeline.answer work outcome left).map (pipeline.product lifted session))
          { left with log := later } :=
    .asked executed proved prepared ran
  rw [Ends, perform_bind, answered]
  cases read : pipeline.answer work outcome left with
  | error failure =>
      rw [read] at course
      exact course later
  | ok proof =>
      rw [read] at course
      exact course _

-----------------------------------------------------------------------------------------
-- The end of a run
-----------------------------------------------------------------------------------------

/-- What a run comes to at its end: what it has come to in its work directory, or the refusal to
clear the directory away.
-/
inductive Leaves (pipeline : Pipeline) (host : Host) (early : Except Failure Product) (left : Host)
    : Except Failure Product → Host → Prop where
  | cleared {files : FileTree} (leaving : pipeline.leave host left.files = .ok files)
    : Leaves pipeline host early left early { left with files := files }
  | blocked {refusal : Refusal}
    (untold
      : pipeline.workDirectory.or (BootstrapSettings.workDirectoryOf host.environment) = none)
    (refused : left.files.clear (temporaryLocation host) = .error refusal)
    : Leaves pipeline host early left
        (.error (.file ⟨refusal, (Path.mk .root (temporaryLocation host)).text⟩)) left

/-- Leaving asks for nothing. -/
theorem Leaves.events {early result : Except Failure Product} {left after : Host}
    (leaves : Leaves pipeline host early left result after)
    : after.events = left.events := by
  cases leaves with
  | cleared _ => rfl
  | blocked _ _ => rfl

/-- A run that can leave comes to what it has come to in its work directory. -/
theorem Leaves.of_cleared {early result : Except Failure Product} {left after : Host}
    {files : FileTree} (leaves : Leaves pipeline host early left result after)
    (leaving : pipeline.leave host left.files = .ok files)
    : result = early ∧ after = { left with files := files } := by
  cases leaves with
  | cleared again =>
      obtain rfl := Except.ok.inj (again.symm.trans leaving)
      exact ⟨rfl, rfl⟩
  | blocked untold refused =>
      rw [leave, untold] at leaving
      cases refused.symm.trans leaving

/-- A run that has made its work directory takes its course there, and then leaves. -/
theorem exists_course {result : Except Failure Product} {after : Host}
    (made : perform (pipeline.enter host) host = (.ok (), entered))
    (run : perform pipeline.run host = (result, after))
    : ∃ early left,
        Course pipeline (pipeline.workPath host) entered early left
        ∧ Leaves pipeline host early left result after := by
  refine ⟨_, _, course_runIn pipeline (pipeline.workPath host) entered, ?_⟩
  have ran := run.symm.trans (perform_run_of_entered made)
  generalize perform (pipeline.runIn (pipeline.workPath host)) entered = inner at ran
  cases leaving : pipeline.leave host inner.2.files with
  | ok files =>
      rw [leaving] at ran
      obtain ⟨rfl, rfl⟩ := Prod.mk.inj ran
      exact .cleared leaving
  | error refusal =>
      rw [leaving] at ran
      obtain ⟨rfl, rfl⟩ := Prod.mk.inj ran
      rw [leave] at leaving
      cases chosen
          : pipeline.workDirectory.or (BootstrapSettings.workDirectoryOf host.environment) with
      | some work =>
          rw [chosen] at leaving
          cases leaving
      | none =>
          rw [chosen] at leaving
          rw [workPath, chosen]
          exact .blocked chosen leaving

/-- Where all directories are left that the run has entered with, nothing is in the way. -/
theorem exists_leave_of_directories {files : FileTree}
    (made : perform (pipeline.enter host) host = (.ok (), entered))
    (kept
      : ∀ location, entered.files.lookup location = some .directory
          → files.lookup location = some .directory)
    : ∃ rest, pipeline.leave host files = .ok rest := by
  rw [leave]
  rw [enter] at made
  cases chosen
      : pipeline.workDirectory.or (BootstrapSettings.workDirectoryOf host.environment) with
  | some work => exact ⟨files, rfl⟩
  | none =>
      rw [chosen] at made
      obtain ⟨_, grown, directory, rfl⟩ := (Host.ends_change _ _ host).ok made
      obtain ⟨place, walked, there⟩ := FileTree.walk_of_makeDirectory directory
      exact ⟨_, FileTree.clear_of_directory (FileTree.walk_of_directories kept walked)
        (kept place there)⟩

theorem Leaves.of_kept {early result : Except Failure Product} {left after : Host}
    (leaves : Leaves pipeline host early left result after)
    (made : perform (pipeline.enter host) host = (.ok (), entered))
    (kept
      : ∀ location, entered.files.lookup location = some .directory
          → left.files.lookup location = some .directory)
    : ∃ files,
        pipeline.leave host left.files = .ok files
        ∧ result = early
        ∧ after = { left with files := files } := by
  obtain ⟨files, leaving⟩ := exists_leave_of_directories made kept
  exact ⟨files, leaving, leaves.of_cleared leaving⟩

end VerifierBootstrap.Pipeline
