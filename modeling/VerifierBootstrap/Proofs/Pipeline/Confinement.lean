import VerifierBootstrap.Proofs.Pipeline.Course

/-!
Where runs leave traces. In a work directory that was chosen, a run itself touches the two files of
the witness and makes the directory with those above it; from a temporary one it leaves nothing.
What else is different afterwards was the prover's doing.
-/

namespace VerifierBootstrap.Pipeline

open VerifierBootstrap.Action Witness

/-- The directory that a run is told to work in: the one that is given, or else the one that the
environment names, if any does.
-/
inductive Chooses (pipeline : Pipeline) (environment : Environment) : Option Path → Prop where
  | given {work : Path} (told : pipeline.workDirectory = some work)
    : Chooses pipeline environment (some work)
  | named {name : String} (untold : pipeline.workDirectory = none)
    (set : environment.lookup "RISC0_WORK_DIR" = some name) (filled : name ≠ "")
    : Chooses pipeline environment (some (Path.ofString name))
  | temporary (untold : pipeline.workDirectory = none)
    (unset
      : environment.lookup "RISC0_WORK_DIR" = none
        ∨ environment.lookup "RISC0_WORK_DIR" = some "")
    : Chooses pipeline environment none

/-- What becomes of the files that a run has prepared: without a run of the prover they stay as they
are, and else they are as the prover leaves them.
-/
inductive HandedOver (prover : Prover) (work : Path) (host : Host) (found : FileTree)
    : List Event → FileTree → Prop where
  | unasked : HandedOver prover work host found host.events found
  | asked {log : List LogLine} {outcome : Except Failure Int} {left : Host}
    (ran : perform (prover.run work) { host with files := found, log := log } = (outcome, left))
    : HandedOver prover work host found left.events left.files

variable {pipeline : Pipeline} {host entered : Host}

/-- The choice of a directory is the one that a run makes. -/
theorem chooses_iff {environment : Environment} {chosen : Option Path}
    : pipeline.Chooses environment chosen
      ↔ pipeline.workDirectory.or (BootstrapSettings.workDirectoryOf environment) = chosen := by
  rw [BootstrapSettings.workDirectoryOf, BootstrapSettings.workDirectorySetting,
    Environment.filled?]
  constructor
  · intro chooses
    cases chooses with
    | given told => rw [told, Option.some_or]
    | named untold set filled =>
        rw [untold, set, Option.none_or]
        simp [filled]
    | temporary untold unset =>
        rw [untold, Option.none_or]
        rcases unset with missing | empty
        · rw [missing]
          rfl
        · rw [empty]
          rfl
  · rintro rfl
    cases told : pipeline.workDirectory with
    | some work =>
        rw [Option.some_or]
        exact .given told
    | none =>
        rw [Option.none_or]
        cases set : environment.lookup "RISC0_WORK_DIR" with
        | none => exact .temporary told (.inl set)
        | some name =>
            by_cases empty : name = ""
            · subst empty
              exact .temporary told (.inr set)
            · simpa [empty] using Chooses.named told set empty

/-- The files of the witness are in the work directory. -/
theorem location_prefix_of_names {work : Path} {place : Location}
    (named : ∃ file ∈ preparedPaths work, host.Names file place)
    : work.location host.directory <+: place := by
  obtain ⟨file, member, _, located⟩ := named
  obtain ⟨name, exchanged, rfl⟩ : ∃ name ∈ exchangeNames, file = work.child name := by
    rcases List.mem_pair.mp member with rfl | rfl
    · exact ⟨sealName, by simp [exchangeNames], rfl⟩
    · exact ⟨witnessName, by simp [exchangeNames], rfl⟩
  obtain ⟨base, reached, _, rfl⟩ := Exchange.locate_child exchanged located
  rw [← FileTree.eq_location_of_locate reached]
  exact List.prefix_append _ _

-----------------------------------------------------------------------------------------
-- Ahead of the prover
-----------------------------------------------------------------------------------------

/-- Of the files that it enters with, a run touches those of the witness, and hands them over. -/
theorem Course.exists_found {work : Path} {result : Except Failure Product} {left : Host}
    (course : Course pipeline work host result left)
    : ∃ found,
        Host.Edited (preparedPaths work) host { host with files := found }
        ∧ HandedOver pipeline.prover work host found left.events left.files := by
  cases course with
  | unproved _ => exact ⟨host.files, .of_same rfl rfl, .unasked⟩
  | @unprepared _ _ lifted log _ _ _ _ stopped =>
      obtain ⟨edited, unasked⟩ := edited_of_prepareWitness stopped
      refine ⟨left.files, ⟨rfl, edited.files⟩, ?_⟩
      rw [unasked]
      exact .unasked
  | @asked _ _ _ found _ _ _ _ _ left _ _ prepared ran =>
      have handed : HandedOver pipeline.prover work host found left.events left.files := .asked ran
      exact ⟨found, ⟨rfl, (edited_of_prepareWitness prepared).1.files⟩, handed⟩

theorem HandedOver.of_files {prover : Prover} {work : Path} {host : Host}
    {files found left : FileTree} {events : List Event}
    (handed : HandedOver prover work { host with files := files } found events left)
    : HandedOver prover work host found events left := by
  cases handed with
  | unasked => exact .unasked
  | asked ran => exact .asked ran

/-- A prover that replies without an output leaves what it has found. -/
theorem HandedOver.eq_of_silent {name : String} {directory : Location} {work : Path}
    {status : Bytes → Int} {found left : FileTree} {events : List Event}
    (handed
      : HandedOver (.replying name directory fun content => (status content, none)) work host found
          events left)
    : left = found := by
  cases handed with
  | unasked => rfl
  | asked ran =>
      rw [Prover.replying, Prover.perform_run_custom] at ran
      obtain ⟨_, rfl⟩ := Prod.mk.inj ran
      dsimp only
      split
      · rfl
      · rfl

/-- A run whose prover replies without an output can leave, and comes to what its stages come to. -/
theorem fst_perform_run_of_silent {name : String} {status : Bytes → Int} {base : Location}
    (silent
      : pipeline.prover
        = .replying name entered.directory fun content => (status content, none))
    (made : perform (pipeline.enter host) host = (.ok (), entered))
    (exchange : Exchange (pipeline.workPath host) entered.directory base entered.files)
    : (perform pipeline.run host).1
      = pipeline.attempt.bind
          (pipeline.conclusion entered.limits.nesting (pipeline.workPath host)
            (fun content => (status content, none))
            (entered.files.content? (base ++ [outputName]))) := by
  have answers
      : pipeline.prover.Answers (pipeline.workPath host) entered
          fun content => (status content, none) := by
    rw [silent]
    exact Prover.answers_replying name _ entered _
  obtain ⟨found, edited, handed⟩ :=
    (course_runIn pipeline (pipeline.workPath host) entered).exists_found
  obtain ⟨rest, leaving⟩ :=
    exists_leave_of_directories made fun place => (edited.files.directories place).mpr
  rw [silent] at handed
  rw [← handed.eq_of_silent] at leaving
  rw [fst_perform_run_of_leave made leaving, perform_runIn exchange answers]

/-- A run in a directory that was chosen makes directories along its path, and then touches the
files of the witness.
-/
theorem exists_found_of_chosen {work : Path} {result : Except Failure Product} {after : Host}
    (chosen
      : pipeline.workDirectory.or (BootstrapSettings.workDirectoryOf host.environment)
        = some work)
    (run : perform pipeline.run host = (result, after))
    : ∃ made found,
        Host.Grown work host made
        ∧ Host.Edited (preparedPaths work) made { host with files := found }
        ∧ HandedOver pipeline.prover work host found after.events after.files := by
  have path : pipeline.workPath host = work := by rw [workPath, chosen, Option.getD_some]
  have entering := ends_enter pipeline host
  rw [path] at entering
  cases made : perform (pipeline.enter host) host with
  | mk outcome entered =>
      cases outcome with
      | error failure =>
          rw [perform_run_of_unentered made] at run
          obtain ⟨rfl, rfl⟩ := Prod.mk.inj run
          have same := eq_of_enter made
          refine ⟨entered, entered.files, entering.error made, ?_, ?_⟩
          · exact .of_same (entering.error made).directory.symm rfl
          · rw [show entered.events = host.events by rw [same]]
            exact .unasked
      | ok _ =>
          obtain ⟨early, left, course, leaves⟩ := exists_course made run
          rw [path] at course
          obtain ⟨found, edited, handed⟩ := course.exists_found
          have entry := eq_of_enter made
          rw [entry] at edited handed
          refine ⟨entered, found, entering.ok made, ?_, ?_⟩
          · rw [entry]
            exact edited
          · cases leaves with
            | cleared leaving =>
                rw [leave, chosen] at leaving
                obtain rfl := Except.ok.inj leaving
                exact handed.of_files
            | blocked untold => cases untold.symm.trans chosen

-----------------------------------------------------------------------------------------
-- Temporary directories
-----------------------------------------------------------------------------------------

theorem not_mem_temporaryLocation (absolute : ".." ∉ host.temporary)
    : ".." ∉ temporaryLocation host := by
  have labelled : ".." ≠ temporaryLabel ++ host.temporaryEnding := by
    intro same
    have length := congrArg String.length same
    rw [String.length_append, show temporaryLabel.length = 18 from rfl,
      show "..".length = 2 from rfl] at length
    omega
  simp [temporaryLocation, absolute, labelled]

theorem location_temporary (absolute : ".." ∉ host.temporary) (directory : Location)
    : (Path.mk .root (temporaryLocation host)).location directory = temporaryLocation host :=
  Path.location_root (not_mem_temporaryLocation absolute) directory

/-- The path of a temporary directory leads to where it is cleared away. -/
theorem eq_of_locate_temporary (absolute : ".." ∉ host.temporary) {files : FileTree}
    {directory place : Location}
    (located : files.locate directory ⟨.root, temporaryLocation host⟩ = .ok place)
    : place = temporaryLocation host :=
  (FileTree.eq_location_of_locate located).trans (location_temporary absolute directory)

theorem eq_set_of_makeDirectory {files : FileTree} (absolute : ".." ∉ host.temporary)
    (made
      : host.files.makeDirectory host.directory ⟨.root, temporaryLocation host⟩ = .ok files)
    : files = host.files.set (temporaryLocation host) .directory := by
  obtain ⟨place, located, _, rfl⟩ := FileTree.makeDirectory_eq_ok made
  rw [eq_of_locate_temporary absolute located]

/-- The files of the witness are in the temporary directory. -/
theorem prefix_of_names (absolute : ".." ∉ host.temporary) {other : Host} {place : Location}
    (named
      : ∃ file ∈ preparedPaths ⟨.root, temporaryLocation host⟩, other.Names file place)
    : temporaryLocation host <+: place := by
  rw [← location_temporary absolute other.directory]
  exact location_prefix_of_names named

/-- A temporary directory has been cleared away, or else a file was in the way and all is left. -/
inductive Cleared (host : Host) (left : FileTree) : Except Failure Product → FileTree → Prop where
  | away {result : Except Failure Product}
    (free : ¬ left.Blocked [] (temporaryLocation host))
    : Cleared host left result (left.removeBelow (temporaryLocation host))
  | stays (blocked : left.Blocked [] (temporaryLocation host))
    : Cleared host left
        (.error (.file ⟨.notDirectory, (Path.mk .root (temporaryLocation host)).text⟩)) left

/-- Outside of the directory all is as it was left. -/
theorem Cleared.lookup_of_not_prefix {left files : FileTree} {result : Except Failure Product}
    (cleared : Cleared host left result files) {place : Location}
    (outside : ¬ temporaryLocation host <+: place)
    : files.lookup place = left.lookup place := by
  cases cleared with
  | away _ => exact FileTree.lookup_removeBelow_of_not_prefix _ outside
  | stays _ => rfl

/-- Inside of it nothing is there that was not left. -/
theorem Cleared.lookup_of_prefix {left files : FileTree} {result : Except Failure Product}
    (cleared : Cleared host left result files) {place : Location} {node : Node}
    (inside : temporaryLocation host <+: place) (there : files.lookup place = some node)
    : left.lookup place = some node := by
  cases cleared with
  | away _ =>
      have below : place ≠ [] := by
        rintro rfl
        simp [temporaryLocation] at inside
      have gone := FileTree.lookup_removeBelow_of_prefix left below inside
      cases gone.symm.trans there
  | stays _ => exact there

theorem cleared_of_leaves {early result : Except Failure Product} {left after : Host}
    (chosen
      : pipeline.workDirectory.or (BootstrapSettings.workDirectoryOf host.environment) = none)
    (absolute : ".." ∉ host.temporary)
    (short : ∀ part ∈ temporaryLocation host, part.utf8ByteSize ≤ Path.nameLimit)
    (leaves : Leaves pipeline host early left result after)
    : Cleared host left.files result after.files ∧ after.events = left.events := by
  have down := not_mem_temporaryLocation absolute
  by_cases blocked : left.files.Blocked [] (temporaryLocation host)
  · have refused := FileTree.clear_of_blocked down short blocked
    cases leaves with
    | cleared leaving =>
        rw [leave, chosen] at leaving
        cases refused.symm.trans leaving
    | blocked _ again =>
        obtain rfl := Except.error.inj (refused.symm.trans again)
        exact ⟨.stays blocked, rfl⟩
  · have gone := FileTree.clear_of_free down short blocked
    cases leaves with
    | cleared leaving =>
        rw [leave, chosen] at leaving
        obtain rfl := Except.ok.inj (gone.symm.trans leaving)
        exact ⟨.away blocked, rfl⟩
    | blocked _ again => cases gone.symm.trans again

/-- What a run in a temporary directory hands over to its prover, and what the prover leaves.
Outside of the directory nothing is touched, and the directory with those above it is there.
-/
structure Lent (pipeline : Pipeline) (host : Host) (found left : FileTree) (events : List Event)
    : Prop where
  short : ∀ part ∈ temporaryLocation host, part.utf8ByteSize ≤ Path.nameLimit
  outside
    : ∀ place, ¬ temporaryLocation host <+: place → found.lookup place = host.files.lookup place
  directories
    : ∀ place,
        found.lookup place = some .directory
        ↔ host.files.lookup place = some .directory ∨ place = temporaryLocation host
  reached : found.walk [] (temporaryLocation host) = .ok (temporaryLocation host)
  handed : HandedOver pipeline.prover ⟨.root, temporaryLocation host⟩ host found events left

/-- A run in a temporary directory touches nothing outside of it, and clears it away if it can. -/
theorem exists_found_of_temporary {result : Except Failure Product} {after : Host}
    (chosen
      : pipeline.workDirectory.or (BootstrapSettings.workDirectoryOf host.environment) = none)
    (absolute : ".." ∉ host.temporary) (run : perform pipeline.run host = (result, after))
    : (after = host ∧ ∃ failure, result = .error failure)
      ∨ ∃ found left,
          Lent pipeline host found left after.events ∧ Cleared host left result after.files := by
  have path : pipeline.workPath host = ⟨.root, temporaryLocation host⟩ := by
    rw [workPath, chosen, Option.getD_none]
    rfl
  have entering
      : pipeline.enter host = Host.makeDirectory ⟨.root, temporaryLocation host⟩ := by
    rw [enter, chosen]
  have ends := Host.ends_change ⟨.root, temporaryLocation host⟩ FileTree.makeDirectory host
  cases made : perform (pipeline.enter host) host with
  | mk outcome entered =>
      cases outcome with
      | error failure =>
          rw [perform_run_of_unentered made] at run
          obtain ⟨rfl, rfl⟩ := Prod.mk.inj run
          rw [entering] at made
          exact .inl ⟨(ends.error made).1, failure, rfl⟩
      | ok _ =>
          obtain ⟨early, left, course, leaves⟩ := exists_course made run
          rw [path] at course
          obtain ⟨found, edited, handed⟩ := course.exists_found
          rw [entering] at made
          obtain ⟨_, files, directory, rfl⟩ := ends.ok made
          obtain ⟨place, walked, _⟩ := FileTree.walk_of_makeDirectory directory
          have walked : files.walk [] (temporaryLocation host) = .ok place := walked
          obtain rfl := FileTree.eq_of_walk_top (not_mem_temporaryLocation absolute) walked
          have short := FileTree.short_of_walk walked
          obtain ⟨cleared, events⟩ := cleared_of_leaves chosen absolute short leaves
          have set := eq_set_of_makeDirectory absolute directory
          refine .inr ⟨found, left.files, ⟨short, ?_, ?_, ?_, ?_⟩, cleared⟩
          · intro place outside
            rw [edited.files.elsewhere place fun named => outside (prefix_of_names absolute named),
              set]
            exact FileTree.lookup_set_of_ne _ _ fun same => outside (same ▸ List.prefix_rfl)
          · intro place
            rw [edited.files.directories, set]
            by_cases same : place = temporaryLocation host
            · subst same
              simp [FileTree.lookup_set_self, temporaryLocation]
            · rw [FileTree.lookup_set_of_ne _ _ same, or_iff_left same]
          · exact FileTree.walk_of_directories (fun _ => (edited.files.directories _).mpr) walked
          · rw [events]
            exact handed.of_files

/-- A run leaves no trace outside of its work directory, whether it succeeds or fails. In a
directory that was chosen it touches the files of the witness and makes missing directories along
the path; a temporary directory, whose place has no double dot in it, is gone with all that was in
it, and outside of it the run touches nothing. Only the prover may have touched more. A prover that
has put a file in place of the directory, or of one on the way to it, has itself taken the directory
away: then the file stays as the prover has left it, and the run fails for that. Witness: each
course of a run edits the files of the witness at most, and behind each the directory is cleared
away.
-/
theorem run_confined {chosen : Option Path} {result : Except Failure Product} {after : Host}
    (chooses : pipeline.Chooses host.environment chosen)
    (run : perform pipeline.run host = (result, after))
    : (∀ work,
          chosen = some work
          → ∃ found,
              (∀ place,
                found.lookup place = host.files.lookup place
                ∨ ((∃ file ∈ [work.child "seal.r0", work.child "input.json"],
                      Host.Names { host with files := found } file place)
                    ∧ host.files.lookup place ≠ some .directory
                    ∧ found.lookup place ≠ some .directory)
                ∨ (host.files.lookup place = none
                    ∧ found.lookup place = some .directory
                    ∧ Host.PassesThrough { host with files := found } work place))
              ∧ HandedOver pipeline.prover work host found after.events after.files)
      ∧ (chosen = none
          → ".." ∉ host.temporary
          → (after = host ∧ ∃ failure, result = .error failure)
            ∨ ∃ found left,
                (∀ place,
                  ¬ temporaryLocation host <+: place
                  → found.lookup place = host.files.lookup place)
                ∧ HandedOver pipeline.prover ⟨.root, temporaryLocation host⟩ host found
                    after.events left
                ∧ (∀ name rest place,
                    after.files.locate host.directory
                      ⟨.root, temporaryLocation host ++ name :: rest⟩
                    ≠ .ok place)
                ∧ (¬ left.Blocked [] (temporaryLocation host)
                    → ∀ place,
                        after.files.lookup place
                        = if temporaryLocation host <+: place then none else left.lookup place)
                ∧ (left.Blocked [] (temporaryLocation host)
                    → after.files = left
                      ∧ result
                        = .error
                          (.file ⟨.notDirectory, (Path.mk .root (temporaryLocation host)).text⟩)
                      ∧ ∃ front content,
                          front <+: temporaryLocation host
                          ∧ found.lookup front = some .directory
                          ∧ left.lookup front = some (.file content))) := by
  have choice := chooses_iff.mp chooses
  constructor
  · rintro work rfl
    obtain ⟨made, found, grown, edited, handed⟩ := exists_found_of_chosen choice run
    exact ⟨found, grown.lookup_of_edited edited, handed⟩
  · rintro rfl absolute
    have down := not_mem_temporaryLocation absolute
    have below : temporaryLocation host ≠ [] := by simp [temporaryLocation]
    refine (exists_found_of_temporary choice absolute run).imp_right ?_
    rintro ⟨found, left, lent, cleared⟩
    refine ⟨found, left, lent.outside, lent.handed, ?_⟩
    generalize after.files = files at cleared
    cases cleared with
    | away free =>
        refine ⟨fun _ _ _ => FileTree.locate_removeBelow_ne down below, fun _ place => ?_,
          fun blocked => absurd blocked free⟩
        split
        · rename_i inside
          refine FileTree.lookup_removeBelow_of_prefix _ ?_ inside
          rintro rfl
          exact below (List.prefix_nil.mp inside)
        · rename_i elsewhere
          exact FileTree.lookup_removeBelow_of_not_prefix _ elsewhere
    | stays blocked =>
        refine ⟨fun _ _ _ => blocked.locate_ne down lent.short, fun free => absurd blocked free,
          fun _ => ⟨rfl, rfl, ?_⟩⟩
        obtain ⟨front, content, inside, file, _⟩ := blocked
        refine ⟨front, content, inside, ?_, file⟩
        exact FileTree.lookup_of_walk_prefix down lent.reached
          ((lent.directories _).mpr (.inr rfl)) inside

/-- The environment names an empty directory, so the run is in a temporary one. Its prover fails
over the witness, and of both nothing is left.
-/
theorem run_confined_failed
    : let pipeline : Pipeline :=
        ⟨DevMode.standard.engine, .replying "own" [] fun _ => (125, none), none, 0⟩
      let host : Host :=
        {
          files := ⟨[(["tmp"], .directory), (["tmp", "kept"], .file [1])]⟩
          directory := []
          temporary := ["tmp"]
          temporaryEnding := "0"
          environment := [("RISC0_WORK_DIR", "")]
          limits := .usual
          containerTool := none
          sourcesLocked := false
          responses := []
          launch := fun _ _ _ => .refused .notFound
          log := []
          events := []
        }
      ∃ after,
        perform pipeline.run host = (.error (.process "own" (some 125) ""), after)
        ∧ ∀ place, after.files.lookup place = host.files.lookup place := by
  intro pipeline host
  let location : Location := ["tmp", "groth16-bootstrap-0"]
  let entered : Host := { host with files := host.files.set location .directory }
  have located : temporaryLocation host = location := by decide
  have made : perform (pipeline.enter host) host = (.ok (), entered) := by
    rw [show pipeline.enter host = Host.makeDirectory ⟨.root, temporaryLocation host⟩ from rfl,
      located]
    rfl
  have exchange : Exchange ⟨.root, location⟩ entered.directory location entered.files :=
    ⟨by decide, by decide +kernel, by decide +kernel⟩
  obtain ⟨attempt, attempted⟩ : ∃ attempt, pipeline.attempt = .ok attempt :=
    exists_attempt_standard rfl rfl
  have outcome : (perform pipeline.run host).1 = .error (.process "own" (some 125) "") := by
    have path : pipeline.workPath host = ⟨.root, location⟩ := by
      rw [← located]
      rfl
    rw [← path] at exchange
    rw [fst_perform_run_of_silent rfl made exchange, attempted]
    rfl
  cases run : perform pipeline.run host with
  | mk result after =>
      rw [run] at outcome
      obtain rfl := outcome
      refine ⟨after, rfl, fun place => ?_⟩
      rcases (run_confined (.temporary rfl (.inr rfl)) run).2 rfl (by decide) with
        ⟨rfl, _⟩ | ⟨found, left, outside, handed, _, cleared, stuck⟩
      · rfl
      obtain rfl := handed.eq_of_silent
      have free : ¬ left.Blocked [] (temporaryLocation host) := by
        intro blocked
        obtain ⟨_, _, front, content, _, directory, file⟩ := stuck blocked
        cases directory.symm.trans file
      rw [cleared free, located]
      rw [located] at outside
      split
      · rename_i inside
        obtain ⟨rest, rfl⟩ := inside
        rfl
      · rename_i elsewhere
        exact outside place elsewhere

end VerifierBootstrap.Pipeline
