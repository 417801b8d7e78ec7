import VerifierBootstrap.Proofs.Pipeline.Confinement

/-!
What a run leaves alone if its prover writes only inside the work directory. Outside of it nothing
but directories along its path can be new, whatever ends the run; and nothing but the prover is
asked for.
-/

namespace VerifierBootstrap

open VerifierBootstrap.Action Witness

/-- A path leads over each place that it passes through. -/
theorem Host.PassesThrough.leadsOver {host : Host} {path : Path} {place : Location}
    (passes : host.PassesThrough path place)
    : path.LeadsOver host.directory place := by
  obtain ⟨front, within, walked⟩ := passes
  exact ⟨front, within, FileTree.eq_foldl_of_walk walked⟩

/-- A prover that replies writes nothing but its output. -/
theorem Prover.staysWithin_replying (name : String) (work : Path) (host : Host)
    (respond : Bytes → Int × Option Bytes)
    : (replying name host.directory respond).StaysWithin work host := by
  intro files log place outside
  have printed (output : Bytes)
      : ((files.write host.directory (work.child outputName) output).toOption.getD files).lookup
          place
        = files.lookup place := by
    cases written : files.write host.directory (work.child outputName) output with
    | error refusal => rfl
    | ok left =>
        obtain ⟨target, located, _, rfl⟩ := FileTree.write_eq_ok written
        obtain ⟨base, reached, _, rfl⟩ :=
          Exchange.locate_child (by simp [exchangeNames]) located
        rw [← FileTree.eq_location_of_locate reached] at outside
        exact FileTree.lookup_set_of_ne _ _ fun same => outside (same ▸ List.prefix_append _ _)
  rw [replying, perform_run_custom]
  dsimp only
  cases files.read host.directory (work.child witnessName) with
  | error refusal => rfl
  | ok content =>
      rcases answer : respond content with ⟨status, - | output⟩
      · simp only [answer]
      · simp only [answer, printed]

namespace Pipeline

variable {pipeline : Pipeline} {host after : Host} {result : Except Failure Product}

/-- What is different after a run whose prover writes only inside the work directory. -/
structure Framed (pipeline : Pipeline) (host after : Host) : Prop where
  /-- Outside of the work directory, missing directories along its path were made at most. -/
  outside
    : ∀ place,
        ¬ (pipeline.workPath host).location host.directory <+: place
        → after.files.lookup place = host.files.lookup place
          ∨ (host.files.lookup place = none
              ∧ after.files.lookup place = some .directory
              ∧ (pipeline.workPath host).LeadsOver host.directory place)
  /-- Every other new directory was made by the prover. -/
  directories
    : ∃ found left,
        HandedOver pipeline.prover (pipeline.workPath host) host found after.events left
        ∧ ∀ place,
            after.files.lookup place = some .directory
            → host.files.lookup place = some .directory
              ∨ (pipeline.workPath host).LeadsOver host.directory place
              ∨ (found.lookup place ≠ some .directory ∧ left.lookup place = some .directory)
  /-- The prover is all that was asked for. -/
  events
    : ∃ asked,
        asked.length ≤ 1
        ∧ (∀ event ∈ asked, pipeline.prover.Asks (pipeline.workPath host) host event)
        ∧ after.events = host.events ++ asked

/-- What is handed over to a prover that stays within the work directory is the same outside. -/
theorem HandedOver.lookup {prover : Prover} {work : Path} {found left : FileTree}
    {events : List Event} (handed : HandedOver prover work host found events left)
    (within : prover.StaysWithin work host) {place : Location}
    (outside : ¬ work.location host.directory <+: place)
    : left.lookup place = found.lookup place := by
  cases handed with
  | unasked => rfl
  | @asked log _ _ ran =>
      have kept := within found log place outside
      rw [ran] at kept
      exact kept

theorem HandedOver.exists_asked {prover : Prover} {work : Path} {found left : FileTree}
    {events : List Event} (handed : HandedOver prover work host found events left)
    : ∃ asked,
        asked.length ≤ 1
        ∧ (∀ event ∈ asked, prover.Asks work host event)
        ∧ events = host.events ++ asked := by
  cases handed with
  | unasked => exact ⟨[], by simp, by simp, by simp⟩
  | @asked log _ _ ran =>
      have asked := prover.exists_asked_run work { host with files := found, log := log }
      rw [ran] at asked
      cases prover with
      | container setup => exact asked
      | custom name behaviour => exact asked

theorem framed_of_chosen {work : Path}
    (chosen
      : pipeline.workDirectory.or (BootstrapSettings.workDirectoryOf host.environment)
        = some work)
    (within : pipeline.prover.StaysWithin (pipeline.workPath host) host)
    (run : perform pipeline.run host = (result, after))
    : Framed pipeline host after := by
  obtain ⟨made, found, grown, edited, handed⟩ := exists_found_of_chosen chosen run
  obtain rfl : pipeline.workPath host = work := by rw [workPath, chosen, Option.getD_some]
  have changed := grown.lookup_of_edited edited
  refine ⟨?_, ⟨found, after.files, handed, ?_⟩, handed.exists_asked⟩
  · intro place outside
    rw [handed.lookup within outside]
    rcases changed place with same | ⟨named, _⟩ | ⟨empty, directory, passes⟩
    · exact .inl same
    · have inside := location_prefix_of_names named
      exact (outside inside).elim
    · exact .inr ⟨empty, directory, passes.leadsOver⟩
  · intro place directory
    by_cases before : found.lookup place = some .directory
    · rcases changed place with same | ⟨_, _, plain⟩ | ⟨_, _, passes⟩
      · exact .inl (same ▸ before)
      · exact (plain before).elim
      · exact .inr (.inl passes.leadsOver)
    · exact .inr (.inr ⟨before, directory⟩)

theorem framed_of_temporary
    (chosen
      : pipeline.workDirectory.or (BootstrapSettings.workDirectoryOf host.environment) = none)
    (absolute : ".." ∉ host.temporary)
    (within : pipeline.prover.StaysWithin (pipeline.workPath host) host)
    (run : perform pipeline.run host = (result, after))
    : Framed pipeline host after := by
  have work : pipeline.workPath host = ⟨.root, temporaryLocation host⟩ := by
    rw [workPath, chosen, Option.getD_none]
    rfl
  have location : (pipeline.workPath host).location host.directory = temporaryLocation host := by
    rw [work]
    exact location_temporary absolute host.directory
  rcases exists_found_of_temporary chosen absolute run with ⟨rfl, _⟩ | ⟨found, left, lent, cleared⟩
  · have handed : HandedOver pipeline.prover (pipeline.workPath after) after after.files _ _ :=
      .unasked
    exact ⟨fun _ _ => .inl rfl, ⟨_, _, handed, fun _ => .inl⟩, handed.exists_asked⟩
  have handed := lent.handed
  rw [← work] at handed
  have outside {place : Location} (elsewhere : ¬ temporaryLocation host <+: place)
      : after.files.lookup place = host.files.lookup place := by
    rw [cleared.lookup_of_not_prefix elsewhere, handed.lookup within (location ▸ elsewhere),
      lent.outside place elsewhere]
  refine ⟨?_, ⟨found, left, handed, ?_⟩, handed.exists_asked⟩
  · intro place elsewhere
    rw [location] at elsewhere
    exact .inl (outside elsewhere)
  · intro place directory
    by_cases inside : temporaryLocation host <+: place
    · -- Inside, a directory can be left only where clearing away has failed
      have remains := cleared.lookup_of_prefix inside directory
      by_cases before : found.lookup place = some .directory
      · refine ((lent.directories place).mp before).imp_right fun same => .inl ?_
        rw [same, ← location]
        exact ⟨_, List.prefix_rfl, rfl⟩
      · exact .inr (.inr ⟨before, remains⟩)
    · exact .inl (outside inside ▸ directory)

/-- Whatever comes of a run, its work directory is all that it leaves traces in. -/
theorem framed_of_run (absolute : ".." ∉ host.temporary)
    (within : pipeline.prover.StaysWithin (pipeline.workPath host) host)
    (run : perform pipeline.run host = (result, after))
    : Framed pipeline host after := by
  cases chosen
      : pipeline.workDirectory.or (BootstrapSettings.workDirectoryOf host.environment) with
  | some work => exact framed_of_chosen chosen within run
  | none => exact framed_of_temporary chosen absolute within run

/-- Where a directory was made there was no file, so outside all files have their content. -/
theorem Framed.content? (framed : Framed pipeline host after) {place : Location}
    (outside : ¬ (pipeline.workPath host).location host.directory <+: place)
    : after.files.content? place = host.files.content? place := by
  rw [FileTree.content?, FileTree.content?]
  rcases framed.outside place outside with same | ⟨empty, directory, _⟩
  · rw [same]
  · rw [empty, directory]

end Pipeline

end VerifierBootstrap
