import VerifierBootstrap.Proofs.Host.Programs
import VerifierBootstrap.Proofs.Host.Setup
import VerifierBootstrap.Proofs.Pipeline.Frame

/-!
The footprint of a run whose prover is a container. The run itself touches the two files of the
witness, or all that is in its temporary directory; every other place is left to the prover, which
is a program that is started once at most.
-/

namespace VerifierBootstrap

open VerifierBootstrap.Action Witness

/-- The content of a place is left to a program that is started. -/
theorem Host.relays_start (place : Location) (command : List String) (host : Host)
    : host.Relays place (perform (start command) host).2 := by
  rw [start, perform_bind_ok (perform_get host)]
  cases launched : host.launch host.events command host.files with
  | refused refusal =>
      refine ⟨rfl, rfl, [.started command host.files], rfl, rfl, ?_⟩
      rw [launched]
      rfl
  | exited status files =>
      refine ⟨rfl, rfl, [.started command host.files], rfl, rfl, ?_⟩
      rw [launched]
      rfl

/-- Whether a container can be run or not, the content of a place is left to it. -/
theorem Container.relays_run (container : Container) (place : Location) (work : Path) (host : Host)
    : host.Relays place (perform (container.run work) host).2 := by
  have logged {α : Type} {action : Action α} (logs : Host.OnlyLogs action) (host : Host)
      : host.Relays place (perform action host).2 := by
    obtain ⟨log, left⟩ := logs host
    rw [left]
    exact (Host.Kept.of_log log).relays place
  rw [run, perform_bind_ok (perform_get host)]
  refine related_bind (Host.Relays place) .trans (logged (.of_logs (.ofExcept _)) host) ?_
  intro command middle
  refine related_bind (Host.Relays place) .trans (logged (.note _ _) middle) ?_
  intro _ middle
  refine related_bind (Host.Relays place) .trans (Host.relays_start place command middle) ?_
  rintro (fault | status) middle
  · exact logged (.throw _) middle
  · exact logged (.of_logs (.pure status)) middle

theorem Container.keepsSetup_run (container : Container) (work : Path)
    : Host.KeepsSetup (container.run work) := by
  refine .bind .get fun host => .bind (.ofExcept _) fun command => .bind (.note _ _) fun _ =>
    .bind (.start command) fun outcome => ?_
  cases outcome with
  | error fault => exact .throw _
  | ok status => exact .pure status

/-- The command of a container has six words. -/
theorem Container.length_command {container : Container} {installed : Option String}
    {directory : Location} {work : Path} {command : List String}
    (made : container.command installed directory work = .ok command)
    : command.length = 6 := by
  rw [Container.command] at made
  split at made
  · exact nomatch made
  · split at made
    · exact nomatch made
    · obtain rfl := Except.ok.inj made
      rfl

namespace Pipeline

variable {pipeline : Pipeline} {container : Container} {host after : Host}
  {result : Except Failure Product} {place : Location}

/-- The places that a run touches itself: the two files of the witness in a work directory that was
chosen, or all that is in a temporary one.
-/
def Occupies (pipeline : Pipeline) (host : Host) (place : Location) : Prop :=
  match pipeline.workDirectory.or (BootstrapSettings.workDirectoryOf host.environment) with
  | some work =>
      place = (work.child "seal.r0").location host.directory
      ∨ place = (work.child "input.json").location host.directory
  | none => temporaryLocation host <+: place

/-- A temporary work directory has a name without double dots. -/
def WellPlaced (pipeline : Pipeline) (host : Host) : Prop :=
  pipeline.workDirectory.or (BootstrapSettings.workDirectoryOf host.environment) = none
  → ".." ∉ host.temporary

/-- What was handed over to a container is left to it. -/
theorem HandedOver.relayed {work : Path} {found left : FileTree} {events : List Event}
    (handed : HandedOver (.container container) work host found events left) (place : Location)
    : ∃ asked,
        events = host.events ++ asked
        ∧ Relayed host.launch place host.events asked (found.content? place)
            (left.content? place) := by
  cases handed with
  | unasked => exact ⟨[], by simp, rfl⟩
  | @asked log _ _ ran =>
      have relays := container.relays_run place work { host with files := found, log := log }
      rw [show container.run work = (Prover.container container).run work from rfl, ran] at relays
      exact relays.relayed

theorem keepsSetup_prepareWitness (pipeline : Pipeline) (lifted : SuccinctReceipt) (work : Path)
    : Host.KeepsSetup (pipeline.prepareWitness lifted work) := by
  have written (path : Path) (content : Bytes) : Host.KeepsSetup (Host.writeBytes path content) :=
    .of_filesOnly (Host.filesOnly_change path _)
  have wrote (sealBytes : Bytes) : Host.KeepsSetup (Witness.write sealBytes work) :=
    .bind (written _ _) fun _ => .bind (written _ _) fun _ => .bind (.ofExcept _) fun _ =>
      .bind (written _ _) fun _ => .pure _
  exact .bind (.note _ _) fun _ => .bind (.ofExcept _) fun identity => .bind (.note _ _) fun _ =>
    .bind (wrote identity.sealBytes) fun _ => .pure _

/-- Whatever comes of a run with a container, the setup of the host is the same. -/
theorem keepsSetup_run (contained : pipeline.prover = .container container)
    : Host.KeepsSetup pipeline.run := by
  have proved (work : Path) : Host.KeepsSetup (pipeline.proveWitness work) := by
    rw [proveWitness, contained]
    refine .bind (.note _ _) fun _ => .bind (container.keepsSetup_run work) fun status => ?_
    split
    · exact .bind (.throw _) fun _ => .of_onlyLogs (onlyLogs_readOutput work)
    · exact .of_onlyLogs (onlyLogs_readOutput work)
  have inner (work : Path) : Host.KeepsSetup (pipeline.runIn work) :=
    .bind (.of_onlyLogs (.of_logs (logs_executeGuest pipeline))) fun _ =>
      .bind (.of_onlyLogs (.of_logs (logs_proveAndLift pipeline _))) fun lifted =>
        .bind (keepsSetup_prepareWitness pipeline lifted work) fun _ => .bind (proved work) fun _ =>
          .bind (.note _ _) fun _ => .pure _
  refine .bind .get fun host => ?_
  dsimp only
  split
  · exact .bind (.of_filesOnly (Host.filesOnly_ensureDirectory _)) fun _ => inner _
  · exact .withTemporaryDirectory inner

/-- In the places that a run does not touch, the prover has found what was there before, and what it
has left there is there in the end.
-/
theorem exists_handedOver_of_run (placed : pipeline.WellPlaced host)
    (run : perform pipeline.run host = (result, after))
    : ∃ found left,
        HandedOver pipeline.prover (pipeline.workPath host) host found after.events left
        ∧ ∀ place,
            ¬ pipeline.Occupies host place
            → found.content? place = host.files.content? place
              ∧ after.files.content? place = left.content? place := by
  simp only [Occupies, workPath]
  cases chosen
      : pipeline.workDirectory.or (BootstrapSettings.workDirectoryOf host.environment) with
  | some work =>
      obtain ⟨made, found, grown, edited, handed⟩ := exists_found_of_chosen chosen run
      refine ⟨found, after.files, handed, fun place free => ⟨?_, rfl⟩⟩
      rw [FileTree.content?, FileTree.content?]
      rcases grown.lookup_of_edited edited place with
        same | ⟨⟨file, member, named⟩, _⟩ | ⟨empty, new, _⟩
      · have same : found.lookup place = host.files.lookup place := same
        rw [same]
      · have located := FileTree.eq_location_of_locate named.2
        rcases List.mem_pair.mp member with rfl | rfl
        · exact (free (.inl located)).elim
        · exact (free (.inr located)).elim
      · have empty : host.files.lookup place = none := empty
        have new : found.lookup place = some .directory := new
        rw [empty, new]
  | none =>
      rcases exists_found_of_temporary chosen (placed chosen) run with
        ⟨rfl, _⟩ | ⟨found, left, lent, cleared⟩
      · exact ⟨after.files, after.files, .unasked, fun _ _ => ⟨rfl, rfl⟩⟩
      · refine ⟨found, left, lent.handed, fun place free => ⟨?_, ?_⟩⟩
        · rw [FileTree.content?, FileTree.content?, lent.outside place free]
        · rw [FileTree.content?, FileTree.content?, cleared.lookup_of_not_prefix free]

/-- Whatever comes of a run with a container, the places that it does not touch are left to the
container.
-/
theorem relays_of_run (contained : pipeline.prover = .container container)
    (placed : pipeline.WellPlaced host) (free : ¬ pipeline.Occupies host place)
    (run : perform pipeline.run host = (result, after))
    : host.Relays place after := by
  obtain ⟨found, left, handed, same⟩ := exists_handedOver_of_run placed run
  obtain ⟨before, behind⟩ := same place free
  rw [contained] at handed
  have setup := keepsSetup_run contained host
  rw [run] at setup
  refine ⟨setup.directory, setup.launch, ?_⟩
  rw [behind, ← before]
  exact handed.relayed place

end Pipeline

end VerifierBootstrap
