import VerifierBootstrap.Proofs.FileTree.Locations
import VerifierBootstrap.Proofs.Host.Outcome
import VerifierBootstrap.Tools.Prover

/-!
One run of a prover. Of a host it changes what the prover left, and the host remembers it by one
event, with the files that the prover found.
-/

namespace VerifierBootstrap

open VerifierBootstrap.Action

/-- A prover that is run over a work directory ends with a status and leaves files. It is
remembered by an event.
-/
def Prover.Ran (prover : Prover) (work : Path) (host : Host) (status : Int) (event : Event)
    (left : FileTree)
    : Prop :=
  match prover with
  | .container setup =>
      ∃ command,
        setup.command host.containerTool host.directory work = .ok command
        ∧ host.launch host.events command host.files = .exited status left
        ∧ event = .started command host.files
  | .custom _ behaviour =>
      behaviour work host.files = (.ok status, left) ∧ event = .proved work host.files

/-- What a host is asked for when a prover is run over a work directory. -/
def Prover.Asks (prover : Prover) (work : Path) (host : Host) (event : Event) : Prop :=
  match prover with
  | .container setup =>
      ∃ command files,
        setup.command host.containerTool host.directory work = .ok command
        ∧ event = .started command files
  | .custom _ _ => ∃ files, event = .proved work files

/-- A prover that writes only inside the work directory: whatever files it finds and whatever comes
of its run, all places outside are as they were.
-/
def Prover.StaysWithin (prover : Prover) (work : Path) (host : Host) : Prop :=
  ∀ files log place,
    ¬ work.location host.directory <+: place
    → (perform (prover.run work) { host with files := files, log := log }).2.files.lookup place
      = files.lookup place

/-- A prover of the caller's own is run on the files, and is remembered with them. -/
theorem Prover.perform_run_custom (name : String)
    (behaviour : Path → FileTree → Except Failure Int × FileTree) (work : Path) (host : Host)
    : perform ((custom name behaviour).run work) host
      = ((behaviour work host.files).1,
          {
            host with
            files := (behaviour work host.files).2
            events := host.events ++ [.proved work host.files]
          }) :=
  perform_ofExcept _ _

/-- A program that has a status was started on the files as they were, and the files are those it
left.
-/
theorem Host.ends_started (command : List String) (host : Host)
    : Ends (start command) host
        (fun outcome after =>
          ∀ status,
            outcome = .ok status
            → ∃ left,
                host.launch host.events command host.files = .exited status left
                ∧ after
                  = {
                      host with
                      files := left
                      events := host.events ++ [.started command host.files]
                    })
        (fun _ _ => False) := by
  rw [start]
  refine .bind_ok (perform_get host) (.bind_ok rfl ?_)
  cases launched : host.launch host.events command host.files with
  | refused refusal =>
      refine .pure fun status same => ?_
      cases same
  | exited status left =>
      refine .bind_ok rfl (.pure fun other same => ?_)
      obtain rfl := Except.ok.inj same
      exact ⟨left, rfl, rfl⟩

/-- Whatever comes of its run, a prover is remembered by one event at most, and nothing else is. -/
theorem Prover.exists_asked_run (prover : Prover) (work : Path) (host : Host)
    : ∃ asked,
        asked.length ≤ 1
        ∧ (∀ event ∈ asked, prover.Asks work host event)
        ∧ (perform (prover.run work) host).2.events = host.events ++ asked := by
  cases prover with
  | container setup =>
      let asks := fun after : Host =>
        ∃ asked,
          asked.length ≤ 1
          ∧ (∀ event ∈ asked, (Prover.container setup).Asks work host event)
          ∧ after.events = host.events ++ asked
      refine @Ends.left _ _ _ asks ?_
      refine .bind_ok (perform_get host) ?_
      refine (Ends.ofExcept _ _).andThen
        (fun _ _ failed => failed.1 ▸ ⟨[], by simp, by simp, by simp⟩) ?_
      rintro command _ ⟨rfl, commanded⟩
      refine .bind_ok (Host.perform_note _ _ _) ?_
      refine (Host.ends_start command _).andThen (fun _ _ => False.elim) ?_
      intro outcome after started
      have once : asks after :=
        ⟨[_], by simp, fun event member => ⟨command, _, commanded, List.mem_singleton.mp member⟩,
          started⟩
      cases outcome with
      | error fault => exact .throw once
      | ok status => exact .pure once
  | custom name behaviour =>
      rw [perform_run_custom]
      exact ⟨[.proved work host.files], by simp,
        fun event member => ⟨host.files, List.mem_singleton.mp member⟩, rfl⟩

/-- A prover that has a status has run once. -/
theorem Prover.ends_run (prover : Prover) (work : Path) (host : Host)
    : Ends (prover.run work) host
        (fun status after =>
          ∃ event left log,
            prover.Ran work host status event left
            ∧ after
              = { host with files := left, log := log, events := host.events ++ [event] })
        (fun _ _ => True) := by
  cases prover with
  | container setup =>
      refine .bind_ok (perform_get host) ?_
      refine (Ends.ofExcept _ _).andThen (fun _ _ _ => trivial) ?_
      rintro command _ ⟨rfl, commanded⟩
      refine .bind_ok (Host.perform_note _ _ _) ?_
      refine (Host.ends_started command _).andThen (fun _ _ _ => trivial) ?_
      intro outcome after ended
      cases outcome with
      | error fault => exact trivial
      | ok status =>
          obtain ⟨left, launched, rfl⟩ := ended status rfl
          exact ⟨_, left, _, ⟨command, commanded, launched, rfl⟩, rfl⟩
  | custom name behaviour =>
      rw [Ends, perform_run_custom]
      cases behaved : behaviour work host.files with
      | mk outcome left =>
          cases outcome with
          | error failure => exact trivial
          | ok status => exact ⟨_, left, host.log, ⟨behaved, rfl⟩, rfl⟩

end VerifierBootstrap
