import VerifierBootstrap.Proofs.Host.Outcome
import VerifierBootstrap.Tools.Formatter

/-!
One run of a formatter. It is started once, on the files as they are, and the files that it leaves
are all that comes of it besides its status.
-/

namespace VerifierBootstrap

open VerifierBootstrap.Action

/-- The files that a launch leaves, if the program was to start on the given ones. -/
def Launch.left (found : FileTree) : Launch → FileTree
  | .refused _ => found
  | .exited _ files => files

/-- What a run over a path comes to, by what becomes of starting the program. -/
def Formatter.outcome (formatter : Formatter) (path : Path) : Launch → Except Failure Unit
  | .refused refusal =>
      let fault : FileFault := ⟨refusal, (formatter.command ++ [path.text]).headD ""⟩
      .error (.process formatter.name none s!"failed to format {path.text}: {fault.message}")
  | .exited status _ =>
      if status = 0 then .ok ()
      else .error (.process formatter.name (some status) s!"failed to format {path.text}")

namespace Formatter

/-- A run of a formatter, whatever comes of starting it. -/
theorem perform_format (formatter : Formatter) (path : Path) (host : Host)
    : let command := formatter.command ++ [path.text]
      let launched := host.launch host.events command host.files
      perform (formatter.format path) host
      = (formatter.outcome path launched,
          {
            host with
            files := launched.left host.files
            log := host.log ++ [⟨.info, s!"formatting {path.text} with {formatter.name}"⟩]
            events := host.events ++ [.started command host.files]
          }) := by
  intro command launched
  have asked (log : List LogLine)
      : perform (Host.start command) { host with log := log }
        = (.ok (match launched with
            | .refused refusal => .error ⟨refusal, command.headD ""⟩
            | .exited status _ => .ok status),
          {
            host with
            files := launched.left host.files
            log := log
            events := host.events ++ [.started command host.files]
          }) := by
    rw [Host.start, perform_bind_ok (perform_get _)]
    dsimp only
    rw [show host.launch host.events command host.files = launched from rfl]
    cases launched with
    | refused refusal => rfl
    | exited status files => rfl
  rw [format, perform_bind_ok (Host.perform_note _ _ host), perform_bind_ok (asked _)]
  cases launched with
  | refused refusal => rfl
  | exited status files =>
      by_cases well : status = 0
      · simp [well, outcome]
      · simp [well, outcome]

/-- A formatter is started on the files as they are, whatever comes of it. -/
theorem ends_format (formatter : Formatter) (path : Path) (host : Host)
    : let started := Event.started (formatter.command ++ [path.text]) host.files
      Ends (formatter.format path) host
        (fun _ after => after.events = host.events ++ [started])
        (fun _ after => after.events = host.events ++ [started]) := by
  refine .of_left ?_
  rw [perform_format]

end Formatter

end VerifierBootstrap
