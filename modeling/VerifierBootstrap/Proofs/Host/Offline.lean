import VerifierBootstrap.Proofs.Host.Silence

/-!
Actions that do not depend on the network. On two hosts that differ in the responses to come an
offline action comes to the same and changes the same, and it uses no response up.
-/

namespace VerifierBootstrap.Host

open VerifierBootstrap.Action

/-- The host with other responses to come. -/
def awaiting (host : Host) (responses : List Response) : Host :=
  { host with responses := responses }

/-- The first response to come is the answer to a request. -/
theorem perform_request_awaiting (url : String) (timeout : Int) (host : Host)
    (response : Response) (later : List Response)
    : perform (request url timeout) (host.awaiting (response :: later))
      = (.ok response,
          { host with
            responses := later
            events := host.events ++ [.requested url timeout] }) := rfl

/-- An action that neither looks at the responses to come nor uses one up. -/
def Offline {α : Type} (action : Action α) : Prop :=
  ∀ (host : Host) (responses : List Response),
    perform action (host.awaiting responses)
      = ((perform action host).1, (perform action host).2.awaiting responses)

/-- Two runs come to the same and leave the same, apart from the responses that are still to come.
-/
structure SameRun {α : Type} (run other : Except Failure α × Host) : Prop where
  outcome : run.1 = other.1
  left : run.2.awaiting [] = other.2.awaiting []

namespace SameRun

variable {α : Type} {run other : Except Failure α × Host}

theorem of_eq (same : run = other) : SameRun run other := by
  subst same
  exact ⟨rfl, rfl⟩

theorem files (same : SameRun run other) : run.2.files = other.2.files := by
  have left := congrArg Host.files same.left
  exact left

theorem log (same : SameRun run other) : run.2.log = other.2.log := by
  have left := congrArg Host.log same.left
  exact left

theorem events (same : SameRun run other) : run.2.events = other.2.events := by
  have left := congrArg Host.events same.left
  exact left

end SameRun

namespace Offline

variable {α β : Type}

theorem pure (value : α) : Offline (Pure.pure value) := fun _ _ => rfl

theorem throw (failure : Failure) : Offline (MonadExcept.throw failure : Action α) :=
  fun _ _ => rfl

theorem ofExcept (result : Except Failure α) : Offline (Action.ofExcept result) := by
  intro host responses
  rw [perform_ofExcept, perform_ofExcept]

theorem note (level : LogLevel) (text : String) : Offline (Host.note level text) := fun _ _ => rfl

theorem setFiles (files : FileTree)
    : Offline (modify fun host => { host with files := files }) := fun _ _ => rfl

theorem bind {action : Action α} {next : α → Action β} (first : Offline action)
    (rest : ∀ value, Offline (next value))
    : Offline (action >>= next) := by
  intro host responses
  rw [Action.perform_bind, Action.perform_bind, first host responses]
  cases perform action host with
  | mk result middle =>
      cases result with
      | ok value => exact rest value middle responses
      | error failure => rfl

/-- What follows an offline action goes on with the same value and with the responses as they were.
-/
theorem perform_bind {action : Action α} (offline : Offline action) (next : α → Action β)
    (host : Host) (responses : List Response)
    : perform (action >>= next) (host.awaiting responses)
      = match perform action host with
        | (.ok value, after) => perform (next value) (after.awaiting responses)
        | (.error failure, after) => (.error failure, after.awaiting responses) := by
  rw [Action.perform_bind, offline host responses]
  cases perform action host with
  | mk result after => cases result <;> rfl

/-- An action that looks at the host is offline if what it goes on with is, and is the same whatever
the responses to come.
-/
theorem looking {next : Host → Action β}
    (blind : ∀ (host : Host) responses, next (host.awaiting responses) = next host)
    (rest : ∀ host, Offline (next host))
    : Offline (get >>= next) := by
  intro host responses
  rw [perform_bind_ok (perform_get _), perform_bind_ok (perform_get _), blind]
  exact rest host host responses

theorem requirePassable (path : Path) : Offline (Host.requirePassable path) := by
  rw [Host.requirePassable]
  split
  · exact .throw _
  · exact .pure ()

theorem ask (path : Path) (question : FileTree → Location → Path → Except Refusal α)
    : Offline (Host.ask path question) := by
  refine .bind (.requirePassable path) fun _ => .looking (fun _ _ => rfl) fun host => ?_
  cases question host.files host.directory path with
  | ok answer => exact .pure answer
  | error refusal => exact .throw _

theorem change (path : Path)
    (operation : FileTree → Location → Path → Except Refusal FileTree)
    : Offline (Host.change path operation) :=
  .bind (.ask path operation) fun files => .setFiles files

theorem nodeAt? (path : Path) : Offline (Host.nodeAt? path) := by
  rw [Host.nodeAt?]
  split
  · exact .pure none
  · exact .ask path _

theorem fileExists (path : Path) : Offline (Host.fileExists path) :=
  .bind (.nodeAt? path) fun _ => .pure _

theorem unlessDirectory (refusal : Refusal) (path : Path)
    : Offline (do unless ← isDirectory path do refuse refusal path) := by
  refine .bind (.bind (.nodeAt? path) fun _ => .pure _) fun there => ?_
  cases there with
  | true => exact .pure ()
  | false => exact .throw _

theorem makeLastDirectory (path : Path) : Offline (Host.makeLastDirectory path) := by
  refine .looking (fun _ _ => rfl) fun host => ?_
  cases host.files.makeDirectory host.directory path with
  | ok files => exact .setFiles files
  | error refusal =>
      cases refusal with
      | notFound => exact .throw _
      | _ => exact .unlessDirectory _ path

/-- Making a directory with those above it is offline. By recursion on the path: the directories
above have one part less.
-/
theorem ensureDirectory (path : Path) : Offline (Host.ensureDirectory path) := by
  rw [Host.ensureDirectory]
  refine .bind (.requirePassable path) fun _ => .looking (fun _ _ => rfl) fun host => ?_
  cases host.files.makeDirectory host.directory path with
  | ok files => exact .setFiles files
  | error refusal =>
      cases refusal with
      | notFound =>
          by_cases top : path.parts = []
          · rw [dif_pos top]
            exact .throw _
          · rw [dif_neg top]
            exact .bind (ensureDirectory path.parent) fun _ => .makeLastDirectory path
      | _ => exact .unlessDirectory _ path
termination_by path.parts.length
decreasing_by
  have : path.parts.length ≠ 0 := by simpa using top
  simp [Path.parent]
  omega

-----------------------------------------------------------------------------------------
-- Runs with different responses to come
-----------------------------------------------------------------------------------------

theorem sameRun {action : Action α} (offline : Offline action) (host : Host)
    (responses others : List Response)
    : SameRun (perform action (host.awaiting responses))
        (perform action (host.awaiting others)) := by
  rw [offline host responses, offline host others]
  exact ⟨rfl, rfl⟩

/-- Runs that begin with the same offline action are the same if they go on the same. -/
theorem sameRun_bind {action : Action α} {next : α → Action β} {host : Host}
    {responses others : List Response} (offline : Offline action)
    (rest
      : ∀ value middle,
          SameRun (perform (next value) (awaiting middle responses))
            (perform (next value) (awaiting middle others)))
    : SameRun (perform (action >>= next) (host.awaiting responses))
        (perform (action >>= next) (host.awaiting others)) := by
  rw [offline.perform_bind next host responses, offline.perform_bind next host others]
  cases perform action host with
  | mk result middle =>
      cases result with
      | ok value => exact rest value middle
      | error failure => exact ⟨rfl, rfl⟩

end Offline

end VerifierBootstrap.Host
