import VerifierBootstrap.Proofs.Host.Perform

/-!
Outcomes of actions: what holds when an action has succeeded, and what holds when it has failed.
The outcome of two parts is put together from theirs, so each action is opened once.
-/

namespace VerifierBootstrap

namespace Action

variable {α β : Type}

theorem perform_tryCatch (action : Action α) (handler : Failure → Action α) (host : Host)
    : perform (tryCatch action handler) host
      = match perform action host with
        | (.ok result, after) => (.ok result, after)
        | (.error failure, after) => perform (handler failure) after := by
  cases run : perform action host with
  | mk result after =>
      have run : StateT.run action host = (result, after) := run
      simp only [perform, tryCatch, tryCatchThe, MonadExceptOf.tryCatch, ExceptT.tryCatch,
        ExceptT.run_mk, StateT.run_bind, run]
      cases result with
      | ok value => rfl
      | error failure => rfl

theorem perform_andFinally (action : Action α) (ending : Action Unit) (host : Host)
    : perform (andFinally action ending) host
      = match perform ending (perform action host).2 with
        | (.ok _, after) => ((perform action host).1, after)
        | (.error failure, after) => (.error failure, after) := by
  cases run : perform action host with
  | mk outcome middle =>
      cases ended : perform ending middle with
      | mk result after =>
          have run : StateT.run (ExceptT.run action) host = (outcome, middle) := run
          have ended : StateT.run (ExceptT.run ending) middle = (result, after) := ended
          simp only [perform, andFinally, ExceptT.run_mk, StateT.run_bind, run]
          simp only [bind, ended]
          cases result with
          | ok _ => rfl
          | error failure => rfl

/-- Run on a host, an action succeeds as in `value` or fails as in `failed`. -/
def Ends (action : Action α) (host : Host) (value : α → Host → Prop)
    (failed : Failure → Host → Prop) : Prop :=
  match perform action host with
  | (.ok result, after) => value result after
  | (.error failure, after) => failed failure after

namespace Ends

variable {action : Action α} {host : Host} {value : α → Host → Prop}
  {failed : Failure → Host → Prop}

theorem ok (ends : Ends action host value failed) {result : α} {after : Host}
    (run : perform action host = (.ok result, after))
    : value result after := by
  rw [Ends, run] at ends
  exact ends

theorem error (ends : Ends action host value failed) {failure : Failure} {after : Host}
    (run : perform action host = (.error failure, after))
    : failed failure after := by
  rw [Ends, run] at ends
  exact ends

/-- An action ends as its run does. -/
theorem of_run (action : Action α) (host : Host)
    : Ends action host (fun result after => perform action host = (.ok result, after))
        (fun failure after => perform action host = (.error failure, after)) := by
  rw [Ends]
  split
  · assumption
  · assumption

/-- What holds of each outcome with the host that is left holds of the run. -/
theorem outcome {holds : Except Failure α → Host → Prop}
    (ends
      : Ends action host (fun result after => holds (.ok result) after)
          fun failure after => holds (.error failure) after)
    : holds (perform action host).1 (perform action host).2 := by
  cases run : perform action host with
  | mk outcome after =>
      cases outcome with
      | ok result => exact ends.ok run
      | error failure => exact ends.error run

/-- What holds behind success and behind failure holds of the host that is left. -/
theorem left {holds : Host → Prop}
    (ends : Ends action host (fun _ after => holds after) fun _ after => holds after)
    : holds (perform action host).2 :=
  @outcome _ _ _ (fun _ => holds) ends

/-- What holds of the host that is left holds behind success and behind failure. -/
theorem of_left {holds : Host → Prop} (kept : holds (perform action host).2)
    : Ends action host (fun _ after => holds after) fun _ after => holds after := by
  rw [Ends]
  split
  · rename_i run
    rw [run] at kept
    exact kept
  · rename_i run
    rw [run] at kept
    exact kept

theorem mono {more : α → Host → Prop} {other : Failure → Host → Prop}
    (ends : Ends action host value failed)
    (succeeds : ∀ result after, value result after → more result after)
    (fails : ∀ failure after, failed failure after → other failure after)
    : Ends action host more other := by
  rw [Ends]
  split
  · rename_i result after run
    exact succeeds result after (ends.ok run)
  · rename_i failure after run
    exact fails failure after (ends.error run)

/-- Of one run, all that was shown of it holds. -/
theorem and {more : α → Host → Prop} {other : Failure → Host → Prop}
    (ends : Ends action host value failed) (also : Ends action host more other)
    : Ends action host (fun result after => value result after ∧ more result after)
        (fun failure after => failed failure after ∧ other failure after) := by
  rw [Ends] at ends also ⊢
  split
  · rename_i run
    rw [run] at ends also
    exact ⟨ends, also⟩
  · rename_i run
    rw [run] at ends also
    exact ⟨ends, also⟩

theorem pure {result : α} (holds : value result host)
    : Ends (Pure.pure result) host value failed := holds

theorem throw {failure : Failure} (holds : failed failure host)
    : Ends (MonadExcept.throw failure : Action α) host value failed := holds

theorem ofExcept (result : Except Failure α) (host : Host)
    : Ends (Action.ofExcept result) host
        (fun given after => after = host ∧ result = .ok given)
        (fun failure after => after = host ∧ result = .error failure) := by
  rw [Ends, perform_ofExcept]
  cases result with
  | ok given => exact ⟨rfl, rfl⟩
  | error failure => exact ⟨rfl, rfl⟩

/-- Of two parts the second ends as the whole does, and the first may fail in a way of its own. -/
theorem andThen {first : Action β} {next : β → Action α} {middle : β → Host → Prop}
    {early : Failure → Host → Prop} (ends : Ends first host middle early)
    (fails : ∀ failure after, early failure after → failed failure after)
    (rest : ∀ result after, middle result after → Ends (next result) after value failed)
    : Ends (first >>= next) host value failed := by
  rw [Ends, perform_bind]
  cases run : perform first host with
  | mk outcome after =>
      cases outcome with
      | ok result => exact rest result after (ends.ok run)
      | error failure => exact fails failure after (ends.error run)

theorem bind {first : Action β} {next : β → Action α} {middle : β → Host → Prop}
    (ends : Ends first host middle failed)
    (rest : ∀ result after, middle result after → Ends (next result) after value failed)
    : Ends (first >>= next) host value failed :=
  ends.andThen (fun _ _ => id) rest

theorem bind_ok {first : Action β} {next : β → Action α} {result : β} {after : Host}
    (run : perform first host = (.ok result, after))
    (rest : Ends (next result) after value failed)
    : Ends (first >>= next) host value failed := by
  rw [Ends, perform_bind_ok run]
  exact rest

theorem tryCatch {handler : Failure → Action α} {caught : Failure → Host → Prop}
    (ends : Ends action host value caught)
    (rest : ∀ failure after, caught failure after → Ends (handler failure) after value failed)
    : Ends (MonadExcept.tryCatch action handler) host value failed := by
  rw [Ends]
  have run := perform_tryCatch action handler host
  cases tried : perform action host with
  | mk outcome after =>
      rw [tried] at run
      cases outcome with
      | ok result =>
          rw [run]
          exact ends.ok tried
      | error failure =>
          rw [run]
          exact rest failure after (ends.error tried)

/-- What has to be done at the end comes behind success and behind failure, and may fail itself. -/
theorem andFinally {ending : Action Unit} {more : α → Host → Prop} {other : Failure → Host → Prop}
    (ends : Ends action host value failed)
    (succeeds
      : ∀ result after,
          value result after → Ends ending after (fun _ left => more result left) other)
    (fails
      : ∀ failure after,
          failed failure after → Ends ending after (fun _ left => other failure left) other)
    : Ends (Action.andFinally action ending) host more other := by
  rw [Ends, perform_andFinally]
  cases run : perform action host with
  | mk outcome after =>
      cases ended : perform ending after with
      | mk result left =>
          cases outcome with
          | ok value =>
              have behind := succeeds value after (ends.ok run)
              cases result with
              | ok _ => exact behind.ok ended
              | error failure => exact behind.error ended
          | error early =>
              have behind := fails early after (ends.error run)
              cases result with
              | ok _ => exact behind.ok ended
              | error failure => exact behind.error ended

end Ends

end Action

theorem Action.FilesOnly.ends {α : Type} {action : Action α} (kept : Action.FilesOnly action)
    (host : Host)
    : Action.Ends action host (fun _ after => ∃ files, after = { host with files := files })
        (fun _ after => ∃ files, after = { host with files := files }) :=
  .of_left ⟨_, kept host⟩

/-- The file system has refused something, or a path could not be handed to it. -/
def Failure.OfFiles : Failure → Prop
  | .file _ | .embeddedNul => True
  | _ => False

namespace Host

open VerifierBootstrap.Action

theorem Logs.ends {α : Type} {action : Action α} {result : Except Failure α}
    (logs : Logs action result) (host : Host)
    : Ends action host
        (fun value after => result = .ok value ∧ ∃ log, after = { host with log := log })
        (fun failure after =>
          result = .error failure ∧ ∃ log, after = { host with log := log }) := by
  obtain ⟨log, run⟩ := logs host
  rw [Ends, run]
  cases result with
  | ok value => exact ⟨rfl, log, rfl⟩
  | error failure => exact ⟨rfl, log, rfl⟩

-----------------------------------------------------------------------------------------
-- Questions and changes
-----------------------------------------------------------------------------------------

theorem ends_requirePassable (path : Path) (host : Host)
    : Ends (requirePassable path) host
        (fun _ after => after = host ∧ path.holdsNul = false)
        (fun failure after => after = host ∧ failure.OfFiles) := by
  rw [requirePassable]
  split
  · exact .throw ⟨rfl, trivial⟩
  · rename_i passable
    exact .pure ⟨rfl, eq_false_of_ne_true passable⟩

/-- A question is answered by the file system, and leaves the host as it is. -/
theorem ends_ask {α : Type} (path : Path)
    (question : FileTree → Location → Path → Except Refusal α) (host : Host)
    : Ends (ask path question) host
        (fun answer after =>
          after = host
          ∧ path.holdsNul = false
          ∧ question host.files host.directory path = .ok answer)
        (fun failure after => after = host ∧ failure.OfFiles) := by
  refine (ends_requirePassable path host).bind ?_
  intro _ host ended
  rcases ended with ⟨rfl, passable⟩
  refine .bind_ok (perform_get host) ?_
  cases answered : question host.files host.directory path with
  | ok answer => exact .pure ⟨rfl, passable, rfl⟩
  | error refusal => exact .throw ⟨rfl, trivial⟩

/-- A change is the one that the file system makes. -/
theorem ends_change (path : Path)
    (operation : FileTree → Location → Path → Except Refusal FileTree) (host : Host)
    : Ends (change path operation) host
        (fun _ after =>
          path.holdsNul = false
          ∧ ∃ files,
              operation host.files host.directory path = .ok files
              ∧ after = { host with files := files })
        (fun failure after => after = host ∧ failure.OfFiles) := by
  refine (ends_ask path operation host).bind ?_
  intro files host ended
  rcases ended with ⟨rfl, passable, changed⟩
  exact ⟨passable, files, changed, rfl⟩

theorem ends_readText (path : Path) (host : Host)
    : Ends (readText path) host
        (fun text after =>
          after = host
          ∧ ∃ content decoded,
              host.files.read host.directory path = .ok content
              ∧ Utf8.decode content = .ok decoded
              ∧ text = Text.unifyLines decoded)
        (fun _ after => after = host) := by
  refine (ends_ask path FileTree.read host).andThen (fun _ _ => And.left) ?_
  intro content host ended
  rcases ended with ⟨rfl, _, held⟩
  cases read : Utf8.decode content with
  | ok decoded => exact ⟨rfl, content, decoded, held, read, rfl⟩
  | error fault => exact rfl

theorem ends_writeSource (path : Path) (text : Text) (host : Host)
    : Ends (writeSource path text) host
        (fun _ after =>
          host.sourcesLocked = false
          ∧ path.holdsNul = false
          ∧ ∃ files,
              host.files.write host.directory path (Utf8.encode text) = .ok files
              ∧ after = { host with files := files })
        (fun _ after => after = host) := by
  refine Ends.bind_ok (perform_get host) ?_
  dsimp only
  split
  · exact rfl
  · rename_i unlocked
    exact (ends_change path
      (fun files directory path => files.write directory path (Utf8.encode text)) host).mono
      (fun _ _ => .intro (eq_false_of_ne_true unlocked)) fun _ _ => And.left

section TemporaryDirectory

variable {α : Type} {label : String} {action : Path → Action α} {host : Host}

/-- An action runs in a temporary directory that could be made. The directory is cleared away then,
and where that is refused the refusal is all that comes of it.
-/
theorem perform_withTemporaryDirectory {entered : Host}
    (made
      : perform (makeDirectory ⟨.root, host.temporary ++ [label ++ host.temporaryEnding]⟩) host
        = (.ok (), entered))
    : let path : Path := ⟨.root, host.temporary ++ [label ++ host.temporaryEnding]⟩
      let ran := perform (action path) entered
      perform (withTemporaryDirectory label action) host
      = match ran.2.files.clear path.parts with
        | .ok files => (ran.1, { ran.2 with files := files })
        | .error refusal => (.error (.file ⟨refusal, path.text⟩), ran.2) := by
  intro path ran
  have passable : path.holdsNul = false := ((ends_change _ _ host).ok made).1
  rw [withTemporaryDirectory, perform_bind_ok (perform_get host), perform_bind_ok made,
    perform_andFinally, clearAway, perform_change passable]
  cases ran.2.files.clear path.parts with
  | ok files => rfl
  | error refusal => rfl

theorem perform_withTemporaryDirectory_error {failure : Failure} {after : Host}
    (unmade
      : perform (makeDirectory ⟨.root, host.temporary ++ [label ++ host.temporaryEnding]⟩) host
        = (.error failure, after))
    : perform (withTemporaryDirectory label action) host = (.error failure, after) := by
  rw [withTemporaryDirectory, perform_bind_ok (perform_get host), perform_bind_error unmade]

end TemporaryDirectory

/-- An action in a temporary directory is run on the host with other files, and clearing the
directory away changes files only.
-/
theorem ends_withTemporaryDirectory {α : Type} {label : String} {action : Path → Action α}
    {host : Host} {value : α → Host → Prop}
    (inner
      : ∀ files,
          Ends (action ⟨.root, host.temporary ++ [label ++ host.temporaryEnding]⟩)
            { host with files := files } value fun _ _ => True)
    (stays : ∀ result after files, value result after → value result { after with files := files })
    : Ends (withTemporaryDirectory label action) host value fun _ _ => True := by
  refine .bind_ok (perform_get host) ?_
  refine (ends_change _ _ host).andThen (fun _ _ _ => trivial) ?_
  rintro _ _ ⟨_, files, _, rfl⟩
  refine (inner files).andFinally ?_ fun _ after _ => .of_left trivial
  intro result after holds
  refine (ends_change _ _ after).mono ?_ fun _ _ _ => trivial
  rintro _ _ ⟨_, cleared, _, rfl⟩
  exact stays result after cleared holds

/-- A program is started on the files as they are, and starting it does not fail. -/
theorem ends_start (command : List String) (host : Host)
    : Ends (start command) host
        (fun _ after => after.events = host.events ++ [.started command host.files])
        (fun _ _ => False) := by
  rw [start]
  refine .bind_ok (perform_get host) (.bind_ok rfl ?_)
  cases host.launch host.events command host.files with
  | refused refusal => exact .pure rfl
  | exited status files => exact .bind_ok rfl (.pure rfl)

end Host

end VerifierBootstrap
