import VerifierBootstrap.Host.Files

/-!
Runs of actions on a host. A run is taken apart at its binds: the first part either fails, which
ends the run with the host as it is, or gives a value and a host that the rest goes on with.
-/

namespace VerifierBootstrap.Action

variable {α β : Type}

@[simp] theorem perform_pure (value : α) (host : Host)
    : perform (pure value) host = (.ok value, host) := rfl

@[simp] theorem perform_throw (failure : Failure) (host : Host)
    : perform (throw failure : Action α) host = (.error failure, host) := rfl

@[simp] theorem perform_get (host : Host) : perform get host = (.ok host, host) := rfl

@[simp] theorem perform_modify (change : Host → Host) (host : Host)
    : perform (modify change) host = (.ok (), change host) := rfl

@[simp] theorem perform_ofExcept (result : Except Failure α) (host : Host)
    : perform (ofExcept result) host = (result, host) := by
  cases result with
  | ok value => rfl
  | error failure => rfl

/-- A run of two parts is a run of the first, and of the second unless the first has failed. -/
theorem perform_bind (action : Action α) (next : α → Action β) (host : Host)
    : perform (action >>= next) host
      = match perform action host with
        | (.ok value, after) => perform (next value) after
        | (.error failure, after) => (.error failure, after) := by
  simp only [perform, ExceptT.run_bind, StateT.run_bind]
  cases (ExceptT.run action).run host with
  | mk result after =>
      cases result with
      | ok value => rfl
      | error failure => rfl

theorem perform_bind_ok {action : Action α} {host after : Host} {value : α}
    (run : perform action host = (.ok value, after)) (next : α → Action β)
    : perform (action >>= next) host = perform (next value) after := by
  rw [perform_bind, run]

theorem perform_bind_error {action : Action α} {host after : Host} {failure : Failure}
    (run : perform action host = (.error failure, after)) (next : α → Action β)
    : perform (action >>= next) host = (.error failure, after) := by
  rw [perform_bind, run]

theorem fst_perform_bind_error {action : Action α} {host : Host} {failure : Failure}
    (fails : (perform action host).1 = .error failure) (next : α → Action β)
    : (perform (action >>= next) host).1 = .error failure := by
  cases run : perform action host with
  | mk result after =>
      rw [run] at fails
      obtain rfl := fails
      rw [perform_bind_error run]

/-- What is related before and after each of two parts is related before and after both. -/
theorem related_bind (relation : Host → Host → Prop)
    (trans
      : ∀ {before middle after},
          relation before middle → relation middle after → relation before after)
    {action : Action α} {next : α → Action β} {host : Host}
    (first : relation host (perform action host).2)
    (rest : ∀ value middle, relation middle (perform (next value) middle).2)
    : relation host (perform (action >>= next) host).2 := by
  rw [perform_bind]
  cases run : perform action host with
  | mk result middle =>
      rw [run] at first
      cases result with
      | ok value => exact trans first (rest value middle)
      | error failure => exact first

/-- What is made of the value at the end changes nothing about the host. -/
theorem perform_bind_pure (action : Action α) (change : α → β) (host : Host)
    : perform (action >>= fun value => pure (change value)) host
      = ((perform action host).1.map change, (perform action host).2) := by
  rw [perform_bind]
  cases perform action host with
  | mk result after =>
      cases result with
      | ok value => rfl
      | error failure => rfl

theorem perform_discard (action : Action α) (host : Host)
    : perform (discard action) host
      = ((perform action host).1.map fun _ => (), (perform action host).2) :=
  perform_bind_pure action (fun _ => ()) host

/-- An action changes nothing of a host but its files. -/
def FilesOnly (action : Action α) : Prop :=
  ∀ host, (perform action host).2 = { host with files := (perform action host).2.files }

namespace FilesOnly

theorem pure (value : α) : FilesOnly (Pure.pure value) := fun _ => rfl

theorem throw (failure : Failure) : FilesOnly (MonadExcept.throw failure : Action α) := fun _ => rfl

theorem get : FilesOnly (MonadState.get : Action Host) := fun _ => rfl

theorem setFiles (files : FileTree)
    : FilesOnly (modify fun host => { host with files := files }) := fun _ => rfl

theorem bind {action : Action α} {next : α → Action β} (first : FilesOnly action)
    (rest : ∀ value, FilesOnly (next value))
    : FilesOnly (action >>= next) := by
  intro host
  refine related_bind (fun before after => after = { before with files := after.files }) ?_
    (first host) rest
  intro before middle after kept keeps
  rw [keeps, kept]

end FilesOnly

end VerifierBootstrap.Action

namespace VerifierBootstrap.Host

/-- A host with some files, on which every program ends well and leaves them as they are. -/
def quiet (files : FileTree) : Host where
  files := files
  directory := []
  temporary := ["tmp"]
  temporaryEnding := "0"
  environment := []
  limits := .usual
  containerTool := none
  sourcesLocked := false
  responses := []
  launch := fun _ _ files => .exited 0 files
  log := []
  events := []

open VerifierBootstrap.Action

@[simp] theorem perform_note (level : LogLevel) (text : String) (host : Host)
    : perform (note level text) host
      = (.ok (), { host with log := host.log ++ [⟨level, text⟩] }) := rfl

/-- An action comes to a result and changes nothing of a host but its log. -/
def Logs {α : Type} (action : Action α) (result : Except Failure α) : Prop :=
  ∀ host, ∃ log, perform action host = (result, { host with log := log })

namespace Logs

variable {α β : Type}

theorem pure (value : α) : Logs (Pure.pure value) (.ok value) := fun host => ⟨host.log, rfl⟩

theorem throw (failure : Failure) : Logs (MonadExcept.throw failure : Action α) (.error failure) :=
  fun host => ⟨host.log, rfl⟩

theorem ofExcept (result : Except Failure α) : Logs (Action.ofExcept result) result :=
  fun host => ⟨host.log, perform_ofExcept result host⟩

theorem note (level : LogLevel) (text : String) : Logs (Host.note level text) (.ok ()) :=
  fun _ => ⟨_, rfl⟩

theorem bind {action : Action α} {next : α → Action β} {result : Except Failure α}
    {final : α → Except Failure β} (first : Logs action result)
    (rest : ∀ value, Logs (next value) (final value))
    : Logs (action >>= next) (result.bind final) := by
  intro host
  obtain ⟨middle, run⟩ := first host
  cases result with
  | error failure => exact ⟨middle, perform_bind_error run next⟩
  | ok value =>
      obtain ⟨log, more⟩ := rest value { host with log := middle }
      exact ⟨log, (perform_bind_ok run next).trans more⟩

theorem noted {level : LogLevel} {text : String} {next : Unit → Action β}
    {result : Except Failure β} (rest : Logs (next ()) result)
    : Logs (Host.note level text >>= next) result :=
  .bind (.note level text) fun _ => rest

theorem fst_perform_then {action : Action α} {next : α → Action β} {result : Except Failure α}
    {final : α → Except Failure β} {host : Host} (first : Logs action result)
    (rest : ∀ value log, (perform (next value) { host with log := log }).1 = final value)
    : (perform (action >>= next) host).1 = result.bind final := by
  obtain ⟨log, run⟩ := first host
  cases result with
  | error failure =>
      rw [perform_bind_error run]
      rfl
  | ok value =>
      rw [perform_bind_ok run]
      exact rest value log

/-- What comes behind an action and only logs is told from the result of the action. -/
theorem fst_perform_bind {next : α → Action β} {final : α → Except Failure β}
    (rest : ∀ value, Logs (next value) (final value)) (action : Action α) (host : Host)
    : (perform (action >>= next) host).1 = (perform action host).1.bind final := by
  rw [perform_bind]
  cases perform action host with
  | mk result after =>
      cases result with
      | error failure => rfl
      | ok value =>
          obtain ⟨log, more⟩ := rest value after
          exact congrArg Prod.fst more

theorem forM {items : List α} {action : α → Action Unit}
    (each : ∀ item, Logs (action item) (.ok ()))
    : Logs (items.forM action) (.ok ()) := by
  induction items with
  | nil => exact .pure ()
  | cons item rest ih => exact .bind (each item) fun _ => ih

end Logs

-----------------------------------------------------------------------------------------
-- Questions and changes at a path
-----------------------------------------------------------------------------------------

theorem perform_requirePassable {path : Path} (passable : path.holdsNul = false) (host : Host)
    : perform (requirePassable path) host = (.ok (), host) := by
  rw [requirePassable, passable]
  rfl

theorem perform_requirePassable_error {path : Path} (nul : path.holdsNul = true) (host : Host)
    : perform (requirePassable path) host = (.error .embeddedNul, host) := by
  rw [requirePassable, nul]
  rfl

/-- What the file system answers is the answer, and a refusal is reported with the path. -/
theorem perform_ask {α : Type} {path : Path} (passable : path.holdsNul = false)
    (question : FileTree → Location → Path → Except Refusal α) (host : Host)
    : perform (ask path question) host
      = match question host.files host.directory path with
        | .ok answer => (.ok answer, host)
        | .error refusal => (.error (.file ⟨refusal, path.text⟩), host) := by
  rw [ask, perform_bind_ok (perform_requirePassable passable host),
    perform_bind_ok (perform_get host)]
  cases question host.files host.directory path with
  | ok answer => rfl
  | error refusal => rfl

theorem perform_change {path : Path} (passable : path.holdsNul = false)
    (operation : FileTree → Location → Path → Except Refusal FileTree) (host : Host)
    : perform (change path operation) host
      = match operation host.files host.directory path with
        | .ok files => (.ok (), { host with files := files })
        | .error refusal => (.error (.file ⟨refusal, path.text⟩), host) := by
  have asked := perform_ask passable operation host
  cases changed : operation host.files host.directory path with
  | ok files =>
      rw [changed] at asked
      rw [change, perform_bind_ok asked, perform_modify]
  | error refusal =>
      rw [changed] at asked
      rw [change, perform_bind_error asked]

theorem perform_writeBytes {path : Path} {content : Bytes} {files : FileTree} {host : Host}
    (passable : path.holdsNul = false)
    (written : host.files.write host.directory path content = .ok files)
    : perform (writeBytes path content) host = (.ok (), { host with files := files }) := by
  rw [writeBytes, perform_change passable, written]

theorem perform_writeBytes_error {path : Path} {content : Bytes} {refusal : Refusal} {host : Host}
    (passable : path.holdsNul = false)
    (refused : host.files.write host.directory path content = .error refusal)
    : perform (writeBytes path content) host
      = (.error (.file ⟨refusal, path.text⟩), host) := by
  rw [writeBytes, perform_change passable, refused]

theorem perform_nodeAt? {path : Path} {node : Option Node} {host : Host}
    (passable : path.holdsNul = false)
    (found : host.files.node? host.directory path = .ok node)
    : perform (nodeAt? path) host = (.ok node, host) := by
  have asked := perform_ask passable FileTree.node? host
  rw [found] at asked
  simp only [nodeAt?, passable, Bool.false_eq_true, if_false]
  exact asked

theorem perform_fileExists {path : Path} {node : Option Node} {host : Host}
    (passable : path.holdsNul = false)
    (found : host.files.node? host.directory path = .ok node)
    : perform (fileExists path) host = (.ok node.isSome, host) := by
  rw [fileExists, perform_bind_ok (perform_nodeAt? passable found), perform_pure]

theorem perform_isDirectory {path : Path} {node : Option Node} {host : Host}
    (passable : path.holdsNul = false)
    (found : host.files.node? host.directory path = .ok node)
    : perform (isDirectory path) host = (.ok (decide (node = some .directory)), host) := by
  rw [isDirectory, perform_bind_ok (perform_nodeAt? passable found), perform_pure]

theorem perform_readBytes {path : Path} {content : Bytes} {host : Host}
    (passable : path.holdsNul = false)
    (held : host.files.read host.directory path = .ok content)
    : perform (readBytes path) host = (.ok content, host) := by
  rw [readBytes, perform_ask passable, held]

theorem perform_readText {path : Path} {content : Bytes} {host : Host}
    (passable : path.holdsNul = false)
    (held : host.files.read host.directory path = .ok content)
    : perform (readText path) host
      = (match Utf8.decode content with
          | .ok text => .ok (Text.unifyLines text)
          | .error fault => .error (.undecodable fault),
          host) := by
  rw [readText, perform_bind_ok (perform_readBytes passable held)]
  cases Utf8.decode content with
  | ok text => rfl
  | error fault => rfl

theorem perform_writeSource_of_locked {host : Host} (locked : host.sourcesLocked = true)
    (path : Path) (text : Text)
    : perform (writeSource path text) host
      = (.error (.file ⟨.notPermitted, path.text⟩), host) := by
  rw [writeSource, perform_bind_ok (perform_get host), if_pos locked]
  rfl

theorem perform_writeSource {host : Host} (unlocked : host.sourcesLocked = false)
    (path : Path) (text : Text)
    : perform (writeSource path text) host
      = perform (writeBytes path (Utf8.encode text)) host := by
  rw [writeSource, perform_bind_ok (perform_get host), if_neg (by simp [unlocked])]

-----------------------------------------------------------------------------------------
-- Directories
-----------------------------------------------------------------------------------------

theorem filesOnly_requirePassable (path : Path) : FilesOnly (requirePassable path) := by
  rw [requirePassable]
  split
  · exact .throw _
  · exact .pure _

theorem filesOnly_ask {α : Type} (path : Path)
    (question : FileTree → Location → Path → Except Refusal α)
    : FilesOnly (ask path question) := by
  refine .bind (filesOnly_requirePassable path) fun _ => .bind .get fun host => ?_
  cases question host.files host.directory path with
  | ok answer => exact .pure answer
  | error refusal => exact .throw _

theorem filesOnly_change (path : Path)
    (operation : FileTree → Location → Path → Except Refusal FileTree)
    : FilesOnly (change path operation) :=
  .bind (filesOnly_ask path operation) fun files => .setFiles files

theorem filesOnly_isDirectory (path : Path) : FilesOnly (isDirectory path) := by
  refine .bind ?_ fun node => .pure _
  rw [nodeAt?]
  split
  · exact .pure none
  · exact filesOnly_ask path _

theorem filesOnly_unlessDirectory (refusal : Refusal) (path : Path)
    : FilesOnly (do unless ← isDirectory path do refuse refusal path) := by
  refine .bind (filesOnly_isDirectory path) fun there => ?_
  cases there with
  | true => exact .pure ()
  | false => exact .throw _

theorem filesOnly_makeLastDirectory (path : Path) : FilesOnly (makeLastDirectory path) := by
  refine .bind .get fun host => ?_
  cases host.files.makeDirectory host.directory path with
  | ok files => exact .setFiles files
  | error refusal =>
      cases refusal with
      | notFound => exact .throw _
      | _ => exact filesOnly_unlessDirectory _ path

/-- Making a directory with those above it changes nothing but files. By recursion on the path: the
directories above have one part less.
-/
theorem filesOnly_ensureDirectory (path : Path) : FilesOnly (ensureDirectory path) := by
  rw [ensureDirectory]
  refine .bind (filesOnly_requirePassable path) fun _ => .bind .get fun host => ?_
  cases host.files.makeDirectory host.directory path with
  | ok files => exact .setFiles files
  | error refusal =>
      cases refusal with
      | notFound =>
          by_cases top : path.parts = []
          · simp only [top, dite_true]
            exact .throw _
          · simp only [top, dite_false]
            exact .bind (filesOnly_ensureDirectory path.parent)
              fun _ => filesOnly_makeLastDirectory path
      | _ => exact filesOnly_unlessDirectory _ path
termination_by path.parts.length
decreasing_by
  have : path.parts.length ≠ 0 := by simpa using top
  simp [Path.parent]
  omega

end VerifierBootstrap.Host
