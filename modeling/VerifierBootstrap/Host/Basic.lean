import VerifierBootstrap.FileTree.Access
import VerifierBootstrap.Settings.Machine

/-!
The host that operations run on: its files, its environment and limits, and what its network and
its programs will answer. An action reads and changes a host, and may fail; what it did before it
failed stays done. A host remembers the requests and programs it was asked for, in order.
-/

namespace VerifierBootstrap

/-- What a session answers to a request. -/
inductive Response where
  /-- The connection fails. -/
  | refused (fault : TransferFault)
  /-- The server answers with a status that is an error. -/
  | rejected (fault : TransferFault)
  /-- The pieces of a body, which may be cut off behind the last. -/
  | body (chunks : List Bytes) (interruption : Option TransferFault)
deriving Repr, DecidableEq

/-- What becomes of starting a program. -/
inductive Launch where
  | refused (refusal : Refusal)
  /-- The program ends with a status and leaves these files. -/
  | exited (status : Int) (files : FileTree)
deriving Repr, DecidableEq

/-- How much a log line matters. -/
inductive LogLevel where
  | debug
  | info
  | warning
  | error
deriving Repr, DecidableEq

/-- The name of a level. -/
def LogLevel.name : LogLevel → String
  | debug => "DEBUG"
  | info => "INFO"
  | warning => "WARNING"
  | error => "ERROR"

/-- A line of the log. -/
structure LogLine where
  level : LogLevel
  text : String
deriving Repr, DecidableEq

/-- A line as it is shown. -/
def LogLine.shown (line : LogLine) : String :=
  s!"{line.level.name} {line.text}"

/-- Something that a host was asked for, with the files of that moment. -/
inductive Event where
  | requested (url : String) (timeout : Int)
  | started (command : List String) (files : FileTree)
  /-- A prover other than a program was given a directory. -/
  | proved (directory : Path) (files : FileTree)
deriving Repr, DecidableEq

/-- A host. The responses are those of the requests to come, in order. -/
structure Host where
  files : FileTree
  /-- The working directory. -/
  directory : Location
  /-- The directory for temporary files. -/
  temporary : Location
  /-- What the names of new temporary directories end in. -/
  temporaryEnding : String
  environment : Environment
  limits : Limits
  /-- Where the container tool is, if it is installed. -/
  containerTool : Option String
  /-- Whether writing a source text is refused. -/
  sourcesLocked : Bool
  responses : List Response
  /-- What a command comes to, after everything the host was asked for before. -/
  launch : List Event → List String → FileTree → Launch
  log : List LogLine
  events : List Event

/-- A step on a host that gives a value or fails. The host that it leaves is there either way. -/
abbrev Action (α : Type) := ExceptT Failure (StateM Host) α

namespace Action

/-- Runs an action on a host. -/
def perform {α : Type} (action : Action α) (host : Host) : Except Failure α × Host :=
  (ExceptT.run action).run host

/-- The action with a given end that leaves the host alone. -/
def ofExcept {α : Type} : Except Failure α → Action α
  | .ok value => pure value
  | .error failure => throw failure

/-- Runs an action and then, whether it succeeded or failed, what has to be done at the end. A
failure at the end takes the place of what the action came to.
-/
def andFinally {α : Type} (action : Action α) (ending : Action Unit) : Action α :=
  ExceptT.mk do
    let outcome ← ExceptT.run action
    match ← ExceptT.run ending with
    | .ok _ => return outcome
    | .error failure => return .error failure

end Action

namespace Host

/-- Appends a line to the log. -/
def note (level : LogLevel) (text : String) : Action Unit :=
  modify fun host => { host with log := host.log ++ [⟨level, text⟩] }

/-- Remembers an event. -/
def remember (event : Event) : Action Unit :=
  modify fun host => { host with events := host.events ++ [event] }

/-- Asks the session for the next response. Once all are used up the network is unreachable. -/
def request (url : String) (timeout : Int) : Action Response := do
  remember (.requested url timeout)
  match (← get).responses with
  | [] => return .refused ⟨.session, "unreachable"⟩
  | response :: rest =>
      modify fun host => { host with responses := rest }
      return response

/-- Starts a program and waits for its status. A program that cannot be started is a fault at
its name.
-/
def start (command : List String) : Action (Except FileFault Int) := do
  let host ← get
  remember (.started command host.files)
  match host.launch host.events command host.files with
  | .refused refusal => return .error ⟨refusal, command.headD ""⟩
  | .exited status files =>
      modify fun host => { host with files := files }
      return .ok status

end Host

end VerifierBootstrap
