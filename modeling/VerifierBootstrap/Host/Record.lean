import VerifierBootstrap.Host.Basic
import VerifierBootstrap.Json.Basic
import VerifierBootstrap.Witness.Exchange

/-!
Hosts from a record. A record is a JSON object that says what files there are, what the network
will answer and how programs behave; commands can be tried out on it without touching anything.
-/

namespace VerifierBootstrap

namespace Record

/-- How a program behaves. It may be missing; else it ends with a status, and as a container it
may first leave an output in the directory that is mounted for it.
-/
structure Program where
  missing : Bool
  status : Int
  output : Option Text
deriving Repr, DecidableEq

/-- A text field. -/
def string? (value : Json) (key : String) : Option String :=
  (value.field? key).bind Json.string?

/-- A truth field, false if it is not there. -/
def isSet (value : Json) (key : String) : Bool :=
  ((value.field? key).bind Json.boolean?).getD false

/-- The bytes of a value that holds hexadecimal digits. -/
def bytes? (value : Json) : Option Bytes :=
  value.text?.bind Hex.decode?

/-- The entries of an object, by the keys that are texts. -/
def entries : Json → List (String × Json)
  | .object fields =>
      fields.filterMap fun (key, value) => key.toText?.map fun text => (String.ofList text, value)
  | _ => []

/-- The settings in an object. -/
def settings (value : Json) : Environment :=
  (entries value).filterMap fun (name, setting) => setting.string?.map (name, ·)

/-- What a record says about one place; nothing for a place to be cleared. -/
def node? (value : Json) : Option Node :=
  match value.field? "text", value.field? "hex" with
  | some content, _ => content.text?.map fun text => .file (Utf8.encode text)
  | none, some content => (bytes? content).map .file
  | none, none => if isSet value "dir" then some .directory else none

/-- The places above a place, from the top on. -/
def placesAbove (place : Location) : List Location :=
  (List.range place.length).map place.take

/-- Makes directories of all places above one where nothing is. -/
def addParents (files : FileTree) (place : Location) : FileTree :=
  (placesAbove place).foldl
    (fun tree above =>
      if (tree.lookup above).isSome then tree else tree.set above .directory)
    files

/-- Puts a node at a place, or clears the place. A directory that is there already keeps what is
in it.
-/
def putNode (files : FileTree) (place : Location) : Option Node → FileTree
  | none => files.removeBelow place
  | some node => (addParents files place).set place node

/-- Carries out what a record says about files, each by its path from a working directory. -/
def putFiles (directory : Location) (files : FileTree) (value : Json) : FileTree :=
  (entries value).foldl
    (fun tree (written, content) =>
      putNode tree ((Path.ofString written).resolve directory).parts (node? content))
    files

/-- A fault of a transfer: those of the system and of values are named, all others are the
session's.
-/
def transferFault (value : Json) : TransferFault :=
  let origin : TransferOrigin :=
    match string? value "kind" with
    | some "OSError" => .system
    | some "ValueError" => .value
    | _ => .session
  ⟨origin, (string? value "message").getD ""⟩

/-- A response. -/
def response (value : Json) : Response :=
  let fault := fun key => (value.field? key).map transferFault
  match fault "connect_error", fault "status_error" with
  | some refused, _ => .refused refused
  | none, some rejected => .rejected rejected
  | none, none =>
      let chunks := ((value.field? "chunks").bind Json.items?).getD []
      .body (chunks.filterMap bytes?) (fault "stream_error")

/-- The behaviour of a program. -/
def program (value : Json) : Program :=
  ⟨isSet value "missing", ((value.field? "exit").bind Json.integer?).getD 0,
    (value.field? "output").bind Json.text?⟩

/-- The directory that a command mounts for a container. -/
def mounted? : List String → Option Path
  | [_, "run", "--rm", "-v", mount, _] =>
      let written := mount.toList
      if ":/mnt".toList.isSuffixOf written then
        some (Path.ofString (String.ofList (written.take (written.length - 5))))
      else none
  | _ => none

/-- Leaves an output in the directory that a command mounts, if it mounts one. -/
def leaveOutput (files : FileTree) (command : List String) (output : Text) : FileTree :=
  match mounted? command with
  | none => files
  | some work =>
      match files.write [] (work.child Witness.outputName) (Utf8.encode output) with
      | .ok changed => changed
      | .error _ => files

/-- Starts a program of a record. One that the record does not mention ends well and does
nothing.
-/
def launch (programs : List (String × Program)) (command : List String) (files : FileTree)
    : Launch :=
  match programs.lookup (command.headD "") with
  | none => .exited 0 files
  | some behaviour =>
      if behaviour.missing then .refused .notFound
      else
        .exited behaviour.status
          ((behaviour.output.map (leaveOutput files command)).getD files)

/-- The programs of a record. -/
def programs (record : Json) : List (String × Program) :=
  ((record.field? "programs").map entries).getD [] |>.map fun (name, value) =>
    (name, program value)

/-- The directories of a host that has nothing else. -/
def bareFiles (directory temporary : Location) : FileTree :=
  putNode (putNode FileTree.empty directory (some .directory)) temporary (some .directory)

/-- The host of a record, with its working directory and its directory for temporary files. -/
def host (directory temporary : Location) (record : Json) : Host where
  files := putFiles directory (bareFiles directory temporary)
    ((record.field? "files").getD .null)
  directory := directory
  temporary := temporary
  temporaryEnding := "*"
  environment := ((record.field? "env").map settings).getD []
  limits := .usual
  containerTool := string? record "which"
  sourcesLocked := isSet record "deny_writes"
  responses := (((record.field? "net").bind Json.items?).getD []).map response
  launch := fun _ => launch (programs record)
  log := []
  events := []

end Record

end VerifierBootstrap
