import VerifierBootstrap.CommandLine.Options
import VerifierBootstrap.Host.Basic
import VerifierBootstrap.Json.Printer

/-!
How a command line ends: with a status and, unless it was only explained or refused, one line of
JSON that tells the outcome. A failure is also noted in the log.
-/

namespace VerifierBootstrap.CommandLine

/-- The end of a command: its status, and the line it reports. -/
structure Exit where
  status : Nat
  report : Option String
deriving Repr, DecidableEq

/-- The fields that follow the sign of success in a report. -/
abbrev Findings := List (String × Json)

/-- The line of a success. -/
def successLine (findings : Findings) : String :=
  (Json.ofFields (("success", .boolean true) :: findings)).text

/-- The line of a failure. -/
def failureLine (failure : Failure) : String :=
  (Json.ofFields
    [("success", .boolean false), ("error", Json.ofString failure.message),
     ("error_type", Json.ofString failure.kind)]).text

/-- Runs an action to its end, whichever it is. -/
def finish (action : Action Findings) : StateM Host Exit := do
  match ← ExceptT.run action with
  | .ok findings => return ⟨0, some (successLine findings)⟩
  | .error failure =>
      discard <| ExceptT.run (Host.note .error failure.message)
      return ⟨1, some (failureLine failure)⟩

/-- Reads a command line and runs what it asks for. An explanation ends well, a misuse does not.
-/
def serve (choices : List Choice) (arguments : List String)
    (action : List Given → Action Findings) : StateM Host Exit :=
  match read choices arguments with
  | .misused => pure ⟨2, none⟩
  | .help => pure ⟨0, none⟩
  | .options given => finish (action given)

/-- Texts as a JSON array. -/
def textItems (texts : List Text) : Json :=
  .array (texts.map Json.ofText)

end VerifierBootstrap.CommandLine
