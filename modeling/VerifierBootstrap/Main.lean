import VerifierBootstrap.CommandLine.Bootstrap
import VerifierBootstrap.CommandLine.Fetch
import VerifierBootstrap.Host.Record
import VerifierBootstrap.Json.Parser

/-!
The program. It tries a command out on the host that a record on standard input describes: the
report goes to standard output, and the log to standard error.
-/

namespace VerifierBootstrap

/-- The command of a name. -/
def command? : String → Option (List String → StateM Host CommandLine.Exit)
  | "bootstrap" => some CommandLine.bootstrap
  | "fetch" => some CommandLine.fetch
  | _ => none

/-- Runs a named command on the host of a record. Nothing comes of an unknown name or a record
that is no JSON.
-/
def tryOut (arguments : List String) (record : Text) : Option (CommandLine.Exit × List String) :=
  match arguments, Json.parse record with
  | name :: rest, .ok value =>
      (command? name).map fun command =>
        let (ending, host) := (command rest).run (Record.host ["work"] ["tmp"] value)
        (ending, host.log.map LogLine.shown)
  | _, _ => none

end VerifierBootstrap

/-- Reads a record, tries the command out on it, and ends with the command's status. -/
def main (arguments : List String) : IO UInt32 := do
  let record ← (← IO.getStdin).readToEnd
  match VerifierBootstrap.tryOut arguments record.toList with
  | none =>
      IO.eprintln "usage: (bootstrap | fetch) [options] < record"
      return 2
  | some (ending, log) =>
      for line in log do
        IO.eprintln line
      if let some report := ending.report then
        IO.println report
      return UInt32.ofNat ending.status
