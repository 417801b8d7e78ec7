import VerifierBootstrap.Digest.Basic
import VerifierBootstrap.Path
import VerifierBootstrap.Text.Quoted

/-!
What can go wrong, by cause. Every failure ends the operation it arises in; `Failure.message`
holds the wording of all of them and `Failure.kind` the name that the command line reports.
-/

namespace VerifierBootstrap

/-- Why the file system refuses an operation. -/
inductive Refusal where
  | notFound
  | notPermitted
  | alreadyExists
  | notDirectory
  | isDirectory
  | nameTooLong
deriving Repr, DecidableEq

namespace Refusal

/-- The number of a refusal. -/
def code : Refusal → Nat
  | notFound => 2
  | notPermitted => 13
  | alreadyExists => 17
  | notDirectory => 20
  | isDirectory => 21
  | nameTooLong => 36

/-- The wording of a refusal. -/
def message : Refusal → String
  | notFound => "No such file or directory"
  | notPermitted => "Permission denied"
  | alreadyExists => "File exists"
  | notDirectory => "Not a directory"
  | isDirectory => "Is a directory"
  | nameTooLong => "File name too long"

/-- The name of a refusal. Not all have a name of their own. -/
def kind : Refusal → String
  | notFound => "FileNotFoundError"
  | notPermitted => "PermissionError"
  | alreadyExists => "FileExistsError"
  | notDirectory => "NotADirectoryError"
  | isDirectory => "IsADirectoryError"
  | nameTooLong => "OSError"

end Refusal

/-- A refusal and the place that was asked for. -/
structure FileFault where
  refusal : Refusal
  place : String
deriving Repr, DecidableEq

/-- The wording of a refusal at a place. -/
def FileFault.message (fault : FileFault) : String :=
  s!"[Errno {fault.refusal.code}] {fault.refusal.message}: {Text.quoted fault.place}"

/-- Where a failed transfer failed. -/
inductive TransferOrigin where
  /-- In the session: the server or the connection. -/
  | session
  /-- In the operating system. -/
  | system
  /-- In a value that was handed over. -/
  | value
deriving Repr, DecidableEq

/-- A failed transfer over the network. -/
structure TransferFault where
  origin : TransferOrigin
  message : String
deriving Repr, DecidableEq

/-- A file or a resource that is needed and not to be had. -/
inductive Shortage where
  | download (url reason : String)
  | noCacheDirectory
  | noProverOutput (path : String)
  | noContainerTool
  | notStarted (command : String) (fault : FileFault)
  | unreadable (subject path : String) (fault : FileFault)
  | unwritable (subject : Option String) (path : String) (fault : FileFault)
deriving Repr, DecidableEq

/-- The wording of a shortage. -/
def Shortage.message : Shortage → String
  | download url reason => s!"failed to download {url}: {reason}"
  | noCacheDirectory => "no cache directory configured (OUT_DIR is not set)"
  | noProverOutput path => s!"groth16 prover produced no output at {path}"
  | noContainerTool => "docker not found. Install it or add it to PATH."
  | notStarted command fault => s!"failed to start {command}: {fault.message}"
  | unreadable subject path fault =>
      s!"failed to read the {subject} from {path}: {fault.message}"
  | unwritable none path fault => s!"failed to write {path}: {fault.message}"
  | unwritable (some subject) path fault =>
      s!"failed to write the {subject} to {path}: {fault.message}"

/-- The kinds of receipt other than the last. -/
inductive EarlyReceipt where
  | succinct
  | identity
deriving Repr, DecidableEq

/-- The name of a kind of receipt. -/
def EarlyReceipt.name : EarlyReceipt → String
  | succinct => "SuccinctReceipt"
  | identity => "IdentityReceipt"

/-- A step of proving or verifying that fails. -/
inductive ProofFault where
  | shortInput (size : Nat)
  | unknownTag (tag : Nat)
  | malformedSeal (segment : Int)
  | foreignSeal
  | segmentCount (expected produced : Nat)
  | notGroth16 (receipt : EarlyReceipt)
deriving Repr, DecidableEq

/-- The wording of a proof fault. -/
def ProofFault.message : ProofFault → String
  | shortInput size => s!"guest input too short ({size} bytes)"
  | unknownTag tag => s!"unsupported guest input tag {tag}"
  | malformedSeal segment => s!"segment {segment}: malformed seal"
  | foreignSeal => "succinct receipt seal does not match its claim"
  | segmentCount expected produced =>
      s!"expected {expected} segment, execution produced {produced}"
  | notGroth16 receipt => s!"receipt is {receipt.name}, not Groth16"

/-- What is wrong with a seal or with the output of the prover. A value is held as it is shown.
-/
inductive DecodeFault where
  | unalignedSeal (length : Nat)
  | sealSize (expected : Int) (actual : Nat)
  | malformed (description : String)
  | groupCount (count : Nat)
  | notList (kindName : String)
  | itemCount (count : Nat)
  | notPairs (shown : String)
  | notString (shown : String)
  | notHex (shown : String)
  | described (detail : String)
deriving Repr, DecidableEq

/-- The wording of a decode fault. -/
def DecodeFault.message : DecodeFault → String
  | unalignedSeal length => s!"seal length {length} is not a multiple of 4"
  | sealSize expected actual => s!"expected {expected} bytes, got {actual}"
  | malformed description => description
  | groupCount count => s!"expected at least 3 groups, got {count}"
  | notList kindName => s!"expected a list, got {kindName}"
  | itemCount count => s!"expected 2 elements, got {count}"
  | notPairs shown => s!"expected 2 pairs, got {shown}"
  | notString shown => s!"expected a hex string, got {shown}"
  | notHex shown => s!"{shown} is not an even-length hex string"
  | described detail => detail

/-- Settings that contradict each other or lack a part. -/
inductive ConfigFault where
  | kernelPath (feature setting : String)
  | noControlRoot
  | noDevMode
deriving Repr, DecidableEq

/-- The wording of a configuration fault. -/
def ConfigFault.message : ConfigFault → String
  | kernelPath feature setting => s!"{feature} is defined, but {setting} is not"
  | noControlRoot => "--control-root is required unless --dev-mode is set"
  | noDevMode =>
      "the test receipt is generated by the dev-mode zkVM; "
        ++ "pass --dev-mode or --skip-test-receipt"

/-- The families of failures that are told apart by name. -/
inductive Family where
  | general
  | availability
  | proof
  | sync
  | config
deriving Repr, DecidableEq

/-- The name of a family. -/
def Family.name : Family → String
  | general => "BootstrapError"
  | availability => "AvailabilityError"
  | proof => "ProofError"
  | sync => "SyncError"
  | config => "ConfigError"

/-- A detail of a failure that is only described. -/
inductive Detail where
  | text (content : String)
  /-- A value that is no text, as it is shown. -/
  | value (shown : String)
deriving Repr, DecidableEq

/-- How a detail reads that stands alone. -/
def Detail.alone : Detail → String
  | text content => content
  | value shown => shown

/-- How a detail reads among others. -/
def Detail.listed : Detail → String
  | text content => Text.quoted content
  | value shown => shown

/-- Why an operation ends without a result. -/
inductive Failure where
  /-- A content does not have the digest it should have. -/
  | integrity (subject expected actual : String)
  | availability (cause : Shortage)
  | proof (cause : ProofFault)
  /-- An external program failed, or could not be started and so has no exit status. -/
  | process (name : String) (status : Option Int) (detail : String)
  | decode (group : String) (cause : DecodeFault)
  /-- A verifier declares none of the constants. -/
  | noConstants (path : String)
  | config (cause : ConfigFault)
  /-- A failure of a family, described by any number of details. -/
  | described (family : Family) (details : List Detail)
  | digest (fault : Digest.Fault)
  /-- A seal cannot be cut into elements of no bytes. -/
  | emptyElement
  /-- A number does not fit its field. -/
  | fieldRange
  /-- A document holds an integer of more digits than are read. -/
  | longInteger (digits : Nat)
  /-- A document opens more arrays and objects at once than the machine bears. -/
  | tooDeep (enclosure : Json.Enclosure)
  /-- A message would hold an integer of more digits than are written. -/
  | unwritableInteger
  | file (fault : FileFault)
  | undecodable (fault : Utf8.Fault)
  | transfer (fault : TransferFault)
  /-- The operation has no meaning for the given dialect. -/
  | unsupported
  /-- What should be a path was given without a value. -/
  | noPath
  /-- A path with a NUL in it, which ends a path for the file system, was to be used. -/
  | embeddedNul
deriving Repr, DecidableEq

namespace Failure

/-- The most digits of an integer that is written in a message. -/
def writtenDigits : Nat := 4300

/-- Whether an integer has no more digits than are written. -/
def isWritable (value : Int) : Bool :=
  value.natAbs < Nat.pow 10 writtenDigits

/-- A byte in hexadecimal. -/
def byteText (byte : UInt8) : String :=
  String.ofList ('0' :: 'x' :: Hex.encode [byte])

/-- The wording of a failure. -/
def message : Failure → String
  | integrity subject expected actual =>
      s!"digest mismatch for {subject}: expected {expected}, got {actual}"
  | availability cause => cause.message
  | proof cause => cause.message
  | process name status detail =>
      let code := (status.map toString).getD "None"
      let report := s!"{name} returned failure exit code: {code}"
      if detail = "" then report else s!"{report} ({detail})"
  | decode group cause => s!"Failed to decode snark '{group}' values: {cause.message}"
  | noConstants path => s!"no verifying key constants found in {path}"
  | config cause => cause.message
  | described _ [] => ""
  | described _ [detail] => detail.alone
  | described _ details => "(" ++ ", ".intercalate (details.map Detail.listed) ++ ")"
  | digest fault => fault.message
  | emptyElement => "range() arg 3 must not be zero"
  | fieldRange => ""
  | longInteger digits =>
      s!"Exceeds the limit (4300 digits) for integer string conversion: value has {digits} "
        ++ "digits; use sys.set_int_max_str_digits() to increase the limit"
  | tooDeep enclosure =>
      s!"maximum recursion depth exceeded while decoding a JSON {enclosure.name} "
        ++ "from a unicode string"
  | unwritableInteger =>
      "Exceeds the limit (4300 digits) for integer string conversion; "
        ++ "use sys.set_int_max_str_digits() to increase the limit"
  | file fault => fault.message
  | undecodable fault =>
      if fault.first = fault.last then
        s!"'utf-8' codec can't decode byte {byteText fault.byte} in position {fault.first}: "
          ++ fault.cause.message
      else
        s!"'utf-8' codec can't decode bytes in position {fault.first}-{fault.last}: "
          ++ fault.cause.message
  | transfer fault => fault.message
  | unsupported => ""
  | noPath => "expected str, bytes or os.PathLike object, not list"
  | embeddedNul => "embedded null byte"

/-- The name of a failure. -/
def kind : Failure → String
  | integrity .. => "IntegrityError"
  | availability _ => Family.availability.name
  | proof _ => Family.proof.name
  | process .. => "ExternalProcessError"
  | decode .. => "DecodeError"
  | noConstants _ => Family.sync.name
  | config _ => Family.config.name
  | described family _ => family.name
  | digest .unindexableSize | digest .unholdableSize => "OverflowError"
  | digest .noMemory => "MemoryError"
  | digest _ | emptyElement | longInteger _ | unwritableInteger | embeddedNul => "ValueError"
  | fieldRange => "error"
  | tooDeep _ => "RecursionError"
  | file fault => fault.refusal.kind
  | undecodable _ => "UnicodeDecodeError"
  | transfer fault =>
      match fault.origin with
      | .session => "RequestException"
      | .system => "OSError"
      | .value => "ValueError"
  | unsupported => "NotImplementedError"
  | noPath => "TypeError"

end Failure

end VerifierBootstrap
