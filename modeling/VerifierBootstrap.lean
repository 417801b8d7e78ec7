import VerifierBootstrap.Main
import VerifierBootstrap.Proofs.Source.LiteralLookahead
import VerifierBootstrap.Proofs.Source.Literal
import VerifierBootstrap.Proofs.Source.LexemeExchange
import VerifierBootstrap.Proofs.Source.TokenPlaces
import VerifierBootstrap.Proofs.Source.Trivia
import VerifierBootstrap.Proofs.Source.Pieces
import VerifierBootstrap.Proofs.Source.DeclarationShape
import VerifierBootstrap.Proofs.Source.DeclarationExchange
import VerifierBootstrap.Proofs.Source.DeclarationPlaces
import VerifierBootstrap.Proofs.Source.Layout
import VerifierBootstrap.Proofs.Source.Settlement
import VerifierBootstrap.Proofs.Source.Synchronization
import VerifierBootstrap.Proofs.Source.Accounting
import VerifierBootstrap.Proofs.Source.Revision
import VerifierBootstrap.Proofs.Text.Utf8
import VerifierBootstrap.Proofs.Source.ByteRevision
import VerifierBootstrap.Proofs.Source.VerifierFiles
import VerifierBootstrap.Proofs.Source.VerifierRuns
import VerifierBootstrap.Proofs.FileTree.Walk
import VerifierBootstrap.Proofs.FileTree.Locations
import VerifierBootstrap.Proofs.FileTree.Edits
import VerifierBootstrap.Proofs.FileTree.Clearing
import VerifierBootstrap.Proofs.Host.Perform
import VerifierBootstrap.Proofs.Host.Outcome
import VerifierBootstrap.Proofs.Host.Edits
import VerifierBootstrap.Proofs.Host.Directories
import VerifierBootstrap.Proofs.Host.Silence
import VerifierBootstrap.Proofs.Host.Programs
import VerifierBootstrap.Proofs.Host.Delivery
import VerifierBootstrap.Proofs.Digest.Reads
import VerifierBootstrap.Proofs.Artifact.Cache
import VerifierBootstrap.Proofs.Witness.Exchange
import VerifierBootstrap.Proofs.Pipeline.Stages
import VerifierBootstrap.Proofs.Pipeline.Leftovers
import VerifierBootstrap.Proofs.Engine.DevMode
import VerifierBootstrap.Proofs.Engine.Proving
import VerifierBootstrap.Proofs.Receipt.Groth16Seal
import VerifierBootstrap.Proofs.Receipt.Integrity
import VerifierBootstrap.Proofs.Receipt.Binding
import VerifierBootstrap.Proofs.Witness.FlatSeal
import VerifierBootstrap.Proofs.Except
import VerifierBootstrap.Proofs.Number.Rounding
import VerifierBootstrap.Proofs.Bytes.Words
import VerifierBootstrap.Proofs.Engine.Segments
import VerifierBootstrap.Proofs.Bytes.Hex
import VerifierBootstrap.Proofs.Json.Lexemes
import VerifierBootstrap.Proofs.Json.Nesting
import VerifierBootstrap.Proofs.Json.Values
import VerifierBootstrap.Proofs.Witness.ProverOutput
import VerifierBootstrap.Proofs.Witness.Rendering
import VerifierBootstrap.Proofs.Json.Printing
import VerifierBootstrap.Proofs.Witness.Document
import VerifierBootstrap.Proofs.Witness.Handover
import VerifierBootstrap.Proofs.Tools.Prover
import VerifierBootstrap.Proofs.Tools.Formatter
import VerifierBootstrap.Proofs.Pipeline.Completion
import VerifierBootstrap.Proofs.Solidity.Library
import VerifierBootstrap.Proofs.Solidity.Emission
import VerifierBootstrap.Proofs.Solidity.FailedRuns
import VerifierBootstrap.Proofs.Solidity.ControlId
import VerifierBootstrap.Proofs.Source.DeclarationRoundTrip
import VerifierBootstrap.Proofs.Source.NestedComments
import VerifierBootstrap.Proofs.Digest.Spelling
import VerifierBootstrap.Proofs.Artifact.Resolution
import VerifierBootstrap.Proofs.Pipeline.Course
import VerifierBootstrap.Proofs.Pipeline.Failures
import VerifierBootstrap.Proofs.Pipeline.Confinement
import VerifierBootstrap.Proofs.Pipeline.Frame
import VerifierBootstrap.Proofs.CommandLine.BootstrapSteps
import VerifierBootstrap.Proofs.CommandLine.Guards
import VerifierBootstrap.Proofs.Source.UnreadNumbers
import VerifierBootstrap.Proofs.Source.ReverseDirection
import VerifierBootstrap.Proofs.Host.Setup
import VerifierBootstrap.Proofs.Json.OneLine
import VerifierBootstrap.Proofs.Pipeline.Footprint
import VerifierBootstrap.Proofs.CommandLine.StepEffects
import VerifierBootstrap.Proofs.CommandLine.StepRuns
import VerifierBootstrap.Proofs.CommandLine.Confinement
import VerifierBootstrap.Proofs.Text.Numeral
import VerifierBootstrap.Proofs.Json.LongIntegers
import VerifierBootstrap.Proofs.Json.Refusals
import VerifierBootstrap.Proofs.Witness.Reading
import VerifierBootstrap.Proofs.Witness.Writing
import VerifierBootstrap.Proofs.Engine.SegmentCount
import VerifierBootstrap.Proofs.Bytes.SpacedHex
import VerifierBootstrap.Proofs.Text.Trimming
import VerifierBootstrap.Proofs.Digest.WrittenForms
import VerifierBootstrap.Proofs.Digest.Halves
import VerifierBootstrap.Proofs.Solidity.ControlRoot
import VerifierBootstrap.Proofs.Json.Cuts
import VerifierBootstrap.Proofs.Json.Strings
import VerifierBootstrap.Proofs.Json.Lexed
import VerifierBootstrap.Proofs.Json.Grammar
import VerifierBootstrap.Proofs.Json.Appending
import VerifierBootstrap.Proofs.Witness.Signals
import VerifierBootstrap.Proofs.Engine.GuestInput
import VerifierBootstrap.Proofs.Hash.Streaming
import VerifierBootstrap.Proofs.Host.Offline
import VerifierBootstrap.Proofs.Artifact.Streaming
import VerifierBootstrap.Proofs.Source.LexemeCuts
import VerifierBootstrap.Proofs.Source.Tokenization
import VerifierBootstrap.Proofs.Source.DeclaredValues
