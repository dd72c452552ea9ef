import ChainQuery.Text.Blank
import ChainQuery.Text.Digit
import ChainQuery.Text.LowerCase
import ChainQuery.Text.Quoted
import ChainQuery.Text.Word
import ChainQuery.Json.Parser
import ChainQuery.Json.Printer
import ChainQuery.Hash.Keccak
import ChainQuery.Number.Decimal
import ChainQuery.Abi.Ty
import ChainQuery.Hash.Rlp
import ChainQuery.Address
import ChainQuery.Abi.Value
import ChainQuery.Abi.Encode
import ChainQuery.Abi.Decode
import ChainQuery.Schema.Check
import ChainQuery.Schema.Interface
import ChainQuery.Source
import ChainQuery.Query
import ChainQuery.Config
import ChainQuery.Settings.Basic
import ChainQuery.Run
import ChainQuery.Registry.Basic
import ChainQuery.Transpiler.Output
import ChainQuery.Transpiler.Command
import ChainQuery.Compiler.Toolchain
import ChainQuery.Artifact
import ChainQuery.Build
import ChainQuery.Engine
import ChainQuery.Session.Basic
import ChainQuery.Log.Line
import ChainQuery.CommandLine.Output
import ChainQuery.CommandLine.Argument
import ChainQuery.CommandLine.Execution
import ChainQuery.Catalogue
import ChainQuery.Main
import ChainQuery.Proofs.Abi.Nesting
import ChainQuery.Proofs.Registry.History
import ChainQuery.Proofs.Abi.Notation
import ChainQuery.Proofs.Abi.Words
import ChainQuery.Proofs.Abi.Reading
import ChainQuery.Proofs.Abi.Signatures
import ChainQuery.Proofs.Abi.Writing
import ChainQuery.Proofs.Json.Strings
import ChainQuery.Proofs.Json.Documents
import ChainQuery.Proofs.Registry.Preamble
import ChainQuery.Proofs.Abi.Types
import ChainQuery.Proofs.Bytes
import ChainQuery.Proofs.Abi.Values
import ChainQuery.Proofs.Abi.Scalars
import ChainQuery.Proofs.Abi.Layout
import ChainQuery.Proofs.Engine.Results
import ChainQuery.Proofs.Outcome
import ChainQuery.Proofs.Abi.Untrusted
import ChainQuery.Proofs.Run
import ChainQuery.Proofs.Engine.Untrusted
import ChainQuery.Proofs.Engine.Fetching
import ChainQuery.Proofs.Abi.Accepted
import ChainQuery.Proofs.Abi.Rereading
import ChainQuery.Proofs.Session.Requests
import ChainQuery.Proofs.Session.History
import ChainQuery.Proofs.Session.Steps
import ChainQuery.Proofs.Engine.Requests
import ChainQuery.Proofs.Build.Requests
import ChainQuery.Proofs.Json.Paths
import ChainQuery.Proofs.Build.Answers
import ChainQuery.Proofs.Build.Declared
import ChainQuery.Proofs.Build.Agreement
import ChainQuery.Proofs.Build.Serialized
import ChainQuery.Proofs.Build.Endings
import ChainQuery.Proofs.Build.Programs
import ChainQuery.Proofs.Engine.Sending
import ChainQuery.Proofs.Build.Routes
import ChainQuery.Proofs.Address
import ChainQuery.Proofs.Session.Calls
import ChainQuery.Proofs.CommandLine.EngineAddress
import ChainQuery.Proofs.Schema.Check
import ChainQuery.Proofs.Abi.Validation
import ChainQuery.Proofs.Abi.Interfaces
import ChainQuery.Proofs.Build.Gaps
import ChainQuery.Proofs.Build.Interfaces
import ChainQuery.Proofs.Hash.Rlp
import ChainQuery.Proofs.Config
import ChainQuery.Proofs.Engine.Deployment
import ChainQuery.Proofs.Abi.Canonical
import ChainQuery.Proofs.Abi.Faults
import ChainQuery.Proofs.Abi.Guarded
import ChainQuery.Proofs.Json.Members
import ChainQuery.Proofs.Build.Choice
import ChainQuery.Proofs.CommandLine.Sources
import ChainQuery.Proofs.Text.Integers
import ChainQuery.Proofs.Json.Indented
import ChainQuery.Proofs.CommandLine.Printing
import ChainQuery.Proofs.CommandLine.Arguments
import ChainQuery.Proofs.CommandLine.Decimals
import ChainQuery.Proofs.Number.Rounding
import ChainQuery.Proofs.Number.Shortest
import ChainQuery.Proofs.Json.Floats
import ChainQuery.Proofs.Compiler.Toolchain
import ChainQuery.Proofs.Json.Rereading
import ChainQuery.Proofs.Abi.Depth
import ChainQuery.Proofs.Schema.Rereading
import ChainQuery.Proofs.Spans
import ChainQuery.Proofs.Passages
import ChainQuery.Proofs.Session.Trace
