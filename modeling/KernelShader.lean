import KernelShader.Adapter
import KernelShader.Bytes
import KernelShader.CommandLine.Arguments
import KernelShader.CommandLine.Folder
import KernelShader.CommandLine.Help
import KernelShader.CommandLine.Input
import KernelShader.CommandLine.Run
import KernelShader.CommandLine.Settings
import KernelShader.CommandLine.SourceFile
import KernelShader.Declaration
import KernelShader.Device.Basic
import KernelShader.Device.Call
import KernelShader.Device.Kernel
import KernelShader.Dialect
import KernelShader.Fault
import KernelShader.Fault.Family
import KernelShader.Generator
import KernelShader.HostArray
import KernelShader.HostArray.Build
import KernelShader.HostArray.Text
import KernelShader.HostSize
import KernelShader.Line
import KernelShader.Log
import KernelShader.Main
import KernelShader.NameTable
import KernelShader.Number.Binary
import KernelShader.Number.Numeral
import KernelShader.Number.Shortest
import KernelShader.Parameter
import KernelShader.Proofs.Generator.Replay
import KernelShader.Proofs.NameTable
import KernelShader.Proofs.Outcome
import KernelShader.Rig.Basic
import KernelShader.Rig.Dispatch
import KernelShader.Rig.Pipeline
import KernelShader.Rig.Register
import KernelShader.Session.Add
import KernelShader.Session.Basic
import KernelShader.Session.Edit
import KernelShader.Session.Operation
import KernelShader.Session.Run
import KernelShader.ShaderSource
import KernelShader.ShaderType
import KernelShader.ShaderType.Reader
import KernelShader.ShaderType.Writer
import KernelShader.Source
import KernelShader.Text.Blank
import KernelShader.Text.CodeRange
import KernelShader.Text.Digit
import KernelShader.Text.Lines
import KernelShader.Text.Printable
import KernelShader.Text.Quoted
import KernelShader.Text.WordChar
import KernelShader.Token
import KernelShader.Transcript
import KernelShader.Value
import KernelShader.Workgroup
import KernelShader.Proofs.Transcript
import KernelShader.Proofs.Declaration
import KernelShader.Proofs.Store
import KernelShader.Proofs.Session.Texts
import KernelShader.Proofs.Session.Confirm
import KernelShader.Proofs.Device.Conversation
import KernelShader.Proofs.Device.Record
import KernelShader.Proofs.Rig.Calls
import KernelShader.Proofs.Rig.Register
import KernelShader.Proofs.Rig.Header
import KernelShader.Proofs.Session.Current
import KernelShader.Proofs.Generator.Places
import KernelShader.Proofs.Generator.Variation
import KernelShader.Proofs.Store.Locality
import KernelShader.Proofs.Rig.Registry
import KernelShader.Proofs.Rig.Agreement
import KernelShader.Proofs.Rig.Runs
import KernelShader.Proofs.Session.Failure
import KernelShader.Proofs.Arguments
import KernelShader.Proofs.Session.Acceptance
import KernelShader.Proofs.Session.Assembly
import KernelShader.Proofs.Store.Correction
import KernelShader.Proofs.Session.Confluence
import KernelShader.Proofs.Session.SetUp
import KernelShader.Proofs.Device.Commands
import KernelShader.Proofs.Device.Lifetime
import KernelShader.Proofs.Device.Memory
import KernelShader.Proofs.Rig.Dispatch
import KernelShader.Proofs.Rig.Storage
import KernelShader.Proofs.Rig.Ledger
import KernelShader.Proofs.Session.ReadBack
import KernelShader.Proofs.Rig.Transfer
import KernelShader.Proofs.Session.Results
import KernelShader.Proofs.Session.Lifetime
import KernelShader.Proofs.Line
import KernelShader.Proofs.Generator.Brackets
import KernelShader.Proofs.Session.Balance
import KernelShader.Proofs.Rig.Building
import KernelShader.Proofs.Rig.Shaders
import KernelShader.Proofs.Session.Shaders
import KernelShader.Proofs.CommandLine.Emission
import KernelShader.Proofs.Generator.Explicit
import KernelShader.Proofs.Rig.Staleness
import KernelShader.Proofs.Session.Recompilation
import KernelShader.Proofs.CommandLine.Reading
import KernelShader.Proofs.CommandLine.Ending
import KernelShader.Proofs.Text.Lines
import KernelShader.Proofs.Line.Joining
import KernelShader.Proofs.Line.RoundTrip
import KernelShader.Proofs.Source.Layout
import KernelShader.Proofs.Source.Functions
import KernelShader.Proofs.Line.Nesting
import KernelShader.Proofs.Generator.Literals
import KernelShader.Proofs.Generator.Passes
import KernelShader.Proofs.Generator.Conservation
import KernelShader.Proofs.Generator.Qualifiers
import KernelShader.Proofs.Generator.Invocation
import KernelShader.Proofs.ShaderType
import KernelShader.Proofs.ShaderType.Writer
import KernelShader.Proofs.Parameter
import KernelShader.Proofs.Generator.Factorisation
import KernelShader.Proofs.Generator.Dialects
import KernelShader.Proofs.Generator.Switch
import KernelShader.Proofs.Rig.Submission
import KernelShader.Proofs.Generator.Sightings
import KernelShader.Proofs.Generator.Growth
import KernelShader.Proofs.Generator.Extent
import KernelShader.Proofs.Parameter.Commas
import KernelShader.Proofs.Generator.Keywords
import KernelShader.Proofs.Session.Keywords
import KernelShader.Proofs.Generator.LiteralLength
import KernelShader.Proofs.Parameter.Leaves
import KernelShader.Proofs.Rig.Mapping
