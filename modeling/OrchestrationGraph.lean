import OrchestrationGraph.Binding.Attribute
import OrchestrationGraph.Binding.Basic
import OrchestrationGraph.Binding.Json
import OrchestrationGraph.Binding.Label
import OrchestrationGraph.CommandLine.Arguments
import OrchestrationGraph.CommandLine.Help
import OrchestrationGraph.CommandLine.Run
import OrchestrationGraph.Decimal.Double
import OrchestrationGraph.Decimal.Shortest
import OrchestrationGraph.Diagram.Basic
import OrchestrationGraph.Diagram.Printer
import OrchestrationGraph.Dictionary
import OrchestrationGraph.Files.Error
import OrchestrationGraph.Files.Path
import OrchestrationGraph.Files.Tree
import OrchestrationGraph.Graph.Basic
import OrchestrationGraph.Graph.Declared
import OrchestrationGraph.Graph.Edge
import OrchestrationGraph.Graph.Inference
import OrchestrationGraph.Graph.Json
import OrchestrationGraph.Json.Fault
import OrchestrationGraph.Json.Outline
import OrchestrationGraph.Json.Printer
import OrchestrationGraph.Json.Reader
import OrchestrationGraph.Json.Token
import OrchestrationGraph.Json.Token.Number
import OrchestrationGraph.Json.Token.Scan
import OrchestrationGraph.Json.Token.Text
import OrchestrationGraph.Json.Value
import OrchestrationGraph.Log.Directive
import OrchestrationGraph.Log.Filter
import OrchestrationGraph.Log.Level
import OrchestrationGraph.Log.Line
import OrchestrationGraph.Log.Record
import OrchestrationGraph.Machine.Basic
import OrchestrationGraph.Machine.Disk
import OrchestrationGraph.Machine.Shell.Arithmetic
import OrchestrationGraph.Machine.Shell.Builtin
import OrchestrationGraph.Machine.Shell.Command
import OrchestrationGraph.Machine.Shell.Condition
import OrchestrationGraph.Machine.Shell.Expansion
import OrchestrationGraph.Machine.Shell.Pattern
import OrchestrationGraph.Machine.Shell.Printf
import OrchestrationGraph.Machine.Shell.Run
import OrchestrationGraph.Machine.Shell.State
import OrchestrationGraph.Machine.Shell.Utility
import OrchestrationGraph.Machine.Shell.Word
import OrchestrationGraph.Machine.Standard
import OrchestrationGraph.Main
import OrchestrationGraph.Node.Basic
import OrchestrationGraph.Node.Json
import OrchestrationGraph.Pattern.Basic
import OrchestrationGraph.Pattern.Search
import OrchestrationGraph.Pattern.Spelling
import OrchestrationGraph.Pattern.Table
import OrchestrationGraph.Project.Action
import OrchestrationGraph.Project.Catalog
import OrchestrationGraph.Project.Event
import OrchestrationGraph.Project.Failure
import OrchestrationGraph.Project.Host
import OrchestrationGraph.Project.Journal
import OrchestrationGraph.Project.Location
import OrchestrationGraph.Project.Manifest
import OrchestrationGraph.Project.Root
import OrchestrationGraph.Project.Runtime
import OrchestrationGraph.Project.Search
import OrchestrationGraph.Project.Settings
import OrchestrationGraph.Project.Sources
import OrchestrationGraph.Project.Temporary
import OrchestrationGraph.Project.Traversal
import OrchestrationGraph.Proofs.Binding.Attribute
import OrchestrationGraph.Proofs.Binding.Heading
import OrchestrationGraph.Proofs.Binding.Label
import OrchestrationGraph.Proofs.Binding.Literal
import OrchestrationGraph.Proofs.Binding.Preservation
import OrchestrationGraph.Proofs.CommandLine.Exclusion
import OrchestrationGraph.Proofs.CommandLine.HandingOut
import OrchestrationGraph.Proofs.CommandLine.Settling
import OrchestrationGraph.Proofs.Diagram.Conservation
import OrchestrationGraph.Proofs.Diagram.Identity
import OrchestrationGraph.Proofs.Diagram.Line
import OrchestrationGraph.Proofs.Diagram.Reading
import OrchestrationGraph.Proofs.Files.Path
import OrchestrationGraph.Proofs.Files.Tree
import OrchestrationGraph.Proofs.Graph.Application
import OrchestrationGraph.Proofs.Graph.Commutation
import OrchestrationGraph.Proofs.Graph.Declaration
import OrchestrationGraph.Proofs.Graph.History
import OrchestrationGraph.Proofs.Graph.Independence
import OrchestrationGraph.Proofs.Graph.Keyed
import OrchestrationGraph.Proofs.Graph.Outcome
import OrchestrationGraph.Proofs.Graph.Relationship
import OrchestrationGraph.Proofs.Graph.Signal
import OrchestrationGraph.Proofs.Graph.WellTyped
import OrchestrationGraph.Proofs.Json.Meaning
import OrchestrationGraph.Proofs.Json.Outline
import OrchestrationGraph.Proofs.Json.Reader
import OrchestrationGraph.Proofs.Json.Token.Number
import OrchestrationGraph.Proofs.Json.Token.Scan
import OrchestrationGraph.Proofs.Json.Token.Text
import OrchestrationGraph.Proofs.Json.Value
import OrchestrationGraph.Proofs.Node.Json
import OrchestrationGraph.Proofs.Pattern.First
import OrchestrationGraph.Proofs.Pattern.Occurrence
import OrchestrationGraph.Proofs.Pattern.Preference
import OrchestrationGraph.Proofs.Pattern.Run
import OrchestrationGraph.Proofs.Pattern.Way
import OrchestrationGraph.Proofs.Project.Alike
import OrchestrationGraph.Proofs.Project.CloneUrl
import OrchestrationGraph.Proofs.Project.Containment
import OrchestrationGraph.Proofs.Project.Course
import OrchestrationGraph.Proofs.Project.Folders
import OrchestrationGraph.Proofs.Project.HostManifest
import OrchestrationGraph.Proofs.Project.ManifestFields
import OrchestrationGraph.Proofs.Project.Manifests
import OrchestrationGraph.Proofs.Project.OwnScript
import OrchestrationGraph.Proofs.Project.Provenance
import OrchestrationGraph.Proofs.Project.Step
import OrchestrationGraph.Proofs.Project.Temporary
import OrchestrationGraph.Proofs.Project.Traversal
import OrchestrationGraph.Proofs.Project.TreeAddress
import OrchestrationGraph.Proofs.Project.Watched
import OrchestrationGraph.Proofs.Report.Listing
import OrchestrationGraph.Proofs.Report.RoundTrip
import OrchestrationGraph.Proofs.Source.Balanced
import OrchestrationGraph.Proofs.Source.Declared
import OrchestrationGraph.Proofs.Text.ByteOrder
import OrchestrationGraph.Proofs.Text.Pieces
import OrchestrationGraph.Proofs.Text.Run
import OrchestrationGraph.Proofs.Tool.FailureMessage
import OrchestrationGraph.Proofs.Usage.Activity
import OrchestrationGraph.Proofs.Usage.AwaitedEvents
import OrchestrationGraph.Proofs.Usage.Declaration
import OrchestrationGraph.Proofs.Usage.EventName
import OrchestrationGraph.Proofs.Usage.Naming
import OrchestrationGraph.Proofs.Usage.Stop
import OrchestrationGraph.Proofs.Usage.WholeName
import OrchestrationGraph.Regex.Basic
import OrchestrationGraph.Regex.Class
import OrchestrationGraph.Regex.Parser
import OrchestrationGraph.Report.Basic
import OrchestrationGraph.Report.Format
import OrchestrationGraph.Report.Outline
import OrchestrationGraph.Source.Balanced
import OrchestrationGraph.Source.Basic
import OrchestrationGraph.Source.File
import OrchestrationGraph.Text.Ascii
import OrchestrationGraph.Text.Blank
import OrchestrationGraph.Text.Digit
import OrchestrationGraph.Text.Lossy
import OrchestrationGraph.Text.Lowercase
import OrchestrationGraph.Text.Offset
import OrchestrationGraph.Text.Printable
import OrchestrationGraph.Text.Quoted
import OrchestrationGraph.Text.Ranges
import OrchestrationGraph.Text.WordChar
import OrchestrationGraph.Tool.Basic
import OrchestrationGraph.Usage
import OrchestrationGraph.Yaml.Number
import OrchestrationGraph.Yaml.Printer
import OrchestrationGraph.Yaml.Scalar
