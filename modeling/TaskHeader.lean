import TaskHeader.Batch
import TaskHeader.Block
import TaskHeader.Block.Cpp
import TaskHeader.Block.Recorder
import TaskHeader.Command
import TaskHeader.Command.Run
import TaskHeader.Descriptor
import TaskHeader.Descriptor.Fault
import TaskHeader.Descriptor.Json
import TaskHeader.Descriptor.Record
import TaskHeader.Descriptor.Toml
import TaskHeader.Descriptor.Yaml
import TaskHeader.Event
import TaskHeader.FileSystem
import TaskHeader.Header
import TaskHeader.Identifier
import TaskHeader.Json
import TaskHeader.Json.Printer
import TaskHeader.Json.Reader
import TaskHeader.Loader
import TaskHeader.Main
import TaskHeader.Number.Binary64
import TaskHeader.Number.Digits
import TaskHeader.Number.Numeral
import TaskHeader.Number.Shortest
import TaskHeader.Path
import TaskHeader.Task
import TaskHeader.Task.Json
import TaskHeader.Text.Blank
import TaskHeader.Text.Printable
import TaskHeader.Text.Quoted
import TaskHeader.Toml.Document
import TaskHeader.Toml.Line
import TaskHeader.Toml.Moment
import TaskHeader.Toml.Number
import TaskHeader.Toml.Source
import TaskHeader.Toml.Text
import TaskHeader.Toml.Value
import TaskHeader.Validation
import TaskHeader.ValueType
import TaskHeader.Yaml.Document
import TaskHeader.Yaml.Node
import TaskHeader.Yaml.Plain
import TaskHeader.Yaml.Property
import TaskHeader.Yaml.Scalar
import TaskHeader.Yaml.Source
import TaskHeader.Yaml.Token
import TaskHeader.Yaml.Tokens
import TaskHeader.Proofs.Line
import TaskHeader.Proofs.Violation
import TaskHeader.Proofs.Validity
import TaskHeader.Proofs.Report
import TaskHeader.Proofs.Removal
import TaskHeader.Proofs.Agreement
import TaskHeader.Proofs.Protocol
import TaskHeader.Proofs.LineReader
import TaskHeader.Proofs.Readback
import TaskHeader.Proofs.Completion
import TaskHeader.Proofs.Acceptance
import TaskHeader.Proofs.Place
import TaskHeader.Proofs.SecondUse
import TaskHeader.Proofs.Conflict
import TaskHeader.Proofs.Delivery
import TaskHeader.Proofs.Record
import TaskHeader.Proofs.Shape
import TaskHeader.Proofs.Presentation
import TaskHeader.Proofs.JsonText
import TaskHeader.Proofs.Inspection
import TaskHeader.Proofs.Scope
import TaskHeader.Proofs.LoadTrace
import TaskHeader.Proofs.Tree
import TaskHeader.Proofs.Denotation
import TaskHeader.Proofs.Formats
import TaskHeader.Proofs.TypeText
import TaskHeader.Proofs.Layout
import TaskHeader.Proofs.Omission
import TaskHeader.Proofs.Reordering
import TaskHeader.Proofs.RenderTrace
import TaskHeader.Proofs.Recording
import TaskHeader.Proofs.Marker
