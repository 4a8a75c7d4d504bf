import CloudDiagram.Numeric.Decimal
import CloudDiagram.Numeric.Binary64
import CloudDiagram.Numeric.Scaling
import CloudDiagram.Numeric.Shortest
import CloudDiagram.Text.Place
import CloudDiagram.Text.Invisible
import CloudDiagram.Text.Shown
import CloudDiagram.Text.Blank
import CloudDiagram.Table
import CloudDiagram.Json.Value
import CloudDiagram.Json.Writer
import CloudDiagram.Json.Fault
import CloudDiagram.Json.Token
import CloudDiagram.Json.Skip
import CloudDiagram.Json.Reading
import CloudDiagram.Json.Reader
import CloudDiagram.Json.Record
import CloudDiagram.Resource.Kind
import CloudDiagram.Resource.Attributes
import CloudDiagram.Resource.Payload
import CloudDiagram.Diagram.Basic
import CloudDiagram.Diagram.Wire
import CloudDiagram.Diagram.Links
import CloudDiagram.Diagram.Edit
import CloudDiagram.Settings
import CloudDiagram.Registry
import CloudDiagram.Preset
import CloudDiagram.Terraform.Literal
import CloudDiagram.Terraform.Block
import CloudDiagram.Terraform.Code
import CloudDiagram.Diagnostic.Basic
import CloudDiagram.Diagnostic.Rules
import CloudDiagram.Timeline
import CloudDiagram.Workspace
import CloudDiagram.Session
import CloudDiagram.Editor
import CloudDiagram.Proofs.Workspace.Coherence
import CloudDiagram.Proofs.Workspace.Retrace
import CloudDiagram.Proofs.Json.Strings
import CloudDiagram.Proofs.Terraform.Lines
import CloudDiagram.Proofs.Terraform.WrittenBlocks
import CloudDiagram.Proofs.Terraform.Headers
import CloudDiagram.Proofs.Terraform.Literals
import CloudDiagram.Proofs.Terraform.Readable
import CloudDiagram.Proofs.Terraform.Unambiguous
import CloudDiagram.Proofs.Resource.Unreadable
import CloudDiagram.Proofs.Diagram.Placement
import CloudDiagram.Proofs.Diagnostic.Clean
import CloudDiagram.Proofs.Diagnostic.Report
import CloudDiagram.Proofs.Registry.Numbering
import CloudDiagram.Proofs.Registry.Rounds
import CloudDiagram.Proofs.Registry.History
import CloudDiagram.Proofs.Session.Operations
import CloudDiagram.Proofs.Session.Freshness
import CloudDiagram.Proofs.Numeric.Rounding
import CloudDiagram.Proofs.Numeric.Scaling
import CloudDiagram.Proofs.Json.Numbers
import CloudDiagram.Proofs.Json.Doubles
import CloudDiagram.Proofs.Json.Rereading
import CloudDiagram.Proofs.Json.Walks
import CloudDiagram.Proofs.Resource.Codec
import CloudDiagram.Proofs.Json.Values
import CloudDiagram.Proofs.Json.Records
import CloudDiagram.Proofs.Resource.Written
import CloudDiagram.Proofs.Resource.Doubles
import CloudDiagram.Proofs.Diagram.RoundTrip
import CloudDiagram.Proofs.Workspace.SettingsText
import CloudDiagram.Proofs.Session.OwnOutput
import CloudDiagram.Proofs.Timeline.Stacks
import CloudDiagram.Proofs.Session.UndoDepth
import CloudDiagram.Proofs.Session.Soundness
import CloudDiagram.Proofs.Session.Palette
import CloudDiagram.Proofs.Terraform.Dependence
import CloudDiagram.Proofs.Session.Answers
import CloudDiagram.Proofs.Session.Standalone
import CloudDiagram.Proofs.Terraform.Documents
import CloudDiagram.Proofs.Terraform.QuotedTexts
import CloudDiagram.Proofs.Terraform.TextLists
import CloudDiagram.Proofs.Terraform.InstanceNames
import CloudDiagram.Proofs.Workspace.Outcomes
import CloudDiagram.Proofs.Terraform.Parts
import CloudDiagram.Proofs.Diagram.Arcs
import CloudDiagram.Proofs.Terraform.Reordering
import CloudDiagram.Proofs.Workspace.Effects
import CloudDiagram.Proofs.Workspace.Independence
import CloudDiagram.Proofs.Terraform.Tags
import CloudDiagram.Proofs.Resource.Spellings
import CloudDiagram.Proofs.Json.Forward
import CloudDiagram.Proofs.Json.Meeting
import CloudDiagram.Proofs.Registry.Learning
import CloudDiagram.Proofs.Session.Calls
