import Swimlane.Calendar
import Swimlane.Command.Arguments
import Swimlane.Command.Batch
import Swimlane.Command.Outcome
import Swimlane.Command.Run
import Swimlane.Console.Cells
import Swimlane.Console.Markup
import Swimlane.Console.Pictures
import Swimlane.Console.Style
import Swimlane.Console.Wrap
import Swimlane.Containment
import Swimlane.Decimal.Basic
import Swimlane.Decimal.Reader
import Swimlane.Decimal.Shortest
import Swimlane.Decimal.Style
import Swimlane.Diagram.Basic
import Swimlane.Diagram.Payload
import Swimlane.Distinct
import Swimlane.Document.Basic
import Swimlane.Document.Payload
import Swimlane.Edge
import Swimlane.Files.Path
import Swimlane.Files.Tree
import Swimlane.Flow.Column
import Swimlane.Flow.Cycle
import Swimlane.Flow.Graph
import Swimlane.Flow.Layered
import Swimlane.Flow.Order
import Swimlane.Grid.Band
import Swimlane.Grid.Compose
import Swimlane.Json.Basic
import Swimlane.Json.Raw
import Swimlane.Json.Reader
import Swimlane.Json.Writer
import Swimlane.Layout
import Swimlane.Main
import Swimlane.Notation.Grammar
import Swimlane.Notation.Line
import Swimlane.Notation.Parser
import Swimlane.Notation.Torn
import Swimlane.Proofs.Containment
import Swimlane.Proofs.Edge
import Swimlane.Proofs.Flow.Breaking
import Swimlane.Proofs.Flow.Direction
import Swimlane.Proofs.Flow.Placement
import Swimlane.Proofs.Flow.Rank
import Swimlane.Proofs.Flow.Search
import Swimlane.Proofs.Flow.Sorting
import Swimlane.Proofs.Flow.Crossing
import Swimlane.Proofs.FirstUse
import Swimlane.Proofs.Caption
import Swimlane.Proofs.Service
import Swimlane.Proofs.Flow.Sweep
import Swimlane.Proofs.Flow.Trail
import Swimlane.Proofs.Flow.Walk
import Swimlane.Proofs.Grid.Area
import Swimlane.Proofs.Grid.Bands
import Swimlane.Proofs.Grid.Collision
import Swimlane.Proofs.Grid.Conservation
import Swimlane.Proofs.Grid.Identifiers
import Swimlane.Proofs.Grid.Nesting
import Swimlane.Proofs.Grid.Position
import Swimlane.Proofs.Grid.Rightward
import Swimlane.Proofs.Grid.Room
import Swimlane.Proofs.Grid.Shelf
import Swimlane.Proofs.Grid.Stacking
import Swimlane.Proofs.Layout
import Swimlane.Proofs.Notation.Identifier
import Swimlane.Proofs.Notation.Locality
import Swimlane.Proofs.Notation.Torn
import Swimlane.Proofs.Scalar.Exact
import Swimlane.Proofs.Session
import Swimlane.Proofs.Text.Blank
import Swimlane.Proofs.Text.Lines
import Swimlane.Report.Boxed
import Swimlane.Report.Inspection
import Swimlane.Report.Widths
import Swimlane.Scalar
import Swimlane.Service
import Swimlane.Service.Address
import Swimlane.Service.Body
import Swimlane.Service.Endpoint
import Swimlane.Service.Outline
import Swimlane.Service.State
import Swimlane.Session
import Swimlane.Settings.Basic
import Swimlane.Settings.Environment
import Swimlane.Settings.Number
import Swimlane.Settings.Sources
import Swimlane.Shape
import Swimlane.Table
import Swimlane.Text.Base64
import Swimlane.Text.Blank
import Swimlane.Text.Case
import Swimlane.Text.Digits
import Swimlane.Text.Lines
import Swimlane.Text.Numeral
import Swimlane.Text.Printable
import Swimlane.Text.Quoted
import Swimlane.Text.Ranges
import Swimlane.Text.Split
import Swimlane.Text.Stream
import Swimlane.Text.Torn
import Swimlane.Text.Utf8
import Swimlane.Text.Wide
import Swimlane.Text.Word
import Swimlane.Validation.Basic
import Swimlane.Value.Basic
import Swimlane.Value.Overlay
import Swimlane.Value.SetOrder
import Swimlane.Value.Shown
import Swimlane.Yaml.Cursor
import Swimlane.Yaml.Fault
import Swimlane.Yaml.Graph
import Swimlane.Yaml.Kind
import Swimlane.Yaml.Lexer
import Swimlane.Yaml.Meaning
import Swimlane.Yaml.Moment
import Swimlane.Yaml.Number
import Swimlane.Yaml.Reader
import Swimlane.Yaml.Scalar
import Swimlane.Yaml.Token
import Swimlane.Proofs.Notation.Reading
import Swimlane.Proofs.Notation.RoundTrip
import Swimlane.Proofs.Flow.Longest
import Swimlane.Proofs.Flow.Lookup
import Swimlane.Proofs.Pipeline
import Swimlane.Proofs.Scalar.Ordered
import Swimlane.Proofs.Settings.Bounds
import Swimlane.Proofs.Grid.Strict
import Swimlane.Proofs.Flow.Renaming
import Swimlane.Proofs.Settings.Finite
import Swimlane.Proofs.Command.RenderAll
import Swimlane.Proofs.Flow.Pass
import Swimlane.Proofs.Flow.Start
import Swimlane.Proofs.Flow.Untangling
import Swimlane.Proofs.Flow.Spacing
import Swimlane.Proofs.Flow.Listing
import Swimlane.Proofs.Grid.Parents
import Swimlane.Proofs.Grid.Groups
import Swimlane.Proofs.Grid.Relative
import Swimlane.Proofs.Notation.Appending
import Swimlane.Proofs.Notation.Gap
import Swimlane.Proofs.Notation.FlowLine
import Swimlane.Proofs.Partition
import Swimlane.Proofs.Flow.Paths
import Swimlane.Proofs.Document.Exchange
