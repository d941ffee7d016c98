import ChartSpec.Arguments
import ChartSpec.Attribute
import ChartSpec.Axis.Basic
import ChartSpec.Axis.Build
import ChartSpec.Axis.Type
import ChartSpec.Binary64
import ChartSpec.Config
import ChartSpec.Context
import ChartSpec.Data.Basic
import ChartSpec.Data.Build
import ChartSpec.Data.Format
import ChartSpec.Data.FormatType
import ChartSpec.Decimal.Shortest
import ChartSpec.Decimal.Written
import ChartSpec.DecodeError
import ChartSpec.Draft
import ChartSpec.Entries
import ChartSpec.Error
import ChartSpec.Field.Reference
import ChartSpec.Field.Set
import ChartSpec.Json.Basic
import ChartSpec.Json.Numeral
import ChartSpec.Json.Parser
import ChartSpec.Json.Printer
import ChartSpec.Json.Token
import ChartSpec.Mark.Basic
import ChartSpec.Mark.Build
import ChartSpec.Mark.Channel
import ChartSpec.Mark.Easing
import ChartSpec.Mark.Styling
import ChartSpec.Mark.Type
import ChartSpec.Mark.ValueRef
import ChartSpec.Naming
import ChartSpec.Notice
import ChartSpec.OneOrMany
import ChartSpec.References
import ChartSpec.Registry
import ChartSpec.Scale.Basic
import ChartSpec.Scale.Build
import ChartSpec.Scale.Type
import ChartSpec.Text.Alphanumeric
import ChartSpec.Text.Blank
import ChartSpec.Text.CodePoints
import ChartSpec.Text.CombiningClass
import ChartSpec.Text.Composed
import ChartSpec.Text.Direction
import ChartSpec.Text.HexDigit
import ChartSpec.Text.Joining
import ChartSpec.Text.LetterCase
import ChartSpec.Text.Mark
import ChartSpec.Text.Printable
import ChartSpec.Text.Quoted
import ChartSpec.Text.WordCharacter
import ChartSpec.Transform.Attach
import ChartSpec.Transform.Basic
import ChartSpec.Transform.Check
import ChartSpec.Transform.Decode
import ChartSpec.Transform.Kind
import ChartSpec.Transform.Property
import ChartSpec.Transform.Record
import ChartSpec.Transform.Shape
import ChartSpec.Url.Address
import ChartSpec.Url.Disallowed
import ChartSpec.Url.Domain
import ChartSpec.Url.Error
import ChartSpec.Url.Label
import ChartSpec.Url.Parser
import ChartSpec.Url.Punycode
import ChartSpec.Url.Substitution
import ChartSpec.Visualization.Basic
import ChartSpec.Visualization.Build
import ChartSpec.Walk
import ChartSpec.Proofs.Arguments
import ChartSpec.Proofs.Collected
import ChartSpec.Proofs.Scoping
import ChartSpec.Proofs.Result
import ChartSpec.Proofs.Transform.Attach
import ChartSpec.Proofs.Registry
import ChartSpec.Proofs.Bench
import ChartSpec.Proofs.DataNames
import ChartSpec.Proofs.Integrity
import ChartSpec.Proofs.ScaleNames
import ChartSpec.Proofs.Closure
import ChartSpec.Proofs.Field.Reference
import ChartSpec.Proofs.Mark.Context
import ChartSpec.Proofs.Data.Context
import ChartSpec.Proofs.Field.Qualified
import ChartSpec.Proofs.Scale.Domain
import ChartSpec.Proofs.Agreement
import ChartSpec.Proofs.Stability
import ChartSpec.Proofs.Commutation
import ChartSpec.Proofs.Transform.Reading
import ChartSpec.Proofs.Transform.Shape
import ChartSpec.Proofs.Entries
import ChartSpec.Proofs.Attribute
import ChartSpec.Proofs.Attribute.Emitted
import ChartSpec.Proofs.Transform.Encoding
import ChartSpec.Proofs.Binary64
import ChartSpec.Proofs.Text.Word
import ChartSpec.Proofs.Transform.Rules
import ChartSpec.Proofs.Transform.Grammar
import ChartSpec.Proofs.Pipeline
import ChartSpec.Proofs.Data.Outputs
import ChartSpec.Proofs.Naming
import ChartSpec.Proofs.Transform.Reattach
import ChartSpec.Proofs.Axis.Parts
import ChartSpec.Proofs.Document.Closed
import ChartSpec.Proofs.Document.Parts
import ChartSpec.Proofs.Levels
import ChartSpec.Proofs.Listed
import ChartSpec.Proofs.Transform.Checked
import ChartSpec.Proofs.Data.Lineage
import ChartSpec.Proofs.Mark.Binding
import ChartSpec.Proofs.Atomicity
import ChartSpec.Proofs.Registry.Accepted
import ChartSpec.Proofs.Scale.ByName
import ChartSpec.Proofs.Naming.PlainWords
import ChartSpec.Proofs.Naming.RoundTrip
import ChartSpec.Proofs.Naming.Snake
import ChartSpec.Proofs.Field.Lookup
import ChartSpec.Proofs.Transform.InPlace
import ChartSpec.Proofs.Transform.Rotation
import ChartSpec.Proofs.Scale.Calls
import ChartSpec.Proofs.Scale.Range
import ChartSpec.Proofs.Scale.Bounds
import ChartSpec.Proofs.Scale.Fields
import ChartSpec.Proofs.Scale.WellFormed
import ChartSpec.Proofs.Mark.Script
import ChartSpec.Proofs.Mark.WellFormed
import ChartSpec.Proofs.Scale.Order
import ChartSpec.Proofs.Mark.LastValue
import ChartSpec.Proofs.Mark.ChannelNames
import ChartSpec.Proofs.Refusals
import ChartSpec.Proofs.InputErrors
import ChartSpec.Proofs.Field.Set
import ChartSpec.Proofs.Enumeration
import ChartSpec.Proofs.Json.Leaves
import ChartSpec.Proofs.Axis.Values
import ChartSpec.Proofs.Walk.Places
import ChartSpec.Proofs.Walk.Scopes
import ChartSpec.Proofs.Walk.Stops
