import MediaQuery.Bytes.Basic
import MediaQuery.Bytes.Condition
import MediaQuery.Bytes.Reference
import MediaQuery.Bytes.Sheet
import MediaQuery.CommandLine.Arguments
import MediaQuery.CommandLine.Run
import MediaQuery.Condition.Basic
import MediaQuery.Condition.Read
import MediaQuery.Config
import MediaQuery.Css.Reference
import MediaQuery.Css.Scan
import MediaQuery.Css.Sheet
import MediaQuery.Css.Shield
import MediaQuery.Decimal.Notation
import MediaQuery.Decimal.Read
import MediaQuery.Decimal.Shortest
import MediaQuery.Dom.Construction
import MediaQuery.Dom.Document
import MediaQuery.Dom.Element
import MediaQuery.Dom.Listing
import MediaQuery.Dom.Markup
import MediaQuery.Dom.Node
import MediaQuery.Engine.Basic
import MediaQuery.Engine.Update
import MediaQuery.Failure
import MediaQuery.Files.Source
import MediaQuery.Files.Tree
import MediaQuery.Html.Builder.Basic
import MediaQuery.Html.Builder.Body
import MediaQuery.Html.Builder.Foreign
import MediaQuery.Html.Builder.Formatting
import MediaQuery.Html.Builder.Head
import MediaQuery.Html.Builder.Select
import MediaQuery.Html.Builder.Table
import MediaQuery.Html.CharacterReference
import MediaQuery.Html.ElementClass
import MediaQuery.Html.LayoutMode
import MediaQuery.Html.NamedCharacters
import MediaQuery.Html.Parse
import MediaQuery.Html.Token
import MediaQuery.Html.Tokenizer
import MediaQuery.Live.Dispatch
import MediaQuery.Live.Query
import MediaQuery.Log
import MediaQuery.Main
import MediaQuery.Rule.Active
import MediaQuery.Rule.Injection
import MediaQuery.Rule.Store
import MediaQuery.Text.Ascii
import MediaQuery.Text.Blank
import MediaQuery.Text.Composition
import MediaQuery.Text.CompositionTable
import MediaQuery.Text.Invisible
import MediaQuery.Text.Quoted
import MediaQuery.Text.RangeTable
import MediaQuery.Text.Size
import MediaQuery.Text.Split
import MediaQuery.Throttle
import MediaQuery.Url.Address
import MediaQuery.Url.Basic
import MediaQuery.Url.Domain
import MediaQuery.Url.Domain.Label
import MediaQuery.Url.Domain.LabelTable
import MediaQuery.Url.Domain.Mapping
import MediaQuery.Url.Domain.MappingTable
import MediaQuery.Url.Host
import MediaQuery.Url.Origin
import MediaQuery.Url.Path
import MediaQuery.Url.Punycode
import MediaQuery.Url.Read
import MediaQuery.Viewport
import MediaQuery.Proofs.Live.Accuracy
import MediaQuery.Proofs.Live.Moments
import MediaQuery.Proofs.Live.Rounds
import MediaQuery.Proofs.Live.Notification
import MediaQuery.Proofs.Live.Reports
import MediaQuery.Proofs.Live.Causes
import MediaQuery.Proofs.Live.Slots
import MediaQuery.Proofs.Live.Pardon
import MediaQuery.Proofs.Dom.Head
import MediaQuery.Proofs.Rule.Placement
import MediaQuery.Proofs.Rule.Independence
import MediaQuery.Proofs.Run.Resize
import MediaQuery.Proofs.Css.Lexeme
import MediaQuery.Proofs.Css.Stylesheet
import MediaQuery.Proofs.Text.Run
import MediaQuery.Proofs.Condition.Padding
import MediaQuery.Proofs.Condition.Entries
import MediaQuery.Proofs.Condition.Grammar
import MediaQuery.Proofs.Rule.Provenance
import MediaQuery.Proofs.Rule.Grouping
import MediaQuery.Proofs.Rule.Agreement
import MediaQuery.Proofs.Rule.Staleness
import MediaQuery.Proofs.Rule.Sheets
import MediaQuery.Proofs.Live.Turns
import MediaQuery.Proofs.Run.Failures
import MediaQuery.Proofs.Run.Loading
import MediaQuery.Proofs.Url.Relative
import MediaQuery.Proofs.Url.Origin
import MediaQuery.Proofs.Run.Spacing
import MediaQuery.Proofs.Run.Reconfiguration
import MediaQuery.Proofs.Dom.Edit
import MediaQuery.Proofs.Live.Renumbering
import MediaQuery.Proofs.Run.Lockstep
import MediaQuery.Proofs.Rule.Separation
import MediaQuery.Proofs.Css.Streaming
import MediaQuery.Proofs.Css.TopLevel
import MediaQuery.Proofs.Rule.Replacement
import MediaQuery.Proofs.Run.Rest
import MediaQuery.Proofs.CommandLine.Output
import MediaQuery.Proofs.Css.Relocation
import MediaQuery.Proofs.Css.Denotation
import MediaQuery.Proofs.Condition.Comment
import MediaQuery.Proofs.Css.Comment
import MediaQuery.Proofs.Dom.Decoding
import MediaQuery.Proofs.Dom.Coalescing
import MediaQuery.Proofs.Run.Asking
import MediaQuery.Proofs.Files.Containment
import MediaQuery.Proofs.Files.Ascent
import MediaQuery.Proofs.Files.Suffix
import MediaQuery.Proofs.Bytes.Encoding
import MediaQuery.Proofs.Bytes.Jump
import MediaQuery.Proofs.Bytes.Sheet
import MediaQuery.Proofs.Bytes.Condition
import MediaQuery.Proofs.Bytes.Reference
import MediaQuery.Proofs.Dom.Attributes
import MediaQuery.Proofs.Dom.Moving
import MediaQuery.Proofs.Run.Rerun
import MediaQuery.Proofs.Condition.Printing
import MediaQuery.Proofs.Decimal.Nearest
import MediaQuery.Proofs.Decimal.Operations
import MediaQuery.Proofs.Decimal.Bits
import MediaQuery.Proofs.Decimal.Literal
import MediaQuery.Proofs.Decimal.Shortest
import MediaQuery.Proofs.Decimal.Notation
