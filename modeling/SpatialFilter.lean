import SpatialFilter.Binding.Json
import SpatialFilter.Command.Folder
import SpatialFilter.Main
import SpatialFilter.Number.Text
import SpatialFilter.Predicate.Fingerprint
import SpatialFilter.Proofs.Number.Token
import SpatialFilter.Proofs.Text.Balance
import SpatialFilter.Proofs.Phrase.Form
import SpatialFilter.Proofs.Phrase.Group
import SpatialFilter.Proofs.Phrase.Geometry
import SpatialFilter.Proofs.Phrase.Item
import SpatialFilter.Proofs.Sequence
import SpatialFilter.Proofs.Phrase.Predicate
import SpatialFilter.Proofs.Sql.Requirement
import SpatialFilter.Proofs.NameSet
import SpatialFilter.Proofs.Sql.Fragment
import SpatialFilter.Proofs.Number.Rounding
import SpatialFilter.Proofs.Number.Shortest
import SpatialFilter.Proofs.Number.Layout
import SpatialFilter.Proofs.Wkt
import SpatialFilter.Proofs.Json.Text
import SpatialFilter.Proofs.Json.Number
import SpatialFilter.Proofs.Json.Rounding
import SpatialFilter.Proofs.NameMap
import SpatialFilter.Proofs.Predicate.Json
import SpatialFilter.Proofs.Predicate.Fingerprint
import SpatialFilter.Proofs.Text.Separation
import SpatialFilter.Proofs.Sql.Literal
import SpatialFilter.Proofs.Sql.Separation
import SpatialFilter.Proofs.Number.Pattern
import SpatialFilter.Proofs.Text.Words
import SpatialFilter.Proofs.Sql.Numbers
import SpatialFilter.Proofs.Sql.Answers
import SpatialFilter.Proofs.Text.Cut
import SpatialFilter.Proofs.Sql.Conjunction
import SpatialFilter.Proofs.Registry
import SpatialFilter.Proofs.Registry.Growth
import SpatialFilter.Proofs.Registry.Narrowing
import SpatialFilter.Proofs.Phrase.Layout
import SpatialFilter.Proofs.Sql.Json
import SpatialFilter.Proofs.Sql.Quotation
import SpatialFilter.Proofs.Command.Modes
import SpatialFilter.Proofs.Reading.Case
import SpatialFilter.Proofs.Reading.Tag
import SpatialFilter.Proofs.Reading.Body
import SpatialFilter.Proofs.Wkt.Normal
import SpatialFilter.Proofs.Reading.Complaint
import SpatialFilter.Proofs.Number.Value
import SpatialFilter.Proofs.Command.Input
import SpatialFilter.Proofs.Settings
import SpatialFilter.Proofs.Environment
import SpatialFilter.Proofs.Command.Precedence
import SpatialFilter.Proofs.Json.Grammar
import SpatialFilter.Proofs.Json.Order
import SpatialFilter.Proofs.Predicate.Order
import SpatialFilter.Proofs.Phrase.Refusal
import SpatialFilter.Proofs.Phrase.Viable
