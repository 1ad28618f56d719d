import CommandTemplate.Calculator
import CommandTemplate.Calendar.Almanac
import CommandTemplate.Calendar.Date
import CommandTemplate.Calendar.DateTime
import CommandTemplate.Calendar.Letters
import CommandTemplate.Calendar.Locale
import CommandTemplate.Calendar.Pattern
import CommandTemplate.Calendar.Zone
import CommandTemplate.Calendar.ZoneNames
import CommandTemplate.CommandLine.Action
import CommandTemplate.CommandLine.Arguments
import CommandTemplate.CommandLine.Grammar
import CommandTemplate.CommandLine.Reading
import CommandTemplate.Config
import CommandTemplate.Context
import CommandTemplate.Domain
import CommandTemplate.Domain.Direction
import CommandTemplate.Domain.Joining
import CommandTemplate.Domain.Label
import CommandTemplate.Domain.Mapping
import CommandTemplate.Domain.Punycode
import CommandTemplate.Evaluation.Basic
import CommandTemplate.Evaluation.Builtin
import CommandTemplate.Evaluation.Invocation
import CommandTemplate.Evaluation.Template
import CommandTemplate.Json.Parser
import CommandTemplate.Json.Path
import CommandTemplate.Json.PathParser
import CommandTemplate.Json.Value
import CommandTemplate.Main
import CommandTemplate.Number.Binary64
import CommandTemplate.Number.Integer
import CommandTemplate.Number.Notation
import CommandTemplate.Number.Rounding
import CommandTemplate.Parameters
import CommandTemplate.ParseError
import CommandTemplate.Regex.Expression
import CommandTemplate.Regex.Footprint
import CommandTemplate.Regex.Layout
import CommandTemplate.Regex.NamedClass
import CommandTemplate.Regex.Parser
import CommandTemplate.Regex.Program
import CommandTemplate.Regex.Replace
import CommandTemplate.Regex.Search
import CommandTemplate.Regex.Syntax
import CommandTemplate.Registry
import CommandTemplate.Replacing
import CommandTemplate.Rule
import CommandTemplate.Setting
import CommandTemplate.Template.Identifiers
import CommandTemplate.Template.Item
import CommandTemplate.Template.Parser
import CommandTemplate.Text.Age
import CommandTemplate.Text.Blank
import CommandTemplate.Text.Boundary
import CommandTemplate.Text.ByteRange
import CommandTemplate.Text.Casing
import CommandTemplate.Text.Category
import CommandTemplate.Text.CodeSet
import CommandTemplate.Text.Combining
import CommandTemplate.Text.Composition
import CommandTemplate.Text.FormEncoding
import CommandTemplate.Text.ImageTable
import CommandTemplate.Text.NamedSet
import CommandTemplate.Text.Names
import CommandTemplate.Text.Pieces
import CommandTemplate.Text.Property
import CommandTemplate.Text.Property.Letters
import CommandTemplate.Text.Property.Signs
import CommandTemplate.Text.Quoting
import CommandTemplate.Text.Recent
import CommandTemplate.Text.Scanner
import CommandTemplate.Text.Script
import CommandTemplate.Text.Sorting
import CommandTemplate.Toml.Parser
import CommandTemplate.Toml.Value
import CommandTemplate.Url
import CommandTemplate.Proofs.Template.Grammar
import CommandTemplate.Proofs.Outcome
import CommandTemplate.Proofs.Template.Completeness
import CommandTemplate.Proofs.Template.Soundness
import CommandTemplate.Proofs.Template.Identifier
import CommandTemplate.Proofs.Template.WellFormed
import CommandTemplate.Proofs.Template.Printing
import CommandTemplate.Proofs.Evaluation.Agreement
import CommandTemplate.Proofs.Calculator.Derivation
import CommandTemplate.Proofs.Calculator.Soundness
import CommandTemplate.Proofs.Calculator.Completeness
import CommandTemplate.Proofs.Calculator.Lexing
import CommandTemplate.Proofs.Calculator.Correctness
import CommandTemplate.Proofs.Number.Integer
import CommandTemplate.Proofs.Text.Blank
import CommandTemplate.Proofs.Text.Brackets
import CommandTemplate.Proofs.Json.Printing
import CommandTemplate.Proofs.Evaluation.Limit
import CommandTemplate.Proofs.Evaluation.Queries
import CommandTemplate.Proofs.Text.Casing
import CommandTemplate.Proofs.Template.Nodes
import CommandTemplate.Proofs.Registry.Lines
import CommandTemplate.Proofs.Evaluation.Steps
import CommandTemplate.Proofs.Evaluation.Simulation
import CommandTemplate.Proofs.Evaluation.Calling
import CommandTemplate.Proofs.Evaluation.Invocation
import CommandTemplate.Proofs.Evaluation.Escaping
import CommandTemplate.Proofs.Evaluation.Ending
import CommandTemplate.Proofs.Evaluation.Streams
import CommandTemplate.Proofs.Text.Places
import CommandTemplate.Proofs.Json.Faults
import CommandTemplate.Proofs.Template.Faults
import CommandTemplate.Proofs.Registry.Loading
import CommandTemplate.Proofs.Registry.Names
import CommandTemplate.Proofs.Evaluation.Asking
import CommandTemplate.Proofs.Evaluation.Fetching
import CommandTemplate.Proofs.Evaluation.Cancelling
import CommandTemplate.Proofs.Evaluation.Requiring
import CommandTemplate.Proofs.Template.Selections
import CommandTemplate.Proofs.Number.Numeral
import CommandTemplate.Proofs.Number.Rounding
import CommandTemplate.Proofs.Calculator.Viable
import CommandTemplate.Proofs.Calculator.Stopping
import CommandTemplate.Proofs.Calculator.Spelling
import CommandTemplate.Proofs.Calculator.Faults
import CommandTemplate.Proofs.Evaluation.Demanding
import CommandTemplate.Proofs.Template.Identifiers
import CommandTemplate.Proofs.Json.Selecting
import CommandTemplate.Proofs.Json.Composing
import CommandTemplate.Proofs.Text.CodeSet
import CommandTemplate.Proofs.Regex.Captures
import CommandTemplate.Proofs.Regex.Splicing
import CommandTemplate.Proofs.Regex.References
import CommandTemplate.Proofs.Evaluation.Replacing
import CommandTemplate.Proofs.Text.Pieces
import CommandTemplate.Proofs.Text.Quoting
import CommandTemplate.Proofs.Text.Sorting
import CommandTemplate.Proofs.Parameters
import CommandTemplate.Proofs.Evaluation.FixedText
import CommandTemplate.Proofs.Evaluation.Switching
import CommandTemplate.Proofs.Calendar.Letters
import CommandTemplate.Proofs.Text.Sigma
import CommandTemplate.Proofs.Rule
import CommandTemplate.Proofs.CommandLine.Channel
import CommandTemplate.Proofs.CommandLine.Listing
