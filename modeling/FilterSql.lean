import FilterSql.Application
import FilterSql.Binary64.Basic
import FilterSql.Binary64.Shortest
import FilterSql.CommandLine.Basic
import FilterSql.CommandLine.Environment
import FilterSql.CommandLine.Parse
import FilterSql.Compiler
import FilterSql.Error
import FilterSql.Event
import FilterSql.Files
import FilterSql.Filter.Basic
import FilterSql.Filter.OfJson
import FilterSql.Filter.OfText
import FilterSql.Filter.Operator
import FilterSql.Fragment
import FilterSql.Json.Basic
import FilterSql.Json.Defect
import FilterSql.Json.Numeral
import FilterSql.Json.Pass
import FilterSql.Json.Reader
import FilterSql.Json.Scan
import FilterSql.Json.Typed
import FilterSql.Json.Writer
import FilterSql.Layout
import FilterSql.Literal
import FilterSql.Main
import FilterSql.Proofs.Backends
import FilterSql.Proofs.BareEquality
import FilterSql.Proofs.Binary64.Rounding
import FilterSql.Proofs.Blame
import FilterSql.Proofs.BooleanStructure
import FilterSql.Proofs.Containment
import FilterSql.Proofs.DecimalText
import FilterSql.Proofs.DedicatedColumns
import FilterSql.Proofs.Distinctness
import FilterSql.Proofs.EntryPoints
import FilterSql.Proofs.Formula
import FilterSql.Proofs.Fragments
import FilterSql.Proofs.Grammar
import FilterSql.Proofs.ImplicitConjunction
import FilterSql.Proofs.Interpretation
import FilterSql.Proofs.Json.Accepted
import FilterSql.Proofs.Json.Draft
import FilterSql.Proofs.Json.Grammar
import FilterSql.Proofs.Json.Passing
import FilterSql.Proofs.Json.RoundTrip
import FilterSql.Proofs.Json.Scaling
import FilterSql.Proofs.Json.Spelled
import FilterSql.Proofs.LayoutText
import FilterSql.Proofs.LiteralPlaces
import FilterSql.Proofs.LiteralValues
import FilterSql.Proofs.Loading
import FilterSql.Proofs.Membership
import FilterSql.Proofs.Names
import FilterSql.Proofs.Noninterference
import FilterSql.Proofs.Numbers
import FilterSql.Proofs.Outcome
import FilterSql.Proofs.Output
import FilterSql.Proofs.Paths
import FilterSql.Proofs.Placeholders
import FilterSql.Proofs.Predicate
import FilterSql.Proofs.PredicateText
import FilterSql.Proofs.Reading
import FilterSql.Proofs.Recheck
import FilterSql.Proofs.Reference
import FilterSql.Proofs.SettingsAccepted
import FilterSql.Proofs.SettingsDocument
import FilterSql.Proofs.SettingsReaders
import FilterSql.Proofs.SettingsText
import FilterSql.Proofs.SingleComparison
import FilterSql.Proofs.Sql.Lexeme
import FilterSql.Proofs.Sql.Outline
import FilterSql.Proofs.Sql.Phrase
import FilterSql.Proofs.Sql.Quotation
import FilterSql.Proofs.Sql.Reading
import FilterSql.Proofs.UsedColumns
import FilterSql.Proofs.Warnings
import FilterSql.Proofs.WholeNumbers
import FilterSql.Settings.File
import FilterSql.Settings.Load
import FilterSql.Settings.Section
import FilterSql.Sql.Backend
import FilterSql.Sql.Quoted
import FilterSql.Text.Alphanumeric
import FilterSql.Text.Blank
import FilterSql.Text.Printable
import FilterSql.Text.Ranges
import FilterSql.Text.Segments
import FilterSql.Traced
