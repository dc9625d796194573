import TabularReport.Access
import TabularReport.Bundle
import TabularReport.Calendar.Day
import TabularReport.Calendar.Instant
import TabularReport.Calendar.Reading
import TabularReport.Chart.Basic
import TabularReport.Chart.Document
import TabularReport.Chart.OfRows
import TabularReport.CommandLine.Error
import TabularReport.CommandLine.Invocation
import TabularReport.CommandLine.Reply
import TabularReport.CommandLine.Run
import TabularReport.CommandLine.Workspace
import TabularReport.Component.Basic
import TabularReport.Component.Document
import TabularReport.Decimal.NumberStyle
import TabularReport.Decimal.Reading
import TabularReport.Decimal.Shortest
import TabularReport.Document.Error
import TabularReport.Document.Reader
import TabularReport.Document.Scalars
import TabularReport.Document.Source
import TabularReport.Document.Tagged
import TabularReport.Document.Text
import TabularReport.Files.Fault
import TabularReport.Files.Tree
import TabularReport.Filter.Basic
import TabularReport.Filter.Document
import TabularReport.Filter.Fragment
import TabularReport.History.Basic
import TabularReport.History.Document
import TabularReport.History.Listing
import TabularReport.Json.Basic
import TabularReport.Json.Printer
import TabularReport.Json.Reading
import TabularReport.Main
import TabularReport.Proofs.Filter.Column
import TabularReport.Proofs.Filter.Contribution
import TabularReport.Proofs.Filter.Remainder
import TabularReport.Parameter.Basic
import TabularReport.Parameter.Document
import TabularReport.Parameter.Validation
import TabularReport.Pattern.Basic
import TabularReport.Pattern.Bracket
import TabularReport.Pattern.Escape
import TabularReport.Pattern.Fault
import TabularReport.Pattern.Flags
import TabularReport.Pattern.Reading
import TabularReport.RawQuery.Basic
import TabularReport.Run.Error
import TabularReport.Run.Execute
import TabularReport.Run.Render
import TabularReport.Run.Request
import TabularReport.Run.Rows
import TabularReport.Settings.Basic
import TabularReport.Settings.Document
import TabularReport.Settings.Text
import TabularReport.Sql.Basic
import TabularReport.Sql.Cell
import TabularReport.Sql.Evaluation
import TabularReport.Sql.Lexeme
import TabularReport.Sql.Phrase
import TabularReport.Sql.Reading
import TabularReport.Sql.Statement
import TabularReport.Statement.Assembly
import TabularReport.Statement.Compilation
import TabularReport.Statement.Query
import TabularReport.Statement.Token
import TabularReport.Store.Catalog
import TabularReport.Store.Document
import TabularReport.Store.Error
import TabularReport.Store.Query
import TabularReport.Store.Tables
import TabularReport.Template.Basic
import TabularReport.Template.Document
import TabularReport.Template.Metadata
import TabularReport.Text.Alphanumeric
import TabularReport.Text.Basic
import TabularReport.Text.CaseFolding
import TabularReport.Text.GeneralCategory
import TabularReport.Text.Property
import TabularReport.Text.Quoted
import TabularReport.Text.Ranges
import TabularReport.Text.Script
import TabularReport.Text.Word
import TabularReport.Toml.Scalar
import TabularReport.Toml.Table
import TabularReport.Validation.Error
import TabularReport.Validation.Identifier
import TabularReport.Validation.Template
import TabularReport.Proofs.Filter.Placeholder
import TabularReport.Proofs.Validation.Identifier
import TabularReport.Proofs.Statement.Plan
import TabularReport.Proofs.Statement.Condition
import TabularReport.Proofs.Statement.Composition
import TabularReport.Proofs.Statement.Resolution
import TabularReport.Proofs.Statement.Writing
import TabularReport.Proofs.Statement.Provenance
import TabularReport.Proofs.Statement.Numbering
import TabularReport.Proofs.Statement.Characters
import TabularReport.Proofs.Filter.Independence
import TabularReport.Proofs.Statement.Independence
import TabularReport.Proofs.Statement.Conjunction
import TabularReport.Proofs.Statement.RowCondition
import TabularReport.Proofs.Statement.Containment
import TabularReport.Proofs.Filter.Reading
import TabularReport.Proofs.Filter.Meaning
import TabularReport.Proofs.Run.Steps
import TabularReport.Proofs.Run.Conjunction
import TabularReport.Proofs.Run.Denial
import TabularReport.Proofs.Run.Discipline
import TabularReport.Proofs.Run.Rendering
import TabularReport.Proofs.Statement.Acceptance
import TabularReport.Proofs.Json.Fields
import TabularReport.Proofs.Statement.Answer
import TabularReport.Proofs.Statement.Scope
import TabularReport.Proofs.Statement.Page
import TabularReport.Proofs.Run.Paging
import TabularReport.Proofs.Document.Agreement
import TabularReport.Proofs.Run.Recording
import TabularReport.Proofs.Document.Record
import TabularReport.Proofs.Filter.Decoding
import TabularReport.Proofs.Json.Number
import TabularReport.Proofs.Json.Settled
import TabularReport.Proofs.Document.Preservation
import TabularReport.Proofs.Filter.Preservation
import TabularReport.Proofs.Text.Numeral
import TabularReport.Proofs.Calendar.Day
import TabularReport.Proofs.Calendar.Writing
import TabularReport.Proofs.Template.Preservation
import TabularReport.Proofs.History.Preservation
import TabularReport.Proofs.Document.Tagged
import TabularReport.Proofs.Component.Preservation
import TabularReport.Proofs.Document.Survival
import TabularReport.Proofs.Store.Contents
import TabularReport.Proofs.Store.Ledger
import TabularReport.Proofs.Run.PageOrder
import TabularReport.Proofs.Run.RowNames
import TabularReport.Proofs.Parameter.Defaults
import TabularReport.Proofs.Document.Literal
import TabularReport.Proofs.Document.Text
import TabularReport.Proofs.Document.Depth
import TabularReport.Proofs.Template.Text
import TabularReport.Proofs.Run.Compilation
import TabularReport.Proofs.RawQuery.Binding
import TabularReport.Proofs.Run.Unpaged
import TabularReport.Proofs.Run.Labels
import TabularReport.Proofs.Run.Capture
import TabularReport.Proofs.Parameter.Violation
import TabularReport.Proofs.Filter.Null
import TabularReport.Proofs.Statement.Required
import TabularReport.Proofs.Run.PageBounds
import TabularReport.Proofs.Validation.Grammar
import TabularReport.Proofs.Chart.Axes
import TabularReport.Proofs.Statement.Shadowing
import TabularReport.Proofs.Run.EffectiveValues
import TabularReport.Proofs.Chart.RowOrder
import TabularReport.Proofs.Decimal.FloatOrder
import TabularReport.Proofs.Chart.Categories
import TabularReport.Proofs.Chart.Faults
import TabularReport.Proofs.Files.Store
import TabularReport.Proofs.Store.Import
import TabularReport.Proofs.CommandLine.Import
import TabularReport.Proofs.Settings.Expansion
import TabularReport.Proofs.Statement.SuccessiveFilters
import TabularReport.Proofs.Statement.Building
import TabularReport.Proofs.Store.Binding
import TabularReport.Proofs.Filter.StartIndex
import TabularReport.Proofs.Calendar.DateOrder
import TabularReport.Proofs.Calendar.WrittenInstant
import TabularReport.Proofs.Calendar.Inversion
import TabularReport.Proofs.Calendar.Spelling
import TabularReport.Proofs.Text.Trim
