import ParamSql.Connection.Driver
import ParamSql.Connection.Event
import ParamSql.Connection.Harness
import ParamSql.Connection.Log
import ParamSql.Connection.Recorder
import ParamSql.Connection.Transaction
import ParamSql.Error
import ParamSql.Formula
import ParamSql.Fragment
import ParamSql.Identifier
import ParamSql.Instant
import ParamSql.Json.Basic
import ParamSql.Json.Reader
import ParamSql.Keyed
import ParamSql.Number.Binary
import ParamSql.Number.Decimal
import ParamSql.Octets
import ParamSql.Proofs.Connection.Body
import ParamSql.Proofs.Connection.Bracketing
import ParamSql.Proofs.Connection.Turn
import ParamSql.Proofs.Logic.Confinement
import ParamSql.Proofs.Logic.Escape
import ParamSql.Proofs.Logic.Formula
import ParamSql.Proofs.Logic.Grammar
import ParamSql.Proofs.Logic.Reading
import ParamSql.Proofs.Logic.SetGrammar
import ParamSql.Proofs.Logic.Settled
import ParamSql.Proofs.Logic.Truth
import ParamSql.Proofs.Query.Call
import ParamSql.Proofs.Query.Ingredient
import ParamSql.Proofs.Query.Map
import ParamSql.Proofs.Query.Revaluation
import ParamSql.Proofs.Query.Subquery
import ParamSql.Proofs.Sql.Agreement
import ParamSql.Proofs.Sql.Alias
import ParamSql.Proofs.Sql.Capture
import ParamSql.Proofs.Sql.Chain
import ParamSql.Proofs.Sql.Change
import ParamSql.Proofs.Sql.Condition
import ParamSql.Proofs.Sql.Context
import ParamSql.Proofs.Sql.Correspondence
import ParamSql.Proofs.Sql.Draft
import ParamSql.Proofs.Sql.Filtered
import ParamSql.Proofs.Sql.Filters
import ParamSql.Proofs.Sql.FragmentFilters
import ParamSql.Proofs.Sql.Guard
import ParamSql.Proofs.Sql.Link
import ParamSql.Proofs.Sql.Marker
import ParamSql.Proofs.Sql.Nesting
import ParamSql.Proofs.Sql.Outline
import ParamSql.Proofs.Sql.Placeholders
import ParamSql.Proofs.Sql.Quoting
import ParamSql.Proofs.Sql.RawSql
import ParamSql.Proofs.Sql.Rendered
import ParamSql.Proofs.Sql.Rendering
import ParamSql.Proofs.Sql.Scopes
import ParamSql.Proofs.Sql.SetOperations
import ParamSql.Proofs.Sql.Statements
import ParamSql.Proofs.Sql.Vacuity
import ParamSql.Proofs.Sql.Values
import ParamSql.Proofs.Sql.Vocabulary
import ParamSql.Proofs.Sql.Within
import ParamSql.Proofs.Sql.Writers
import ParamSql.Proofs.Text.Characters
import ParamSql.Proofs.Text.Lexer
import ParamSql.Proofs.Text.Numbered
import ParamSql.Query.Basic
import ParamSql.Query.Change
import ParamSql.Query.Clause
import ParamSql.Query.Condition
import ParamSql.Query.Result
import ParamSql.Query.Rows
import ParamSql.Query.Table
import ParamSql.RawSql
import ParamSql.Result.Reply
import ParamSql.Result.Row
import ParamSql.Script.Body
import ParamSql.Script.Journal
import ParamSql.Script.Step
import ParamSql.Sql.Alias
import ParamSql.Sql.Columns
import ParamSql.Sql.Compiled
import ParamSql.Sql.Lexeme
import ParamSql.Sql.Statement
import ParamSql.Text.CharClass
import ParamSql.Text.LowerCase
import ParamSql.Text.Split
import ParamSql.Text.Words
import ParamSql.Uuid
import ParamSql.Value.Basic
import ParamSql.Value.Cell
import ParamSql.Wire.Decode
import ParamSql.Wire.Encode
import ParamSql.Wire.Report
import ParamSql.Wire.Server
import ParamSql.Wire.Type
import ParamSql.Proofs.Text.Blank
import ParamSql.Proofs.Connection.Control
import ParamSql.Proofs.Connection.Atomicity
import ParamSql.Proofs.Connection.Client
import ParamSql.Proofs.Connection.EndStatement
import ParamSql.Proofs.Connection.Handles
import ParamSql.Proofs.Connection.Failures
import ParamSql.Proofs.Number.Rounding
import ParamSql.Proofs.Number.Precision
import ParamSql.Proofs.Number.Misreading
import ParamSql.Proofs.Wire.Octets
import ParamSql.Proofs.Wire.RoundTrip
import ParamSql.Proofs.Wire.Meaning
import ParamSql.Proofs.Connection.Fetch
import ParamSql.Proofs.Sql.Need
import ParamSql.Proofs.Sql.Takes
import ParamSql.Proofs.Sql.Soundness
import ParamSql.Proofs.Sql.WellFormed
import ParamSql.Proofs.Rows.Server
import ParamSql.Proofs.Rows.Selection
import ParamSql.Proofs.Rows.Count
import ParamSql.Proofs.Sql.JoinConditions
import ParamSql.Proofs.Rows.Touched
import ParamSql.Proofs.Sql.Asking
import ParamSql.Proofs.Query.History
import ParamSql.Proofs.Sql.Insertion
import ParamSql.Proofs.Sql.Reference
import ParamSql.Proofs.Sql.Layout
import ParamSql.Proofs.Sql.Arrangement
import ParamSql.Proofs.Sql.DerivedTables
import ParamSql.Proofs.Sql.Brackets
import ParamSql.Proofs.Sql.Placement
import ParamSql.Proofs.Sql.Qualified
import ParamSql.Proofs.Sql.Targets
import ParamSql.Proofs.Sql.Delivery
import ParamSql.Proofs.Sql.ResultOrder
import ParamSql.Proofs.Sql.Filled
import ParamSql.Proofs.Sql.Tidy
import ParamSql.Proofs.Sql.Elements
import ParamSql.Proofs.Sql.Border
import ParamSql.Proofs.Sql.Gaps
import ParamSql.Proofs.Result.Cells
import ParamSql.Proofs.Wire.Arrays
import ParamSql.Proofs.Query.Entries
import ParamSql.Proofs.Connection.Undoing
import ParamSql.Proofs.Connection.Reports
import ParamSql.Proofs.Sql.Allocation
import ParamSql.Proofs.Result.Typed
import ParamSql.Proofs.Sql.Decoding
