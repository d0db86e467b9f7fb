import DialectSql.Json.Reader
import DialectSql.Json.Writer
import DialectSql.Number.Numeral
import DialectSql.Text.Lowercase
import DialectSql.Statement
import DialectSql.Error
import DialectSql.Trace
import DialectSql.Intake.Model
import DialectSql.Intake.Written
import DialectSql.Finder.Binding
import DialectSql.Sql.Dialect
import DialectSql.Sql.Catalog
import DialectSql.Policy.Paging
import DialectSql.Policy.Access
import DialectSql.ColumnCheck
import DialectSql.Usage
import DialectSql.Observed
import DialectSql.Session
import DialectSql.Metadata.Provider
import DialectSql.Proofs.Sql.Views
import DialectSql.Proofs.Sql.Clauses
import DialectSql.Proofs.Sql.NormalForm
import DialectSql.Proofs.Sql.Placeholders
import DialectSql.Proofs.Finder.Grammar
import DialectSql.Proofs.Finder.Scanning
import DialectSql.Proofs.Finder.Printing
import DialectSql.Proofs.Trace
import DialectSql.Proofs.Number.Writable
import DialectSql.Proofs.Json.WritableValues
import DialectSql.Proofs.Sql.EmptiedValues
import DialectSql.Proofs.Sql.PageWindow
import DialectSql.Proofs.Compiler.BindValues
import DialectSql.Proofs.Compiler.FinderRequest
import DialectSql.Proofs.Metadata.History
import DialectSql.Proofs.Sql.Agreement
import DialectSql.Proofs.Sql.ShownPage
import DialectSql.Proofs.Compiler.PageCap
import DialectSql.Proofs.Compiler.ColumnValidation
import DialectSql.Proofs.Metadata.CacheEntries
import DialectSql.Proofs.Session.Accounting
import DialectSql.Proofs.Sql.Precedence
import DialectSql.Proofs.Compiler.FinderArguments
import DialectSql.Proofs.Sql.Alphabet
import DialectSql.Proofs.Compiler.FinderAlphabet
import DialectSql.Proofs.Finder.Rejection
import DialectSql.Proofs.Policy.AccessDecision
import DialectSql.Proofs.Procedure.CallOrder
import DialectSql.Proofs.Json.WrittenText
import DialectSql.Proofs.Json.RoundTrip
import DialectSql.Proofs.Procedure.NestedValues
import DialectSql.Proofs.Intake.Outcomes
import DialectSql.Proofs.Intake.Records
import DialectSql.Proofs.Intake.SelectFaults
import DialectSql.Proofs.Intake.ReadBack
import DialectSql.Proofs.Sql.EqualStatements
import DialectSql.Proofs.Number.ParameterNumerals
import DialectSql.Proofs.Policy.RequestedPage
import DialectSql.Proofs.Finder.Lossless
import DialectSql.Proofs.Finder.Cursor
import DialectSql.Proofs.Text.Trim
import DialectSql.Proofs.Text.LowerCase
import DialectSql.Proofs.Settings.AliasNames
