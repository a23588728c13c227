import BoundSql.Text.PrintableTable
import BoundSql.Entity.ColumnName
import BoundSql.Text.Blank
import BoundSql.Number.Decimal
import BoundSql.Number.Shortest
import BoundSql.Calendar.Reader
import BoundSql.Uuid
import BoundSql.Json.Reader
import BoundSql.Json.Numeral
import BoundSql.Value.Host
import BoundSql.Value.Order
import BoundSql.Expr.Json
import BoundSql.Expr.Truth
import BoundSql.Expr.Typed
import BoundSql.Entity.Catalog
import BoundSql.Entity.Registry
import BoundSql.Sql.Condition
import BoundSql.Sql.Write
import BoundSql.Sql.Selection
import BoundSql.Sql.Bulk
import BoundSql.Sql.Request
import BoundSql.Settings
import BoundSql.Entity.Definition.Yaml
import BoundSql.Value.Inspect
import BoundSql.Session.Terminal
import BoundSql.Main
import BoundSql.Session.Loose
import BoundSql.Session.Script
import BoundSql.Proofs.Condition.Meaning
import BoundSql.Proofs.Write
import BoundSql.Proofs.Draft.Run
import BoundSql.Proofs.Draft.Filters
import BoundSql.Proofs.Statement.Tokens
import BoundSql.Proofs.Draft.Soundness
import BoundSql.Proofs.Agreement
import BoundSql.Proofs.Draft.Agreement
import BoundSql.Proofs.Draft.Numbering
import BoundSql.Proofs.Bulk
import BoundSql.Proofs.Request
import BoundSql.Proofs.Draft.Editing
import BoundSql.Proofs.Draft.Slots
import BoundSql.Proofs.Session.FirstError
import BoundSql.Proofs.Session.Calls
import BoundSql.Proofs.Session.Insertion
import BoundSql.Proofs.Condition.Deciding
import BoundSql.Proofs.Session.Restriction
import BoundSql.Proofs.Draft.Arrangement
import BoundSql.Proofs.Session.Arrangement
import BoundSql.Proofs.Json.Leaf
import BoundSql.Proofs.Json.Tree
import BoundSql.Proofs.Bulk.Reader
import BoundSql.Proofs.Json.Expr
import BoundSql.Proofs.Bulk.Reading
import BoundSql.Proofs.Draft.Writes
import BoundSql.Proofs.Entity.ColumnName
import BoundSql.Proofs.Entity.NormalForm
import BoundSql.Proofs.Entity.Columns
import BoundSql.Entity.Registry.Shared
import BoundSql.Proofs.Entity.Registry
import BoundSql.Proofs.Entity.TableName
import BoundSql.Proofs.Draft.Table
import BoundSql.Proofs.Conversion
import BoundSql.Proofs.Term.Reader
import BoundSql.Proofs.Term.Arithmetic
import BoundSql.Proofs.Entity.Derivation
import BoundSql.Proofs.Number.Integer
import BoundSql.Proofs.Value.Coercion
import BoundSql.Proofs.Value.Texts
import BoundSql.Proofs.Value.Order
import BoundSql.Proofs.Replacement
import BoundSql.Proofs.Quotation
import BoundSql.Proofs.Draft.Paging
import BoundSql.Proofs.Entity.Catalog
