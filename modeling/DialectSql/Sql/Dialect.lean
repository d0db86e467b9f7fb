import DialectSql.Sql.Clause
import DialectSql.Trace

/-!
# Dialects

How a database wants its SQL.  Dialects differ in how they cut a page out of a result and in how
they quote identifiers; all other statements read the same everywhere.

Two families put a clause behind the statement and bind both numbers of the page.  The third has no
such clause: it numbers the ordered rows in an inner statement and keeps a range of numbers, which
stands in the text.  So its bounds have to be numbers that can be written.
-/

namespace DialectSql.Sql

/-- How a dialect cuts out a page. -/
inductive Paging where
  /-- `LIMIT rows OFFSET start`. -/
  | limitOffset
  /-- `OFFSET start ROWS FETCH NEXT rows ROWS ONLY`. -/
  | offsetFetch
  /-- A range of row numbers around an inner statement. -/
  | rowNumber
  deriving DecidableEq, Repr, Inhabited

/-- A dialect. -/
structure Dialect where
  name : Text
  paging : Paging
  quotes : Quotes
  deriving DecidableEq, Repr, Inhabited

/-- A statement in the SQL of a dialect.  `outPositions` are the places of the placeholders, from
one on, whose values come out of a procedure. -/
structure Compiled where
  sql : Text
  params : List Bind
  dialect : Text
  outPositions : List Nat
  deriving DecidableEq, Repr, Inhabited

/-- How many placeholders the text shows. -/
def Compiled.placeholderCount (compiled : Compiled) : Nat :=
  compiled.sql.count (.char '?')

/-- The clause that cuts out a page. -/
def Paging.clause (paging : Paging) (limit : Limit) : Except Error Fragment :=
  match paging with
  | limitOffset =>
    .ok [.text "LIMIT ", .bind (.integer limit.rows), .text " OFFSET ",
      .bind (.integer limit.start)]
  | offsetFetch =>
    .ok [.text "OFFSET ", .bind (.integer limit.start), .text " ROWS FETCH NEXT ",
      .bind (.integer limit.rows), .text " ROWS ONLY"]
  | rowNumber => do
    let first ← Number.decimal limit.start
    let last ← Number.decimal limit.stop
    return [.text ("WHERE ROW_NUMBER BETWEEN " ++ first ++ " AND " ++ last)]

/-- The ordering of the result: pages are always ordered, by the primary key if nothing else is
asked for. -/
def effectiveOrder (select : Select) : Option Order :=
  match select.order, select.limit with
  | some order, _ => some order
  | none, some _ => some (Order.byPrimaryKey select.table)
  | none, none => none

/-- The layout with the page in a clause behind the statement. -/
def plainSelect (paging : Paging) (select : Select) : Except Error Fragment := do
  let filter ← whereClause select.filter
  let order := (effectiveOrder select).map fun order ↦ .text "ORDER BY " :: ordering order
  let page ← select.limit.mapM paging.clause
  return Fragment.join " "
    ([.text "SELECT " :: selectList select.columns, .text "FROM " :: source select.table] ++
      filter ++ order.toList ++ page.toList)

/-- The layout with numbered rows.  Without an ordering the rows are numbered by the primary key. -/
def numberedSelect (select : Select) (limit : Limit) : Except Error Fragment := do
  let filter ← whereClause select.filter
  let ranking := match select.order with
    | some order => ordering order
    | none => column select.table.primaryKey
  let inner := .text "SELECT ROW_NUMBER() OVER ( ORDER BY " :: ranking ++
    [.text " ) AS ROW_NUMBER, "] ++ selectList select.columns ++ [.text " FROM "] ++
    source select.table
  let page ← Paging.rowNumber.clause limit
  return .text "SELECT * FROM ( " :: Fragment.join " " (inner :: filter) ++ [.text ") "] ++ page

/-- A request for rows in the layout of a family of dialects. -/
def selectFragment (paging : Paging) (select : Select) : Except Error Fragment :=
  match paging, select.limit with
  | .rowNumber, some limit => numberedSelect select limit
  | paging, _ => plainSelect paging select

/-- The addition of a row. -/
def insertFragment (insert : Insert) : Fragment :=
  .text "INSERT INTO " :: qualified insert.table ++ [.text " ("] ++
    Fragment.join "," (insert.values.names.map fun name ↦ [.name name]) ++
    [.text ") VALUES ("] ++
    Fragment.join "," (insert.values.values.map fun value ↦ [.bind (.text value)]) ++ [.text ")"]

/-- The change of a row. -/
def updateFragment (update : Update) : Fragment :=
  .text "UPDATE " :: qualified update.table ++ [.text " SET "] ++
    assignments update.table update.values ++ [.text " WHERE "] ++
    keyCondition update.table update.id

/-- The removal of a row. -/
def deleteFragment (delete : Delete) : Fragment :=
  .text "DELETE FROM " :: qualified delete.table ++ [.text " WHERE "] ++
    keyCondition delete.table delete.id

/-- The call of a procedure, in the escape syntax for calls; the procedure's name is not an
identifier to be quoted. -/
def callFragment (call : Call) : Fragment :=
  .text ("\x7bcall " ++ call.name ++ "(") ::
    Fragment.join "," (call.arguments.map fun argument ↦
      [.bind (Bind.ofText? argument.bound)]) ++ [.text ")\x7d"]

/-- The places, from the given one on, of the arguments that come out of a procedure. -/
def outPositions : Nat → List Argument → List Nat
  | _, [] => []
  | position, argument :: arguments =>
    if argument.out then position :: outPositions (position + 1) arguments
    else outPositions (position + 1) arguments

/-- The number of rows of a table; it is never filtered. -/
def countFragment (table : Table) : Fragment :=
  .text "SELECT COUNT(*) AS total FROM " :: qualified table

namespace Dialect

/-- A fragment as a finished statement. -/
def finish (dialect : Dialect) (fragment : Fragment) (outPositions : List Nat) : Compiled :=
  ⟨fragment.sql dialect.quotes, fragment.binds, dialect.name, outPositions⟩

/-- A request for rows in the SQL of a dialect. -/
def renderSelect (dialect : Dialect) (select : Select) : Except Error Compiled := do
  let fragment ← selectFragment dialect.paging select
  return dialect.finish fragment []

/-- A statement in the SQL of a dialect. -/
def render (dialect : Dialect) : Statement → Except Error Compiled
  | .select select => dialect.renderSelect select
  | .insert insert => .ok (dialect.finish (insertFragment insert) [])
  | .update update => .ok (dialect.finish (updateFragment update) [])
  | .delete delete => .ok (dialect.finish (deleteFragment delete) [])
  | .call call => .ok (dialect.finish (callFragment call) (outPositions 1 call.arguments))

/-- The SQL that counts the rows of a table. -/
def rowCount (dialect : Dialect) (table : Table) : Text :=
  (countFragment table).sql dialect.quotes

/-- The count of the rows of a table as a finished statement. -/
def renderRowCount (dialect : Dialect) (table : Table) : Compiled :=
  dialect.finish (countFragment table) []

end Dialect

/-! ## Log -/

/-- The word by which the log names a kind of statement. -/
def statementWord : Statement → String
  | .select _ => "select"
  | .insert _ => "insert"
  | .update _ => "update"
  | .delete _ => "delete"
  | .call _ => "call"

namespace Dialect

/-- Renders a statement and reports how many placeholders it has. -/
def renderTraced (dialect : Dialect) (statement : Statement) : Traced Error Compiled := do
  let compiled ← Traced.ofExcept (dialect.render statement)
  Traced.tell .debug
    ("Rendered " ++ dialect.name ++ " " ++ statementWord statement ++ " with " ++
      compiled.params.length.repr ++ " placeholder(s)")
  return compiled

end Dialect

end DialectSql.Sql
