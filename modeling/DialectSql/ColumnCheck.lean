import DialectSql.Error
import DialectSql.Finder.Descriptor
import DialectSql.Model

/-!
# Column Checks

Whether the columns that a request names are columns of its table, up to the case of letters.
Nothing is checked against a table whose columns are unknown, and the first unknown column is
reported with the clause that names it.
-/

namespace DialectSql.Table

/-- A column named in a clause has to be known. -/
def checkColumn (table : Table) (clause column : Text) : Except Error Unit :=
  if table.columns.isEmpty || table.hasColumn column then .ok ()
  else .error (.columnUnknown clause table.qualifiedName column table.columnNames)

/-- Columns named in a clause have to be known, in order. -/
def checkColumns (table : Table) (clause : Text) : List Text → Except Error Unit
  | [] => .ok ()
  | column :: columns => do
    table.checkColumn clause column
    table.checkColumns clause columns

/-- The columns of an ordering have to be known. -/
def checkOrder (table : Table) : Option Order → Except Error Unit
  | none => .ok ()
  | some order => table.checkColumn "ORDER BY" order.column

/-- The columns that a chain filters by. -/
def filterColumns : Option PredicateGroup → List Text
  | none => []
  | some group => group.predicates.map Predicate.column

/-- The columns of a request for rows: those returned, those filtered by, the one ordered by. -/
def checkSelect (table : Table) (select : Select) : Except Error Unit := do
  table.checkColumns "SELECT" select.columns
  table.checkColumns "WHERE" (filterColumns select.filter)
  table.checkOrder select.order

/-- The columns of a statement.  Removals and calls name none. -/
def checkStatement (table : Table) : Statement → Except Error Unit
  | .select select => table.checkSelect select
  | .insert insert => table.checkColumns "VALUES" insert.values.names
  | .update update => table.checkColumns "SET" update.values.names
  | .delete _ => .ok ()
  | .call _ => .ok ()

/-- The columns of a finder and of the ordering that goes with it. -/
def checkFinder (table : Table) (finder : Finder) (order : Option Order) : Except Error Unit := do
  table.checkColumns "WHERE" (finder.fields.map Finder.FieldExpr.column)
  table.checkOrder order

/-- The columns of a model, if it is a statement. -/
def checkModel (table : Table) : Model → Except Error Unit
  | .statement statement => table.checkStatement statement
  | _ => .ok ()

end DialectSql.Table
