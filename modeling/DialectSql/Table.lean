import DialectSql.Text.Lowercase

/-!
# Tables

What is known about a relation that statements run against: where it lives, which column is its
primary key, and its columns as far as they are known.  A table without columns is one whose
columns are unknown, not one that has none.
-/

namespace DialectSql

/-- What is known about one column.  `size` is a declared length, `precision` and `scale` those
of a numeric type. -/
structure Column where
  name : Text
  sqlType : Text
  size : Option Int
  precision : Option Int
  scale : Option Int
  nullable : Bool
  deriving DecidableEq, Repr, Inhabited

/-- A relation. -/
structure Table where
  schemaName : Text
  name : Text
  primaryKey : Text
  columns : List Column
  deriving DecidableEq, Repr, Inhabited

/-- The primary key of a table that names none. -/
def defaultPrimaryKey : Text := "id"

namespace Table

/-- The name of the table with that of its schema in front. -/
def qualifiedName (table : Table) : Text :=
  table.schemaName ++ "." ++ table.name

/-- The names of the known columns. -/
def columnNames (table : Table) : List Text :=
  table.columns.map Column.name

/-- The first column with exactly the given name. -/
def column? (table : Table) (name : Text) : Option Column :=
  table.columns.find? (·.name == name)

/-- Whether a column has the given name, up to the case of letters. -/
def hasColumn (table : Table) (name : Text) : Bool :=
  table.columns.any fun column ↦ Text.lower column.name == Text.lower name

end Table

end DialectSql
