import DialectSql.Failure
import DialectSql.Intake.Model
import DialectSql.Trace

/-!
# Reflection

How a table is made of what a database tells about it.  The database is asked through an inspector,
which is not described here: it tells a default schema and an address, and it answers the question
for one table with the tables that it found, or it fails in a way of its own.

A table is labelled with the schema that was read, else with the database of the address.  Its
primary key is the first column of the declared key, else the hint of whoever asks, else the usual
one.
-/

namespace DialectSql.Metadata

/-- A column as it is reflected; whether it takes nulls may be unknown. -/
structure ReflectedColumn where
  name : Text
  typeText : Text
  length : Option Int
  precision : Option Int
  scale : Option Int
  nullable : Option Bool
  deriving DecidableEq, Repr, Inhabited

/-- A table as it is reflected, with the columns of its declared primary key. -/
structure ReflectedTable where
  name : Text
  primaryKey : List Text
  columns : List ReflectedColumn
  deriving DecidableEq, Repr, Inhabited

/-- Why reflecting fails: there is no such table, or the database fails in a way of its own. -/
inductive ReflectionFault where
  | missing
  | foreign (error : ForeignError)
  deriving DecidableEq, Repr, Inhabited

/-- What a database can be asked, where a catalog is its state. -/
structure Inspector (Catalog : Type) where
  /-- The schema that is read where none is named. -/
  defaultSchema : Catalog → Except ForeignError (Option Text)
  /-- The database that the address names. -/
  database : Catalog → Option Text
  /-- The address as it is shown. -/
  url : Catalog → Text
  /-- The tables that are found on asking for one of them in a schema, by their keys. -/
  reflect : Catalog → Text → Option Text → Except ReflectionFault (List (Text × ReflectedTable))

/-- A text that is there and not empty. -/
def present? (text : Option Text) : Option Text :=
  text.filter (!·.isEmpty)

/-- What is known about a reflected column.  It takes nulls unless it is known not to. -/
def ReflectedColumn.column (column : ReflectedColumn) : Column :=
  ⟨column.name, column.typeText, column.length, column.precision, column.scale,
    column.nullable != some false⟩

namespace ReflectedTable

/-- The key under which a table is found that was asked for in a schema. -/
def keyOf (name : Text) (schema : Option Text) : Text :=
  match present? schema with
  | some schema => schema ++ "." ++ name
  | none => name

/-- The primary key of a table: the first column of the declared key, else the hint; the log tells
when there is neither. -/
def chooseKey {ε : Type} (table : ReflectedTable) (label : Text) (hint : Option Text) :
    Traced ε Text :=
  match table.primaryKey with
  | key :: _ => return if key.isEmpty then defaultPrimaryKey else key
  | [] =>
    match present? hint with
    | some key => return key
    | none => do
      Traced.tell .warning
        ("Table " ++ label ++ "." ++ table.name ++ " declares no primary key; using 'id'")
      return defaultPrimaryKey

/-- The table with the given label, where a hint is given. -/
def toTable (table : ReflectedTable) (label : Text) (hint : Option Text) :
    Traced Failure Table := do
  let key ← table.chooseKey label hint
  Traced.ofExcept
    ((Table.checkNames ⟨label, table.name, key, table.columns.map ReflectedColumn.column⟩).mapError
      .refused)

end ReflectedTable

namespace Inspector

variable {Catalog : Type} (inspector : Inspector Catalog) (catalog : Catalog)

/-- The schema that is read: the given one, else the default one. -/
def schemaFor (schema : Option Text) : Except Failure (Option Text) :=
  match schema with
  | some schema => .ok (some schema)
  | none => (inspector.defaultSchema catalog).mapError .foreign

/-- A failure of reflecting in terms of the address. -/
def faultFor (name : Text) : ReflectionFault → Failure
  | .missing => .refused (.resourceMissing (inspector.url catalog) name)
  | .foreign error => .foreign error

/-- The table that is found, with the label of its schema. -/
def find (name : Text) (schema : Option Text) : Except Failure (Text × ReflectedTable) := do
  let schema ← inspector.schemaFor catalog schema
  match present? schema <|> present? (inspector.database catalog) with
  | none => .error (.refused (.schemaUndetermined name (inspector.url catalog)))
  | some label =>
    let tables ← (inspector.reflect catalog name schema).mapError (inspector.faultFor catalog name)
    let key := ReflectedTable.keyOf name schema
    match tables.lookup key with
    | none => .error (.foreign (.keyMissing key))
    | some table => return (label, table)

/-- The table of the given name in a schema, where a hint is given. -/
def tableOf (name : Text) (schema hint : Option Text) : Traced Failure Table := do
  let (label, table) ← Traced.ofExcept (inspector.find catalog name schema)
  table.toTable label hint

end Inspector

end DialectSql.Metadata
