import DialectSql.Intake.Record
import DialectSql.Statement
import DialectSql.Text.Uppercase

/-!
# Reading Models

How tables, predicates, pages and orderings are read from data, and what each of them demands of
its fields together.
-/

namespace DialectSql

open Intake

/-- Reads a column. -/
def Column.ofJson : Json → Checked Column :=
  record fun members ↦
    closed members ["name", "sql_type", "size", "precision", "scale", "nullable"] <|
      Column.mk <$> field members "name" text
        <*> fieldOr members "sql_type" "" text
        <*> fieldOr members "size" none (orNull integer)
        <*> fieldOr members "precision" none (orNull integer)
        <*> fieldOr members "scale" none (orNull integer)
        <*> fieldOr members "nullable" true boolean

namespace Table

/-- A table needs a schema and a name that are not blank. -/
def checkNames (table : Table) : Except Error Table :=
  if Text.isBlankText table.schemaName then
    .error (.schemaMissing table.schemaName table.name)
  else if Text.isBlankText table.name then
    .error (.tableNameMissing table.schemaName table.name)
  else .ok table

/-- Reads a primary key; anything empty stands for the usual one. -/
def primaryKeyOfJson (data : Json) : Checked Text :=
  if data.isEmpty then .valid defaultPrimaryKey else text data

/-- The field that holds the schema: its short name, unless only the long one is there. -/
def schemaField (members : Members) : Text :=
  if !hasField members "schema" && hasField members "schema_name" then "schema_name" else "schema"

/-- Reads a table. -/
def ofJson (data : Json) : Checked Table :=
  let read : Json → Checked Table := record fun members ↦
    closed members [schemaField members, "name", "primary_key", "columns"] <|
      Table.mk <$> field members (schemaField members) text
        <*> field members "name" text
        <*> fieldOr members "primary_key" defaultPrimaryKey primaryKeyOfJson
        <*> fieldOr members "columns" [] (list Column.ofJson)
  (read data).andThen fun table ↦ .ofExcept table.checkNames

end Table

/-- Reads a predicate. -/
def Predicate.ofJson : Json → Checked Predicate :=
  record fun members ↦
    closed members ["column", "operator", "values"] <|
      Predicate.mk <$> field members "column" text
        <*> fieldOr members "operator" .equals (named Operator.ofName?)
        <*> fieldOr members "values" [] (list text)

/-- Reads an entry of a chain. -/
def GroupedPredicate.ofJson : Json → Checked GroupedPredicate :=
  record fun members ↦
    closed members ["predicate", "connector"] <|
      GroupedPredicate.mk <$> field members "predicate" Predicate.ofJson
        <*> fieldOr members "connector" .and (named Connector.ofName?)

/-- Reads a chain of predicates. -/
def PredicateGroup.ofJson : Json → Checked PredicateGroup :=
  record fun members ↦
    closed members ["items"] <|
      PredicateGroup.mk <$> fieldOr members "items" [] (list GroupedPredicate.ofJson)

namespace Limit

/-- A limit starts at no negative row and holds at least one. -/
def checkBounds (limit : Limit) : Except Error Limit :=
  if limit.start < 0 then .error (Error.negativeStart limit.start).raised
  else if limit.rows ≤ 0 then .error (Error.nonPositiveRows limit.rows).raised
  else .ok limit

/-- Reads a limit. -/
def ofJson (data : Json) : Checked Limit :=
  let read : Json → Checked Limit := record fun members ↦
    closed members ["start", "rows"] <|
      Limit.mk <$> fieldOr members "start" 0 integer
        <*> fieldOr members "rows" defaultPageSize integer
  (read data).andThen fun limit ↦ .ofExcept limit.checkBounds

end Limit

/-- Reads a direction: its name in letters of either case, blanks around it not counting. -/
def Direction.ofJson : Json → Checked Direction
  | .str text =>
    match ofName? (Text.upper (Text.strip text)) with
    | some direction => .valid direction
    | none => .refused (.unknownDirection text)
  | _ => .issue .notMember

/-- Reads an ordering. -/
def Order.ofJson : Json → Checked Order :=
  record fun members ↦
    closed members ["column", "direction"] <|
      Order.mk <$> field members "column" text
        <*> fieldOr members "direction" .ascending Direction.ofJson

namespace Select

/-- A filter has one shape. -/
def checkFilters (select : Select) : Except Error Select :=
  if select.predicate.isSome && select.predicateGroup.isSome then
    .error (.bothFilters select.table.qualifiedName)
  else .ok select

/-- Reads a request for rows. -/
def ofJson (data : Json) : Checked Select :=
  let read : Json → Checked Select := record fun members ↦
    closed members ["table", "columns", "predicate", "predicate_group", "limit", "order"] <|
      Select.mk <$> field members "table" Table.ofJson
        <*> fieldOr members "columns" [] (list text)
        <*> fieldOr members "predicate" none (orNull Predicate.ofJson)
        <*> fieldOr members "predicate_group" none (orNull PredicateGroup.ofJson)
        <*> fieldOr members "limit" none (orNull Limit.ofJson)
        <*> fieldOr members "order" none (orNull Order.ofJson)
  (read data).andThen fun select ↦ .ofExcept select.checkFilters

end Select

/-- A row needs at least one value. -/
def checkValues (operation : Text) (table : Table) (values : OrderedMap Text) :
    Except Error Unit :=
  if values.isEmpty then .error (.noValues operation table.qualifiedName) else .ok ()

/-- A row is named by a primary key that is not empty. -/
def checkKey (operation : Text) (table : Table) (key : Text) : Except Error Unit :=
  if key.isEmpty then .error (.noKeyValue operation table.qualifiedName table.primaryKey)
  else .ok ()

/-- Reads a request to add a row. -/
def Insert.ofJson (data : Json) : Checked Insert :=
  let read : Json → Checked Insert := record fun members ↦
    closed members ["table", "values"] <|
      Insert.mk <$> field members "table" Table.ofJson
        <*> field members "values" (map text)
  (read data).andThen fun insert ↦ .ofExcept do
    checkValues "Insert" insert.table insert.values
    return insert

/-- Reads a request to change a row. -/
def Update.ofJson (data : Json) : Checked Update :=
  let read : Json → Checked Update := record fun members ↦
    closed members ["table", "id", "values"] <|
      Update.mk <$> field members "table" Table.ofJson
        <*> field members "id" text
        <*> field members "values" (map text)
  (read data).andThen fun update ↦ .ofExcept do
    checkKey "Update" update.table update.id
    checkValues "Update" update.table update.values
    return update

/-- Reads a request to remove a row. -/
def Delete.ofJson (data : Json) : Checked Delete :=
  let read : Json → Checked Delete := record fun members ↦
    closed members ["table", "id"] <|
      Delete.mk <$> field members "table" Table.ofJson
        <*> field members "id" text
  (read data).andThen fun delete ↦ .ofExcept do
    checkKey "Delete" delete.table delete.id
    return delete

end DialectSql
