import DialectSql.Model

/-!
# Models as Data

The data that describes a model: an object of all its fields.  Reading it gives the model back.
-/

namespace DialectSql

/-- A whole number, or null. -/
def integerOrNull : Option Int → Json
  | some value => .int value
  | none => .null

/-- The written form of a value, or null. -/
def writtenOrNull {α : Type} (write : α → Json) : Option α → Json
  | some value => write value
  | none => .null

/-- The fields of a column. -/
def Column.toJson (column : Column) : Json :=
  .obj [("name", .str column.name), ("sql_type", .str column.sqlType),
    ("size", integerOrNull column.size), ("precision", integerOrNull column.precision),
    ("scale", integerOrNull column.scale), ("nullable", .bool column.nullable)]

/-- The fields of a table. -/
def Table.toJson (table : Table) : Json :=
  .obj [("schema_name", .str table.schemaName), ("name", .str table.name),
    ("primary_key", .str table.primaryKey), ("columns", .arr (table.columns.map Column.toJson))]

/-- The fields of a predicate. -/
def Predicate.toJson (predicate : Predicate) : Json :=
  .obj [("column", .str predicate.column), ("operator", .str predicate.operator.name),
    ("values", Error.textList predicate.values)]

/-- The fields of an entry of a chain. -/
def GroupedPredicate.toJson (item : GroupedPredicate) : Json :=
  .obj [("predicate", item.predicate.toJson), ("connector", .str item.connector.name)]

/-- The fields of a chain of predicates. -/
def PredicateGroup.toJson (group : PredicateGroup) : Json :=
  .obj [("items", .arr (group.items.map GroupedPredicate.toJson))]

/-- The fields of a limit. -/
def Limit.toJson (limit : Limit) : Json :=
  .obj [("start", .int limit.start), ("rows", .int limit.rows)]

/-- The fields of an ordering. -/
def Order.toJson (order : Order) : Json :=
  .obj [("column", .str order.column), ("direction", .str order.direction.name)]

/-- The fields of a request for rows. -/
def Select.toJson (select : Select) : Json :=
  .obj [("table", select.table.toJson), ("columns", Error.textList select.columns),
    ("predicate", writtenOrNull Predicate.toJson select.predicate),
    ("predicate_group", writtenOrNull PredicateGroup.toJson select.predicateGroup),
    ("limit", writtenOrNull Limit.toJson select.limit),
    ("order", writtenOrNull Order.toJson select.order)]

/-- The values of a row. -/
def rowToJson (values : OrderedMap Text) : Json :=
  .obj (values.entries.map fun entry ↦ (entry.1, .str entry.2))

/-- The fields of a request to add a row. -/
def Insert.toJson (insert : Insert) : Json :=
  .obj [("table", insert.table.toJson), ("values", rowToJson insert.values)]

/-- The fields of a request to change a row. -/
def Update.toJson (update : Update) : Json :=
  .obj [("table", update.table.toJson), ("id", .str update.id),
    ("values", rowToJson update.values)]

/-- The fields of a request to remove a row. -/
def Delete.toJson (delete : Delete) : Json :=
  .obj [("table", delete.table.toJson), ("id", .str delete.id)]

/-- The fields of a call; the arguments follow from the payload. -/
def Call.toJson (call : Call) : Json :=
  .obj [("name", .str call.name), ("payload", .str call.payload)]

/-- The fields of an argument. -/
def Argument.toJson (argument : Argument) : Json :=
  .obj [("value", Error.textOrNull argument.value), ("name", Error.textOrNull argument.name),
    ("type", Error.textOrNull argument.type), ("index", integerOrNull argument.index),
    ("out", .bool argument.out)]

/-- The fields of a statement. -/
def Statement.toJson : Statement → Json
  | .select request => request.toJson
  | .insert request => request.toJson
  | .update request => request.toJson
  | .delete request => request.toJson
  | .call request => request.toJson

/-- The fields of a model. -/
def Model.toJson : Model → Json
  | .column model => model.toJson
  | .table model => model.toJson
  | .predicate model => model.toJson
  | .group model => model.toJson
  | .limit model => model.toJson
  | .order model => model.toJson
  | .statement model => model.toJson

end DialectSql
