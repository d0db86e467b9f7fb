import DialectSql.Intake.Model
import DialectSql.Intake.Procedure

/-!
# Models

Everything that can be built from data under the name of its kind.  Statements are models too, and
the only ones that can be turned into SQL.
-/

namespace DialectSql

/-- A value of one of the kinds that data can describe. -/
inductive Model where
  | column (column : Column)
  | table (table : Table)
  | predicate (predicate : Predicate)
  | group (group : PredicateGroup)
  | limit (limit : Limit)
  | order (order : Order)
  | statement (statement : Statement)

namespace Model

/-- The name of the type of a model, as messages give it. -/
def typeName : Model → String
  | column _ => "Column"
  | table _ => "Table"
  | predicate _ => "Predicate"
  | group _ => "PredicateGroup"
  | limit _ => "Limit"
  | order _ => "Order"
  | statement (.select _) => "Select"
  | statement (.insert _) => "Insert"
  | statement (.update _) => "Update"
  | statement (.delete _) => "Delete"
  | statement (.call _) => "StoredProcedureCall"

/-- Reads a model of the kind of the given name. -/
def ofJson? (kind : String) (data : Json) : Option (Intake.Checked Model) :=
  match kind with
  | "column" => some (column <$> Column.ofJson data)
  | "table" => some (table <$> Table.ofJson data)
  | "predicate" => some (predicate <$> Predicate.ofJson data)
  | "group" => some (group <$> PredicateGroup.ofJson data)
  | "limit" => some (limit <$> Limit.ofJson data)
  | "order" => some (order <$> Order.ofJson data)
  | "select" => some ((statement ∘ Statement.select) <$> Select.ofJson data)
  | "insert" => some ((statement ∘ Statement.insert) <$> Insert.ofJson data)
  | "update" => some ((statement ∘ Statement.update) <$> Update.ofJson data)
  | "delete" => some ((statement ∘ Statement.delete) <$> Delete.ofJson data)
  | "call" => some ((statement ∘ Statement.call) <$> Call.ofJson data)
  | _ => none

/-- Whether two models are equal; the order in which a row's values are listed does not count. -/
def same : Model → Model → Bool
  | column left, column right => left == right
  | table left, table right => left == right
  | predicate left, predicate right => left == right
  | group left, group right => left == right
  | limit left, limit right => left == right
  | order left, order right => left == right
  | statement left, statement right => left.same right
  | _, _ => false

end Model

end DialectSql
