import DialectSql.Error
import DialectSql.Sql.Fragment
import DialectSql.Statement

/-!
# Clauses

The parts that statements are put together from.  Reading statements call their table `t` and
qualify columns by it.
-/

namespace DialectSql.Sql

/-- A column of the table that is read. -/
def column (name : Text) : Fragment :=
  [.text "t.", .name name]

/-- The list of columns to return; without any, all of them. -/
def selectList (columns : List Text) : Fragment :=
  if columns.isEmpty then [.text "t.*"] else Fragment.join "," (columns.map column)

/-- A table with its schema. -/
def qualified (table : Table) : Fragment :=
  [.name table.schemaName, .text ".", .name table.name]

/-- The table that is read. -/
def source (table : Table) : Fragment :=
  qualified table ++ [.text " t"]

/-- A column qualified by the name of its table. -/
def columnOf (table : Table) (name : Text) : Fragment :=
  [.name table.name, .text ".", .name name]

/-- The comparison of a predicate, which has to have as many values as its operator takes. -/
def comparison (predicate : Predicate) : Except Error Fragment :=
  let subject := column predicate.column
  match predicate.operator, predicate.values with
  | .equals, [value] => .ok (subject ++ [.text " = ", .bind (.text value)])
  | .like, [value] => .ok (subject ++ [.text " LIKE ", .bind (.text value)])
  | .between, [low, high] =>
    .ok (subject ++ [.text " BETWEEN ", .bind (.text low), .text " AND ", .bind (.text high)])
  | .isNull, [] => .ok (subject ++ [.text " IS NULL"])
  | .isNotNull, [] => .ok (subject ++ [.text " IS NOT NULL"])
  | operator, values => .error (.valueCount predicate.column operator values.length)

/-- The comparisons behind the first one, each after its connector. -/
def moreConditions : List GroupedPredicate → Except Error Fragment
  | [] => .ok []
  | item :: items => do
    let first ← comparison item.predicate
    let rest ← moreConditions items
    return .text (" " ++ item.connector.name ++ " ") :: first ++ rest

/-- The comparisons of a chain. -/
def condition : List GroupedPredicate → Except Error Fragment
  | [] => .ok []
  | item :: items => do
    let first ← comparison item.predicate
    let rest ← moreConditions items
    return first ++ rest

/-- The filter of a reading statement, with its keyword. -/
def whereClause : Option PredicateGroup → Except Error (List Fragment)
  | none => .ok []
  | some group => do
    let condition ← condition group.items
    return [.text "WHERE " :: condition]

/-- The column and direction of an ordering. -/
def ordering (order : Order) : Fragment :=
  column order.column ++ [.text (" " ++ order.direction.name)]

/-- Assignments of new values to columns of a table. -/
def assignments (table : Table) (values : OrderedMap Text) : Fragment :=
  Fragment.join "," (values.entries.map fun entry ↦
    columnOf table entry.1 ++ [.text "=", .bind (.text entry.2)])

/-- The condition that picks a row by its primary key. -/
def keyCondition (table : Table) (key : Text) : Fragment :=
  columnOf table table.primaryKey ++ [.text "=", .bind (.text key)]

end DialectSql.Sql
