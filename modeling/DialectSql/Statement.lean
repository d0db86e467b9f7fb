import DialectSql.OrderedMap
import DialectSql.Page
import DialectSql.Predicate
import DialectSql.Procedure

/-!
# Statements

The five kinds of request that can be turned into SQL, independent of any database.
-/

namespace DialectSql

/-- Reading rows.  An empty list of columns asks for all of them.  A filter is either a single
predicate or a chain. -/
structure Select where
  table : Table
  columns : List Text
  predicate : Option Predicate
  predicateGroup : Option PredicateGroup
  limit : Option Limit
  order : Option Order
  deriving DecidableEq, Repr, Inhabited

namespace Select

/-- The filter as a chain, in whichever shape it was given; an empty chain filters nothing. -/
def filter (select : Select) : Option PredicateGroup :=
  match select.predicate with
  | some predicate => some (PredicateGroup.ofPredicates [predicate])
  | none =>
    match select.predicateGroup with
    | some group => if group.items.isEmpty then none else some group
    | none => none

/-- The same request with its page and its ordering replaced where new ones are given. -/
def paginate (select : Select) (limit : Option Limit) (order : Option Order) : Select :=
  { select with limit := limit <|> select.limit, order := order <|> select.order }

end Select

/-- Adding one row with the given values, in the order of the map. -/
structure Insert where
  table : Table
  values : OrderedMap Text
  deriving DecidableEq

/-- Changing the row with the given primary key. -/
structure Update where
  table : Table
  id : Text
  values : OrderedMap Text
  deriving DecidableEq

/-- Removing the row with the given primary key. -/
structure Delete where
  table : Table
  id : Text
  deriving DecidableEq, Repr, Inhabited

/-- Calling a stored procedure.  The payload is the JSON text that lists the arguments; the
arguments read from it are held in call order. -/
structure Call where
  name : Text
  payload : Text
  arguments : List Argument
  deriving DecidableEq, Repr, Inhabited

/-- A request for SQL. -/
inductive Statement where
  | select (select : Select)
  | insert (insert : Insert)
  | update (update : Update)
  | delete (delete : Delete)
  | call (call : Call)

/-- Whether two statements ask for the same; the order in which a row's values are listed does
not count. -/
def Statement.same : Statement → Statement → Bool
  | .select left, .select right => left == right
  | .insert left, .insert right =>
    left.table == right.table && left.values.sameEntries right.values
  | .update left, .update right =>
    left.table == right.table && left.id == right.id && left.values.sameEntries right.values
  | .delete left, .delete right => left == right
  | .call left, .call right => left == right
  | _, _ => false

end DialectSql
