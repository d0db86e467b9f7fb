import DialectSql.Table

/-!
# Pages

Which rows of a result are wanted and in what order.  A limit counts rows from zero; a valid one
starts at no negative row and holds at least one.  Clamping cuts the page size and checks nothing.
-/

namespace DialectSql

/-- A window of a result: the offset of its first row, and how many rows it holds. -/
structure Limit where
  start : Int
  rows : Int
  deriving DecidableEq, Repr, Inhabited

/-- The page size where nothing else is configured. -/
def defaultPageSize : Int := 25

namespace Limit

/-- A limit that can be asked for. -/
def Valid (limit : Limit) : Prop :=
  0 ≤ limit.start ∧ 1 ≤ limit.rows

instance (limit : Limit) : Decidable limit.Valid :=
  inferInstanceAs (Decidable (_ ∧ _))

/-- The upper bound of the range of row numbers. -/
def stop (limit : Limit) : Int :=
  limit.start + limit.rows

/-- The limit with at most the given number of rows. -/
def clamp (limit : Limit) (maximum : Int) : Limit :=
  if limit.rows ≤ maximum then limit else { limit with rows := maximum }

end Limit

/-- The direction of an ordering. -/
inductive Direction where
  | ascending
  | descending
  deriving DecidableEq, Repr, Inhabited

namespace Direction

/-- The direction as it stands in data and in SQL. -/
def name : Direction → String
  | ascending => "ASC"
  | descending => "DESC"

/-- The direction of the given name. -/
def ofName? (text : Text) : Option Direction :=
  [ascending, descending].find? (·.name == text)

end Direction

/-- An ordering by one column. -/
structure Order where
  column : Text
  direction : Direction
  deriving DecidableEq, Repr, Inhabited

/-- The ordering by the primary key, ascending. -/
def Order.byPrimaryKey (table : Table) : Order :=
  ⟨table.primaryKey, .ascending⟩

end DialectSql
