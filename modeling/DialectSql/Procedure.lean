import DialectSql.Text.CodePoint

/-!
# Procedure Arguments

The arguments of a stored procedure.  An argument that goes out has no value to bind; one that
goes in may have none.
-/

namespace DialectSql

/-- One argument of a stored procedure. -/
structure Argument where
  value : Option Text
  name : Option Text
  type : Option Text
  index : Option Int
  out : Bool
  deriving DecidableEq, Repr, Inhabited

namespace Argument

/-- What is bound for the argument. -/
def bound (argument : Argument) : Option Text :=
  if argument.out then none else argument.value

/-- The arguments in call order: by index when every one has an index, else as they are listed.
Arguments of one index keep their order. -/
def callOrder (arguments : List Argument) : List Argument :=
  if arguments.all (·.index.isSome) then
    arguments.mergeSort fun left right ↦ left.index.getD 0 ≤ right.index.getD 0
  else arguments

end Argument

end DialectSql
