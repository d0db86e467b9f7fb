import DialectSql.Text.CodePoint

/-!
# Predicates

Comparisons of a column with values, and chains of them.  A chain is written out in order, without
parentheses; the connector of its first entry plays no part.
-/

namespace DialectSql

/-- How a column is compared. -/
inductive Operator where
  | equals
  | between
  | like
  | isNull
  | isNotNull
  deriving DecidableEq, Repr, Inhabited

namespace Operator

/-- How many values the comparison takes. -/
def arity : Operator → Nat
  | equals => 1
  | between => 2
  | like => 1
  | isNull => 0
  | isNotNull => 0

/-- How many values comparisons take together. -/
def totalArity : List Operator → Nat
  | [] => 0
  | operator :: operators => operator.arity + totalArity operators

/-- The name of the operator in data and in messages. -/
def name : Operator → String
  | equals => "EQUALS"
  | between => "BETWEEN"
  | like => "LIKE"
  | isNull => "IS_NULL"
  | isNotNull => "IS_NOT_NULL"

/-- All operators. -/
def all : List Operator :=
  [equals, between, like, isNull, isNotNull]

/-- The operator of the given name. -/
def ofName? (text : Text) : Option Operator :=
  all.find? (·.name == text)

end Operator

/-- What joins a predicate to the one before it. -/
inductive Connector where
  | and
  | or
  deriving DecidableEq, Repr, Inhabited

namespace Connector

/-- The connector as it stands in data and in SQL. -/
def name : Connector → String
  | and => "AND"
  | or => "OR"

/-- The connector of the given name. -/
def ofName? (text : Text) : Option Connector :=
  [and, or].find? (·.name == text)

end Connector

/-- A comparison of one column with the given values. -/
structure Predicate where
  column : Text
  operator : Operator
  values : List Text
  deriving DecidableEq, Repr, Inhabited

/-- A predicate with the connector that joins it to its predecessor. -/
structure GroupedPredicate where
  predicate : Predicate
  connector : Connector
  deriving DecidableEq, Repr, Inhabited

/-- A chain of predicates. -/
structure PredicateGroup where
  items : List GroupedPredicate
  deriving DecidableEq, Repr, Inhabited

namespace PredicateGroup

/-- The chain that joins all predicates by `AND`. -/
def ofPredicates (predicates : List Predicate) : PredicateGroup :=
  ⟨predicates.map (⟨·, .and⟩)⟩

/-- The chain with one more predicate behind it. -/
def add (group : PredicateGroup) (predicate : Predicate) (connector : Connector) :
    PredicateGroup :=
  ⟨group.items ++ [⟨predicate, connector⟩]⟩

/-- The predicates of the chain. -/
def predicates (group : PredicateGroup) : List Predicate :=
  group.items.map GroupedPredicate.predicate

/-- The number of values that the operators of the chain take together. -/
def requiredValues (group : PredicateGroup) : Nat :=
  Operator.totalArity (group.predicates.map Predicate.operator)

end PredicateGroup

end DialectSql
