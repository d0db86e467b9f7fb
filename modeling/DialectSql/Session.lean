import DialectSql.Compiler

/-!
# Sessions

A compiler at work over time, with counters that observe it.  What is asked of it is either work for
an alias, whose notices are counted, or something that leaves the counters alone: the SQL that
counts the rows of a table, or a look at the counters.  A reset starts them anew.
-/

namespace DialectSql

open Sql

/-- Work for an alias: a statement or a finder to compile. -/
inductive Work where
  | statement (aliasName : Text) (model : Model) (limit : Option Limit) (order : Option Order)
  | finder (aliasName : Text) (table : Table) (descriptor : Text) (arguments : List Json)
    (limit : Option Limit) (order : Option Order)

namespace Work

/-- The alias that the work is for. -/
def aliasName : Work → Text
  | statement aliasName _ _ _ => aliasName
  | finder aliasName _ _ _ _ _ => aliasName

/-- The kind that the work is counted as. -/
def kind : Work → StatementKind
  | statement _ model _ _ => Compiler.kindOf model
  | finder _ _ _ _ _ _ => .dynamic

/-- What comes of the work: its outcome, the records made and the notices given. -/
def run (compiler : Compiler) : Work → Observed Error Compiled
  | statement aliasName model limit order => compiler.compileModel aliasName model limit order
  | finder aliasName table descriptor arguments limit order =>
    compiler.compileFinder aliasName table descriptor arguments limit order

end Work

/-- What can be asked for in a session. -/
inductive Request where
  | work (work : Work)
  | rowCount (table : Table)
  | snapshot
  | reset

namespace Usage

/-- The counters after a request; work counts by the notices that it gives. -/
def after (compiler : Compiler) (usage : Usage) : Request → Usage
  | .work work => (work.run compiler).notices.foldl observe usage
  | .rowCount _ => usage
  | .snapshot => usage
  | .reset => zero

/-- The counters after a row of requests. -/
def afterAll (compiler : Compiler) (usage : Usage) (requests : List Request) : Usage :=
  requests.foldl (after compiler) usage

end Usage

end DialectSql
