import DialectSql.OrderedMap
import DialectSql.Statement

/-!
# Usage Counters

How often statements of each kind were compiled, for which alias, and how often that failed.
-/

namespace DialectSql

/-- The kinds of work that are counted apart; dynamic is what starts from a finder. -/
inductive StatementKind where
  | read
  | create
  | update
  | delete
  | dynamic
  | procedure
  deriving DecidableEq, Repr, Inhabited

namespace StatementKind

/-- The name of a kind. -/
def name : StatementKind → String
  | read => "read"
  | create => "create"
  | update => "update"
  | delete => "delete"
  | dynamic => "dynamic"
  | procedure => "procedure"

/-- All kinds. -/
def all : List StatementKind :=
  [read, create, update, delete, dynamic, procedure]

end StatementKind

/-- The kind of a statement. -/
def Statement.kind : Statement → StatementKind
  | .select _ => .read
  | .insert _ => .create
  | .update _ => .update
  | .delete _ => .delete
  | .call _ => .procedure

/-- What an observer is told about a piece of work. -/
inductive Notice where
  | compiled (aliasName : Text) (kind : StatementKind)
  | failed (aliasName : Text) (kind : StatementKind) (code : String)
  deriving DecidableEq, Repr, Inhabited

/-- The counters. -/
structure Usage where
  compiled : StatementKind → Nat
  failed : StatementKind → Nat
  aliases : OrderedMap Nat

namespace Usage

/-- Counters at zero. -/
def zero : Usage :=
  ⟨fun _ ↦ 0, fun _ ↦ 0, .empty⟩

/-- Counters with one of them increased. -/
def bump (counts : StatementKind → Nat) (kind : StatementKind) : StatementKind → Nat :=
  fun other ↦ if other = kind then counts other + 1 else counts other

/-- The counters after a notice. -/
def observe (usage : Usage) : Notice → Usage
  | .compiled aliasName kind =>
    { usage with
      compiled := bump usage.compiled kind
      aliases := usage.aliases.insert aliasName ((usage.aliases.get? aliasName).getD 0 + 1) }
  | .failed _ kind _ => { usage with failed := bump usage.failed kind }

/-- How much was compiled in all. -/
def total (usage : Usage) : Nat :=
  StatementKind.all.foldl (fun total kind ↦ total + usage.compiled kind) 0

end Usage

end DialectSql
