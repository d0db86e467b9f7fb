import DialectSql.ColumnCheck
import DialectSql.Finder.Binding
import DialectSql.Observed
import DialectSql.Settings

/-!
# The Compiler

From an alias and a statement to SQL.  The alias leads to a dialect; a request for rows gets the
page and the ordering it is to have; the columns are checked if that is wanted; then the dialect
writes the statement.  A finder takes the same way once it is read.  Whoever observes the compiler
is told of every piece of work that succeeds and of every one that fails, and a failure is logged.
-/

namespace DialectSql.Sql.Dialect

/-- Binds a finder and renders the request for rows. -/
def renderFinder {ε : Type} (refuse : Error → ε) (dialect : Dialect) (finder : Finder)
    (table : Table) (arguments : List Json) (limit : Option Limit) (order : Option Order)
    (strict : Bool) (firstPage : Except ε Limit) : Traced ε Compiled := do
  let select ← finder.bindTraced refuse table arguments limit order strict firstPage
  (dialect.renderTraced (.select select)).mapError refuse

/-- Renders a model, if it is a statement. -/
def renderModel (dialect : Dialect) : Model → Traced Error Compiled
  | .statement statement => dialect.renderTraced statement
  | model => .ofExcept (.error (.statementUnknown model.typeName))

end DialectSql.Sql.Dialect

namespace DialectSql

open Sql

/-- What the compiler knows: the dialects, the dialect of each alias, the settings, and whether
columns are checked. -/
structure Compiler where
  catalog : Catalog
  aliases : Aliases
  settings : Settings
  validateColumns : Bool

namespace Compiler

/-- The compiler for a configuration. -/
def ofSettings (settings : Settings) : Compiler :=
  ⟨.standard, settings.aliases, settings, false⟩

/-- The paging policy of the compiler. -/
def paging (compiler : Compiler) : PagingPolicy :=
  compiler.settings.paging

/-- The dialect of an alias. -/
def dialectFor (compiler : Compiler) (aliasName : Text) : Traced Error Dialect :=
  compiler.aliases.dialectFor compiler.catalog (some aliasName)

/-- Tells the observer of work that succeeded. -/
def notify (aliasName : Text) (kind : StatementKind) : Observed Error Unit :=
  Observed.notify (.compiled aliasName kind)

/-- Logs a failure and tells the observer of it. -/
def notifyFailure (aliasName : Text) (kind : StatementKind) (error : Error) :
    Observed Error Unit := do
  Observed.ofTraced <| Traced.tell .debug
    ("Compiling " ++ kind.name ++ " for alias " ++ aliasName ++ " failed: " ++ error.message)
  Observed.notify (.failed aliasName kind error.code)

/-- Does a piece of work for an alias.  A failure is reported and goes on; success is reported
behind the work. -/
def attempt {α : Type} (aliasName : Text) (kind : StatementKind) (work : Traced Error α) :
    Observed Error α := do
  let value ← (Observed.ofTraced work).handle fun error ↦ do
    notifyFailure aliasName kind error
    Observed.fail error
  notify aliasName kind
  return value

/-- A request for rows with the page and the ordering it is to have: those given here, else its
own, the page cut to the maximum. -/
def paginate (compiler : Compiler) (select : Select) (limit : Option Limit)
    (order : Option Order) : Traced Error Select := do
  let select := select.paginate limit order
  match select.limit with
  | none => return select
  | some limit =>
    let limit ← limit.clampTraced compiler.paging.pageSizeMax
    return { select with limit := some limit }

/-- The statement that is rendered: pages concern requests for rows only. -/
def prepare (compiler : Compiler) (limit : Option Limit) (order : Option Order) :
    Statement → Traced Error Statement
  | .select select => .select <$> compiler.paginate select limit order
  | statement => pure statement

/-- The table of a statement; a call has none. -/
def tableOf? : Statement → Option Table
  | .select select => some select.table
  | .insert insert => some insert.table
  | .update update => some update.table
  | .delete delete => some delete.table
  | .call _ => none

/-- Checks the columns of a statement if that is wanted. -/
def checkColumns (compiler : Compiler) (statement : Statement) : Except Error Unit :=
  match compiler.validateColumns, tableOf? statement with
  | true, some table => table.checkStatement statement
  | _, _ => .ok ()

/-- Compiles a statement for an alias. -/
def compile (compiler : Compiler) (aliasName : Text) (statement : Statement)
    (limit : Option Limit) (order : Option Order) : Observed Error Compiled :=
  attempt aliasName statement.kind do
    let dialect ← compiler.dialectFor aliasName
    let statement ← compiler.prepare limit order statement
    Traced.ofExcept (compiler.checkColumns statement)
    dialect.renderTraced statement

/-- The kind that a model is counted as. -/
def kindOf : Model → StatementKind
  | .statement statement => statement.kind
  | _ => .read

/-- Compiles a model for an alias, if it is a statement. -/
def compileModel (compiler : Compiler) (aliasName : Text) (model : Model)
    (limit : Option Limit) (order : Option Order) : Observed Error Compiled :=
  match model with
  | .statement statement => compiler.compile aliasName statement limit order
  | model =>
    attempt aliasName (kindOf model) do
      let dialect ← compiler.dialectFor aliasName
      dialect.renderModel model

/-- Checks the columns of a finder if that is wanted. -/
def checkFinder (compiler : Compiler) (table : Table) (finder : Finder) (order : Option Order) :
    Except Error Unit :=
  if compiler.validateColumns then table.checkFinder finder order else .ok ()

/-- Compiles a finder for an alias. -/
def compileFinder (compiler : Compiler) (aliasName : Text) (table : Table) (descriptor : Text)
    (arguments : List Json) (limit : Option Limit) (order : Option Order) :
    Observed Error Compiled :=
  attempt aliasName .dynamic do
    let dialect ← compiler.dialectFor aliasName
    let finder ← Finder.parseTraced descriptor
    Traced.ofExcept (compiler.checkFinder table finder order)
    let page ← compiler.paging.resolveLimit limit
    dialect.renderFinder id finder table arguments (some page) order
      compiler.settings.strictFinderArguments compiler.paging.defaultLimit

/-- The SQL that counts the rows of a table, the same for every dialect. -/
def rowCount (table : Table) : Text :=
  standardDialect.rowCount table

end Compiler

end DialectSql
