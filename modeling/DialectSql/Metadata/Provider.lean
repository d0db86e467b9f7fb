import DialectSql.Metadata.Reflection
import DialectSql.OrderedMap

/-!
# The Metadata Provider

Tables by alias and resource.  The first successful reflection of a resource is kept until it is
evicted; failures are not kept.
-/

namespace DialectSql.Metadata

/-- The state of the database of each alias, the schema of each alias that has one, and the tables
kept so far. -/
structure Provider (Catalog : Type) where
  engines : OrderedMap Catalog
  schemas : OrderedMap Text
  cache : List ((Text × Text) × Table)

namespace Provider

variable {Catalog : Type}

/-- A provider that keeps nothing yet. -/
def ofEngines (engines : OrderedMap Catalog) (schemas : OrderedMap Text) : Provider Catalog :=
  ⟨engines, schemas, []⟩

/-- The table that is kept for a resource. -/
def cached? (provider : Provider Catalog) (aliasName resource : Text) : Option Table :=
  provider.cache.lookup (aliasName, resource)

/-- A failure of a database in terms of the alias.  What is neither a missing table nor a wrong
configuration goes on as it is. -/
def ofEngineFailure (aliasName resource : Text) : Failure → Failure
  | .refused error =>
    match error.errorClass with
    | .resourceNotFound => .refused (.resourceMissing aliasName resource)
    | .configuration => .refused (.aliasSchemaNeeded aliasName error)
    | _ => .refused error
  | failure => failure

/-- Asks the database of an alias for a table. -/
def reflect (inspector : Inspector Catalog) (provider : Provider Catalog)
    (aliasName resource : Text) (hint : Option Text) : Traced Failure Table :=
  match provider.engines.get? aliasName with
  | none =>
    .ofExcept (.error (.refused (.aliasUnknown aliasName provider.engines.sortedNames)))
  | some catalog => do
    Traced.tell .debug ("Reflecting metadata for " ++ aliasName ++ "." ++ resource)
    (inspector.tableOf catalog resource (provider.schemas.get? aliasName) hint).mapError
      (ofEngineFailure aliasName resource)

/-- The table of a resource: the one that is kept, else the one that the database tells, which is
kept from then on. -/
def resolve (inspector : Inspector Catalog) (provider : Provider Catalog)
    (aliasName resource : Text) (hint : Option Text) :
    Traced Failure Table × Provider Catalog :=
  match provider.cached? aliasName resource with
  | some table => (pure table, provider)
  | none =>
    let run := provider.reflect inspector aliasName resource hint
    match run.outcome with
    | .ok table =>
      (run, { provider with cache := ((aliasName, resource), table) :: provider.cache })
    | .error _ => (run, provider)

/-- Forgets a resource of an alias, or all of them. -/
def evict (provider : Provider Catalog) (aliasName : Text) (resource : Option Text) :
    Provider Catalog :=
  { provider with
    cache := provider.cache.filter fun entry ↦
      !(entry.1.1 == aliasName && (resource.isNone || resource == some entry.1.2)) }

/-- Changes the database of an alias. -/
def alter (provider : Provider Catalog) (aliasName : Text) (change : Catalog → Catalog) :
    Provider Catalog :=
  { provider with engines := provider.engines.modify aliasName change }

end Provider

end DialectSql.Metadata
