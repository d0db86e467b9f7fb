import DialectSql.Compiler
import DialectSql.Proofs.Intake.Records
import DialectSql.Proofs.Sql.Layout
import DialectSql.Proofs.Trace

/-!
# Runs of the Compiler

What the compiler answers, without its log: the dialect of the alias is found, a request for rows
gets its page and its ordering, the columns are checked, and the dialect writes the statement.

The main statements are `outcome_compile` and `outcome_compileFinder`.  They hold for every
configuration; that its page sizes are in order makes the first page one that can be asked for.
-/

namespace DialectSql

namespace Limit

@[simp]
theorem outcome_tellClamped {ε : Type} (rows maximum : Int) :
    (tellClamped rows maximum : Traced ε Unit).outcome = .ok () := by
  unfold tellClamped
  split <;> rfl

/-- Cutting a page always succeeds. -/
@[simp]
theorem outcome_clampTraced {ε : Type} (limit : Limit) (maximum : Int) :
    (limit.clampTraced maximum : Traced ε Limit).outcome = .ok (limit.clamp maximum) := by
  unfold clampTraced
  split
  · rw [clamp, if_pos ‹_›]
    rfl
  · rw [Traced.outcome_bind, outcome_tellClamped]
    rfl

theorem clamp_of_le {limit : Limit} {maximum : Int} (le : limit.rows ≤ maximum) :
    limit.clamp maximum = limit := if_pos le

end Limit

/-- The entries of a filter that is given as a chain are those of the chain. -/
theorem Select.conditions_of_group {select : Select} {group : PredicateGroup}
    (noPredicate : select.predicate = none) (isGroup : select.predicateGroup = some group) :
    select.conditions = group.items := by
  obtain ⟨items⟩ := group
  unfold conditions filter
  rw [noPredicate, isGroup]
  cases items <;> rfl

/-- The columns that a request filters by are those of the entries of its filter. -/
theorem Table.filterColumns_filter (select : Select) :
    filterColumns select.filter = select.conditions.map fun item ↦ item.predicate.column := by
  unfold Select.conditions
  cases select.filter with
  | none => rfl
  | some group => simp [filterColumns, PredicateGroup.predicates]

/-- The same request with its page cut to a maximum. -/
def Select.cut (select : Select) (maximum : Int) : Select :=
  { select with limit := select.limit.map (·.clamp maximum) }

/-- The page that a policy serves for a wish. -/
def PagingPolicy.served (policy : PagingPolicy) : Option Limit → Limit
  | none => ⟨0, policy.pageSize⟩
  | some limit => limit.clamp policy.pageSizeMax

namespace Settings

/-- The configuration in which nothing is configured. -/
def unconfigured : Settings where
  pageSize := defaultPageSize
  pageSizeMax := defaultPageSizeMax
  dialects := .empty
  acl := .empty
  aclRules := .empty
  strictFinderArguments := true
  one_le_pageSize := by decide
  pageSize_le_max := by decide

/-- The first page can be asked for in every configuration. -/
theorem defaultLimit_eq (settings : Settings) :
    settings.paging.defaultLimit = .ok ⟨0, settings.pageSize⟩ :=
  Limit.checkBounds_eq_ok.mpr ⟨rfl, le_rfl, settings.one_le_pageSize⟩

/-- Every wish is served in every configuration. -/
theorem outcome_resolveLimit (settings : Settings) (limit : Option Limit) :
    (settings.paging.resolveLimit limit).outcome = .ok (settings.paging.served limit) := by
  cases limit with
  | none => exact settings.defaultLimit_eq
  | some limit => exact limit.outcome_clampTraced _

end Settings

namespace Finder

variable {ε : Type}

@[simp]
theorem outcome_parseTraced (descriptor : Text) :
    (parseTraced descriptor).outcome = parse descriptor := by
  unfold parseTraced
  cases parse descriptor <;> rfl

@[simp]
theorem outcome_tellSurplus (finder : Finder) (given : Nat) :
    (finder.tellSurplus given : Traced ε Unit).outcome = .ok () := by
  unfold tellSurplus
  by_cases none : given - finder.requiredArguments = 0 <;> simp [none]

/-- Reporting surplus arguments does not change what a finder is bound to; their number is
checked twice. -/
@[simp]
theorem outcome_bindTraced (refuse : Error → ε) (finder : Finder) (table : Table)
    (arguments : List Json) (limit : Option Limit) (order : Option Order) (strict : Bool)
    (firstPage : Except ε Limit) :
    (finder.bindTraced refuse table arguments limit order strict firstPage).outcome =
      finder.bindWith refuse table arguments limit order strict firstPage := by
  unfold bindTraced
  cases counted : finder.checkCount arguments.length strict with
  | error error =>
    simp [bindWith, counted, Except.mapError]
    rfl
  | ok value =>
    simp [Except.mapError]
    rfl

/-- The request for rows that a finder makes of a table, the values that it consumes and the page
it asks for. -/
def request (finder : Finder) (table : Table) (values : List Text) (page : Limit)
    (order : Option Order) : Select :=
  { table := table
    columns := []
    predicate := none
    predicateGroup := some (finder.filterWith values)
    limit := some page
    order := some (order.getD (Order.byPrimaryKey table)) }

/-- What a finder is bound to where the arguments that it consumes have a text. -/
theorem bindWith_of_consume {refuse : Error → ε} {finder : Finder} {table : Table}
    {arguments : List Json} {limit : Option Limit} {order : Option Order} {strict : Bool}
    {firstPage : Except ε Limit} {values : List Text}
    (consumes : finder.consume arguments = .ok values) :
    finder.bindWith refuse table arguments limit order strict firstPage = (do
      (finder.checkCount arguments.length strict).mapError refuse
      let page ← finder.pageOf limit firstPage
      return finder.request table values page order) := by
  rw [bindWith, consumes]
  rfl

/-- A finder is bound if its arguments are as many as they should be, those that it consumes have a
text, and its page can be asked for. -/
theorem bindWith_eq_ok {refuse : Error → ε} {finder : Finder} {table : Table}
    {arguments : List Json} {limit : Option Limit} {order : Option Order} {strict : Bool}
    {firstPage : Except ε Limit} {select : Select} :
    finder.bindWith refuse table arguments limit order strict firstPage = .ok select ↔
      finder.checkCount arguments.length strict = .ok () ∧
        ∃ values, finder.consume arguments = .ok values ∧
          ∃ page, finder.pageOf limit firstPage = .ok page ∧
            finder.request table values page order = select := by
  have composed : finder.bindWith refuse table arguments limit order strict firstPage =
      (finder.checkCount arguments.length strict).mapError refuse >>= fun _ ↦
        (finder.consume arguments).mapError refuse >>= fun values ↦
          finder.pageOf limit firstPage >>= fun page ↦
            .ok (finder.request table values page order) := rfl
  rw [composed]
  cases finder.checkCount arguments.length strict with
  | error error => simp [Except.mapError, Bind.bind, Except.bind]
  | ok value =>
    cases finder.consume arguments with
    | error error => simp [Except.mapError, Bind.bind, Except.bind]
    | ok values =>
      cases finder.pageOf limit firstPage <;> simp [Except.mapError, Bind.bind, Except.bind]

end Finder

namespace Sql.Dialect

/-- Reporting the number of placeholders does not change what is rendered. -/
@[simp]
theorem outcome_renderTraced (dialect : Dialect) (statement : Statement) :
    (dialect.renderTraced statement).outcome = dialect.render statement := by
  unfold renderTraced
  cases dialect.render statement <;> rfl

/-- What becomes of a finder that is rendered, without the log. -/
theorem outcome_renderFinder (dialect : Dialect) (finder : Finder) (table : Table)
    (arguments : List Json) (limit : Option Limit) (order : Option Order) (strict : Bool)
    (firstPage : Except Error Limit) :
    (dialect.renderFinder id finder table arguments limit order strict firstPage).outcome = (do
      let select ← finder.bindWith id table arguments limit order strict firstPage
      dialect.render (.select select)) := by
  simp only [renderFinder, Traced.outcome_bind, Traced.mapError_id, Finder.outcome_bindTraced,
    outcome_renderTraced]

end Sql.Dialect

/-- A function of the value leaves the records and the notices as they are. -/
theorem Observed.map_eq {ε α β : Type} (f : α → β) (run : Observed ε α) :
    f <$> run = ⟨f <$> run.toTraced, run.notices⟩ := by
  obtain ⟨⟨outcome, log⟩, notices⟩ := run
  cases outcome with
  | error error => rfl
  | ok value =>
    change (⟨⟨.ok (f value), log ++ []⟩, notices ++ []⟩ : Observed ε β) =
      ⟨⟨.ok (f value), log ++ []⟩, notices⟩
    rw [List.append_nil notices]

namespace Compiler

open Sql

variable (compiler : Compiler)

/-- Work that succeeds is reported behind it. -/
theorem attempt_of_ok {α : Type} (aliasName : Text) (kind : StatementKind) {work : Traced Error α}
    {value : α} (done : work.outcome = .ok value) :
    attempt aliasName kind work = ⟨work, [.compiled aliasName kind]⟩ := by
  obtain ⟨outcome, log⟩ := work
  obtain rfl : outcome = .ok value := done
  change (⟨⟨.ok value, log ++ []⟩, [.compiled aliasName kind]⟩ : Observed Error α) = _
  rw [List.append_nil]

/-- Work that fails is reported behind it, with a record, and its error goes on. -/
theorem attempt_of_error {α : Type} (aliasName : Text) (kind : StatementKind)
    {work : Traced Error α} {error : Error} (failed : work.outcome = .error error) :
    attempt aliasName kind work =
      ⟨⟨.error error, work.log ++ [⟨.debug, "Compiling " ++ kind.name ++ " for alias " ++
        aliasName ++ " failed: " ++ error.message⟩]⟩, [.failed aliasName kind error.code]⟩ := by
  obtain ⟨outcome, log⟩ := work
  obtain rfl : outcome = .error error := failed
  rfl

/-- Reporting work does not change what becomes of it. -/
@[simp]
theorem outcome_attempt {α : Type} (aliasName : Text) (kind : StatementKind)
    (work : Traced Error α) : (attempt aliasName kind work).outcome = work.outcome := by
  cases done : work.outcome with
  | ok value => rw [attempt_of_ok aliasName kind done, done]
  | error error => rw [attempt_of_error aliasName kind done]

/-- The statement that is rendered: a request for rows with its ordering and its page, which is
cut. -/
def prepared (limit : Option Limit) (order : Option Order) : Statement → Statement
  | .select select => .select ((select.paginate limit order).cut compiler.settings.pageSizeMax)
  | statement => statement

@[simp]
theorem outcome_paginate (select : Select) (limit : Option Limit) (order : Option Order) :
    (compiler.paginate select limit order).outcome =
      .ok ((select.paginate limit order).cut compiler.settings.pageSizeMax) := by
  unfold paginate
  generalize select.paginate limit order = select
  obtain ⟨table, columns, predicate, group, limit, order⟩ := select
  cases limit with
  | none => rfl
  | some limit =>
    rw [Traced.outcome_bind, Limit.outcome_clampTraced]
    rfl

/-- Preparing a statement always succeeds. -/
@[simp]
theorem outcome_prepare (limit : Option Limit) (order : Option Order) (statement : Statement) :
    (compiler.prepare limit order statement).outcome =
      .ok (compiler.prepared limit order statement) := by
  cases statement with
  | select select =>
    rw [prepare, Traced.outcome_map, outcome_paginate]
    rfl
  | insert insert => rfl
  | update update => rfl
  | delete delete => rfl
  | call call => rfl

/-- What becomes of a statement, without the log. -/
theorem outcome_compile (aliasName : Text) (statement : Statement) (limit : Option Limit)
    (order : Option Order) :
    (compiler.compile aliasName statement limit order).outcome = (do
      let dialect ← (compiler.dialectFor aliasName).outcome
      compiler.checkColumns (compiler.prepared limit order statement)
      dialect.render (compiler.prepared limit order statement)) := by
  simp only [compile, outcome_attempt, Traced.outcome_bind, outcome_prepare,
    Traced.outcome_ofExcept, Dialect.outcome_renderTraced]
  rfl

/-- What becomes of a finder, without the log. -/
theorem outcome_compileFinder (aliasName : Text) (table : Table) (descriptor : Text)
    (arguments : List Json) (limit : Option Limit) (order : Option Order) :
    (compiler.compileFinder aliasName table descriptor arguments limit order).outcome = (do
      let dialect ← (compiler.dialectFor aliasName).outcome
      let finder ← Finder.parse descriptor
      compiler.checkFinder table finder order
      let select ← finder.bindWith id table arguments
        (some (compiler.paging.served limit)) order compiler.settings.strictFinderArguments
        compiler.paging.defaultLimit
      dialect.render (.select select)) := by
  simp only [compileFinder, outcome_attempt, Traced.outcome_bind, Finder.outcome_parseTraced,
    Traced.outcome_ofExcept, paging, Settings.outcome_resolveLimit, Dialect.outcome_renderFinder]
  rfl

/-! ## A compiler for trials -/

/-- A compiler that knows MySQL by one alias and checks columns. -/
def trial : Compiler :=
  ⟨.standard, .ofEntries [("app", "mysql")], .unconfigured, true⟩

/-- A table whose columns are unknown. -/
def trialTable : Table :=
  ⟨"hr", "users", "id", []⟩

theorem outcome_dialectFor_trial :
    (trial.dialectFor "app").outcome = .ok ⟨"mysql", .limitOffset, .none⟩ := rfl

end Compiler

end DialectSql
