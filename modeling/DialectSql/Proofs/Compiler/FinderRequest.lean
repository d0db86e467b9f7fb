import DialectSql.Proofs.Compiler.FinderArguments
import DialectSql.Proofs.Finder.Printing

/-!
# Finders as Requests for Rows

A finder that is compiled for an alias stands for a request for rows.  The main statement is that
the two go the same way: the same statement in SQL comes out, or the same failure, which is a
dialect or an operation that is not supported, or a page whose row numbers are too long to be
written.

On the way the page of the finder is cut before the finder is bound, that of the request after it
got its ordering; the finder names its ordering, which the request leaves to the dialect; and the
columns of the finder are checked as fields, those of the request as entries of its filter.  A
dialect that numbers rows is excepted where no ordering is given, since there it tells an ordering
by the primary key from none.
-/

namespace DialectSql

/-- The filter of a finder compares the columns that its fields name. -/
theorem Finder.columns_assign (fields : List FieldExpr) (values : List Text) :
    (assign fields values).map (fun item ↦ item.predicate.column) =
      fields.map FieldExpr.column :=
  calc (assign fields values).map (fun item ↦ item.predicate.column)
      = ((assign fields values).map GroupedPredicate.field).map FieldExpr.column := by
        rw [List.map_map]
        rfl
    _ = fields.map FieldExpr.column := by rw [map_field_assign]

/-- The columns of a finder are checked like those of the request that it stands for. -/
theorem Table.checkFinder_eq_checkSelect (table : Table) (finder : Finder)
    (values : List Text) (page : Option Limit) (order : Option Order) :
    table.checkFinder finder order =
      table.checkSelect ⟨table, [], none, some (finder.filterWith values), page, order⟩ := by
  rw [checkFinder, checkSelect, filterColumns_filter, Select.conditions_of_group rfl rfl,
    Finder.filterWith, Finder.columns_assign]
  rfl

namespace Table

/-! ## Failures of column checks -/

variable {table : Table} {error : Error}

theorem errorClass_of_checkColumn {clause column : Text}
    (failed : table.checkColumn clause column = .error error) :
    error.errorClass = .unsupportedOperation := by
  unfold checkColumn at failed
  split at failed
  · cases failed
  · obtain rfl := Except.error.inj failed
    rfl

theorem errorClass_of_checkColumns {clause : Text} {columns : List Text}
    (failed : table.checkColumns clause columns = .error error) :
    error.errorClass = .unsupportedOperation := by
  induction columns with
  | nil => cases failed
  | cons column columns ih =>
    obtain unknown | ⟨-, -, failed⟩ := Outcome.error_of_bind failed
    · exact errorClass_of_checkColumn unknown
    · exact ih failed

/-- Only an unknown column is refused, as an operation that is not supported. -/
theorem errorClass_of_checkFinder {finder : Finder} {order : Option Order}
    (failed : table.checkFinder finder order = .error error) :
    error.errorClass = .unsupportedOperation := by
  obtain unknown | ⟨-, -, failed⟩ := Outcome.error_of_bind failed
  · exact errorClass_of_checkColumns unknown
  · cases order with
    | none => cases failed
    | some order => exact errorClass_of_checkColumn failed

end Table

namespace Sql

/-- Pages are ordered by the primary key if nothing else is asked for, so it is the same to ask for
that ordering. -/
theorem Dialect.render_defaultOrder {dialect : Dialect} {select : Select} {page : Limit}
    (paged : select.limit = some page)
    (ordered : select.order ≠ none ∨ dialect.paging ≠ .rowNumber) :
    dialect.render (.select { select with
        order := some (select.order.getD (Order.byPrimaryKey select.table)) }) =
      dialect.render (.select select) := by
  obtain ⟨table, columns, predicate, group, limit, order⟩ := select
  obtain rfl : limit = some page := paged
  cases order with
  | some order => rfl
  | none =>
    have plain : dialect.paging ≠ .rowNumber := ordered.resolve_left fun given ↦ given rfl
    cases family : dialect.paging with
    | limitOffset => simp only [render, renderSelect, family]; rfl
    | offsetFetch => simp only [render, renderSelect, family]; rfl
    | rowNumber => exact absurd family plain

end Sql

namespace Compiler

open Sql

variable {compiler : Compiler} {aliasName descriptor : Text} {table : Table}
  {arguments : List Json} {limit : Option Limit} {order : Option Order} {finder : Finder}
  {bound : Select}

/-- The page that a finder asks for: one row, or the page that is wished for, or the first one. -/
def finderPage (compiler : Compiler) (finder : Finder) (limit : Option Limit) : Limit :=
  if finder.allRows then limit.getD ⟨0, compiler.settings.pageSize⟩ else ⟨0, 1⟩

/-- A finder asks for its page cut to the maximum, no matter whether the wish is cut before. -/
theorem pageOf_served (compiler : Compiler) (finder : Finder) (limit : Option Limit) :
    finder.pageOf (some (compiler.paging.served limit)) compiler.paging.defaultLimit =
      .ok ((compiler.finderPage finder limit).clamp compiler.settings.pageSizeMax) := by
  have low := compiler.settings.one_le_pageSize
  have high := compiler.settings.pageSize_le_max
  unfold Finder.pageOf finderPage
  cases finder.allRows with
  | false =>
    have oneRow : (Limit.mk 0 1).rows ≤ compiler.settings.pageSizeMax := low.trans high
    simp [Limit.clamp_of_le oneRow]
  | true =>
    cases limit with
    | none => simp [PagingPolicy.served, paging, Settings.paging, Limit.clamp_of_le, high]
    | some limit => rfl

/-- What becomes of a finder whose descriptor can be read and whose arguments can be bound. -/
theorem outcome_compileFinder_of_bound (compiler : Compiler) (aliasName : Text)
    (read : Finder.parse descriptor = .ok finder)
    (binds : finder.bind table arguments limit order compiler.settings.strictFinderArguments
      compiler.settings.pageSize = .ok bound) :
    (compiler.compileFinder aliasName table descriptor arguments limit order).outcome = (do
      let dialect ← (compiler.dialectFor aliasName).outcome
      compiler.checkFinder table finder order
      dialect.render (.select (finder.request table (finder.consumed arguments)
        ((compiler.finderPage finder limit).clamp compiler.settings.pageSizeMax) order))) := by
  obtain ⟨counted, values, consumes, -⟩ := Finder.bindWith_eq_ok.mp binds
  obtain rfl := Finder.eq_consumed_of_consume consumes
  have requested : finder.bindWith id table arguments (some (compiler.paging.served limit)) order
      compiler.settings.strictFinderArguments compiler.paging.defaultLimit = .ok _ :=
    Finder.bindWith_eq_ok.mpr
      ⟨counted, _, consumes, _, compiler.pageOf_served finder limit, rfl⟩
  rw [outcome_compileFinder, read]
  apply bind_congr
  intro dialect
  change (compiler.checkFinder table finder order >>= fun _ ↦
    finder.bindWith id table arguments (some (compiler.paging.served limit)) order
      compiler.settings.strictFinderArguments compiler.paging.defaultLimit >>= fun select ↦
        dialect.render (.select select)) = _
  rw [requested]
  rfl

theorem errorClass_of_dialectFor {error : Error}
    (failed : (compiler.dialectFor aliasName).outcome = .error error) :
    error.errorClass = .unsupportedDialect := by
  unfold dialectFor Aliases.dialectFor at failed
  rw [Traced.outcome_bind] at failed
  obtain unresolved | ⟨name, -, failed⟩ := Outcome.error_of_bind failed
  · unfold Aliases.resolve at unresolved
    split at unresolved
    · obtain rfl := Except.error.inj unresolved
      rfl
    · cases unresolved
  · obtain unknown | ⟨registration, -, failed⟩ := Outcome.error_of_bind failed
    · unfold Catalog.locate at unknown
      split at unknown
      · cases unknown
      · obtain rfl := Except.error.inj unknown
        rfl
    · cases failed

theorem errorClass_of_checkFinder {error : Error}
    (failed : compiler.checkFinder table finder order = .error error) :
    error.errorClass = .unsupportedOperation := by
  unfold checkFinder at failed
  split at failed
  · exact Table.errorClass_of_checkFinder failed
  · cases failed

theorem checkColumns_select (compiler : Compiler) (select : Select) :
    compiler.checkColumns (.select select) =
      if compiler.validateColumns then select.table.checkSelect select else .ok () := by
  unfold checkColumns
  cases compiler.validateColumns <;> rfl

/-- A finder whose page has too long row numbers fails behind the checks, where the dialect writes
row numbers. -/
theorem compileFinder_of_overlong {dialect : Dialect} (read : Finder.parse descriptor = .ok finder)
    (binds : finder.bind table arguments limit order compiler.settings.strictFinderArguments
      compiler.settings.pageSize = .ok bound)
    (resolved : (compiler.dialectFor aliasName).outcome = .ok dialect)
    (checked : compiler.checkFinder table finder order = .ok ())
    (numbered : dialect.paging = .rowNumber)
    (overlong : ((compiler.finderPage finder limit).clamp compiler.settings.pageSizeMax).Overlong) :
    (compiler.compileFinder aliasName table descriptor arguments limit order).outcome =
      .error .numeralTooLong := by
  obtain ⟨accepted, -, -⟩ :=
    Finder.bind_eq_ok table limit order compiler.settings.one_le_pageSize binds
  rw [outcome_compileFinder_of_bound compiler aliasName read binds, resolved]
  change (compiler.checkFinder table finder order >>= fun _ ↦ dialect.render _) = _
  rw [checked]
  exact (dialect.render_request_eq_error finder table order
    (Finder.length_consumed accepted.enough)).mpr ⟨rfl, numbered, overlong⟩

/-- Compiling a finder is compiling the request for rows that it stands for, with the filter it is
bound to, the page it asks for and the ordering that is given.  Where that fails, the dialect or an
operation is not supported, or the dialect has to write row numbers that are too long.  The last
happens exactly where a dialect that numbers rows is found, all columns pass and the page, with its
rows cut to the maximum, has such row numbers. -/
theorem outcome_compileFinder_eq_compile (compiler : Compiler) (aliasName : Text)
    (read : Finder.parse descriptor = .ok finder)
    (binds : finder.bind table arguments limit order compiler.settings.strictFinderArguments
      compiler.settings.pageSize = .ok bound)
    (ordered : order ≠ none ∨ ∀ dialect,
      (compiler.dialectFor aliasName).outcome = .ok dialect → dialect.paging ≠ .rowNumber) :
    let page := if finder.allRows then limit.getD ⟨0, compiler.settings.pageSize⟩ else ⟨0, 1⟩
    (compiler.compileFinder aliasName table descriptor arguments limit order).outcome =
        (compiler.compile aliasName
          (.select {
            table := table
            columns := []
            predicate := none
            predicateGroup := bound.predicateGroup
            limit := some page
            order := none })
          none order).outcome ∧
      (∀ error, (compiler.compileFinder aliasName table descriptor arguments limit
          order).outcome = .error error →
        error.errorClass = .unsupportedDialect ∨ error.errorClass = .unsupportedOperation ∨
          error = .numeralTooLong) ∧
      ((compiler.compileFinder aliasName table descriptor arguments limit order).outcome =
          .error .numeralTooLong ↔
        ∃ dialect, (compiler.dialectFor aliasName).outcome = .ok dialect ∧
          compiler.checkFinder table finder order = .ok () ∧ dialect.paging = .rowNumber ∧
          (page.clamp compiler.settings.pageSizeMax).Overlong) := by
  intro page
  have compiled := outcome_compileFinder_of_bound compiler aliasName read binds
  obtain ⟨accepted, -, rfl⟩ :=
    Finder.bind_eq_ok table limit order compiler.settings.one_le_pageSize binds
  have exact := Finder.length_consumed accepted.enough
  refine ⟨?_, fun error failed ↦ ?_, fun failed ↦ ?_, ?_⟩
  · -- The request with its page cut and its ordering in place, as the dialect gets it.
    let wanted : Select := ⟨table, [], none, some (finder.filterWith (finder.consumed arguments)),
      some ((compiler.finderPage finder limit).clamp compiler.settings.pageSizeMax), order⟩
    have prepared : compiler.prepared none order (.select ⟨table, [], none,
        some (finder.filterWith (finder.consumed arguments)),
        some (compiler.finderPage finder limit), none⟩) = .select wanted := by
      cases order <;> rfl
    have checked : compiler.checkFinder table finder order =
        compiler.checkColumns (.select wanted) := by
      rw [checkColumns_select, checkFinder, table.checkFinder_eq_checkSelect finder]
    rw [compiled, outcome_compile, Finder.request]
    cases resolved : (compiler.dialectFor aliasName).outcome with
    | error error => rfl
    | ok dialect =>
      have rendered : dialect.render (.select { wanted with
          order := some (wanted.order.getD (Order.byPrimaryKey wanted.table)) }) =
            dialect.render (.select wanted) :=
        Dialect.render_defaultOrder rfl (ordered.imp id fun plain ↦ plain dialect resolved)
      calc (compiler.checkFinder table finder order >>= fun _ ↦
              dialect.render (.select { wanted with
                order := some (wanted.order.getD (Order.byPrimaryKey wanted.table)) }))
          = (compiler.checkColumns (.select wanted) >>= fun _ ↦
              dialect.render (.select wanted)) := by rw [checked, rendered]
        _ = _ := by rw [← prepared]; rfl
  · rw [compiled] at failed
    obtain unresolved | ⟨dialect, -, failed⟩ := Outcome.error_of_bind failed
    · exact .inl (errorClass_of_dialectFor unresolved)
    obtain unknown | ⟨-, -, failed⟩ := Outcome.error_of_bind failed
    · exact .inr (.inl (errorClass_of_checkFinder unknown))
    · exact .inr (.inr ((dialect.render_request_eq_error finder table order exact).mp failed).1)
  · rw [compiled] at failed
    obtain unresolved | ⟨dialect, resolved, failed⟩ := Outcome.error_of_bind failed
    · cases errorClass_of_dialectFor unresolved
    obtain unknown | ⟨⟨⟩, checked, failed⟩ := Outcome.error_of_bind failed
    · cases errorClass_of_checkFinder unknown
    · exact ⟨dialect, resolved, checked,
        ((dialect.render_request_eq_error finder table order exact).mp failed).2⟩
  · rintro ⟨dialect, resolved, checked, numbered, overlong⟩
    exact compileFinder_of_overlong read binds resolved checked numbered overlong

/-- A finder for which no page is wished for, and the request for the first page. -/
theorem outcome_compileFinder_trial :
    (trial.compileFinder "app" trialTable "findAllByNAMELike" [.str "A%"] none none).outcome =
        (trial.compile "app"
          (.select {
            table := trialTable
            columns := []
            predicate := none
            predicateGroup := some ⟨[⟨⟨"name", .like, ["A%"]⟩, .and⟩]⟩
            limit := some ⟨0, 25⟩
            order := none })
          none none).outcome ∧
      (trial.compileFinder "app" trialTable "findAllByNAMELike" [.str "A%"] none none).outcome =
        .ok {
          sql := "SELECT t.* FROM hr.users t WHERE t.name LIKE ? ORDER BY t.id ASC LIMIT ? OFFSET ?"
          params := [.text "A%", .integer 25, .integer 0]
          dialect := "mysql"
          outPositions := [] } := by
  have chain : Finder.IsChain [⟨"name", .like, .and⟩] := by decide
  have read : Finder.parse "findAllByNAMELike" =
      .ok ⟨"findAllByNAMELike", true, [⟨"name", .like, .and⟩]⟩ :=
    Finder.parse_printed_chain true chain
  have binds : Finder.bind ⟨"findAllByNAMELike", true, [⟨"name", .like, .and⟩]⟩ trialTable
      [.str "A%"] none none trial.settings.strictFinderArguments trial.settings.pageSize =
        .ok _ := rfl
  have plain : ∀ dialect, (trial.dialectFor "app").outcome = .ok dialect →
      dialect.paging ≠ .rowNumber := by
    intro dialect found
    obtain rfl := Except.ok.inj (outcome_dialectFor_trial.symm.trans found)
    decide
  obtain ⟨same, -⟩ := outcome_compileFinder_eq_compile trial "app" read binds (.inr plain)
  refine ⟨same, same.trans ?_⟩
  rw [outcome_compile, outcome_dialectFor_trial]
  rfl

/-- A compiler that knows Oracle by one alias. -/
def numberedTrial : Compiler :=
  { trial with aliases := .ofEntries [("app", "oracle")] }

/-- A finder with an ordering, whose arguments are bound, that neither gives a statement nor fails
for a dialect or an operation that is not supported. -/
theorem compileFinder_farthest_fails :
    let finder : Finder := ⟨"findAllByID", true, [⟨"id", .equals, .and⟩]⟩
    let order : Order := ⟨"id", .ascending⟩
    Finder.parse "findAllByID" = .ok finder ∧
      (∃ bound, finder.bind trialTable [.str "7"] (some .farthest) (some order)
        numberedTrial.settings.strictFinderArguments numberedTrial.settings.pageSize =
          .ok bound) ∧
      (numberedTrial.compileFinder "app" trialTable "findAllByID" [.str "7"] (some .farthest)
        (some order)).outcome = .error .numeralTooLong ∧
      Error.numeralTooLong.errorClass ≠ .unsupportedDialect ∧
      Error.numeralTooLong.errorClass ≠ .unsupportedOperation := by
  intro finder order
  have chain : Finder.IsChain [⟨"id", .equals, .and⟩] := by decide
  have read : Finder.parse "findAllByID" = .ok finder := Finder.parse_printed_chain true chain
  have short : ∀ argument ∈ finder.needed [.str "7"], ¬argument.Overlong :=
    List.forall_mem_singleton.mpr (Json.not_overlong_str _)
  have binds : finder.bind trialTable [.str "7"] (some .farthest) (some order)
      numberedTrial.settings.strictFinderArguments numberedTrial.settings.pageSize = .ok _ :=
    Finder.bind_of_short trialTable _ _ numberedTrial.settings.one_le_pageSize (.inl rfl) short
  have uncut : Limit.farthest.clamp numberedTrial.settings.pageSizeMax = .farthest :=
    Limit.clamp_of_le (by decide)
  exact ⟨read, ⟨_, binds⟩, compileFinder_of_overlong read binds rfl rfl rfl
    (uncut ▸ Limit.overlong_farthest), by decide, by decide⟩

end Compiler

end DialectSql
