import DialectSql.Proofs.Compiler.FinderArguments
import DialectSql.Proofs.Finder.Printing
import DialectSql.Proofs.Sql.Alphabet

/-!
# The Alphabet of Finders

Descriptors and arguments may come from anywhere, so a finder must not carry SQL of its own into a
statement.  A descriptor that can be read names columns in small letters, digits and underscores,
and arguments are bound, not written.

The main statement gives the text of a rendered finder in full, with the columns of its filter.  If
the names of the table and of the ordering are made of letters, digits and underscores, then the
text is written in the alphabet of the dialect, in which nothing can be quoted, ended or commented
out, and it has a placeholder for every bind value.
-/

namespace DialectSql

open Sql

namespace Finder

theorem IsColumn.within_isBodyChar {column : Text} (isColumn : IsColumn column) :
    column.Within isBodyChar := by
  intro point mem
  rw [isBodyChar_eq, isColumn.isWordTail point mem, Bool.or_true]

/-- The page of a finder that could be bound is one that can be asked for. -/
theorem pageOf_eq_ok {finder : Finder} {limit : Option Limit} {pageSize : Int} {page : Limit}
    (valid : ∀ wish ∈ limit, wish.Valid)
    (found : finder.pageOf limit (Limit.checkBounds ⟨0, pageSize⟩) = .ok page) :
    page = finder.pageFor limit pageSize ∧ page.Valid := by
  revert found
  unfold pageOf pageFor
  cases finder.allRows with
  | false =>
    rintro ⟨⟩
    exact ⟨rfl, le_rfl, le_rfl⟩
  | true =>
    cases limit with
    | some wish =>
      rintro ⟨⟩
      exact ⟨rfl, valid _ rfl⟩
    | none =>
      -- Only here the first page is looked at; as it passed its check, it has a row.
      intro (found : Limit.checkBounds ⟨0, pageSize⟩ = .ok page)
      obtain ⟨rfl, inside⟩ := Limit.checkBounds_eq_ok.mp found
      exact ⟨rfl, inside⟩

/-- The filter of a finder that has been read compares columns of finders only. -/
theorem isColumn_conditions_request {descriptor : Text} {finder : Finder}
    (read : parse descriptor = .ok finder) (table : Table) (values : List Text) (page : Limit)
    (order : Option Order) :
    ∀ item ∈ (finder.request table values page order).conditions,
      IsColumn item.predicate.column := by
  obtain ⟨-, -, columns⟩ := isChain_of_parse read
  rw [← map_field_assign finder.fields values, List.forall_mem_map] at columns
  rw [conditions_request]
  exact columns

end Finder

namespace Sql.Dialect

/-- Finders cannot inject SQL: whatever the descriptor and the arguments are, and whichever page
that can be asked for is wished for, the filter compares columns of finders only.  If the names of
the table and of the ordering are made of letters, digits and underscores, then the text is written
in the alphabet of the dialect and has as many placeholders as there are bind values. -/
theorem renderFinder_within_alphabet {names : List Text} {dialect : Dialect} {descriptor : Text}
    {finder : Finder} {table : Table} {arguments : List Json} {limit : Option Limit}
    {order : Option Order} {strict : Bool} {pageSize : Int} {compiled : Compiled}
    (known : (names, dialect) ∈ builtIn) (valid : ∀ page ∈ limit, page.Valid)
    (read : Finder.parse descriptor = .ok finder)
    (rendered : (dialect.renderFinder id finder table arguments limit order strict
      (Limit.checkBounds ⟨0, pageSize⟩)).outcome = .ok compiled) :
    let ordering := order.getD (Order.byPrimaryKey table)
    (∃ select, finder.bind table arguments limit order strict pageSize = .ok select ∧
      (∀ item ∈ select.conditions, Finder.IsColumn item.predicate.column) ∧
      compiled.sql = dialect.paging.front ordering ++ select.sharedText ++
        dialect.paging.behind ordering (finder.pageFor limit pageSize)) ∧
    (table.schemaName.Within Finder.isBodyChar → table.name.Within Finder.isBodyChar →
      ordering.column.Within Finder.isBodyChar →
        compiled.sql.Within dialect.paging.writes ∧
          compiled.placeholderCount = compiled.params.length) := by
  intro ordering
  rw [outcome_renderFinder] at rendered
  obtain ⟨select, bound, rendered⟩ := Outcome.ok_of_bind rendered
  obtain ⟨-, values, -, page, served, rfl⟩ := Finder.bindWith_eq_ok.mp bound
  obtain ⟨isPage, pageValid⟩ := Finder.pageOf_eq_ok valid served
  let request := finder.request table values page order
  have ordered : request.order = some ordering := rfl
  have columns : ∀ item ∈ request.conditions, Finder.IsColumn item.predicate.column :=
    Finder.isColumn_conditions_request read table _ page order
  obtain ⟨complete, rfl⟩ := render_eq_ok rendered
  have text : (dialect.finish (selectLayout dialect.paging request) []).sql =
      (selectLayout dialect.paging request).sql .none := by
    rw [Dialect.finish, quotes_of_mem_builtIn known]
  constructor
  · refine ⟨request, bound, columns, ?_⟩
    rw [← isPage]
    exact text.trans (sql_orderedPage ordered rfl complete dialect.paging)
  · intro schemaWord nameWord orderWord
    have words : ∀ name ∈ (Statement.select request).identifiers dialect.paging,
        name.Within Finder.isBodyChar :=
      (forall_mem_identifiers ordered dialect.paging).mpr
        ⟨fun _ mem ↦ absurd mem List.not_mem_nil, schemaWord, nameWord,
          fun item mem ↦ (columns item mem).within_isBodyChar, orderWord⟩
    constructor
    · exact text ▸ within_orderedPage ordered rfl pageValid complete dialect.paging words
    · calc (dialect.finish (selectLayout dialect.paging request) []).sql.count (.char '?')
          = ((selectLayout dialect.paging request).sql .none).count (.char '?') := by rw [text]
        _ = (selectLayout dialect.paging request).binds.length :=
          @count_marks_layout (.select request) dialect.paging complete
            fun name mem ↦ clean_of_within (words name mem)

/-- A page of numbered rows that are searched for an argument which looks like SQL. -/
theorem renderFinder_within_alphabet_quoted :
    let fields : List Finder.FieldExpr := [⟨"name", .equals, .and⟩, ⟨"end_date", .isNull, .or⟩]
    let finder : Finder := ⟨Finder.printed true fields, true, fields⟩
    let table : Table := ⟨"hr", "users", "id", []⟩
    ∃ compiled, (renderFinder id ⟨"oracle", .rowNumber, .none⟩ finder table
        [.str "x'; DROP TABLE users; '"] (some ⟨20, 10⟩) none true
        (Limit.checkBounds ⟨0, 25⟩)).outcome = .ok compiled ∧
      compiled.params = [.text "x'; DROP TABLE users; '"] ∧
      compiled.sql.Within Paging.rowNumber.writes ∧
      compiled.placeholderCount = compiled.params.length := by
  intro fields finder table
  have known : ((["oracle"], ⟨"oracle", .rowNumber, .none⟩) : List Text × Dialect) ∈ builtIn := by
    decide
  have valid : ∀ page ∈ some (Limit.mk 20 10), page.Valid := by decide
  have read : Finder.parse (Finder.printed true fields) = .ok finder :=
    Finder.parse_printed_chain true (by decide)
  obtain ⟨-, safe⟩ := @renderFinder_within_alphabet _ _ _ _ table
    [.str "x'; DROP TABLE users; '"] _ none true 25 _ known valid read rfl
  exact ⟨_, rfl, rfl, safe (by decide) (by decide) (by decide)⟩

end Sql.Dialect

end DialectSql
