import DialectSql.Proofs.Compiler.FinderRequest
import DialectSql.Proofs.Sql.ShownPage

/-!
# The Cap on Pages

No statement that is compiled shows a page with more rows than the maximum of the configuration.
The main statement is which page a compiled request or finder shows: the page that was wished for,
with its rows cut to the maximum; one row for a finder that wants one; and for any other finder
without a wish the first page of the usual size.  Only a request without a wish shows no page.

The page of a request is cut before the request is rendered, that of a finder before the finder is
bound.  Cutting twice is cutting once, so a caller may cut a page beforehand.
-/

namespace DialectSql

namespace Limit

theorem clamp_eq (limit : Limit) (maximum : Int) :
    limit.clamp maximum = ⟨limit.start, min limit.rows maximum⟩ := by
  unfold clamp
  split
  · rename_i le
    rw [min_eq_left le]
  · rename_i more
    rw [min_eq_right (not_le.mp more).le]

/-- A page that is cut already is not cut again. -/
theorem clamp_clamp (limit : Limit) (maximum : Int) :
    (limit.clamp maximum).clamp maximum = limit.clamp maximum := by
  apply clamp_of_le
  rw [clamp_eq]
  exact min_le_right _ _

/-- A cut page is as valid as the page before, if a row may be left. -/
theorem Valid.clamp {limit : Limit} {maximum : Int} (valid : limit.Valid) (oneRow : 1 ≤ maximum) :
    (limit.clamp maximum).Valid ∧ (limit.clamp maximum).rows ≤ maximum := by
  rw [clamp_eq]
  exact ⟨⟨valid.1, le_min valid.2 oneRow⟩, min_le_right _ _⟩

end Limit

/-- The largest page has at least one row. -/
theorem Settings.one_le_pageSizeMax (settings : Settings) : 1 ≤ settings.pageSizeMax :=
  settings.one_le_pageSize.trans settings.pageSize_le_max

/-- The opening of a descriptor tells how many rows its finder wants. -/
theorem Finder.allRows_iff {descriptor : Text} {finder : Finder}
    (read : parse descriptor = .ok finder) :
    finder.allRows = true ↔ ("findAllBy" : Text) <+: descriptor := by
  obtain ⟨allRows, body, first, segments, rfl, -, -, -, -, rfl⟩ := segments_of_parse read
  cases allRows with
  | true => exact iff_of_true rfl (List.prefix_append _ body)
  | false =>
    refine iff_of_false (by simp) fun starts ↦ ?_
    simp [openingOf, findBy, Text.ofString] at starts

namespace Compiler

open Sql

variable (compiler : Compiler) (aliasName : Text)

/-! ## Requests -/

/-- A compiled request shows the page that was wished for, cut to the maximum. -/
theorem showsPage_compile {select : Select} {limit : Option Limit} {order : Option Order}
    {compiled : Compiled}
    (succeeded : (compiler.compile aliasName (.select select) limit order).outcome =
      .ok compiled) :
    ∃ dialect, (compiler.dialectFor aliasName).outcome = .ok dialect ∧
      ∀ page, compiled.ShowsPage dialect.paging page ↔
        (limit <|> select.limit).map (·.clamp compiler.settings.pageSizeMax) = some page := by
  rw [outcome_compile] at succeeded
  obtain ⟨dialect, resolved, succeeded⟩ := Outcome.ok_of_bind succeeded
  obtain ⟨-, -, rendered⟩ := Outcome.ok_of_bind succeeded
  exact ⟨dialect, resolved, fun page ↦ showsPage_iff rendered page⟩

/-- Cutting a wish beforehand does not change what is rendered. -/
theorem prepared_clamp (wish : Limit) (order : Option Order) (statement : Statement) :
    compiler.prepared (some (wish.clamp compiler.settings.pageSizeMax)) order statement =
      compiler.prepared (some wish) order statement := by
  cases statement with
  | select select =>
    exact congrArg (fun page ↦ Statement.select { select.paginate (some wish) order with
      limit := some page }) (wish.clamp_clamp _)
  | _ => rfl

/-- Nor does cutting the page of a request beforehand. -/
theorem prepared_select_clamp (select : Select) (wish : Limit) (limit : Option Limit)
    (order : Option Order) :
    compiler.prepared limit order (.select { select with
        limit := some (wish.clamp compiler.settings.pageSizeMax) }) =
      compiler.prepared limit order (.select { select with limit := some wish }) := by
  cases limit with
  | some limit => rfl
  | none =>
    exact congrArg (fun page ↦ Statement.select { select.paginate (some wish) order with
      limit := some page }) (wish.clamp_clamp _)

/-! ## Finders -/

/-- The page of a finder, cut to the maximum, in terms of its descriptor. -/
theorem finderPage_clamp {descriptor : Text} {finder : Finder}
    (read : Finder.parse descriptor = .ok finder) (limit : Option Limit) :
    (compiler.finderPage finder limit).clamp compiler.settings.pageSizeMax =
      if ("findAllBy" : Text) <+: descriptor then
        match limit with
        | some wish => ⟨wish.start, min wish.rows compiler.settings.pageSizeMax⟩
        | none => ⟨0, compiler.settings.pageSize⟩
      else ⟨0, 1⟩ := by
  unfold finderPage
  by_cases allRows : ("findAllBy" : Text) <+: descriptor
  · rw [if_pos ((Finder.allRows_iff read).mpr allRows), if_pos allRows]
    cases limit with
    | some wish => exact wish.clamp_eq _
    | none => exact Limit.clamp_of_le compiler.settings.pageSize_le_max
  · rw [if_neg (mt (Finder.allRows_iff read).mp allRows), if_neg allRows]
    exact Limit.clamp_of_le compiler.settings.one_le_pageSizeMax

/-- A finder asks for a page that can be asked for, unless it is given another one. -/
theorem finderPage_valid (finder : Finder) {limit : Option Limit}
    (valid : ∀ wish ∈ limit, wish.Valid) : (compiler.finderPage finder limit).Valid := by
  unfold finderPage
  split
  · cases limit with
    | some wish => exact valid wish rfl
    | none => exact ⟨le_rfl, compiler.settings.one_le_pageSize⟩
  · exact ⟨le_rfl, le_rfl⟩

/-- A compiled finder shows the page that it asks for, cut to the maximum. -/
theorem showsPage_compileFinder {table : Table} {descriptor : Text} {arguments : List Json}
    {limit : Option Limit} {order : Option Order} {compiled : Compiled}
    (succeeded : (compiler.compileFinder aliasName table descriptor arguments limit order).outcome =
      .ok compiled) :
    ∃ dialect finder, (compiler.dialectFor aliasName).outcome = .ok dialect ∧
      Finder.parse descriptor = .ok finder ∧
      ∀ page, compiled.ShowsPage dialect.paging page ↔
        (compiler.finderPage finder limit).clamp compiler.settings.pageSizeMax = page := by
  rw [outcome_compileFinder] at succeeded
  obtain ⟨dialect, resolved, succeeded⟩ := Outcome.ok_of_bind succeeded
  obtain ⟨finder, read, succeeded⟩ := Outcome.ok_of_bind succeeded
  obtain ⟨-, -, succeeded⟩ := Outcome.ok_of_bind succeeded
  obtain ⟨select, bound, rendered⟩ := Outcome.ok_of_bind succeeded
  obtain ⟨-, values, -, page, served, rfl⟩ := Finder.bindWith_eq_ok.mp bound
  rw [pageOf_served] at served
  refine ⟨dialect, finder, resolved, read, fun other ↦ (showsPage_iff rendered other).trans ?_⟩
  rw [Finder.request, Option.some_inj, Except.ok.inj served]

/-- Cutting a wish beforehand does not change what becomes of a finder. -/
theorem outcome_compileFinder_clamp (table : Table) (descriptor : Text) (arguments : List Json)
    (wish : Limit) (order : Option Order) :
    (compiler.compileFinder aliasName table descriptor arguments
        (some (wish.clamp compiler.settings.pageSizeMax)) order).outcome =
      (compiler.compileFinder aliasName table descriptor arguments (some wish) order).outcome := by
  have served : compiler.paging.served (some (wish.clamp compiler.settings.pageSizeMax)) =
      compiler.paging.served (some wish) := wish.clamp_clamp _
  rw [outcome_compileFinder, outcome_compileFinder, served]

/-! ## All paths -/

/-- What is compiled shows the page that was wished for, with its rows cut to the maximum; so it
shows a page that can be asked for and is no larger than the maximum.  A request without a wish
shows no page, but a finder always shows one: a single row, or without a wish the first page of the
usual size.  Cutting a page beforehand changes no outcome. -/
theorem compiled_page_capped (limit : Option Limit) (order : Option Order) :
    (∀ (select : Select) (compiled : Compiled),
      (compiler.compile aliasName (.select select) limit order).outcome = .ok compiled →
      ∃ dialect, (compiler.dialectFor aliasName).outcome = .ok dialect ∧ ∀ page,
        (compiled.ShowsPage dialect.paging page ↔ ∃ wish, (limit <|> select.limit) = some wish ∧
          page = ⟨wish.start, min wish.rows compiler.settings.pageSizeMax⟩) ∧
        (compiled.ShowsPage dialect.paging page → (∀ wish ∈ limit <|> select.limit, wish.Valid) →
          page.Valid ∧ page.rows ≤ compiler.settings.pageSizeMax)) ∧
    (∀ (table : Table) (descriptor : Text) (arguments : List Json) (compiled : Compiled),
      (compiler.compileFinder aliasName table descriptor arguments limit order).outcome =
        .ok compiled →
      ∃ dialect, (compiler.dialectFor aliasName).outcome = .ok dialect ∧ ∀ page,
        (compiled.ShowsPage dialect.paging page ↔
          page = if ("findAllBy" : Text) <+: descriptor then
              match limit with
              | some wish => ⟨wish.start, min wish.rows compiler.settings.pageSizeMax⟩
              | none => ⟨0, compiler.settings.pageSize⟩
            else ⟨0, 1⟩) ∧
        (compiled.ShowsPage dialect.paging page → (∀ wish ∈ limit, wish.Valid) →
          page.Valid ∧ page.rows ≤ compiler.settings.pageSizeMax)) ∧
    ∀ wish cut, (compiler.paging.resolveLimit (some wish)).outcome = .ok cut →
      (∀ statement, (compiler.compile aliasName statement (some cut) order).outcome =
        (compiler.compile aliasName statement (some wish) order).outcome) ∧
      (∀ select : Select,
        (compiler.compile aliasName (.select { select with limit := some cut }) limit
            order).outcome =
          (compiler.compile aliasName (.select { select with limit := some wish }) limit
            order).outcome) ∧
      ∀ table descriptor arguments,
        (compiler.compileFinder aliasName table descriptor arguments (some cut) order).outcome =
          (compiler.compileFinder aliasName table descriptor arguments (some wish)
            order).outcome := by
  have oneRow := compiler.settings.one_le_pageSizeMax
  refine ⟨?_, ?_, ?_⟩
  · intro select compiled succeeded
    obtain ⟨dialect, resolved, shows⟩ := compiler.showsPage_compile aliasName succeeded
    refine ⟨dialect, resolved, fun page ↦ ?_⟩
    rw [shows page, Option.map_eq_some_iff]
    constructor
    · simp only [Limit.clamp_eq, eq_comm]
    · rintro ⟨wish, wished, rfl⟩ valid
      exact (valid wish wished).clamp oneRow
  · intro table descriptor arguments compiled succeeded
    obtain ⟨dialect, finder, resolved, read, shows⟩ :=
      compiler.showsPage_compileFinder aliasName succeeded
    refine ⟨dialect, resolved, fun page ↦ ?_⟩
    rw [shows page]
    constructor
    · rw [compiler.finderPage_clamp read, eq_comm]
    · rintro rfl valid
      exact (compiler.finderPage_valid finder valid).clamp oneRow
  · intro wish cut found
    obtain rfl : wish.clamp compiler.settings.pageSizeMax = cut :=
      Except.ok.inj ((compiler.settings.outcome_resolveLimit (some wish)).symm.trans found)
    refine ⟨fun statement ↦ ?_, fun select ↦ ?_, fun table descriptor arguments ↦ ?_⟩
    · rw [outcome_compile, outcome_compile, prepared_clamp]
    · rw [outcome_compile, outcome_compile, prepared_select_clamp]
    · exact compiler.outcome_compileFinder_clamp aliasName table descriptor arguments wish order

/-- A request for a page of more rows than the maximum. -/
def largePage : Select :=
  ⟨trialTable, [], none, none, some ⟨50, 1000⟩, none⟩

/-- The large page is cut, and a finder that wants a single row gets it. -/
theorem compiled_page_capped_trial :
    let page : Compiled := ⟨"SELECT t.* FROM hr.users t ORDER BY t.id ASC LIMIT ? OFFSET ?",
      [.integer 500, .integer 50], "mysql", []⟩
    let row : Compiled :=
      ⟨"SELECT t.* FROM hr.users t WHERE t.name = ? ORDER BY t.id ASC LIMIT ? OFFSET ?",
        [.text "Ada", .integer 1, .integer 0], "mysql", []⟩
    (trial.compile "app" (.select largePage) none none).outcome = .ok page ∧
      (∀ shown, page.ShowsPage .limitOffset shown ↔ shown = ⟨50, 500⟩) ∧
      (trial.compileFinder "app" trialTable "findByNAME" [.str "Ada"] none none).outcome = .ok row ∧
      ∀ shown, row.ShowsPage .limitOffset shown ↔ shown = ⟨0, 1⟩ := by
  intro page row
  obtain ⟨requests, finders, -⟩ := trial.compiled_page_capped "app" none none
  have dialectIs {dialect : Dialect} (found : (trial.dialectFor "app").outcome = .ok dialect) :
      dialect.paging = .limitOffset := by
    rw [← Except.ok.inj (outcome_dialectFor_trial.symm.trans found)]
  have prepared : trial.prepared none none (.select largePage) =
      .select { largePage with limit := some ⟨50, 500⟩ } := rfl
  have paged : (trial.compile "app" (.select largePage) none none).outcome = .ok page := by
    rw [outcome_compile, outcome_dialectFor_trial, prepared]
    rfl
  have chain : Finder.IsChain [⟨"name", .equals, .and⟩] := by decide
  have read : Finder.parse "findByNAME" = .ok ⟨"findByNAME", false, [⟨"name", .equals, .and⟩]⟩ :=
    Finder.parse_printed_chain false chain
  have single : (trial.compileFinder "app" trialTable "findByNAME" [.str "Ada"] none none).outcome =
      .ok row := by
    rw [outcome_compileFinder, outcome_dialectFor_trial, read]
    rfl
  obtain ⟨dialect, resolved, pages⟩ := requests largePage page paged
  obtain ⟨other, otherResolved, rows⟩ := finders trialTable "findByNAME" [.str "Ada"] row single
  rw [dialectIs resolved] at pages
  rw [dialectIs otherResolved] at rows
  refine ⟨paged, fun shown ↦ (pages shown).1.trans ?_, single, fun shown ↦ (rows shown).1.trans ?_⟩
  · have maximum : trial.settings.pageSizeMax = 500 := rfl
    simp [largePage, maximum]
  · rw [if_neg (by decide)]

end Compiler

end DialectSql
