import DialectSql.Proofs.Sql.EmptiedValues

/-!
# The Agreement of Dialects

The dialects that are always known differ in how they cut a page out of a result, and in nothing
else.  The main statement is that all of them refuse a statement, for the same reason, or all of
them write it: with the same text and the same bind values if no page is asked for, else with the
same columns, the same table and the same filter in the text, and with the same values in front of
the numbers of the page.  A page whose row numbers are too long is the one thing that only some of
them write.

The two layouts of a request for rows are written apart from each other.  They share a row of
pieces, and what is shared is told here in SQL.
-/

namespace DialectSql

open Sql

/-! ## The shared part in SQL -/

/-- A comparison in SQL. -/
def Predicate.text (predicate : Predicate) : Text :=
  "t." ++ predicate.column ++ predicate.operator.form

/-- An entry of a filter in SQL, with its connector. -/
def GroupedPredicate.text (item : GroupedPredicate) : Text :=
  " " ++ item.connector.name ++ " " ++ item.predicate.text

namespace Select

/-- The columns that a request returns, in SQL. -/
def projectionText (select : Select) : Text :=
  match select.columns with
  | [] => "t.*"
  | columns => Text.joined "," (columns.map fun column ↦ "t." ++ column)

/-- The table that a request reads, in SQL. -/
def tableText (select : Select) : Text :=
  select.table.schemaName ++ "." ++ select.table.name ++ " t"

/-- The filter of a request in SQL, with its keyword; the connector of the first entry is not
written. -/
def filterText (select : Select) : Text :=
  match select.conditions with
  | [] => ""
  | item :: items =>
    " WHERE " ++ item.predicate.text ++ items.flatMap GroupedPredicate.text

/-- What every dialect writes of a request. -/
def sharedText (select : Select) : Text :=
  select.projectionText ++ " FROM " ++ select.tableText ++ select.filterText

end Select

namespace Sql

open Fragment

/-- The pieces that both layouts of a request share. -/
def sharedLayout (select : Select) : Fragment :=
  selectList select.columns ++ .text " FROM " ::
    (source select.table ++ filterTail select.conditions)

theorem sql_column (name : Text) : (column name).sql .none = "t." ++ name := by
  simp [column]

theorem sql_selectList (select : Select) :
    (selectList select.columns).sql .none = select.projectionText := by
  unfold selectList Select.projectionText
  cases select.columns with
  | nil => rfl
  | cons column columns =>
    rw [List.isEmpty_cons, if_neg (by simp), sql_join, List.map_map]
    exact congrArg (Text.joined ",") (List.map_congr_left fun name _ ↦ sql_column name)

theorem sql_comparison {predicate : Predicate} (complete : predicate.isComplete = true) :
    (comparisonLayout predicate).sql .none = predicate.text := by
  rw [sql_comparisonLayout complete, sql_column, Predicate.text]

theorem sql_filterTail {select : Select} (complete : misfitOf select.conditions = none) :
    (filterTail select.conditions).sql .none = select.filterText := by
  have completes := isComplete_of_misfitOf complete
  unfold Select.filterText
  cases shape : select.conditions with
  | nil => rfl
  | cons item items =>
    rw [shape] at completes
    have first := sql_comparison (completes item (by simp))
    have others : sql .none (items.flatMap entryLayout) =
        items.flatMap GroupedPredicate.text := by
      rw [sql, List.flatMap_assoc]
      refine List.flatMap_congr fun other mem ↦ ?_
      change sql .none (.text other.connector.lead :: comparisonLayout other.predicate) = _
      rw [sql_cons, sql_text, sql_comparison (completes other (by simp [mem]))]
      rfl
    simp only [filterTail, filterLayout, chainLayout, List.flatMap_cons, List.flatMap_nil,
      List.append_nil, sql_cons, sql_text, sql_append, first, others, ← List.append_assoc]
    rfl

theorem sql_sharedLayout {select : Select} (complete : misfitOf select.conditions = none) :
    (sharedLayout select).sql .none = select.sharedText := by
  simp only [sharedLayout, source, qualified, sql_append, sql_cons, sql_text, sql_name, sql_nil,
    sql_selectList, sql_filterTail complete, Select.sharedText, Select.tableText,
    List.append_assoc, List.append_nil]

/-- Both layouts hold the shared pieces in a row. -/
theorem sharedText_isInfix {select : Select} (complete : misfitOf select.conditions = none)
    (paging : Paging) : select.sharedText <:+: (selectLayout paging select).sql .none := by
  rw [← sql_sharedLayout complete]
  by_cases plain : paging = .rowNumber → select.limit = none
  · refine ⟨"SELECT ", sql .none (orderTail (select.ranking paging) ++
      pageTail paging select.limit), ?_⟩
    rw [selectLayout_plain plain, plainLayout_eq plain]
    simp [sharedLayout, Text.ofString]
  · push Not at plain
    obtain ⟨rfl, hasLimit⟩ := plain
    obtain ⟨limit, isLimit⟩ := Option.ne_none_iff_exists'.mp hasLimit
    obtain ⟨ranking, -, layout⟩ := numberedLayout_eq select limit isLimit
    refine ⟨sql .none (.text "SELECT * FROM ( " ::
      .text "SELECT ROW_NUMBER() OVER ( ORDER BY " ::
        (ranked ranking ++ [.text " ) AS ROW_NUMBER, "])),
      sql .none (.text ") " :: Paging.rowNumber.pageLayout limit), ?_⟩
    rw [selectLayout_numbered isLimit, layout]
    simp [sharedLayout]

/-! ## Statements without a page -/

/-- A statement without a page has the same layout in every family of dialects. -/
theorem layout_of_noPage {statement : Statement} (noPage : statement.page? = none)
    (paging other : Paging) : statement.layout paging = statement.layout other := by
  cases statement with
  | select select =>
    have isLimit : select.limit = none := noPage
    rw [Statement.layout, Statement.layout, selectLayout_plain fun _ ↦ isLimit,
      selectLayout_plain fun _ ↦ isLimit]
    simp only [plainLayout, isLimit, Option.map_none]
  | insert insert => rfl
  | update update => rfl
  | delete delete => rfl
  | call call => rfl

/-! ## Statements with a page -/

/-- The numbers that a family of dialects binds for a page. -/
def Paging.numbers : Paging → Limit → List Bind
  | .limitOffset, limit => [.integer limit.rows, .integer limit.start]
  | .offsetFetch, limit => [.integer limit.start, .integer limit.rows]
  | .rowNumber, _ => []

/-- A page is bound behind the values of the filter. -/
theorem binds_selectLayout {select : Select} {limit : Limit} (isLimit : select.limit = some limit)
    (complete : misfitOf select.conditions = none) (paging : Paging) :
    (selectLayout paging select).binds =
      select.filterValues.map .text ++ paging.numbers limit := by
  have misfit : (Statement.select select).misfit? = none := complete
  have filled : Fills [] (selectLayout paging select) _ _ := fills_layout misfit
  have numbers : (Slot.ofPage paging limit).map Slot.value = paging.numbers limit := by
    cases paging <;> rfl
  rw [filled.binds, Statement.slots, isLimit, List.map_append,
    values_ofFilter (isComplete_of_misfitOf complete), Option.toList_some, List.flatMap_singleton,
    numbers, Select.filterValues]

end Sql

/-! ## Agreement -/

namespace Statement

/-- The predicates that a statement filters by; only requests for rows have a filter. -/
def predicates : Statement → List Predicate
  | .select request => request.conditions.map GroupedPredicate.predicate
  | _ => []

/-- The first predicate of a statement that has another number of values than its operator
takes. -/
def FirstMisfit (statement : Statement) (predicate : Predicate) : Prop :=
  predicate.values.length ≠ predicate.operator.arity ∧
    ∃ before behind, statement.predicates = before ++ predicate :: behind ∧
      ∀ earlier ∈ before, earlier.values.length = earlier.operator.arity

theorem misfit?_eq_some_iff {statement : Statement} {predicate : Predicate} :
    statement.misfit? = some predicate ↔ statement.FirstMisfit predicate := by
  have found : statement.misfit? = statement.predicates.find? fun predicate ↦
      !predicate.isComplete := by
    cases statement <;> rfl
  rw [found, List.find?_eq_some_iff_append, FirstMisfit]
  simp [Predicate.isComplete]

end Statement

namespace Sql

/-- The dialects that are always known agree up to the page.  All of them refuse a statement for
the first predicate of its filter that has another number of values than its operator takes, or
there is no such predicate and all of them write the statement.  Only a page whose row numbers have
too many digits is not written by the dialects that put them into the text. -/
theorem render_agrees (statement : Statement) :
    (∃ predicate, statement.FirstMisfit predicate ∧ ∀ entry ∈ builtIn,
      entry.2.render statement =
        .error (.valueCount predicate.column predicate.operator predicate.values.length)) ∨
    (∀ predicate, ¬statement.FirstMisfit predicate) ∧
      (statement.page? = none → ∃ sql params outPositions, ∀ entry ∈ builtIn,
        entry.2.render statement = .ok ⟨sql, params, entry.2.name, outPositions⟩) ∧
      ∀ select limit, statement = .select select → select.limit = some limit →
        ∀ entry ∈ builtIn,
          (entry.2.paging = .rowNumber ∧ limit.Overlong ∧
            entry.2.render statement = .error .numeralTooLong) ∨
          (¬(entry.2.paging = .rowNumber ∧ limit.Overlong) ∧
            ∃ sql, select.sharedText <:+: sql ∧
              entry.2.render statement = .ok ⟨sql,
                select.filterValues.map .text ++ entry.2.paging.numbers limit,
                entry.2.name, []⟩) := by
  cases misfit : statement.misfit? with
  | some predicate =>
    exact .inl ⟨predicate, Statement.misfit?_eq_some_iff.mp misfit, fun entry _ ↦
      render_of_fault?_eq_some (Statement.fault?_of_misfit misfit)⟩
  | none =>
    refine .inr ⟨fun predicate first ↦ ?_, fun noPage ↦ ?_, ?_⟩
    · rw [Statement.misfit?_eq_some_iff.mpr first] at misfit
      cases misfit
    · let layout := statement.layout .limitOffset
      refine ⟨layout.sql .none, layout.binds, statement.outPositions, fun entry known ↦ ?_⟩
      have faultless : statement.fault? entry.2.paging = none :=
        Statement.fault?_eq_none.mpr ⟨misfit, by simp [noPage]⟩
      rw [render_of_fault?_eq_none faultless,
        layout_of_noPage noPage entry.2.paging .limitOffset, Dialect.finish,
        quotes_of_mem_builtIn known]
    · rintro select limit rfl isLimit entry known
      have isPage : (Statement.select select).page? = some limit := isLimit
      by_cases overlong : entry.2.paging = .rowNumber ∧ limit.Overlong
      · have unfit := Paging.fits_eq_false_iff.mpr overlong
        exact .inl ⟨overlong.1, overlong.2,
          render_of_fault?_eq_some (Statement.fault?_of_page misfit isPage unfit)⟩
      · have faultless : (Statement.select select).fault? entry.2.paging = none :=
          Statement.fault?_eq_none.mpr
            ⟨misfit, by simpa [isPage] using Paging.fits_eq_true_iff.mpr overlong⟩
        refine .inr ⟨overlong, _, sharedText_isInfix misfit entry.2.paging, ?_⟩
        rw [render_of_fault?_eq_none faultless, Dialect.finish, quotes_of_mem_builtIn known,
          Statement.layout, binds_selectLayout isLimit misfit]
        rfl

/-- The farthest page of all users. -/
def farthestUsers : Statement :=
  .select ⟨⟨"hr", "users", "id", []⟩, [], none, none, some .farthest, none⟩

/-- The dialects do not all write the farthest page of a table, nor do all of them refuse it: the
standard writes it, and Oracle cannot turn the end of the page into text. -/
theorem render_farthestUsers_disagrees :
    (∀ predicate, ¬farthestUsers.FirstMisfit predicate) ∧
      (∃ compiled, standardDialect.render farthestUsers = .ok compiled) ∧
      (⟨"oracle", .rowNumber, .none⟩ : Dialect).render farthestUsers = .error .numeralTooLong ∧
      ¬((∃ error, ∀ entry ∈ builtIn, entry.2.render farthestUsers = .error error) ∨
        ∀ entry ∈ builtIn, ∃ compiled, entry.2.render farthestUsers = .ok compiled) := by
  have complete : farthestUsers.misfit? = none := rfl
  have standard : standardDialect.render farthestUsers = .ok _ :=
    render_of_fault?_eq_none (Statement.fault?_of_fits complete rfl rfl)
  have oracle : (⟨"oracle", .rowNumber, .none⟩ : Dialect).render farthestUsers =
      .error .numeralTooLong :=
    render_of_fault?_eq_some (Statement.fault?_of_page complete rfl
      (Paging.fits_eq_false_iff.mpr ⟨rfl, Limit.overlong_farthest⟩))
  have standardKnown : ((["standard", "hsqldb", "h2"], standardDialect) : List Text × Dialect) ∈
      builtIn := by
    decide
  have oracleKnown : ((["oracle"], ⟨"oracle", .rowNumber, .none⟩) : List Text × Dialect) ∈
      builtIn := by
    decide
  refine ⟨fun predicate first ↦ ?_, ⟨_, standard⟩, oracle, ?_⟩
  · rw [Statement.misfit?_eq_some_iff.mpr first] at complete
    cases complete
  · rintro (⟨error, refused⟩ | written)
    · have := refused _ standardKnown
      rw [standard] at this
      cases this
    · obtain ⟨compiled, found⟩ := written _ oracleKnown
      rw [oracle] at found
      cases found

end Sql

end DialectSql
