import DialectSql.Proofs.Sql.PageWindow
import DialectSql.Proofs.Text.Run

/-!
# The Page That a Statement Shows

The page of a request can be read off its SQL.  `LIMIT` and `OFFSET … FETCH NEXT` show that there
is a page, and the last two bind values are its numbers; a range of row numbers begins with the
start of the page and is as wide as the page.

The main statement is that a rendered request shows its page and no other one, and none if it asks
for none.  Whatever its identifiers are, a request without a page ends with the name of its table,
with the last comparison of its filter or with a direction, and no page clause ends like that.
-/

namespace DialectSql.Sql

open Fragment

/-- A statement in SQL shows a page in the clause of a family of dialects, which ends it. -/
def Compiled.ShowsPage (compiled : Compiled) : Paging → Limit → Prop
  | .limitOffset, page =>
    ("LIMIT ? OFFSET ?" : Text) <:+ compiled.sql ∧
      [.integer page.rows, .integer page.start] <:+ compiled.params
  | .offsetFetch, page =>
    ("OFFSET ? ROWS FETCH NEXT ? ROWS ONLY" : Text) <:+ compiled.sql ∧
      [.integer page.start, .integer page.rows] <:+ compiled.params
  | .rowNumber, page =>
    ∃ low high : Int,
      ("WHERE ROW_NUMBER BETWEEN " ++ low.repr ++ " AND " ++ high.repr : Text) <:+ compiled.sql ∧
        page.start = low ∧ page.rows = high - low

/-! ## Pages that are shown -/

/-- A request that ends with a page clause shows its page. -/
theorem showsPage_finish {dialect : Dialect} {limit : Limit} {fragment : Fragment}
    (ends : (dialect.paging.pageClause limit).fragment <:+ fragment) (outPositions : List Nat) :
    (dialect.finish fragment outPositions).ShowsPage dialect.paging limit := by
  obtain ⟨before, rfl⟩ := ends
  have sql : sql dialect.quotes (dialect.paging.pageClause limit).fragment <:+
      (dialect.finish (before ++ _) outPositions).sql :=
    ⟨sql dialect.quotes before, (sql_append ..).symm⟩
  have binds : (dialect.paging.pageClause limit).fragment.binds <:+
      (dialect.finish (before ++ _) outPositions).params :=
    ⟨Fragment.binds before, (binds_append ..).symm⟩
  cases family : dialect.paging with
  | limitOffset =>
    rw [family] at sql binds
    exact ⟨sql, binds⟩
  | offsetFetch =>
    rw [family] at sql binds
    exact ⟨sql, binds⟩
  | rowNumber =>
    rw [family] at sql
    have wide : limit.rows = limit.stop - limit.start := by
      rw [Limit.stop]
      omega
    refine ⟨limit.start, limit.stop, ?_, rfl, wide⟩
    simpa [Paging.pageClause, PageClause.fragment] using sql

/-- The bounds of a range of row numbers are numerals behind gaps. -/
theorem numbered_apart (before : Text) (low high : Int) :
    before ++ ("WHERE ROW_NUMBER BETWEEN " ++ low.repr ++ " AND " ++ high.repr : Text) =
      (before ++ "WHERE ROW_NUMBER BETWEEN" ++ .char ' ' :: (low.repr : Text) ++ " AND") ++
        .char ' ' :: (high.repr : Text) := by
  simp [Text.ofString]

/-- A range of row numbers at the end of a text has definite bounds. -/
theorem numbered_suffix_inj {low high otherLow otherHigh : Int} {text : Text}
    (ends : ("WHERE ROW_NUMBER BETWEEN " ++ low.repr ++ " AND " ++ high.repr : Text) <:+ text)
    (otherEnds :
      ("WHERE ROW_NUMBER BETWEEN " ++ otherLow.repr ++ " AND " ++ otherHigh.repr : Text) <:+ text) :
    low = otherLow ∧ high = otherHigh := by
  obtain ⟨before, spelled⟩ := ends
  obtain ⟨otherBefore, otherSpelled⟩ := otherEnds
  have numerals (number : Int) := Text.isNumeralPoint_of_mem_repr number
  have gap : Text.isNumeralPoint (.char ' ') = false := rfl
  have same := spelled.trans otherSpelled.symm
  rw [numbered_apart, numbered_apart] at same
  obtain ⟨fronts, sameHigh⟩ :=
    Text.append_run_inj (numerals high) (numerals otherHigh) gap gap same
  obtain ⟨-, sameLow⟩ := Text.append_run_inj (numerals low) (numerals otherLow) gap gap
    (List.append_cancel_right fronts)
  exact ⟨Int.repr_injective (Text.ofString_injective sameLow),
    Int.repr_injective (Text.ofString_injective sameHigh)⟩

/-- A text shows at most one page in a family of dialects. -/
theorem showsPage_unique {compiled : Compiled} {paging : Paging} {page other : Limit}
    (shows : compiled.ShowsPage paging page) (otherShows : compiled.ShowsPage paging other) :
    page = other := by
  obtain ⟨start, rows⟩ := page
  obtain ⟨otherStart, otherRows⟩ := other
  cases paging with
  | limitOffset =>
    have same := (List.suffix_of_suffix_length_le shows.2 otherShows.2 le_rfl).eq_of_length rfl
    simp_all
  | offsetFetch =>
    have same := (List.suffix_of_suffix_length_le shows.2 otherShows.2 le_rfl).eq_of_length rfl
    simp_all
  | rowNumber =>
    obtain ⟨low, high, ends, start, rows⟩ := shows
    obtain ⟨otherLow, otherHigh, otherEnds, otherStart, otherRows⟩ := otherShows
    obtain ⟨rfl, rfl⟩ := numbered_suffix_inj ends otherEnds
    simp_all

/-! ## Requests without a page -/

/-- What a request without a page may end with. -/
def closings : List Text :=
  [" t", Operator.form .equals, Operator.form .between, Operator.form .like, Operator.form .isNull,
    Operator.form .isNotNull, Direction.lead .ascending, Direction.lead .descending]

/-- A text ends like a request without a page. -/
def Closes (text : Text) : Prop :=
  ∃ closing ∈ closings, closing <:+ text

theorem Closes.behind {text : Text} (closes : Closes text) (before : Text) :
    Closes (before ++ text) := by
  obtain ⟨closing, mem, ends⟩ := closes
  exact ⟨closing, mem, ends.trans (List.suffix_append before text)⟩

section
variable (quotes : Quotes)

theorem closes_source (table : Table) : Closes ((source table).sql quotes) :=
  ⟨" t", by decide, (qualified table).sql quotes, by simp [source]⟩

theorem closes_comparison {predicate : Predicate} (complete : predicate.isComplete = true) :
    Closes ((comparisonLayout predicate).sql quotes) := by
  have isForm : predicate.operator.form ∈ closings := by
    cases predicate.operator <;> decide
  exact ⟨_, isForm, _, (sql_comparisonLayout complete quotes).symm⟩

/-- A row of entries ends like its last one. -/
theorem closes_entries {text : Text} {items : List GroupedPredicate} (closes : Closes text)
    (complete : ∀ item ∈ items, item.predicate.isComplete = true) :
    Closes (text ++ Fragment.sql quotes (items.flatMap entryLayout)) := by
  induction items generalizing text with
  | nil => simpa using closes
  | cons item items ih =>
    have entry : Closes (Fragment.sql quotes (entryLayout item)) :=
      (closes_comparison quotes (complete item (by simp))).behind item.connector.lead
    have further := ih (entry.behind text) fun other mem ↦ complete other (by simp [mem])
    rwa [List.flatMap_cons, sql_append, ← List.append_assoc]

theorem closes_filterTail {text : Text} {items : List GroupedPredicate} (closes : Closes text)
    (complete : ∀ item ∈ items, item.predicate.isComplete = true) :
    Closes (text ++ (filterTail items).sql quotes) := by
  cases items with
  | nil => simpa [filterTail, filterLayout] using closes
  | cons item items =>
    have first := closes_comparison quotes (complete item (by simp))
    have others : ∀ other ∈ items, other.predicate.isComplete = true := fun other mem ↦
      complete other (by simp [mem])
    have chain := closes_entries quotes first others
    have whole := (chain.behind " WHERE ").behind text
    simpa [filterTail, filterLayout, chainLayout, Text.ofString] using whole

theorem closes_direction (column : Text) (direction : Direction) :
    Closes ((ranked (column, some direction)).sql quotes) := by
  have isLead : direction.lead ∈ closings := by
    cases direction <;> decide
  exact ⟨_, isLead, (Sql.column column).sql quotes, by simp [ranked]⟩

/-- A request without a page ends with its table, its filter or its ordering. -/
theorem closes_selectLayout {select : Select} (noPage : select.limit = none)
    (complete : misfitOf select.conditions = none) (paging : Paging) :
    Closes ((selectLayout paging select).sql quotes) := by
  have table := closes_source quotes select.table
  have filter := closes_filterTail quotes table (isComplete_of_misfitOf complete)
  have front (tail : Text) (closes : Closes tail) :
      Closes ("SELECT " ++ ((selectList select.columns).sql quotes ++ (" FROM " ++ tail))) :=
    ((closes.behind " FROM ").behind _).behind "SELECT "
  rw [selectLayout_plain fun _ ↦ noPage, plainLayout_eq fun _ ↦ noPage, noPage, Select.ranking,
    noPage]
  cases select.order with
  | none => simpa [orderTail, pageTail, Text.ofString] using front _ filter
  | some order =>
    have ordered := (closes_direction quotes order.column order.direction).behind " ORDER BY "
    have whole := front _ ((ordered.behind ((filterTail select.conditions).sql quotes)).behind
      ((source select.table).sql quotes))
    simpa [orderTail, pageTail, Text.ofString] using whole

end

/-- No page clause ends like a request without a page. -/
theorem Closes.not_showsPage {compiled : Compiled} (closes : Closes compiled.sql) (paging : Paging)
    (page : Limit) : ¬compiled.ShowsPage paging page := by
  obtain ⟨closing, mem, ends⟩ := closes
  intro shows
  cases paging with
  | limitOffset =>
    have apart : ∀ closing ∈ closings, ¬closing <:+ "LIMIT ? OFFSET ?" ∧
        ¬("LIMIT ? OFFSET ?" : Text) <:+ closing := by decide
    obtain ⟨notEnd, notStart⟩ := apart closing mem
    exact (List.suffix_or_suffix_of_suffix ends shows.1).elim notEnd notStart
  | offsetFetch =>
    have apart : ∀ closing ∈ closings, ¬closing <:+ "OFFSET ? ROWS FETCH NEXT ? ROWS ONLY" ∧
        ¬("OFFSET ? ROWS FETCH NEXT ? ROWS ONLY" : Text) <:+ closing := by decide
    obtain ⟨notEnd, notStart⟩ := apart closing mem
    exact (List.suffix_or_suffix_of_suffix ends shows.1).elim notEnd notStart
  | rowNumber =>
    obtain ⟨low, high, shown, -⟩ := shows
    have lasts : ∀ closing ∈ closings, ∃ point ∈ closing.getLast?,
        Text.isNumeralPoint point = false ∧ point ≠ .char ' ' := by decide
    obtain ⟨point, last, noNumeral, noGap⟩ := lasts closing mem
    obtain ⟨front, rfl⟩ := List.getLast?_eq_some_iff.mp last
    obtain ⟨before, spelled⟩ := ends
    obtain ⟨otherBefore, otherSpelled⟩ := shown
    have same := spelled.trans otherSpelled.symm
    -- Behind the closing stands an empty numeral, and the last bound stands behind a gap.
    rw [numbered_apart, ← List.append_assoc] at same
    obtain ⟨fronts, empty⟩ := Text.append_run_inj (by simp)
      (Text.isNumeralPoint_of_mem_repr high) noNumeral rfl same
    rw [fronts, ← empty] at same
    exact noGap (List.cons.inj (List.append_cancel_left same)).1

/-- A rendered request shows its page and no other one; without a page it shows none. -/
theorem showsPage_iff {dialect : Dialect} {select : Select} {compiled : Compiled}
    (rendered : dialect.render (.select select) = .ok compiled) (page : Limit) :
    compiled.ShowsPage dialect.paging page ↔ select.limit = some page := by
  have faultless := fault?_of_render rendered
  obtain ⟨complete, rfl⟩ := render_eq_ok rendered
  have shown (limit : Limit) (isLimit : select.limit = some limit) :
      (dialect.finish (selectLayout dialect.paging select) []).ShowsPage dialect.paging limit := by
    have written : selectFragment dialect.paging select =
        .ok (selectLayout dialect.paging select) := by
      rw [selectFragment_eq, faultless, unlessFault]
    exact showsPage_finish (selectFragment_ends isLimit written) []
  constructor
  · intro shows
    cases isLimit : select.limit with
    | none => exact absurd shows ((closes_selectLayout _ isLimit complete _).not_showsPage _ _)
    | some limit => rw [showsPage_unique shows (shown limit isLimit)]
  · exact shown page

end DialectSql.Sql
