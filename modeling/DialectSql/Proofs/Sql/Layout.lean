import DialectSql.Proofs.Number.Writable
import DialectSql.Proofs.Sql.Views

/-!
# The Layout of Statements

Writing a statement fails for two reasons only.  A predicate of its filter may have another number
of values than its operator takes; then the first such predicate of the chain is reported.  Else the
page may have row numbers that cannot be written, where the dialect writes them.  Every other
statement has a layout, a row of pieces that is put together without a failure, and the main
statement of this module is that rendering finishes that layout.
-/

namespace DialectSql

/-- What stands between a column and the values that it is compared with. -/
def Operator.lead : Operator → Text
  | equals => " = "
  | between => " BETWEEN "
  | like => " LIKE "
  | isNull => " IS NULL"
  | isNotNull => " IS NOT NULL"

/-- What stands behind the column of a comparison, with its placeholders. -/
def Operator.form : Operator → Text
  | equals => " = ?"
  | between => " BETWEEN ? AND ?"
  | like => " LIKE ?"
  | isNull => " IS NULL"
  | isNotNull => " IS NOT NULL"

/-- What stands in front of an entry of a chain that is not the first one. -/
def Connector.lead (connector : Connector) : Text :=
  " " ++ connector.name ++ " "

/-- What stands behind a column that a result is ordered by. -/
def Direction.lead (direction : Direction) : Text :=
  " " ++ direction.name

namespace Predicate

/-- Whether a predicate has as many values as its operator takes. -/
def isComplete (predicate : Predicate) : Bool :=
  predicate.values.length == predicate.operator.arity

/-- The error that reports a predicate with another number of values than its operator takes. -/
def complaint (predicate : Predicate) : Error :=
  .valueCount predicate.column predicate.operator predicate.values.length

end Predicate

namespace Limit

/-- Whether the range of row numbers of a page can be written. -/
def isWritable (limit : Limit) : Bool :=
  Number.isWritable limit.start && Number.isWritable limit.stop

/-- An end of the range of row numbers of a page has more digits than may be written. -/
def Overlong (limit : Limit) : Prop :=
  10 ^ Number.maxDigits ≤ limit.start.natAbs ∨ 10 ^ Number.maxDigits ≤ limit.stop.natAbs

theorem isWritable_eq_false_iff {limit : Limit} : limit.isWritable = false ↔ limit.Overlong := by
  simp only [isWritable, Bool.and_eq_false_iff, Number.isWritable_eq_false_iff, Overlong]

theorem overlong_farthest : farthest.Overlong :=
  .inr (Number.isWritable_eq_false_iff.mp isWritable_farthest_stop)

end Limit

namespace Sql.Paging

/-- Whether a family of dialects can write a page.  Only row numbers are written. -/
def fits : Paging → Limit → Bool
  | rowNumber, limit => limit.isWritable
  | _, _ => true

theorem fits_eq_false_iff {paging : Paging} {limit : Limit} :
    paging.fits limit = false ↔ paging = .rowNumber ∧ limit.Overlong := by
  cases paging <;> simp [fits, Limit.isWritable_eq_false_iff]

theorem fits_eq_true_iff {paging : Paging} {limit : Limit} :
    paging.fits limit = true ↔ ¬(paging = .rowNumber ∧ limit.Overlong) := by
  rw [← fits_eq_false_iff, Bool.not_eq_false]

/-- The pieces of the clause that cuts out a page. -/
def pageLayout : Paging → Limit → Fragment
  | limitOffset, limit =>
    [.text "LIMIT ", .bind (.integer limit.rows), .text " OFFSET ", .bind (.integer limit.start)]
  | offsetFetch, limit =>
    [.text "OFFSET ", .bind (.integer limit.start), .text " ROWS FETCH NEXT ",
      .bind (.integer limit.rows), .text " ROWS ONLY"]
  | rowNumber, limit =>
    [.text ("WHERE ROW_NUMBER BETWEEN " ++ limit.start.repr ++ " AND " ++ limit.stop.repr)]

/-- The page is written exactly when its numbers can be. -/
theorem clause_eq (paging : Paging) (limit : Limit) :
    paging.clause limit =
      if paging.fits limit then .ok (paging.pageLayout limit) else .error .numeralTooLong := by
  cases paging with
  | limitOffset => rfl
  | offsetFetch => rfl
  | rowNumber =>
    have both : rowNumber.fits limit =
        (Number.isWritable limit.start && Number.isWritable limit.stop) := rfl
    rw [both]
    unfold clause Number.decimal
    dsimp only
    cases Number.isWritable limit.start with
    | false => rfl
    | true => cases Number.isWritable limit.stop <;> rfl

end Sql.Paging

namespace Select

/-- The entries of the filter, in whichever shape it was given. -/
def conditions (select : Select) : List GroupedPredicate :=
  match select.filter with
  | none => []
  | some group => group.items

/-- A filter has at least one entry. -/
theorem items_ne_nil_of_filter {select : Select} {group : PredicateGroup}
    (found : select.filter = some group) : group.items ≠ [] := by
  unfold filter at found
  split at found
  · cases found
    simp [PredicateGroup.ofPredicates]
  · split at found
    · split at found
      · cases found
      · rename_i nonempty
        cases found
        simpa using nonempty
    · cases found

/-- The column that the rows are ordered by, and the direction where one is written.  A page is
ordered by the primary key if nothing else is asked for; numbered rows are ordered by the bare
column then. -/
def ranking (paging : Sql.Paging) (select : Select) : Option (Text × Option Direction) :=
  match select.order, select.limit with
  | some order, _ => some (order.column, some order.direction)
  | none, some _ =>
    some (select.table.primaryKey, if paging = .rowNumber then none else some .ascending)
  | none, none => none

end Select

namespace Sql

/-- The pieces of a comparison. -/
def comparisonLayout (predicate : Predicate) : Fragment :=
  column predicate.column ++ .text predicate.operator.lead ::
    Fragment.join " AND " (predicate.values.map fun value ↦ [.bind (.text value)])

/-- A comparison is written exactly when its values are complete. -/
theorem comparison_eq (predicate : Predicate) :
    comparison predicate = if predicate.isComplete then .ok (comparisonLayout predicate)
      else .error predicate.complaint := by
  obtain ⟨name, operator, values⟩ := predicate
  -- No operator takes more than two values.
  rcases values with _ | ⟨low, _ | ⟨high, _ | ⟨surplus, values⟩⟩⟩
  all_goals
    cases operator <;> simp [comparison, comparisonLayout, Predicate.isComplete,
      Predicate.complaint, Operator.arity, Operator.lead]

/-- The text of a comparison shows its column and the form of its operator. -/
theorem sql_comparisonLayout {predicate : Predicate} (complete : predicate.isComplete = true)
    (quotes : Quotes) :
    (comparisonLayout predicate).sql quotes =
      (column predicate.column).sql quotes ++ predicate.operator.form := by
  obtain ⟨name, operator, values⟩ := predicate
  simp only [Predicate.isComplete, beq_iff_eq] at complete
  rw [comparisonLayout, Fragment.sql_append, List.append_cancel_left_eq]
  cases operator with
  | equals =>
    obtain ⟨value, rfl⟩ := List.length_eq_one_iff.mp complete
    rfl
  | like =>
    obtain ⟨value, rfl⟩ := List.length_eq_one_iff.mp complete
    rfl
  | between =>
    obtain ⟨low, high, rfl⟩ := List.length_eq_two.mp complete
    rfl
  | isNull =>
    obtain rfl := List.length_eq_zero_iff.mp complete
    rfl
  | isNotNull =>
    obtain rfl := List.length_eq_zero_iff.mp complete
    rfl

/-- The pieces of an entry behind the first one. -/
def entryLayout (item : GroupedPredicate) : Fragment :=
  .text item.connector.lead :: comparisonLayout item.predicate

/-- The pieces of a chain; the connector of its first entry is not written. -/
def chainLayout : List GroupedPredicate → Fragment
  | [] => []
  | item :: items => comparisonLayout item.predicate ++ items.flatMap entryLayout

/-- The first predicate of a row of entries that cannot be written. -/
def misfitOf (items : List GroupedPredicate) : Option Predicate :=
  (items.map GroupedPredicate.predicate).find? fun predicate ↦ !predicate.isComplete

@[simp]
theorem misfitOf_nil : misfitOf [] = none := rfl

theorem misfitOf_cons (item : GroupedPredicate) (items : List GroupedPredicate) :
    misfitOf (item :: items) =
      if item.predicate.isComplete then misfitOf items else some item.predicate := by
  by_cases complete : item.predicate.isComplete <;> simp [misfitOf, complete]

theorem isComplete_of_misfitOf {items : List GroupedPredicate} (complete : misfitOf items = none) :
    ∀ item ∈ items, item.predicate.isComplete = true := by
  intro item mem
  rw [misfitOf, List.find?_eq_none] at complete
  simpa using complete _ (List.mem_map_of_mem mem)

/-- A layout, unless a predicate is reported. -/
def unlessMisfit {α : Type} (misfit : Option Predicate) (layout : α) : Except Error α :=
  match misfit with
  | some predicate => .error predicate.complaint
  | none => .ok layout

theorem unlessMisfit_bind {α β : Type} (misfit : Option Predicate) (layout : α) (f : α → β) :
    (do let found ← unlessMisfit misfit layout; return f found) =
      unlessMisfit misfit (f layout) := by
  cases misfit <;> rfl

theorem moreConditions_eq (items : List GroupedPredicate) :
    moreConditions items = unlessMisfit (misfitOf items) (items.flatMap entryLayout) := by
  induction items with
  | nil => rfl
  | cons item items ih =>
    rw [moreConditions, comparison_eq, misfitOf_cons]
    split
    · rw [ih]
      exact unlessMisfit_bind ..
    · rfl

theorem condition_eq (items : List GroupedPredicate) :
    condition items = unlessMisfit (misfitOf items) (chainLayout items) := by
  cases items with
  | nil => rfl
  | cons item items =>
    rw [condition, comparison_eq, misfitOf_cons]
    split
    · rw [moreConditions_eq]
      exact unlessMisfit_bind ..
    · rfl

/-- The filter with its keyword; a row without entries is no filter. -/
def filterLayout : List GroupedPredicate → List Fragment
  | [] => []
  | item :: items => [.text "WHERE " :: chainLayout (item :: items)]

theorem whereClause_filter (select : Select) :
    whereClause select.filter =
      unlessMisfit (misfitOf select.conditions) (filterLayout select.conditions) := by
  unfold Select.conditions
  cases found : select.filter with
  | none => rfl
  | some group =>
    obtain ⟨item, items, shape⟩ := List.exists_cons_of_ne_nil (Select.items_ne_nil_of_filter found)
    rw [whereClause, condition_eq]
    simp only [shape]
    exact unlessMisfit_bind ..

/-! ## Statements -/

/-- The pieces of a reading statement with its page behind it. -/
def plainLayout (paging : Paging) (select : Select) : Fragment :=
  let order := (effectiveOrder select).map fun order ↦ .text "ORDER BY " :: ordering order
  Fragment.join " "
    ([.text "SELECT " :: selectList select.columns, .text "FROM " :: source select.table] ++
      filterLayout select.conditions ++ order.toList ++
        (select.limit.map paging.pageLayout).toList)

/-- The pieces of the ordering by which rows are numbered. -/
def rankingLayout (select : Select) : Fragment :=
  match select.order with
  | some order => ordering order
  | none => column select.table.primaryKey

/-- The pieces of a reading statement that keeps a range of numbered rows. -/
def numberedLayout (select : Select) (limit : Limit) : Fragment :=
  let inner := .text "SELECT ROW_NUMBER() OVER ( ORDER BY " :: rankingLayout select ++
    [.text " ) AS ROW_NUMBER, "] ++ selectList select.columns ++ [.text " FROM "] ++
    source select.table
  .text "SELECT * FROM ( " :: Fragment.join " " (inner :: filterLayout select.conditions) ++
    [.text ") "] ++ Paging.rowNumber.pageLayout limit

/-- The pieces of a reading statement. -/
def selectLayout (paging : Paging) (select : Select) : Fragment :=
  match paging, select.limit with
  | .rowNumber, some limit => numberedLayout select limit
  | paging, _ => plainLayout paging select

theorem selectLayout_numbered {select : Select} {limit : Limit}
    (isLimit : select.limit = some limit) :
    selectLayout .rowNumber select = numberedLayout select limit := by
  simp [selectLayout, isLimit]

theorem selectLayout_plain {paging : Paging} {select : Select}
    (plain : paging = .rowNumber → select.limit = none) :
    selectLayout paging select = plainLayout paging select := by
  cases paging with
  | limitOffset => rfl
  | offsetFetch => rfl
  | rowNumber => simp [selectLayout, plain rfl]

/-! The tails of the plain layout, each with the gap in front of it. -/

/-- The filter, if there is one. -/
def filterTail (items : List GroupedPredicate) : Fragment :=
  (filterLayout items).flatMap (Piece.text " " :: ·)

/-- The column and the direction of an ordering. -/
def ranked (ranking : Text × Option Direction) : Fragment :=
  column ranking.1 ++ (ranking.2.map fun direction ↦ .text direction.lead).toList

/-- The ordering, if there is one. -/
def orderTail : Option (Text × Option Direction) → Fragment
  | none => []
  | some ranking => .text " " :: .text "ORDER BY " :: ranked ranking

/-- The page, if there is one. -/
def pageTail (paging : Paging) : Option Limit → Fragment
  | none => []
  | some limit => .text " " :: paging.pageLayout limit

/-- The plain layout from left to right.  It never writes a page by row numbers. -/
theorem plainLayout_eq {paging : Paging} {select : Select}
    (plain : paging = .rowNumber → select.limit = none) :
    plainLayout paging select =
      .text "SELECT " :: (selectList select.columns ++ .text " " :: .text "FROM " ::
        (source select.table ++ (filterTail select.conditions ++
          (orderTail (select.ranking paging) ++ pageTail paging select.limit)))) := by
  have order : (((effectiveOrder select).map fun order ↦
      Piece.text "ORDER BY " :: ordering order).toList.flatMap (Piece.text " " :: ·)) =
      orderTail (select.ranking paging) := by
    unfold effectiveOrder Select.ranking
    cases select.order with
    | some order => rfl
    | none =>
      cases limit : select.limit with
      | none => rfl
      | some limit =>
        have notNumbered : paging ≠ .rowNumber := fun numbered ↦ by simp [plain numbered] at limit
        simp [notNumbered, orderTail, ranked, ordering, Order.byPrimaryKey, Direction.lead]
  have page : ((select.limit.map paging.pageLayout).toList.flatMap (Piece.text " " :: ·)) =
      pageTail paging select.limit := by
    cases select.limit <;> simp [pageTail]
  simp only [plainLayout, List.cons_append, List.nil_append, Fragment.join_cons, List.flatMap_cons,
    List.flatMap_append, order, page, filterTail, List.append_assoc]

/-- The layout with numbered rows from left to right. -/
theorem numberedLayout_eq (select : Select) (limit : Limit) (isLimit : select.limit = some limit) :
    ∃ ranking, select.ranking .rowNumber = some ranking ∧
      numberedLayout select limit =
        .text "SELECT * FROM ( " :: .text "SELECT ROW_NUMBER() OVER ( ORDER BY " ::
          (ranked ranking ++ .text " ) AS ROW_NUMBER, " :: (selectList select.columns ++
            .text " FROM " :: (source select.table ++ (filterTail select.conditions ++
              .text ") " :: Paging.rowNumber.pageLayout limit)))) := by
  unfold Select.ranking numberedLayout rankingLayout
  cases select.order with
  | some order =>
    exact ⟨_, rfl, by simp [ranked, ordering, filterTail, Direction.lead]⟩
  | none =>
    rw [isLimit]
    exact ⟨_, rfl, by simp [ranked, filterTail]⟩

/-- A value for a column that is qualified by its table. -/
def assignment (table : Table) (entry : Text × Text) : Fragment :=
  columnOf table entry.1 ++ [.text "=", .bind (.text entry.2)]

theorem updateFragment_eq (update : Update) :
    updateFragment update =
      .text "UPDATE " :: (qualified update.table ++ .text " SET " ::
        (Fragment.join "," (update.values.entries.map (assignment update.table)) ++
          .text " WHERE " :: assignment update.table (update.table.primaryKey, update.id))) := by
  simp only [updateFragment, List.append_assoc, List.cons_append, List.nil_append]
  rfl

theorem deleteFragment_eq (delete : Delete) :
    deleteFragment delete =
      .text "DELETE FROM " :: (qualified delete.table ++
        .text " WHERE " :: assignment delete.table (delete.table.primaryKey, delete.id)) := by
  simp only [deleteFragment, List.append_assoc, List.cons_append, List.nil_append]
  rfl

/-! ## Failures -/

end Sql

namespace Statement

/-- The first predicate of a statement that cannot be written. -/
def misfit? : Statement → Option Predicate
  | .select request => Sql.misfitOf request.conditions
  | _ => none

/-- The page that a statement asks for. -/
def page? : Statement → Option Limit
  | .select request => request.limit
  | _ => none

/-- Why a statement cannot be written: its filter, which is written first, or its page. -/
def fault? (paging : Sql.Paging) (statement : Statement) : Option Error :=
  match statement.misfit?, statement.page? with
  | some predicate, _ => some predicate.complaint
  | none, some page => if paging.fits page then none else some .numeralTooLong
  | none, none => none

variable {paging : Sql.Paging} {statement : Statement}

/-- A statement can be written if every predicate is complete and its page can be written. -/
theorem fault?_eq_none :
    statement.fault? paging = none ↔
      statement.misfit? = none ∧ ∀ page ∈ statement.page?, paging.fits page = true := by
  unfold fault?
  cases statement.misfit? with
  | some predicate => simp
  | none => cases statement.page? <;> simp

/-- A page that can be written is no fault. -/
theorem fault?_of_fits {page : Limit} (complete : statement.misfit? = none)
    (isPage : statement.page? = some page) (fits : paging.fits page = true) :
    statement.fault? paging = none := by
  simp [fault?, complete, isPage, fits]

/-- An incomplete predicate is reported, whatever the page is. -/
theorem fault?_of_misfit {predicate : Predicate} (misfit : statement.misfit? = some predicate) :
    statement.fault? paging = some predicate.complaint := by
  rw [fault?, misfit]

/-- A page that cannot be written is reported where every predicate is complete. -/
theorem fault?_of_page {page : Limit} (complete : statement.misfit? = none)
    (isPage : statement.page? = some page) (unfit : paging.fits page = false) :
    statement.fault? paging = some .numeralTooLong := by
  simp [fault?, complete, isPage, unfit]

end Statement

namespace Sql

/-- A layout, unless there is a fault. -/
def unlessFault {α : Type} (fault : Option Error) (layout : α) : Except Error α :=
  match fault with
  | some error => .error error
  | none => .ok layout

theorem unlessFault_bind {α β : Type} (fault : Option Error) (layout : α) (f : α → β) :
    (do let found ← unlessFault fault layout; return f found) = unlessFault fault (f layout) := by
  cases fault <;> rfl

theorem plainSelect_eq (paging : Paging) (select : Select) :
    plainSelect paging select =
      unlessFault ((Statement.select select).fault? paging) (plainLayout paging select) := by
  unfold plainSelect Statement.fault? Statement.misfit? Statement.page? plainLayout
  rw [whereClause_filter]
  dsimp only
  cases misfitOf select.conditions with
  | some predicate => rfl
  | none =>
    cases select.limit with
    | none => rfl
    | some limit =>
      dsimp only [Option.mapM_some]
      rw [paging.clause_eq]
      cases paging.fits limit <;> rfl

theorem numberedSelect_eq {select : Select} {limit : Limit} (isLimit : select.limit = some limit) :
    numberedSelect select limit =
      unlessFault ((Statement.select select).fault? .rowNumber)
        (numberedLayout select limit) := by
  unfold numberedSelect Statement.fault? Statement.misfit? Statement.page? numberedLayout
  rw [whereClause_filter]
  dsimp only
  rw [isLimit]
  cases misfitOf select.conditions with
  | some predicate => rfl
  | none =>
    dsimp only
    rw [Paging.clause_eq]
    cases Paging.rowNumber.fits limit <;> rfl

theorem selectFragment_eq (paging : Paging) (select : Select) :
    selectFragment paging select =
      unlessFault ((Statement.select select).fault? paging) (selectLayout paging select) := by
  unfold selectFragment selectLayout
  cases paging with
  | limitOffset => exact plainSelect_eq _ _
  | offsetFetch => exact plainSelect_eq _ _
  | rowNumber =>
    cases isLimit : select.limit with
    | none => exact plainSelect_eq _ _
    | some limit => exact numberedSelect_eq isLimit

end Sql

namespace Statement

/-- The pieces of a statement. -/
def layout (paging : Sql.Paging) : Statement → Sql.Fragment
  | .select request => Sql.selectLayout paging request
  | .insert request => Sql.insertFragment request
  | .update request => Sql.updateFragment request
  | .delete request => Sql.deleteFragment request
  | .call request => Sql.callFragment request

/-- The names that are written into a statement, each as often as it is written.  The name of a
procedure counts as one. -/
def identifiers (paging : Sql.Paging) : Statement → List Text
  | .select request =>
    request.columns ++ [request.table.schemaName, request.table.name] ++
      request.conditions.map (·.predicate.column) ++ (request.ranking paging).toList.map Prod.fst
  | .insert request => [request.table.schemaName, request.table.name] ++ request.values.names
  | .update request =>
    [request.table.schemaName, request.table.name] ++
      request.values.names.flatMap (fun name ↦ [request.table.name, name]) ++
      [request.table.name, request.table.primaryKey]
  | .delete request =>
    [request.table.schemaName, request.table.name, request.table.name, request.table.primaryKey]
  | .call request => [request.name]

/-- The places of the placeholders whose values come out of a procedure. -/
def outPositions : Statement → List Nat
  | .call request => Sql.outPositions 1 request.arguments
  | _ => []

end Statement

namespace Sql

/-- Rendering finishes the layout of a statement, unless a predicate has another number of values
than its operator takes or the page cannot be written. -/
theorem render_eq (dialect : Dialect) (statement : Statement) :
    dialect.render statement =
      unlessFault (statement.fault? dialect.paging)
        (dialect.finish (statement.layout dialect.paging) statement.outPositions) := by
  cases statement with
  | select select =>
    rw [Dialect.render, Dialect.renderSelect, selectFragment_eq]
    exact unlessFault_bind ..
  | insert insert => rfl
  | update update => rfl
  | delete delete => rfl
  | call call => rfl

/-- A statement without a fault is written. -/
theorem render_of_fault?_eq_none {dialect : Dialect} {statement : Statement}
    (faultless : statement.fault? dialect.paging = none) :
    dialect.render statement =
      .ok (dialect.finish (statement.layout dialect.paging) statement.outPositions) := by
  rw [render_eq, faultless, unlessFault]

/-- A statement with a fault is refused for it. -/
theorem render_of_fault?_eq_some {dialect : Dialect} {statement : Statement} {error : Error}
    (fault : statement.fault? dialect.paging = some error) :
    dialect.render statement = .error error := by
  rw [render_eq, fault, unlessFault]

/-- A statement that is written has no fault. -/
theorem fault?_of_render {dialect : Dialect} {statement : Statement} {compiled : Compiled}
    (rendered : dialect.render statement = .ok compiled) :
    statement.fault? dialect.paging = none := by
  cases fault : statement.fault? dialect.paging with
  | none => rfl
  | some error =>
    rw [render_of_fault?_eq_some fault] at rendered
    cases rendered

/-- What a rendered statement is made of. -/
theorem render_eq_ok {dialect : Dialect} {statement : Statement} {compiled : Compiled}
    (rendered : dialect.render statement = .ok compiled) :
    statement.misfit? = none ∧
      compiled = dialect.finish (statement.layout dialect.paging) statement.outPositions := by
  have faultless := fault?_of_render rendered
  rw [render_of_fault?_eq_none faultless] at rendered
  exact ⟨(Statement.fault?_eq_none.mp faultless).1, (Except.ok.inj rendered).symm⟩

end Sql

end DialectSql
