import DialectSql.Proofs.Sql.Agreement

/-!
# The Alphabet of Pages

A page of an ordered request is written out here, dialect by dialect: what all dialects share stands
between the texts of the family, which show the ordering and the page but no value.

So a page is written with few code points.  Apart from those of its names there are letters and
digits, blanks, the signs of clauses and comparisons, and the placeholders; brackets stand around
numbered rows only.
-/

namespace DialectSql

open Sql

/-! ## Ordered pages in SQL -/

/-- An ordering in SQL. -/
def Order.text (order : Order) : Text :=
  "t." ++ order.column ++ " " ++ order.direction.name

namespace Sql

namespace Paging

/-- What stands in front of the part of a page that all dialects share. -/
def front (order : Order) : Paging → Text
  | .rowNumber =>
    "SELECT * FROM ( SELECT ROW_NUMBER() OVER ( ORDER BY " ++ order.text ++ " ) AS ROW_NUMBER, "
  | _ => "SELECT "

/-- What stands behind the part of a page that all dialects share. -/
def behind (order : Order) (page : Limit) : Paging → Text
  | .limitOffset => " ORDER BY " ++ order.text ++ " LIMIT ? OFFSET ?"
  | .offsetFetch => " ORDER BY " ++ order.text ++ " OFFSET ? ROWS FETCH NEXT ? ROWS ONLY"
  | .rowNumber =>
    ") WHERE ROW_NUMBER BETWEEN " ++ page.start.repr ++ " AND " ++ page.stop.repr

end Paging

open Fragment

variable {select : Select} {order : Order} {page : Limit}

/-- A page of an ordered request in full. -/
theorem sql_orderedPage (ordered : select.order = some order) (paged : select.limit = some page)
    (complete : misfitOf select.conditions = none) (paging : Paging) :
    (selectLayout paging select).sql .none =
      paging.front order ++ select.sharedText ++ paging.behind order page := by
  have ranking (paging : Paging) :
      select.ranking paging = some (order.column, some order.direction) := by
    rw [Select.ranking, ordered]
  rw [← sql_sharedLayout complete]
  by_cases numbered : paging = .rowNumber
  · obtain rfl := numbered
    obtain ⟨_, isRanking, layout⟩ := numberedLayout_eq select page paged
    obtain rfl := Option.some.inj ((ranking .rowNumber).symm.trans isRanking)
    rw [selectLayout_numbered paged, layout]
    simp [sharedLayout, ranked, Paging.front, Paging.behind, Paging.pageLayout, Order.text,
      Direction.lead, sql_column, Text.ofString]
  · have plain : paging = .rowNumber → select.limit = none := fun is ↦ absurd is numbered
    rw [selectLayout_plain plain, plainLayout_eq plain, ranking, paged]
    cases paging with
    | rowNumber => exact absurd rfl numbered
    | limitOffset =>
      simp [sharedLayout, orderTail, pageTail, ranked, Paging.front, Paging.behind,
        Paging.pageLayout, Order.text, Direction.lead, sql_column, Text.ofString]
    | offsetFetch =>
      simp [sharedLayout, orderTail, pageTail, ranked, Paging.front, Paging.behind,
        Paging.pageLayout, Order.text, Direction.lead, sql_column, Text.ofString]

/-! ## Alphabets -/

/-- What every dialect writes pages with. -/
def isPlainPoint (point : CodePoint) : Bool :=
  Finder.isBodyChar point || (" .,*=?" : Text).contains point

/-- What a family of dialects writes pages with: numbered rows stand in brackets. -/
def Paging.writes (paging : Paging) (point : CodePoint) : Bool :=
  isPlainPoint point || paging == .rowNumber && ("()" : Text).contains point

theorem isPlainPoint_of_isBodyChar (point : CodePoint) (body : Finder.isBodyChar point = true) :
    isPlainPoint point = true := by
  rw [isPlainPoint, body, Bool.true_or]

theorem Paging.writes_of_isPlainPoint (paging : Paging) (point : CodePoint)
    (plain : isPlainPoint point = true) : paging.writes point = true := by
  rw [writes, plain, Bool.true_or]

/-- The numeral of a number that is not negative shows digits only. -/
theorem within_numeral {n : Int} (natural : 0 ≤ n) :
    (Text.ofString n.repr).Within isPlainPoint := by
  obtain ⟨count, rfl⟩ := Int.eq_ofNat_of_zero_le natural
  intro point mem
  have isDigit := Text.isDigit_of_mem_repr count point mem
  apply isPlainPoint_of_isBodyChar
  cases point with
  | char c =>
    have digit : c.isDigit = true := isDigit
    simp [Finder.isBodyChar, CodePoint.isIn, Char.isAlphanum, digit]
  | half offset => cases isDigit

theorem within_order (word : order.column.Within isPlainPoint) :
    order.text.Within isPlainPoint := by
  have direction : (Text.ofString order.direction.name).Within isPlainPoint := by
    cases order.direction <;> decide
  simp only [Order.text, Text.within_append]
  exact ⟨⟨⟨by decide, word⟩, by decide⟩, direction⟩

theorem within_predicate {predicate : Predicate} (word : predicate.column.Within isPlainPoint) :
    predicate.text.Within isPlainPoint := by
  have form : predicate.operator.form.Within isPlainPoint := by
    cases predicate.operator <;> decide
  simp only [Predicate.text, Text.within_append]
  exact ⟨⟨by decide, word⟩, form⟩

theorem within_filterText
    (words : ∀ item ∈ select.conditions, item.predicate.column.Within isPlainPoint) :
    select.filterText.Within isPlainPoint := by
  unfold Select.filterText
  cases shape : select.conditions with
  | nil => decide
  | cons item items =>
    rw [shape, List.forall_mem_cons] at words
    have others : Text.Within isPlainPoint (items.flatMap GroupedPredicate.text) := by
      refine Text.within_flatMap fun other mem ↦ ?_
      have connector : (Text.ofString other.connector.name).Within isPlainPoint := by
        cases other.connector <;> decide
      simp only [GroupedPredicate.text, Text.within_append]
      exact ⟨⟨⟨by decide, connector⟩, by decide⟩, within_predicate (words.2 other mem)⟩
    simp only [Text.within_append]
    exact ⟨⟨by decide, within_predicate words.1⟩, others⟩

theorem within_projectionText (words : ∀ column ∈ select.columns, column.Within isPlainPoint) :
    select.projectionText.Within isPlainPoint := by
  unfold Select.projectionText
  split
  · decide
  · refine Text.within_joined (by decide) (List.forall_mem_map.mpr fun column mem ↦ ?_)
    rw [Text.within_append]
    exact ⟨by decide, words column mem⟩

theorem Paging.within_front (paging : Paging) (word : order.column.Within isPlainPoint) :
    (paging.front order).Within paging.writes := by
  have ordering := (within_order word).mono paging.writes_of_isPlainPoint
  have keyword : (Text.ofString "SELECT ").Within isPlainPoint := by decide
  cases paging with
  | limitOffset => exact keyword.mono (writes_of_isPlainPoint _)
  | offsetFetch => exact keyword.mono (writes_of_isPlainPoint _)
  | rowNumber =>
    simp only [front, Text.within_append]
    exact ⟨⟨by decide, ordering⟩, by decide⟩

theorem Paging.within_behind (paging : Paging) (word : order.column.Within isPlainPoint)
    (valid : page.Valid) : (paging.behind order page).Within paging.writes := by
  have ordering := (within_order word).mono paging.writes_of_isPlainPoint
  cases paging with
  | limitOffset =>
    simp only [behind, Text.within_append]
    exact ⟨⟨by decide, ordering⟩, by decide⟩
  | offsetFetch =>
    simp only [behind, Text.within_append]
    exact ⟨⟨by decide, ordering⟩, by decide⟩
  | rowNumber =>
    obtain ⟨start, rows⟩ := valid
    have stop : 0 ≤ page.stop := by
      unfold Limit.stop
      omega
    simp only [behind, Text.within_append]
    exact ⟨⟨⟨by decide, (within_numeral start).mono (writes_of_isPlainPoint _)⟩, by decide⟩,
      (within_numeral stop).mono (writes_of_isPlainPoint _)⟩

/-- The names of an ordered request. -/
theorem forall_mem_identifiers {P : Text → Prop} (ordered : select.order = some order)
    (paging : Paging) :
    (∀ name ∈ (Statement.select select).identifiers paging, P name) ↔
      (∀ column ∈ select.columns, P column) ∧ P select.table.schemaName ∧ P select.table.name ∧
        (∀ item ∈ select.conditions, P item.predicate.column) ∧ P order.column := by
  simp only [Statement.identifiers, Select.ranking, ordered, Option.toList_some, List.map_cons,
    List.map_nil, List.forall_mem_append, List.forall_mem_cons, List.forall_mem_map,
    List.not_mem_nil, false_implies, implies_true, and_true, and_assoc]

/-- A page of an ordered request whose names are made of letters, digits and underscores is written
in the alphabet of the family. -/
theorem within_orderedPage (ordered : select.order = some order) (paged : select.limit = some page)
    (valid : page.Valid) (complete : misfitOf select.conditions = none) (paging : Paging)
    (words : ∀ name ∈ (Statement.select select).identifiers paging,
      name.Within Finder.isBodyChar) :
    ((selectLayout paging select).sql .none).Within paging.writes := by
  obtain ⟨columns, schema, name, conditions, column⟩ := (forall_mem_identifiers ordered paging).mp
    fun name mem ↦ (words name mem).mono isPlainPoint_of_isBodyChar
  have shared : select.sharedText.Within isPlainPoint := by
    simp only [Select.sharedText, Select.tableText, Text.within_append]
    exact ⟨⟨⟨within_projectionText columns, by decide⟩, ⟨⟨schema, by decide⟩, name⟩, by decide⟩,
      within_filterText conditions⟩
  rw [sql_orderedPage ordered paged complete, Text.within_append, Text.within_append]
  exact ⟨⟨paging.within_front column, shared.mono paging.writes_of_isPlainPoint⟩,
    paging.within_behind column valid⟩

example : ∀ paging ∈ [Paging.limitOffset, .offsetFetch, .rowNumber],
    ∀ point ∈ ("';-/#\n" : Text), paging.writes point = false := by decide

/-- Names without question marks leave as many placeholders as there are bind values. -/
theorem count_marks_layout {statement : Statement} (paging : Paging)
    (complete : statement.misfit? = none)
    (clean : ∀ name ∈ statement.identifiers paging, Clean name) :
    ((statement.layout paging).sql .none).count (.char '?') =
      (statement.layout paging).binds.length := by
  have filled : Fills [] (statement.layout paging) _ _ := fills_layout complete
  have noMarks : (statement.identifiers paging).flatten.count (.char '?') = 0 := by
    rw [List.count_eq_zero]
    intro mark
    obtain ⟨name, isName, inside⟩ := List.mem_flatten.mp mark
    exact clean name isName inside
  rw [filled.marks, noMarks, filled.binds, List.length_map, Nat.add_zero]

theorem clean_of_within {text : Text} (word : text.Within Finder.isBodyChar) : Clean text := by
  intro mark
  exact absurd (word _ mark) (by decide)

end Sql

end DialectSql
