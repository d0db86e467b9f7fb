import DialectSql.Proofs.Sql.Layout

/-!
# The Window of a Page

What a page clause keeps of an ordered result.  `LIMIT` and `OFFSET … FETCH NEXT` pass over rows and
keep as many as they are told; a range of row numbers keeps the rows whose numbers are in it, and
row numbers count from one.

The main statement is what each family of dialects keeps of a result for the same limit.  The first
two keep the page.  A range of row numbers runs from the start of the page to its end, both counted
like the rows that are passed over, so behind the first page it begins one row early: the pages then
overlap, and one of them holds a row too many.
-/

namespace DialectSql

variable {α : Type}

/-! ## Pages -/

/-- The page of a result: behind the rows that are passed over, as many as a page has. -/
def Limit.page (limit : Limit) (result : List α) : List α :=
  (result.drop limit.start.toNat).take limit.rows.toNat

/-- Consecutive pages of one size are the result cut into pieces: every row is in one of them, and
none is in two. -/
theorem Limit.flatMap_page (size count : Nat) (result : List α) :
    ((List.range count).flatMap fun number ↦ (Limit.mk (number * size : Nat) size).page result) =
      result.take (count * size) := by
  induction count with
  | zero => simp
  | succ count ih =>
    rw [List.range_succ, List.flatMap_append, ih, Nat.succ_mul, List.take_add]
    simp only [List.flatMap_singleton, page, Int.toNat_natCast]

namespace Sql

/-! ## Page clauses -/

/-- A page clause with its numbers. -/
inductive PageClause where
  /-- `LIMIT rows OFFSET start`. -/
  | limitOffset (rows start : Int)
  /-- `OFFSET start ROWS FETCH NEXT rows ROWS ONLY`. -/
  | offsetFetch (start rows : Int)
  /-- `WHERE ROW_NUMBER BETWEEN low AND high`. -/
  | numbered (low high : Int)
  deriving DecidableEq, Repr

namespace PageClause

/-- A page clause in SQL. -/
def fragment : PageClause → Fragment
  | limitOffset rows start =>
    [.text "LIMIT ", .bind (.integer rows), .text " OFFSET ", .bind (.integer start)]
  | offsetFetch start rows =>
    [.text "OFFSET ", .bind (.integer start), .text " ROWS FETCH NEXT ", .bind (.integer rows),
      .text " ROWS ONLY"]
  | numbered low high =>
    [.text ("WHERE ROW_NUMBER BETWEEN " ++ low.repr ++ " AND " ++ high.repr)]

/-- The rows of an ordered result that a clause keeps.  Row numbers count from one, and a range
holds both of its bounds. -/
def keep : PageClause → List α → List α
  | limitOffset rows start, result => (result.drop start.toNat).take rows.toNat
  | offsetFetch start rows, result => (result.drop start.toNat).take rows.toNat
  | numbered low high, result =>
    ((result.zipIdx 1).filter fun row ↦ low ≤ row.2 ∧ row.2 ≤ high).map Prod.fst

end PageClause

/-- The clause that a family of dialects cuts out a page with. -/
def Paging.pageClause (paging : Paging) (limit : Limit) : PageClause :=
  match paging with
  | limitOffset => .limitOffset limit.rows limit.start
  | offsetFetch => .offsetFetch limit.start limit.rows
  | rowNumber => .numbered limit.start limit.stop

theorem Paging.pageLayout_eq_fragment (paging : Paging) (limit : Limit) :
    paging.pageLayout limit = (paging.pageClause limit).fragment := by
  cases paging <;> rfl

/-- A request for a page ends with the clause that cuts it out. -/
theorem selectFragment_ends {paging : Paging} {select : Select} {limit : Limit}
    {fragment : Fragment} (isLimit : select.limit = some limit)
    (written : selectFragment paging select = .ok fragment) :
    (paging.pageClause limit).fragment <:+ fragment := by
  have layout : selectLayout paging select = fragment := by
    rw [selectFragment_eq] at written
    cases fault : (Statement.select select).fault? paging with
    | none => rw [fault] at written; exact Except.ok.inj written
    | some error => rw [fault] at written; cases written
  rw [← layout, ← Paging.pageLayout_eq_fragment]
  by_cases numbered : paging = .rowNumber
  · subst numbered
    rw [selectLayout_numbered isLimit]
    exact List.suffix_append _ _
  · have plain : paging = .rowNumber → select.limit = none := fun same ↦ absurd same numbered
    rw [selectLayout_plain plain, plainLayout_eq plain, isLimit, pageTail]
    exact ⟨.text "SELECT " :: (selectList select.columns ++ .text " " :: .text "FROM " ::
      (source select.table ++ (filterTail select.conditions ++
        (orderTail (select.ranking paging) ++ [.text " "])))), by simp⟩

/-! ## What is kept -/

/-- The rows with numbers in a range, if the first row has the given number. -/
theorem filter_zipIdx (low high first : Nat) (result : List α) :
    ((result.zipIdx first).filter fun row ↦ low ≤ row.2 ∧ row.2 ≤ high).map Prod.fst =
      (result.drop (low - first)).take (high + 1 - max low first) := by
  induction result generalizing first with
  | nil => simp
  | cons row result ih =>
    rw [List.zipIdx_cons, List.filter_cons]
    by_cases early : first < low
    · have passed : low - first = low - (first + 1) + 1 := by omega
      have sameFirst : max low first = max low (first + 1) := by omega
      rw [if_neg (by simp; omega), ih, passed, sameFirst, List.drop_succ_cons]
    · have passed : low - first = 0 := by omega
      have morePassed : low - (first + 1) = 0 := by omega
      rw [passed, List.drop_zero]
      by_cases late : high < first
      · have none : high + 1 - max low first = 0 := by omega
        have noMore : high + 1 - max low (first + 1) = 0 := by omega
        rw [if_neg (by simp; omega), ih, none, noMore, List.take_zero, List.take_zero]
      · have more : high + 1 - max low first = high + 1 - max low (first + 1) + 1 := by omega
        rw [if_pos (by simp; omega), List.map_cons, ih, morePassed, List.drop_zero, more,
          List.take_succ_cons]

/-- The first two clauses keep the page. -/
theorem keep_pageClause {paging : Paging} (counts : paging ≠ .rowNumber) (limit : Limit)
    (result : List α) : (paging.pageClause limit).keep result = limit.page result := by
  cases paging with
  | limitOffset => rfl
  | offsetFetch => rfl
  | rowNumber => exact absurd rfl counts

/-- With them, consecutive pages of one size share no row and leave none out. -/
theorem flatMap_keep {paging : Paging} (counts : paging ≠ .rowNumber) (size count : Nat)
    (result : List α) :
    ((List.range count).flatMap fun number ↦
        (paging.pageClause ⟨(number * size : Nat), size⟩).keep result) =
      result.take (count * size) := by
  simp only [keep_pageClause counts]
  exact Limit.flatMap_page size count result

/-- A range of row numbers keeps the first page, but of a later page one row more, in front. -/
theorem keep_rowNumber {limit : Limit} (valid : limit.Valid) (result : List α) :
    (Paging.rowNumber.pageClause limit).keep result =
      if limit.start = 0 then limit.page result
      else (Limit.mk (limit.start - 1) (limit.rows + 1)).page result := by
  obtain ⟨start, rows⟩ := limit
  obtain ⟨start, rfl⟩ := Int.eq_ofNat_of_zero_le valid.1
  obtain ⟨rows, rfl⟩ := Int.eq_ofNat_of_zero_le (Int.le_trans Int.one_nonneg valid.2)
  have kept : (Paging.rowNumber.pageClause ⟨start, rows⟩).keep result =
      (result.drop (start - 1)).take (start + rows + 1 - max start 1) := by
    rw [← filter_zipIdx]
    simp only [Paging.pageClause, PageClause.keep, Limit.stop]
    norm_cast
  rw [kept]
  by_cases first : start = 0
  · subst first
    have count : 0 + rows + 1 - max 0 1 = rows := by omega
    rw [count]
    rfl
  · have passed : ((start : Int) - 1).toNat = start - 1 := by omega
    have count : start + rows + 1 - max start 1 = ((rows : Int) + 1).toNat := by omega
    have later : (Limit.mk start rows).start ≠ 0 := by simpa using first
    rw [count, if_neg later, Limit.page, passed]

/-- A later page that the result fills holds a row too many. -/
theorem length_keep_rowNumber {limit : Limit} (valid : limit.Valid) (later : limit.start ≠ 0)
    {result : List α} (filled : limit.start + limit.rows ≤ result.length) :
    ((Paging.rowNumber.pageClause limit).keep result).length = limit.rows + 1 := by
  rw [keep_rowNumber valid, if_neg later]
  obtain ⟨low, high⟩ := valid
  simp only [Limit.page, List.length_take, List.length_drop]
  omega

/-- So row numbers and the other clauses agree on the first page and behind the end of the result,
and nowhere else. -/
theorem keep_rowNumber_eq_iff {limit : Limit} (valid : limit.Valid) (result : List α) :
    (Paging.rowNumber.pageClause limit).keep result = limit.page result ↔
      limit.start = 0 ∨ (result.length : Int) < limit.start := by
  rw [keep_rowNumber valid]
  obtain ⟨low, high⟩ := valid
  by_cases first : limit.start = 0
  · simp [first]
  · rw [if_neg first]
    constructor
    · intro same
      have lengths := congrArg List.length same
      simp only [Limit.page, List.length_take, List.length_drop] at lengths
      omega
    · rintro (start | short)
      · exact absurd start first
      · have nothing : result.drop limit.start.toNat = [] := List.drop_eq_nil_of_le (by omega)
        have nothingEarlier : result.drop (limit.start - 1).toNat = [] :=
          List.drop_eq_nil_of_le (by omega)
        rw [Limit.page, Limit.page, nothing, nothingEarlier, List.take_nil, List.take_nil]

/-- A request for a page ends with a clause that keeps the page, unless it numbers the rows: then
the first page is kept, and of a later page one row more in front, as long as the result has rows
there. -/
theorem selectFragment_page {paging : Paging} {select : Select} {limit : Limit}
    {fragment : Fragment} (isLimit : select.limit = some limit) (valid : limit.Valid)
    (written : selectFragment paging select = .ok fragment) :
    (paging.pageClause limit).fragment <:+ fragment ∧
      ∀ result : List α,
        (paging ≠ .rowNumber → (paging.pageClause limit).keep result = limit.page result) ∧
        (paging = .rowNumber → limit.start ≠ 0 → (paging.pageClause limit).keep result =
          (Limit.mk (limit.start - 1) (limit.rows + 1)).page result) ∧
        ((paging.pageClause limit).keep result = limit.page result ↔
          paging ≠ .rowNumber ∨ limit.start = 0 ∨ (result.length : Int) < limit.start) := by
  refine ⟨selectFragment_ends isLimit written, fun result ↦ ?_⟩
  by_cases numbered : paging = .rowNumber
  · subst numbered
    refine ⟨fun counts ↦ absurd rfl counts, ?_, ?_⟩
    · intro _ later
      rw [keep_rowNumber valid, if_neg later]
    · rw [keep_rowNumber_eq_iff valid]
      exact (or_iff_right fun counts ↦ counts rfl).symm
  · have kept := keep_pageClause numbered limit result
    exact ⟨fun _ ↦ kept, fun same ↦ absurd same numbered, iff_of_true kept (.inl numbered)⟩

/-- The second page of 25 rows where rows are numbered. -/
theorem selectFragment_page_second :
    let users : Select := ⟨⟨"hr", "users", "id", []⟩, [], none, none, some ⟨25, 25⟩, none⟩
    ∃ fragment, selectFragment .rowNumber users = .ok fragment ∧
      (Paging.rowNumber.pageClause ⟨25, 25⟩).fragment <:+ fragment ∧
        ∀ result : List Nat, (Paging.rowNumber.pageClause ⟨25, 25⟩).keep result =
          (Limit.mk 24 26).page result := by
  intro users
  have valid : (Limit.mk 25 25).Valid := by decide
  have written : selectFragment .rowNumber users = .ok _ := rfl
  have isLimit : users.limit = some ⟨25, 25⟩ := rfl
  obtain ⟨ends, kept⟩ := selectFragment_page isLimit valid written
  exact ⟨_, written, ends, fun result ↦ (kept result).2.1 rfl (by decide)⟩

/-- The second page of two rows holds three, and the first of them was on the first page. -/
theorem keep_rowNumber_secondPage :
    (Limit.mk 2 2).Valid ∧
      (Paging.rowNumber.pageClause ⟨2, 2⟩).keep [1, 2, 3, 4, 5] = [2, 3, 4] ∧
      (Paging.limitOffset.pageClause ⟨2, 2⟩).keep [1, 2, 3, 4, 5] = [3, 4] ∧
      ¬ ∀ limit : Limit, limit.Valid → ∀ result : List Nat,
        (Paging.rowNumber.pageClause limit).keep result =
          (Paging.limitOffset.pageClause limit).keep result := by
  refine ⟨by decide, by decide, by decide, ?_⟩
  intro same
  exact absurd (same ⟨2, 2⟩ (by decide) [1, 2, 3]) (by decide)

end Sql

end DialectSql
