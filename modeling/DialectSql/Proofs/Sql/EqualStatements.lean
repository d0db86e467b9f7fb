import DialectSql.Proofs.Procedure.CallOrder

/-!
# Rendering Equal Statements

Two statements are the same when they agree in everything but the order in which the values of a row
are listed.  The main statement is that this order is also all that shows when they are rendered:
requests for rows, removals and calls are rendered alike, and additions and changes of a row show
the same pairs of a column and its value, in two orders.
-/

namespace DialectSql

/-! ## Equal maps -/

/-- Maps with the same entries list them in two orders. -/
theorem OrderedMap.perm_of_sameEntries {α : Type} [DecidableEq α] {left right : OrderedMap α}
    (same : left.sameEntries right = true) : left.entries.Perm right.entries := by
  obtain ⟨sameLength, each⟩ := Bool.and_eq_true_iff.mp same
  have inside : left.entries ⊆ right.entries := by
    intro entry mem
    have found : right.entries.lookup entry.1 = some entry.2 :=
      beq_iff_eq.mp (List.all_eq_true.mp each entry mem)
    obtain ⟨before, after, entries, -⟩ := List.lookup_eq_some_iff.mp found
    simp [entries]
  have contained : List.Subperm left.entries right.entries :=
    List.subperm_of_subset left.nodup.of_map inside
  exact contained.perm_of_length_le (beq_iff_eq.mp sameLength).ge

/-! ## Equal calls -/

/-- Calls that are read from data are the same when they agree in name and payload. -/
theorem Call.eq_of_ofJson {data otherData : Json} {call other : Call}
    (read : ofJson data = .valid call) (otherRead : ofJson otherData = .valid other)
    (sameName : call.name = other.name) (samePayload : call.payload = other.payload) :
    call = other := by
  have made := make_of_ofJson read
  rw [sameName, samePayload, make_of_ofJson otherRead] at made
  exact (Intake.Checked.valid.inj made).symm

namespace Sql

open Fragment

/-! ## Rows in statements -/

/-- The text that adds a row to a table, with a placeholder for each of its columns. -/
def insertText (quotes : Quotes) (table : Table) (columns : List Text) : Text :=
  "INSERT INTO " ++ (qualified table).sql quotes ++ " (" ++
    Text.joined "," (columns.map fun name ↦ Piece.sql quotes (.name name)) ++ ") VALUES (" ++
    Text.joined "," (columns.map fun _ ↦ "?") ++ ")"

/-- The text that changes columns of a row, with a placeholder for each of them and one for the
primary key. -/
def updateText (quotes : Quotes) (table : Table) (columns : List Text) : Text :=
  "UPDATE " ++ (qualified table).sql quotes ++ " SET " ++
    Text.joined "," (columns.map fun name ↦ (columnOf table name).sql quotes ++ "=?") ++
    " WHERE " ++ (columnOf table table.primaryKey).sql quotes ++ "=?"

/-- A finished statement of a dialect shows a row: its text is the given one for the columns of the
row, and it binds the values of the row in the same order, followed by the given ones. -/
structure ShowsRow (dialect : Dialect) (text : List Text → Text) (row : List (Text × Text))
    (behind : List Bind) (compiled : Compiled) : Prop where
  sql : compiled.sql = text (row.map Prod.fst)
  params : compiled.params = row.map (fun entry ↦ .text entry.2) ++ behind
  dialect : compiled.dialect = dialect.name
  outPositions : compiled.outPositions = []

theorem binds_names (separator : Text) (names : List Text) :
    (join separator (names.map fun name ↦ [.name name])).binds = [] := by
  rw [binds_join, List.flatMap_map]
  exact List.flatMap_eq_nil_iff.mpr fun _ _ ↦ rfl

theorem binds_assignments (table : Table) (values : OrderedMap Text) :
    (assignments table values).binds = values.entries.map fun entry ↦ .text entry.2 := by
  rw [assignments, binds_join, List.flatMap_map, List.map_eq_flatMap]
  rfl

theorem showsRow_insert (dialect : Dialect) (insert : Insert) :
    ShowsRow dialect (insertText dialect.quotes insert.table) insert.values.entries []
      (dialect.finish (insertFragment insert) []) where
  sql := by
    simp [Dialect.finish, insertFragment, insertText, sql_join, OrderedMap.names,
      OrderedMap.values, Function.comp_def, Text.ofString]
  params := by
    have row : (insertFragment insert).binds = insert.values.values.map .text := by
      simp [insertFragment, qualified, binds_names, binds_row]
    simpa [Dialect.finish, OrderedMap.values, Function.comp_def] using row
  dialect := rfl
  outPositions := rfl

theorem showsRow_update (dialect : Dialect) (update : Update) :
    ShowsRow dialect (updateText dialect.quotes update.table) update.values.entries
      [.text update.id] (dialect.finish (updateFragment update) []) where
  sql := by
    simp [Dialect.finish, updateFragment, updateText, sql_join, assignments, keyCondition,
      Function.comp_def, Text.ofString]
  params := by
    simp [Dialect.finish, updateFragment, qualified, binds_assignments, keyCondition, columnOf]
  dialect := rfl
  outPositions := rfl

/-! ## Equal statements -/

/-- How a dialect renders statements that are the same.  Additions and changes of a row list the
same columns with the same values; what each of them shows is its list of columns and values in a
text, and in front of bind values, that they have in common.  Other statements are rendered alike,
with equal errors where they cannot be rendered. -/
def RendersAlike (dialect : Dialect) : Statement → Statement → Prop
  | .insert left, .insert right =>
    left.values.entries.Perm right.values.entries ∧
      ∃ compiled other, dialect.render (.insert left) = .ok compiled ∧
        dialect.render (.insert right) = .ok other ∧
        ShowsRow dialect (insertText dialect.quotes left.table) left.values.entries [] compiled ∧
        ShowsRow dialect (insertText dialect.quotes left.table) right.values.entries [] other
  | .update left, .update right =>
    left.values.entries.Perm right.values.entries ∧
      ∃ compiled other, dialect.render (.update left) = .ok compiled ∧
        dialect.render (.update right) = .ok other ∧
        ShowsRow dialect (updateText dialect.quotes left.table) left.values.entries
          [.text left.id] compiled ∧
        ShowsRow dialect (updateText dialect.quotes left.table) right.values.entries
          [.text left.id] other
  | left, right => dialect.render left = dialect.render right

theorem rendersAlike_insert (dialect : Dialect) {left right : Insert}
    (same : (Statement.insert left).same (.insert right) = true) :
    RendersAlike dialect (.insert left) (.insert right) := by
  obtain ⟨sameTable, sameValues⟩ := Bool.and_eq_true_iff.mp same
  have shown := showsRow_insert dialect right
  rw [← beq_iff_eq.mp sameTable] at shown
  exact ⟨OrderedMap.perm_of_sameEntries sameValues, _, _, rfl, rfl,
    showsRow_insert dialect left, shown⟩

theorem rendersAlike_update (dialect : Dialect) {left right : Update}
    (same : (Statement.update left).same (.update right) = true) :
    RendersAlike dialect (.update left) (.update right) := by
  obtain ⟨sameHead, sameValues⟩ := Bool.and_eq_true_iff.mp same
  obtain ⟨sameTable, sameId⟩ := Bool.and_eq_true_iff.mp sameHead
  have shown := showsRow_update dialect right
  rw [← beq_iff_eq.mp sameTable, ← beq_iff_eq.mp sameId] at shown
  exact ⟨OrderedMap.perm_of_sameEntries sameValues, _, _, rfl, rfl,
    showsRow_update dialect left, shown⟩

/-- Statements that are the same are rendered alike by every dialect, up to the order in which a row
lists its columns together with their values; and calls that are read from data are the same when
they agree in name and payload. -/
theorem same_rendersAlike (dialect : Dialect) :
    (∀ left right : Statement, left.same right = true → RendersAlike dialect left right) ∧
      ∀ data otherData call other, Call.ofJson data = .valid call →
        Call.ofJson otherData = .valid other → call.name = other.name →
        call.payload = other.payload → (Statement.call call).same (.call other) = true := by
  constructor
  · intro left right same
    cases left <;> cases right
    case insert.insert => exact rendersAlike_insert dialect same
    case update.update => exact rendersAlike_update dialect same
    case select.select => exact congrArg (dialect.render ∘ .select) (beq_iff_eq.mp same)
    case delete.delete => exact congrArg (dialect.render ∘ .delete) (beq_iff_eq.mp same)
    case call.call => exact congrArg (dialect.render ∘ .call) (beq_iff_eq.mp same)
    all_goals cases same
  · intro data otherData call other read otherRead sameName samePayload
    exact beq_iff_eq.mpr (Call.eq_of_ofJson read otherRead sameName samePayload)

/-- Two additions of one book that list its columns in two orders, and two calls of one procedure
of which the second names the payload that the first leaves out. -/
theorem book_rendersAlike :
    let derby : Dialect := ⟨"derby", .offsetFetch, .none⟩
    let book : Table := ⟨"app", "book", "id", []⟩
    RendersAlike derby
        (.insert ⟨book, OrderedMap.ofList [("title", "Emma"), ("year", "1815")]⟩)
        (.insert ⟨book, OrderedMap.ofList [("year", "1815"), ("title", "Emma")]⟩) ∧
      ∃ call other, Call.ofJson (.obj [("name", .str "audit")]) = .valid call ∧
        Call.ofJson (.obj [("name", .str "audit"), ("payload", .str "[]")]) = .valid other ∧
        (Statement.call call).same (.call other) = true := by
  intro derby book
  obtain ⟨alike, sameCalls⟩ := same_rendersAlike derby
  have read : Call.ofJson (.obj [("name", .str "audit")]) = .valid ⟨"audit", "[]", []⟩ := by
    cbv
  have otherRead : Call.ofJson (.obj [("name", .str "audit"), ("payload", .str "[]")]) =
      .valid ⟨"audit", "[]", []⟩ := by
    cbv
  exact ⟨alike _ _ (by decide), _, _, read, otherRead,
    sameCalls _ _ _ _ read otherRead rfl rfl⟩

end Sql

end DialectSql
