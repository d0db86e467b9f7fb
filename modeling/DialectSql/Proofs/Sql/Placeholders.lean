import DialectSql.Proofs.Sql.Layout

/-!
# Placeholders and Their Values

Every placeholder of a rendered statement stands for the value at its position among the bind
values.  A slot says what belongs to a placeholder: the text that stands right in front of it, which
names the column or the clause, and the value.  The slots of a statement are listed here kind by
kind, without the help of the functions that write statements.

The main statement is that the placeholders of a rendered statement, read from left to right, stand
behind the texts of its slots, and that the bind values are the values of its slots.
-/

namespace DialectSql

/-- A place for a value: the text right in front of the placeholder, and the value. -/
structure Slot where
  context : Text
  value : Sql.Bind
  deriving DecidableEq, Repr

namespace Slot

/-- The slots of a list of values in brackets, the first of which stands behind the given text. -/
def listed (context : Text) : List Sql.Bind → List Slot
  | [] => []
  | value :: values => ⟨context, value⟩ :: listed (context ++ "?,") values

/-- The slots of a predicate that stands behind the given text. -/
def ofPredicate (lead : Text) (predicate : Predicate) : List Slot :=
  let subject := lead ++ "t." ++ predicate.column
  match predicate.operator, predicate.values with
  | .equals, [value] => [⟨subject ++ " = ", .text value⟩]
  | .like, [value] => [⟨subject ++ " LIKE ", .text value⟩]
  | .between, [low, high] =>
    [⟨subject ++ " BETWEEN ", .text low⟩, ⟨subject ++ " BETWEEN ? AND ", .text high⟩]
  | _, _ => []

/-- The slots of a filter, in the order of its entries. -/
def ofFilter : List GroupedPredicate → List Slot
  | [] => []
  | item :: items =>
    ofPredicate " WHERE " item.predicate ++
      items.flatMap fun item ↦ ofPredicate (" " ++ item.connector.name ++ " ") item.predicate

/-- The slots of a page. -/
def ofPage : Sql.Paging → Limit → List Slot
  | .limitOffset, limit =>
    [⟨" LIMIT ", .integer limit.rows⟩, ⟨" LIMIT ? OFFSET ", .integer limit.start⟩]
  | .offsetFetch, limit =>
    [⟨" OFFSET ", .integer limit.start⟩, ⟨" OFFSET ? ROWS FETCH NEXT ", .integer limit.rows⟩]
  | .rowNumber, _ => []

/-- The slots of assignments, the first of which stands behind the given text. -/
def ofAssignments (lead table : Text) : List (Text × Text) → List Slot
  | [] => []
  | (column, value) :: entries =>
    ⟨lead ++ table ++ "." ++ column ++ "=", .text value⟩ :: ofAssignments "," table entries

end Slot

namespace Statement

/-- The slots of a statement in a family of dialects. -/
def slots (paging : Sql.Paging) : Statement → List Slot
  | .select request =>
    Slot.ofFilter request.conditions ++ request.limit.toList.flatMap (Slot.ofPage paging)
  | .insert request =>
    Slot.listed ("(" ++ Text.joined "," request.values.names ++ ") VALUES (")
      (request.values.values.map .text)
  | .update request =>
    Slot.ofAssignments " SET " request.table.name request.values.entries ++
      Slot.ofAssignments " WHERE " request.table.name [(request.table.primaryKey, request.id)]
  | .delete request =>
    Slot.ofAssignments " WHERE " request.table.name [(request.table.primaryKey, request.id)]
  | .call request =>
    Slot.listed ("\x7bcall " ++ request.name ++ "(")
      (request.arguments.map fun argument ↦
        if argument.out then .null else .ofText? argument.value)

end Statement

/-- The texts in front of the placeholders of a text that stands behind another one. -/
def beforePlaceholders (seen : Text) : Text → List Text
  | [] => []
  | point :: rest =>
    if point = .char '?' then seen :: beforePlaceholders (seen ++ [point]) rest
    else beforePlaceholders (seen ++ [point]) rest

theorem beforePlaceholders_append (seen left right : Text) :
    beforePlaceholders seen (left ++ right) =
      beforePlaceholders seen left ++ beforePlaceholders (seen ++ left) right := by
  induction left generalizing seen with
  | nil => simp [beforePlaceholders]
  | cons point left ih =>
    simp only [List.cons_append, beforePlaceholders, ih, List.append_assoc]
    split <;> rfl

/-- A text without placeholders. -/
def Clean (text : Text) : Prop :=
  .char '?' ∉ text

instance (text : Text) : Decidable (Clean text) :=
  inferInstanceAs (Decidable (¬_))

theorem beforePlaceholders_eq_nil {text : Text} (seen : Text) (clean : Clean text) :
    beforePlaceholders seen text = [] := by
  induction text generalizing seen with
  | nil => rfl
  | cons point rest ih =>
    rw [Clean, List.mem_cons, not_or] at clean
    rw [beforePlaceholders, if_neg (Ne.symm clean.1), ih _ clean.2]

namespace Sql

open Fragment

/-! ## Filled fragments -/

/-- A fragment binds the values of the given slots, and apart from their placeholders it shows
question marks only in the given names.  If the names show none, then behind every text that ends
in `before` the placeholders stand behind the texts of the slots. -/
structure Fills (before : Text) (fragment : Fragment) (slots : List Slot) (names : List Text) :
    Prop where
  binds : fragment.binds = slots.map Slot.value
  marks : (fragment.sql .none).count (.char '?') =
    slots.length + names.flatten.count (.char '?')
  contexts : (∀ name ∈ names, Clean name) → ∀ seen, before <:+ seen →
    List.Forall₂ (fun text slot ↦ slot.context <:+ text)
      (beforePlaceholders seen (fragment.sql .none)) slots

namespace Fills

variable {before : Text} {fragment rest : Fragment} {slots more : List Slot}
  {names others : List Text}

theorem nil : Fills before [] [] [] :=
  ⟨rfl, rfl, fun _ _ _ ↦ .nil⟩

protected theorem append (first : Fills before fragment slots names)
    (second : Fills (before ++ fragment.sql .none) rest more others) :
    Fills before (fragment ++ rest) (slots ++ more) (names ++ others) where
  binds := by rw [binds_append, first.binds, second.binds, List.map_append]
  marks := by
    rw [sql_append, List.count_append, first.marks, second.marks, List.flatten_append,
      List.count_append, List.length_append]
    omega
  contexts clean seen behind := by
    rw [List.forall_mem_append] at clean
    rw [sql_append, beforePlaceholders_append]
    obtain ⟨start, rfl⟩ := behind
    have further : before ++ fragment.sql .none <:+ start ++ before ++ fragment.sql .none :=
      ⟨start, by simp⟩
    have firstContexts := first.contexts clean.1 _ (List.suffix_append start before)
    exact List.rel_append firstContexts (second.contexts clean.2 _ further)

theorem weaken {longer : Text} (fills : Fills before fragment slots names)
    (behind : before <:+ longer) : Fills longer fragment slots names :=
  ⟨fills.binds, fills.marks, fun clean seen suffix ↦
    fills.contexts clean seen (behind.trans suffix)⟩

/-- The order of the names plays no part. -/
theorem perm (fills : Fills before fragment slots names) (same : names.Perm others) :
    Fills before fragment slots others where
  binds := fills.binds
  marks := by rw [fills.marks, same.flatten.count_eq]
  contexts clean := fills.contexts fun name mem ↦ clean name (same.subset mem)

/-- What is filled depends on the two views of a fragment only. -/
theorem congr {other : Fragment} (fills : Fills before fragment slots names)
    (alike : Alike fragment other) : Fills before other slots names where
  binds := alike.2 ▸ fills.binds
  marks := alike.1 ▸ fills.marks
  contexts := alike.1 ▸ fills.contexts

theorem text {content : Text} (clean : Clean content)
    (fills : Fills (before ++ content) rest slots names) :
    Fills before (.text content :: rest) slots names := by
  have alone : Fills before [.text content] [] [] := by
    refine ⟨rfl, ?_, fun _ seen _ ↦ ?_⟩
    · simpa using List.count_eq_zero.mpr clean
    · simp [beforePlaceholders_eq_nil seen clean]
  exact alone.append (by simpa using fills)

theorem name {identifier : Text} (fills : Fills (before ++ identifier) rest slots names) :
    Fills before (.name identifier :: rest) slots (identifier :: names) := by
  have alone : Fills before [.name identifier] [] [identifier] := by
    refine ⟨rfl, by simp, fun clean seen _ ↦ ?_⟩
    simp [beforePlaceholders_eq_nil seen (clean identifier (by simp))]
  exact alone.append (by simpa using fills)

theorem bind {context : Text} {value : Bind} (behind : context <:+ before)
    (fills : Fills (before ++ "?") rest slots names) :
    Fills before (.bind value :: rest) (⟨context, value⟩ :: slots) names := by
  have alone : Fills before [.bind value] [⟨context, value⟩] [] := by
    refine ⟨rfl, by simp, fun _ seen further ↦ ?_⟩
    simpa [beforePlaceholders] using behind.trans further
  exact alone.append (by simpa [Text.ofString] using fills)

/-- What stands behind any text may follow a filled fragment. -/
theorem followed (first : Fills before fragment slots names)
    (second : Fills [] rest more others) :
    Fills before (fragment ++ rest) (slots ++ more) (names ++ others) :=
  first.append (second.weaken List.nil_suffix)

/-- What stands behind any text may follow a text without placeholders. -/
theorem headed {content : Text} (clean : Clean content) (fills : Fills [] rest slots names) :
    Fills before (.text content :: rest) slots names :=
  .text clean (fills.weaken List.nil_suffix)

/-- Rows of filled fragments are filled. -/
theorem flatMap {α : Type} {item : α → Fragment} {slotsOf : α → List Slot}
    {namesOf : α → List Text} {xs : List α}
    (fills : ∀ x ∈ xs, Fills [] (item x) (slotsOf x) (namesOf x)) :
    Fills [] (xs.flatMap item) (xs.flatMap slotsOf) (xs.flatMap namesOf) := by
  induction xs with
  | nil => exact nil
  | cons x xs ih =>
    have first := fills x (by simp)
    have others := ih fun x mem ↦ fills x (by simp [mem])
    exact first.followed others

/-- Rows without placeholders show question marks in their names only. -/
theorem join {α : Type} {separator : Text} {item : α → Fragment} {namesOf : α → List Text}
    {xs : List α} (apart : Clean separator)
    (fills : ∀ before, ∀ x ∈ xs, Fills before (item x) [] (namesOf x)) :
    Fills before (Fragment.join separator (xs.map item)) [] (xs.flatMap namesOf) := by
  cases xs with
  | nil => exact nil
  | cons x xs =>
    have behind : Fills [] (xs.flatMap fun x ↦ .text separator :: item x)
        (xs.flatMap fun _ ↦ []) (xs.flatMap namesOf) :=
      flatMap fun x mem ↦ .text apart (fills _ x (by simp [mem]))
    have noSlots : xs.flatMap (fun _ ↦ ([] : List Slot)) = [] := by simp
    rw [noSlots] at behind
    rw [List.map_cons, join_cons, List.flatMap_map]
    exact (fills before x (by simp)).followed behind

end Fills

/-! ## Clauses -/

variable {before : Text}

theorem clean_append {left right : Text} : Clean (left ++ right) ↔ Clean left ∧ Clean right := by
  simp [Clean]

theorem fills_column (name : Text) : Fills before (column name) [] [name] :=
  .text (by decide) (.name .nil)

theorem fills_selectList (columns : List Text) :
    Fills before (selectList columns) [] columns := by
  unfold selectList
  split
  · rename_i empty
    rw [List.isEmpty_iff.mp empty]
    exact .text (by decide) .nil
  · have row : Fills before (Fragment.join "," (columns.map column)) [] (columns.flatMap ([·])) :=
      .join (by decide) fun _ name _ ↦ fills_column name
    rwa [List.flatMap_singleton'] at row

theorem fills_qualified (table : Table) :
    Fills before (qualified table) [] [table.schemaName, table.name] :=
  .name (.text (by decide) (.name .nil))

theorem fills_source (table : Table) :
    Fills before (source table) [] [table.schemaName, table.name] :=
  .name (.text (by decide) (.name (.text (by decide) .nil)))

theorem clean_lead (operator : Operator) : Clean operator.lead := by
  cases operator <;> decide

/-- A comparison binds its values next to its column. -/
theorem fills_comparison {lead : Text} {predicate : Predicate}
    (complete : predicate.isComplete = true) :
    Fills lead (comparisonLayout predicate) (Slot.ofPredicate lead predicate)
      [predicate.column] := by
  obtain ⟨name, operator, values⟩ := predicate
  simp only [Predicate.isComplete, beq_iff_eq] at complete
  refine .text (by decide) (.name (.text (clean_lead operator) ?_))
  cases operator with
  | equals =>
    obtain ⟨value, rfl⟩ := List.length_eq_one_iff.mp complete
    change Fills _ [.bind (.text value)] [⟨_, .text value⟩] []
    exact .bind List.suffix_rfl .nil
  | like =>
    obtain ⟨value, rfl⟩ := List.length_eq_one_iff.mp complete
    change Fills _ [.bind (.text value)] [⟨_, .text value⟩] []
    exact .bind List.suffix_rfl .nil
  | between =>
    obtain ⟨low, high, rfl⟩ := List.length_eq_two.mp complete
    change Fills _ [.bind (.text low), .text " AND ", .bind (.text high)]
      [⟨_, .text low⟩, ⟨_, .text high⟩] []
    refine .bind List.suffix_rfl (.text (by decide) (.bind ?_ .nil))
    simp [Operator.lead, Text.ofString]
  | isNull =>
    obtain rfl := List.length_eq_zero_iff.mp complete
    exact .nil
  | isNotNull =>
    obtain rfl := List.length_eq_zero_iff.mp complete
    exact .nil

theorem fills_filterTail {items : List GroupedPredicate}
    (complete : ∀ item ∈ items, item.predicate.isComplete = true) :
    Fills [] (filterTail items) (Slot.ofFilter items) (items.map (·.predicate.column)) := by
  cases items with
  | nil => exact .nil
  | cons item items =>
    have entries : Fills [] (items.flatMap entryLayout)
        (items.flatMap fun item ↦ Slot.ofPredicate item.connector.lead item.predicate)
        (items.flatMap fun item ↦ [item.predicate.column]) := by
      refine Fills.flatMap fun item mem ↦ .text (by cases item.connector <;> decide) ?_
      exact fills_comparison (complete item (by simp [mem]))
    have first : Fills " WHERE " (comparisonLayout item.predicate) _ _ :=
      fills_comparison (complete item (by simp))
    rw [← List.map_eq_flatMap] at entries
    simp only [filterTail, filterLayout, chainLayout, List.flatMap_cons, List.flatMap_nil,
      List.append_nil]
    exact .text (by decide) (.text (by decide) (first.followed entries))

theorem fills_ranked (ranking : Text × Option Direction) :
    Fills before (ranked ranking) [] [ranking.1] := by
  refine (fills_column ranking.1).append (?_ : Fills _ _ [] [])
  cases ranking.2 with
  | none => exact .nil
  | some direction => exact .text (by cases direction <;> decide) .nil

theorem fills_orderTail (ranking : Option (Text × Option Direction)) :
    Fills before (orderTail ranking) [] (ranking.toList.map Prod.fst) := by
  cases ranking with
  | none => exact .nil
  | some ranking => exact .text (by decide) (.text (by decide) (fills_ranked ranking))

theorem fills_pageTail {paging : Paging} {limit : Option Limit}
    (plain : paging = .rowNumber → limit = none) :
    Fills [] (pageTail paging limit) (limit.toList.flatMap (Slot.ofPage paging)) [] := by
  cases limit with
  | none => exact .nil
  | some limit =>
    cases paging with
    | limitOffset =>
      change Fills [] [.text " ", .text "LIMIT ", .bind (.integer limit.rows), .text " OFFSET ",
        .bind (.integer limit.start)] [⟨" LIMIT ", _⟩, ⟨" LIMIT ? OFFSET ", _⟩] []
      refine .text (by decide) (.text (by decide) (.bind ?_ (.text (by decide) (.bind ?_ .nil))))
      · exact ⟨[], rfl⟩
      · exact ⟨[], rfl⟩
    | offsetFetch =>
      change Fills [] [.text " ", .text "OFFSET ", .bind (.integer limit.start),
        .text " ROWS FETCH NEXT ", .bind (.integer limit.rows), .text " ROWS ONLY"]
        [⟨" OFFSET ", _⟩, ⟨" OFFSET ? ROWS FETCH NEXT ", _⟩] []
      refine .text (by decide) (.text (by decide) (.bind ?_ (.text (by decide) (.bind ?_
        (.text (by decide) .nil)))))
      · exact ⟨[], rfl⟩
      · exact ⟨[], rfl⟩
    | rowNumber => exact absurd (plain rfl) (by simp)

/-- Row numbers are written without a placeholder. -/
theorem fills_rowNumber (limit : Limit) :
    Fills before (Paging.rowNumber.pageLayout limit) [] [] := by
  have numeral (n : Int) : Clean (Text.ofString n.repr) := by
    intro mem
    have noMark := Text.isNumeralPoint_of_mem_repr n _ mem
    simp [Text.isNumeralPoint, CodePoint.isIn] at noMark
  refine .text ?_ .nil
  simp only [clean_append]
  exact ⟨⟨⟨by decide, numeral _⟩, by decide⟩, numeral _⟩

/-- A list of placeholders takes the values in order. -/
theorem fills_listed (context : Text) (values : List Bind) :
    Fills context (Fragment.join "," (values.map fun value ↦ [.bind value]))
      (Slot.listed context values) [] := by
  have behind (context : Text) (values : List Bind) :
      Fills (context ++ "?") (values.flatMap fun value ↦ [.text ",", .bind value])
        (Slot.listed (context ++ "?,") values) [] := by
    induction values generalizing context with
    | nil => exact .nil
    | cons value values ih =>
      refine .text (by decide) (.bind ?_ ?_)
      · simp [Text.ofString]
      · simpa [Text.ofString, List.flatMap] using ih (context ++ "?,")
  cases values with
  | nil => exact .nil
  | cons value values =>
    have row : Fragment.join "," ((value :: values).map fun value ↦ [.bind value]) =
        .bind value :: values.flatMap fun value ↦ [.text ",", .bind value] := by
      simp [List.flatMap_map]
    rw [row]
    exact .bind List.suffix_rfl (behind context values)

/-- An assignment takes its value next to its column. -/
theorem fills_assignment (lead : Text) (table : Table) (entry : Text × Text) :
    Fills lead (assignment table entry)
      [⟨lead ++ table.name ++ "." ++ entry.1 ++ "=", .text entry.2⟩] [table.name, entry.1] :=
  .name (.text (by decide) (.name (.text (by decide) (.bind List.suffix_rfl .nil))))

theorem fills_assignments (lead : Text) (table : Table) (entries : List (Text × Text)) :
    Fills lead (Fragment.join "," (entries.map (assignment table)))
      (Slot.ofAssignments lead table.name entries)
      (entries.flatMap fun entry ↦ [table.name, entry.1]) := by
  have behind (entries : List (Text × Text)) :
      Fills [] ((entries.map (assignment table)).flatMap (Piece.text "," :: ·))
        (Slot.ofAssignments "," table.name entries)
        (entries.flatMap fun entry ↦ [table.name, entry.1]) := by
    induction entries with
    | nil => exact .nil
    | cons entry entries ih =>
      have first : Fills [] (.text "," :: assignment table entry) _ _ :=
        .text (by decide) (fills_assignment "," table entry)
      exact first.followed ih
  cases entries with
  | nil => exact .nil
  | cons entry entries =>
    rw [List.map_cons, join_cons]
    exact (fills_assignment lead table entry).followed (behind entries)

/-! ## Statements -/

theorem fills_plainLayout {paging : Paging} {select : Select}
    (plain : paging = .rowNumber → select.limit = none)
    (complete : misfitOf select.conditions = none) :
    Fills [] (plainLayout paging select) ((Statement.select select).slots paging)
      ((Statement.select select).identifiers paging) := by
  have columns : Fills [] (selectList select.columns) [] _ := fills_selectList _
  have table : Fills [] (source select.table) [] _ := fills_source _
  have filter := fills_filterTail (isComplete_of_misfitOf complete)
  have order : Fills [] (orderTail (select.ranking paging)) [] _ := fills_orderTail _
  have tails := filter.followed (order.followed (fills_pageTail plain))
  have fromTable : Fills [] (.text " " :: .text "FROM " :: _) _ _ :=
    .headed (by decide) (.headed (by decide) (table.followed tails))
  have whole : Fills [] (.text "SELECT " :: _) _ _ :=
    .headed (by decide) (columns.followed fromTable)
  rw [plainLayout_eq plain]
  exact whole.perm (by simp [Statement.identifiers])

theorem fills_numberedLayout {select : Select} {limit : Limit}
    (isLimit : select.limit = some limit) (complete : misfitOf select.conditions = none) :
    Fills [] (numberedLayout select limit) ((Statement.select select).slots .rowNumber)
      ((Statement.select select).identifiers .rowNumber) := by
  obtain ⟨ranking, isRanking, layout⟩ := numberedLayout_eq select limit isLimit
  have order : Fills [] (ranked ranking) [] _ := fills_ranked _
  have columns : Fills [] (selectList select.columns) [] _ := fills_selectList _
  have table : Fills [] (source select.table) [] _ := fills_source _
  have filter := fills_filterTail (isComplete_of_misfitOf complete)
  have page : Fills [] (.text ") " :: Paging.rowNumber.pageLayout limit) [] [] :=
    .headed (by decide) (fills_rowNumber limit)
  have fromTable : Fills [] (.text " FROM " :: _) _ _ :=
    .headed (by decide) (table.followed (filter.followed page))
  have listed : Fills [] (.text " ) AS ROW_NUMBER, " :: _) _ _ :=
    .headed (by decide) (columns.followed fromTable)
  have whole : Fills [] (.text "SELECT * FROM ( " ::
      .text "SELECT ROW_NUMBER() OVER ( ORDER BY " :: _) _ _ :=
    .headed (by decide) (.headed (by decide) (order.followed listed))
  rw [layout, Statement.slots, isLimit]
  apply whole.perm
  -- The column of the ordering is written first and listed last.
  have moved (names : List Text) : ([ranking.1] ++ names).Perm (names ++ [ranking.1]) :=
    List.perm_append_comm
  have listed := moved (select.columns ++ [select.table.schemaName, select.table.name] ++
    select.conditions.map (·.predicate.column))
  simpa [Statement.identifiers, isRanking] using listed

/-- The list of the columns of a new row, as it stands in front of the values. -/
theorem sql_join_names (names : List Text) :
    (Fragment.join "," (names.map fun name ↦ [.name name])).sql .none =
      Text.joined "," names := by
  rw [sql_join, List.map_map]
  simp [Function.comp_def]

theorem fills_insertFragment (paging : Paging) (insert : Insert) :
    Fills [] (insertFragment insert) ((Statement.insert insert).slots paging)
      ((Statement.insert insert).identifiers paging) := by
  have columns : Fills " (" (Fragment.join "," (insert.values.names.map fun name ↦ [.name name]))
      [] (insert.values.names.flatMap ([·])) :=
    .join (by decide) fun _ name _ ↦ .name .nil
  have row := fills_listed ("(" ++ Text.joined "," insert.values.names ++ ") VALUES (")
    (insert.values.values.map .text)
  have bracket {before : Text} : Fills before [.text ")"] [] [] := .text (by decide) .nil
  have behind : ("(" ++ Text.joined "," insert.values.names ++ ") VALUES (" : Text) <:+
      (" (" ++ (Fragment.join "," (insert.values.names.map fun name ↦
        [.name name])).sql .none ++ ") VALUES (" : Text) := by
    rw [sql_join_names]
    exact ⟨" ", by simp [Text.ofString]⟩
  rw [List.map_map] at row
  have listed := columns.append (.text (by decide) ((row.append bracket).weaken behind))
  have table : Fills [] (qualified insert.table) [] _ := fills_qualified _
  have opened : Fills [] (.text " (" :: _) _ _ := .text (by decide) listed
  have whole : Fills [] (.text "INSERT INTO " :: _) _ _ :=
    .headed (by decide) (table.followed opened)
  rw [List.flatMap_singleton', List.append_nil] at whole
  simp only [insertFragment, List.append_assoc, List.cons_append, List.nil_append]
  exact whole.perm (by simp [Statement.identifiers])

theorem fills_updateFragment (paging : Paging) (update : Update) :
    Fills [] (updateFragment update) ((Statement.update update).slots paging)
      ((Statement.update update).identifiers paging) := by
  have table : Fills [] (qualified update.table) [] _ := fills_qualified _
  have row := fills_assignments " SET " update.table update.values.entries
  have key : Fills [] (.text " WHERE " :: _) _ _ := .text (by decide)
    (fills_assignment " WHERE " update.table (update.table.primaryKey, update.id))
  have changes : Fills [] (.text " SET " :: _) _ _ := .text (by decide) (row.followed key)
  have whole : Fills [] (.text "UPDATE " :: _) _ _ :=
    .headed (by decide) (table.followed changes)
  rw [updateFragment_eq]
  apply whole.perm
  simp [Statement.identifiers, OrderedMap.names, List.flatMap_map]

theorem fills_deleteFragment (paging : Paging) (delete : Delete) :
    Fills [] (deleteFragment delete) ((Statement.delete delete).slots paging)
      ((Statement.delete delete).identifiers paging) := by
  have table : Fills [] (qualified delete.table) [] _ := fills_qualified _
  have key : Fills [] (.text " WHERE " :: _) _ _ := .text (by decide)
    (fills_assignment " WHERE " delete.table (delete.table.primaryKey, delete.id))
  rw [deleteFragment_eq]
  exact .headed (by decide) (table.followed key)

theorem fills_callFragment (paging : Paging) (call : Call) :
    Fills [] (callFragment call) ((Statement.call call).slots paging)
      ((Statement.call call).identifiers paging) := by
  have bounds : call.arguments.map (fun argument ↦ Bind.ofText? argument.bound) =
      call.arguments.map fun argument ↦
        if argument.out then .null else Bind.ofText? argument.value := by
    apply List.map_congr_left
    intro argument _
    cases out : argument.out <;> simp [Argument.bound, out, Bind.ofText?]
  have row := fills_listed ("\x7bcall " ++ call.name ++ "(")
    (call.arguments.map fun argument ↦ Bind.ofText? argument.bound)
  have bracket {before : Text} : Fills before [.text ")\x7d"] [] [] := .text (by decide) .nil
  rw [List.map_map] at row
  have listed := row.append bracket
  rw [List.append_nil] at listed
  -- The name of a procedure is no piece of its own.
  have opening : Fills [] [.text ("\x7bcall " ++ call.name ++ "(")] [] [call.name] := by
    have pieces : Fills [] [.text "\x7bcall ", .name call.name, .text "("] [] [call.name] :=
      .text (by decide) (.name (.text (by decide) .nil))
    exact pieces.congr ⟨by simp, rfl⟩
  have behind : ("\x7bcall " ++ call.name ++ "(" : Text) <:+
      sql .none [.text ("\x7bcall " ++ call.name ++ "(")] := by
    rw [sql_cons, sql_text, sql_nil, List.append_nil]
  have whole := opening.append (listed.weaken behind)
  rw [Statement.slots, ← bounds]
  exact whole

/-- A statement binds the values of its slots, and apart from their placeholders it shows question
marks only in its identifiers. -/
theorem fills_layout {paging : Paging} {statement : Statement}
    (complete : statement.misfit? = none) :
    Fills [] (statement.layout paging) (statement.slots paging) (statement.identifiers paging) := by
  cases statement with
  | select select =>
    by_cases plain : paging = .rowNumber → select.limit = none
    · rw [Statement.layout, selectLayout_plain plain]
      exact fills_plainLayout plain complete
    · push Not at plain
      obtain ⟨rfl, hasLimit⟩ := plain
      obtain ⟨limit, isLimit⟩ := Option.ne_none_iff_exists'.mp hasLimit
      rw [Statement.layout, selectLayout_numbered isLimit]
      exact fills_numberedLayout isLimit complete
  | insert insert => exact fills_insertFragment paging insert
  | update update => exact fills_updateFragment paging update
  | delete delete => exact fills_deleteFragment paging delete
  | call call => exact fills_callFragment paging call

/-- The placeholders of a rendered statement are as many as its bind values, apart from those that
its identifiers bring along.  If they bring none, the placeholders stand behind the texts of the
slots of the statement, one by one, and the bind values are the values of the slots. -/
theorem placeholders_hold_params {names : List Text} {dialect : Dialect}
    (known : (names, dialect) ∈ builtIn) {statement : Statement} {compiled : Compiled}
    (rendered : dialect.render statement = .ok compiled) :
    compiled.placeholderCount = compiled.params.length +
        (statement.identifiers dialect.paging).flatten.count (.char '?') ∧
      ((∀ name ∈ statement.identifiers dialect.paging, Clean name) →
        compiled.params = (statement.slots dialect.paging).map Slot.value ∧
          List.Forall₂ (fun before slot ↦ slot.context <:+ before)
            (beforePlaceholders [] compiled.sql) (statement.slots dialect.paging)) := by
  obtain ⟨complete, rfl⟩ := render_eq_ok rendered
  obtain ⟨binds, marks, contexts⟩ := fills_layout complete
  simp only [Dialect.finish, quotes_of_mem_builtIn known, Compiled.placeholderCount]
  refine ⟨?_, fun clean ↦ ⟨binds, contexts clean [] List.suffix_rfl⟩⟩
  rw [binds, List.length_map]
  exact marks

/-- A page of people of an age whose name is known. -/
def agePage : Statement :=
  .select ⟨⟨"demo", "person", "id", []⟩, ["name"], none,
    some ⟨[⟨⟨"age", .between, ["18", "65"]⟩, .and⟩, ⟨⟨"name", .isNotNull, []⟩, .and⟩]⟩,
    some ⟨20, 10⟩, none⟩

theorem agePage_placeholders :
    ∃ compiled : Compiled,
      (⟨"derby", .offsetFetch, .none⟩ : Dialect).render agePage = .ok compiled ∧
      compiled.placeholderCount = compiled.params.length +
        (agePage.identifiers .offsetFetch).flatten.count (.char '?') ∧
      compiled.params = (agePage.slots .offsetFetch).map Slot.value ∧
      List.Forall₂ (fun before slot ↦ slot.context <:+ before)
        (beforePlaceholders [] compiled.sql) (agePage.slots .offsetFetch) ∧
      agePage.slots .offsetFetch =
        [⟨" WHERE t.age BETWEEN ", .text "18"⟩, ⟨" WHERE t.age BETWEEN ? AND ", .text "65"⟩,
          ⟨" OFFSET ", .integer 20⟩, ⟨" OFFSET ? ROWS FETCH NEXT ", .integer 10⟩] :=
  have known : ((["derby"], ⟨"derby", .offsetFetch, .none⟩) : List Text × Dialect) ∈ builtIn := by
    decide
  have clean : ∀ name ∈ agePage.identifiers .offsetFetch, Clean name := by decide
  have aligned := @placeholders_hold_params _ _ known agePage _ rfl
  ⟨_, rfl, aligned.1, (aligned.2 clean).1, (aligned.2 clean).2, by decide⟩

end Sql

end DialectSql
