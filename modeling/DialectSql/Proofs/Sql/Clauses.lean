import DialectSql.Proofs.Sql.Layout

/-!
# Reading Clauses Back

Each part of a statement can be read back from the text and the bind values at the place where it
starts: what it shows determines it, and determines where it ends.  All statements here have the
same form.  Two fragments that start with the same kind of part and are alike start with equal
parts, and what follows is alike again.
-/

namespace DialectSql

/-- The lead of no operator starts that of another one. -/
theorem Operator.eq_of_lead_prefix {operator other : Operator}
    (starts : operator.lead <+: other.lead) : operator = other := by
  cases operator <;> cases other <;> first | rfl | exact absurd starts (by decide)

theorem Connector.eq_of_lead_prefix {connector other : Connector}
    (starts : connector.lead <+: other.lead) : connector = other := by
  cases connector <;> cases other <;> first | rfl | exact absurd starts (by decide)

theorem Operator.startsOutside_lead (operator : Operator) (rest : Text) :
    Text.StartsOutside Finder.isBodyChar (operator.lead ++ rest) := by
  cases operator <;> exact (Text.startsOutside_cons _ _ _).mpr rfl

namespace Sql

open Fragment

variable {left right : Fragment}

/-! ## Rows of items -/

/-- Items can be told apart from each other, and from whatever ends a row of them. -/
structure Separable {α : Type} (item : α → Fragment) (valid : α → Prop)
    (follows ends : Fragment → Prop) : Prop where
  read : ∀ {x y : α} {left right : Fragment}, valid x → valid y → follows left → follows right →
    Alike (item x ++ left) (item y ++ right) → x = y ∧ Alike left right
  not_ends : ∀ {x : α} {left right : Fragment}, valid x → ends right →
    ¬Alike (item x ++ left) right
  follows_item : ∀ (x : α) (left : Fragment), valid x → follows (item x ++ left)
  follows_of_ends : ∀ {left : Fragment}, ends left → follows left

namespace Separable

variable {α : Type} {item : α → Fragment} {valid : α → Prop} {follows ends : Fragment → Prop}

theorem follows_row (separable : Separable item valid follows ends) {xs : List α}
    (valids : ∀ x ∈ xs, valid x) (leftEnds : ends left) : follows (xs.flatMap item ++ left) := by
  cases xs with
  | nil => exact separable.follows_of_ends leftEnds
  | cons x xs =>
    rw [List.flatMap_cons, List.append_assoc]
    exact separable.follows_item x _ (valids x (by simp))

/-- Rows of separable items are read back item by item. -/
theorem read_row (separable : Separable item valid follows ends) {xs ys : List α}
    (leftValid : ∀ x ∈ xs, valid x) (rightValid : ∀ y ∈ ys, valid y)
    (leftEnds : ends left) (rightEnds : ends right)
    (alike : Alike (xs.flatMap item ++ left) (ys.flatMap item ++ right)) :
    xs = ys ∧ Alike left right := by
  induction xs generalizing ys with
  | nil =>
    cases ys with
    | nil => exact ⟨rfl, alike⟩
    | cons y ys =>
      rw [List.flatMap_cons, List.append_assoc] at alike
      exact absurd alike.symm (separable.not_ends (rightValid y (by simp)) leftEnds)
  | cons x xs ih =>
    cases ys with
    | nil =>
      rw [List.flatMap_cons, List.append_assoc] at alike
      exact absurd alike (separable.not_ends (leftValid x (by simp)) rightEnds)
    | cons y ys =>
      have leftTail : ∀ x ∈ xs, valid x := fun x mem ↦ leftValid x (by simp [mem])
      have rightTail : ∀ y ∈ ys, valid y := fun y mem ↦ rightValid y (by simp [mem])
      rw [List.flatMap_cons, List.flatMap_cons, List.append_assoc, List.append_assoc] at alike
      obtain ⟨rfl, rest⟩ := separable.read (leftValid x (by simp)) (rightValid y (by simp))
        (separable.follows_row leftTail leftEnds) (separable.follows_row rightTail rightEnds) alike
      obtain ⟨rfl, behind⟩ := ih leftTail rightTail rest
      exact ⟨rfl, behind⟩

end Separable

/-! ## Lists -/

/-- What a word or a list of words goes on with. -/
def isListPoint (point : CodePoint) : Bool :=
  Finder.isBodyChar point || point == .char ','

/-- No word goes on here. -/
def WordEnds (fragment : Fragment) : Prop :=
  Text.StartsOutside Finder.isBodyChar (fragment.sql .none)

/-- Neither a word nor a list of words goes on here. -/
def ListEnds (fragment : Fragment) : Prop :=
  Text.StartsOutside isListPoint (fragment.sql .none)

theorem ListEnds.wordEnds (listEnds : ListEnds left) : WordEnds left :=
  Text.StartsOutside.mono listEnds fun point h ↦ by simp [isListPoint, h]

/-- A fragment starts with none of the given texts. -/
def Apart (leads : List Text) (fragment : Fragment) : Prop :=
  ∀ lead ∈ leads, ¬lead <+: fragment.sql .none

/-- A fragment starts with no lead if it starts with a text that no lead starts or goes on. -/
theorem Apart.of_sql {leads : List Text} {fragment : Fragment} (content rest : Text)
    (starts : fragment.sql .none = content ++ rest)
    (apart : ∀ lead ∈ leads, ¬lead <+: content ∧ ¬content <+: lead) : Apart leads fragment := by
  intro lead mem isPrefix
  rw [starts] at isPrefix
  rcases List.prefix_or_prefix_of_prefix isPrefix (List.prefix_append content rest) with h | h
  · exact (apart lead mem).1 h
  · exact (apart lead mem).2 h

/-- An item behind a comma. -/
def behindComma {α : Type} (item : α → Fragment) (x : α) : Fragment :=
  .text "," :: item x

/-- Items that can be read back where no word goes on are separable behind commas. -/
theorem separable_behindComma {α : Type} {item : α → Fragment} {valid : α → Prop}
    (read : ∀ {x y : α} {left right : Fragment}, valid x → valid y → WordEnds left →
      WordEnds right → Alike (item x ++ left) (item y ++ right) → x = y ∧ Alike left right) :
    Separable (behindComma item) valid WordEnds ListEnds where
  read validX validY leftEnds rightEnds alike :=
    read validX validY leftEnds rightEnds alike.text_cancel
  not_ends := by
    intro x left right _ ends alike
    have same : right.sql .none = .char ',' :: (item x ++ left).sql .none := by
      rw [← alike.1]
      simp [behindComma, Text.ofString]
    rw [ListEnds, same, Text.startsOutside_cons] at ends
    exact absurd ends (by decide)
  follows_item x left _ := by
    simp only [WordEnds, behindComma, List.cons_append, sql_cons, sql_text]
    exact (Text.startsOutside_cons _ _ _).mpr rfl
  follows_of_ends := ListEnds.wordEnds

/-- Lists of items are read back, also when they may be empty, if no item stands where no list
goes on. -/
theorem join_read {α : Type} {item : α → Fragment} {valid : α → Prop}
    (read : ∀ {x y : α} {left right : Fragment}, valid x → valid y → WordEnds left →
      WordEnds right → Alike (item x ++ left) (item y ++ right) → x = y ∧ Alike left right)
    (notEnds : ∀ {x : α} {left right : Fragment}, valid x → ListEnds right →
      ¬Alike (item x ++ left) right)
    {xs ys : List α} (leftValid : ∀ x ∈ xs, valid x) (rightValid : ∀ y ∈ ys, valid y)
    (leftEnds : ListEnds left) (rightEnds : ListEnds right)
    (alike : Alike (Fragment.join "," (xs.map item) ++ left)
      (Fragment.join "," (ys.map item) ++ right)) :
    xs = ys ∧ Alike left right := by
  have separable := separable_behindComma read
  have row (x : α) (xs : List α) (behind : Fragment) :
      Fragment.join "," ((x :: xs).map item) ++ behind =
        item x ++ (xs.flatMap (behindComma item) ++ behind) := by
    rw [List.map_cons, join_cons, List.flatMap_map, List.append_assoc]
    rfl
  cases xs with
  | nil =>
    cases ys with
    | nil => exact ⟨rfl, alike⟩
    | cons y ys =>
      rw [row] at alike
      exact absurd alike.symm (notEnds (rightValid y (by simp)) leftEnds)
  | cons x xs =>
    cases ys with
    | nil =>
      rw [row] at alike
      exact absurd alike (notEnds (leftValid x (by simp)) rightEnds)
    | cons y ys =>
      have leftTail : ∀ x ∈ xs, valid x := fun x mem ↦ leftValid x (by simp [mem])
      have rightTail : ∀ y ∈ ys, valid y := fun y mem ↦ rightValid y (by simp [mem])
      rw [row, row] at alike
      obtain ⟨rfl, behind⟩ := read (leftValid x (by simp)) (rightValid y (by simp))
        (separable.follows_row leftTail leftEnds) (separable.follows_row rightTail rightEnds) alike
      obtain ⟨rfl, rest⟩ := separable.read_row leftTail rightTail leftEnds rightEnds behind
      exact ⟨rfl, rest⟩

/-- No word stands where no list goes on. -/
theorem name_not_ends {word : Text} (isWord : word.IsWord) (ends : ListEnds right) :
    ¬Alike (.name word :: left) right := by
  intro alike
  have same := alike.1
  simp only [sql_cons, sql_name] at same
  have wordEnds := ends.wordEnds
  rw [WordEnds, ← same] at wordEnds
  exact isWord.not_startsOutside _ wordEnds

/-- A list of names is read back. -/
theorem names_read {names others : List Text}
    (words : ∀ name ∈ names, name.IsWord) (otherWords : ∀ name ∈ others, name.IsWord)
    (leftEnds : ListEnds left) (rightEnds : ListEnds right)
    (alike : Alike (Fragment.join "," (names.map fun name ↦ [.name name]) ++ left)
      (Fragment.join "," (others.map fun name ↦ [.name name]) ++ right)) :
    names = others ∧ Alike left right :=
  join_read (fun isWord isOther leftEnds rightEnds alike ↦
    alike.name_cancel isWord isOther leftEnds rightEnds) name_not_ends words otherWords leftEnds
    rightEnds alike

/-! ## Columns and comparisons -/

theorem column_read {name other : Text} (isWord : name.IsWord) (isOther : other.IsWord)
    (leftEnds : WordEnds left) (rightEnds : WordEnds right)
    (alike : Alike (column name ++ left) (column other ++ right)) :
    name = other ∧ Alike left right :=
  alike.text_cancel.name_cancel isWord isOther leftEnds rightEnds

theorem qualified_read {table other : Table}
    (schemaWord : table.schemaName.IsWord) (otherSchemaWord : other.schemaName.IsWord)
    (nameWord : table.name.IsWord) (otherNameWord : other.name.IsWord)
    (leftEnds : WordEnds left) (rightEnds : WordEnds right)
    (alike : Alike (qualified table ++ left) (qualified other ++ right)) :
    table.schemaName = other.schemaName ∧ table.name = other.name ∧ Alike left right := by
  have dotEnds (rest : Fragment) : WordEnds (.text "." :: rest) :=
    (Text.startsOutside_cons _ _ _).mpr rfl
  obtain ⟨sameSchema, fromDot⟩ :=
    alike.name_cancel schemaWord otherSchemaWord (dotEnds _) (dotEnds _)
  obtain ⟨sameName, rest⟩ :=
    fromDot.text_cancel.name_cancel nameWord otherNameWord leftEnds rightEnds
  exact ⟨sameSchema, sameName, rest⟩

/-- The list of columns is read back; the star for all columns is no word. -/
theorem selectList_read {columns others : List Text}
    (words : ∀ name ∈ columns, name.IsWord) (otherWords : ∀ name ∈ others, name.IsWord)
    (leftEnds : ListEnds left) (rightEnds : ListEnds right)
    (alike : Alike (selectList columns ++ left) (selectList others ++ right)) :
    columns = others ∧ Alike left right := by
  have star {name : Text} {names : List Text} {left right : Fragment} (isWord : name.IsWord) :
      ¬Alike (selectList (name :: names) ++ left) (selectList [] ++ right) := by
    intro alike
    have fromAlias : Alike (.text "t." :: .name name :: (names.flatMap fun name ↦
        .text "," :: column name) ++ left) (.text "t." :: .text "*" :: right) := by
      simpa [Alike, column, selectList, Text.ofString, List.flatMap_map] using alike
    exact Alike.not_name isWord ((Text.startsOutside_cons _ _ _).mpr rfl) fromAlias.text_cancel
  have notEnds {name : Text} {left right : Fragment} (_ : name.IsWord) (ends : ListEnds right) :
      ¬Alike (column name ++ left) right := by
    intro alike
    have same : right.sql .none = .char 't' :: .char '.' :: (name ++ left.sql .none) := by
      rw [← alike.1]
      simp [column, Text.ofString]
    rw [ListEnds, same, Text.startsOutside_cons] at ends
    exact absurd ends (by decide)
  cases columns with
  | nil =>
    cases others with
    | nil => exact ⟨rfl, alike.cancel⟩
    | cons other others => exact absurd alike.symm (star (otherWords other (by simp)))
  | cons name names =>
    cases others with
    | nil => exact absurd alike (star (words name (by simp)))
    | cons other others =>
      exact join_read column_read notEnds words otherWords leftEnds rightEnds alike

/-- A predicate that can be written, on a column whose name is a word. -/
def Readable (predicate : Predicate) : Prop :=
  predicate.column.IsWord ∧ predicate.isComplete = true

/-- A joined row of placeholders binds its values in order. -/
theorem binds_row {α : Type} (separator : Text) (bound : α → Bind) (values : List α) :
    (Fragment.join separator (values.map fun value ↦ [.bind (bound value)])).binds =
      values.map bound := by
  rw [binds_join, List.flatMap_map, List.map_eq_flatMap]
  rfl

/-- Equally many values are read back from between the same separators. -/
theorem values_read {separator : Text} {values others : List Text}
    (sameLength : values.length = others.length)
    (alike : Alike
      (Fragment.join separator (values.map fun value ↦ [.bind (.text value)]) ++ left)
      (Fragment.join separator (others.map fun value ↦ [.bind (.text value)]) ++ right)) :
    values = others ∧ Alike left right := by
  have sameBinds := alike.2
  rw [binds_append, binds_append, binds_row, binds_row] at sameBinds
  have sameTexts := (List.append_inj sameBinds (by simpa using sameLength)).1
  obtain rfl := List.map_injective_iff.mpr (fun _ _ h ↦ Bind.text.inj h) sameTexts
  exact ⟨rfl, alike.cancel⟩

theorem comparison_read {predicate other : Predicate} (readable : Readable predicate)
    (otherReadable : Readable other)
    (alike : Alike (comparisonLayout predicate ++ left) (comparisonLayout other ++ right)) :
    predicate = other ∧ Alike left right := by
  obtain ⟨name, operator, values⟩ := predicate
  obtain ⟨otherName, otherOperator, others⟩ := other
  obtain ⟨isWord, complete⟩ := readable
  obtain ⟨otherWord, otherComplete⟩ := otherReadable
  simp only [comparisonLayout, List.append_assoc, List.cons_append] at alike
  have ends (operator : Operator) (rest : Fragment) :
      WordEnds (.text operator.lead :: rest) := by
    simpa [WordEnds] using operator.startsOutside_lead (rest.sql .none)
  obtain ⟨rfl, fromLead⟩ := column_read isWord otherWord (ends _ _) (ends _ _) alike
  obtain rfl : operator = otherOperator := by
    rcases fromLead.text_prefix with starts | starts
    · exact Operator.eq_of_lead_prefix starts
    · exact (Operator.eq_of_lead_prefix starts).symm
  have sameLength : values.length = others.length := by
    simp only [Predicate.isComplete, beq_iff_eq] at complete otherComplete
    rw [complete, otherComplete]
  obtain ⟨rfl, behind⟩ := values_read sameLength fromLead.text_cancel
  exact ⟨rfl, behind⟩

/-! ## Assignments -/

theorem assignment_congr {table other : Table} (same : table.name = other.name) :
    assignment table = assignment other := by
  funext entry
  simp [assignment, columnOf, same]

/-- Assignments to columns of the same table are read back. -/
theorem assignment_read {table : Table} {entry other : Text × Text}
    (isWord : entry.1.IsWord) (isOther : other.1.IsWord)
    (alike : Alike (assignment table entry ++ left) (assignment table other ++ right)) :
    entry = other ∧ Alike left right := by
  obtain ⟨name, value⟩ := entry
  obtain ⟨otherName, otherValue⟩ := other
  have gapEnds (rest : Fragment) : WordEnds (.text "=" :: rest) :=
    (Text.startsOutside_cons _ _ _).mpr rfl
  simp only [assignment, List.append_assoc, columnOf] at alike
  have fromName : Alike (.name name :: .text "=" :: .bind (.text value) :: left)
      (.name otherName :: .text "=" :: .bind (.text otherValue) :: right) :=
    @Alike.cancel _ _ [.name table.name, .text "."] alike
  obtain ⟨rfl, behind⟩ := fromName.name_cancel isWord isOther (gapEnds _) (gapEnds _)
  obtain ⟨same, rest⟩ := behind.text_cancel.bind_cancel
  cases same
  exact ⟨rfl, rest⟩

/-! ## Chains -/

/-- The texts with which a chain goes on. -/
def chainLeads : List Text :=
  [Connector.and.lead, Connector.or.lead]

theorem separable_entryLayout :
    Separable entryLayout (fun item ↦ Readable item.predicate) (fun _ ↦ True)
      (Apart chainLeads) where
  read := by
    rintro ⟨predicate, connector⟩ ⟨other, otherConnector⟩ left right readable otherReadable _ _
      alike
    simp only [entryLayout, List.cons_append] at alike
    obtain rfl : connector = otherConnector := by
      rcases alike.text_prefix with starts | starts
      · exact Connector.eq_of_lead_prefix starts
      · exact (Connector.eq_of_lead_prefix starts).symm
    obtain ⟨rfl, behind⟩ := comparison_read readable otherReadable alike.text_cancel
    exact ⟨rfl, behind⟩
  not_ends := by
    intro item left right _ ends alike
    have mem : item.connector.lead ∈ chainLeads := by
      cases item.connector <;> simp [chainLeads]
    refine ends _ mem ⟨(comparisonLayout item.predicate ++ left).sql .none, ?_⟩
    simpa [entryLayout] using alike.1
  follows_item _ _ _ := trivial
  follows_of_ends _ := trivial

/-- A chain of at least one entry is read back up to the connector of its first entry. -/
theorem chain_read {item other : GroupedPredicate} {items others : List GroupedPredicate}
    (readable : ∀ entry ∈ item :: items, Readable entry.predicate)
    (otherReadable : ∀ entry ∈ other :: others, Readable entry.predicate)
    (leftEnds : Apart chainLeads left) (rightEnds : Apart chainLeads right)
    (alike : Alike (chainLayout (item :: items) ++ left) (chainLayout (other :: others) ++ right)) :
    item.predicate = other.predicate ∧ items = others ∧ Alike left right := by
  simp only [chainLayout, List.append_assoc] at alike
  obtain ⟨samePredicate, behind⟩ :=
    comparison_read (readable item (by simp)) (otherReadable other (by simp)) alike
  obtain ⟨rfl, rest⟩ := separable_entryLayout.read_row
    (fun entry mem ↦ readable entry (by simp [mem]))
    (fun entry mem ↦ otherReadable entry (by simp [mem])) leftEnds rightEnds behind
  exact ⟨samePredicate, rfl, rest⟩

/-! ## Filters -/

/-- What a chain shows of its entries: their predicates, and the connectors of all but the
first. -/
def shownChain (items : List GroupedPredicate) : List Predicate × List Connector :=
  (items.map GroupedPredicate.predicate, items.tail.map GroupedPredicate.connector)

/-- The texts with which a filter starts or goes on. -/
def filterLeads : List Text :=
  " WHERE " :: chainLeads

theorem filter_read {items others : List GroupedPredicate}
    (readable : ∀ entry ∈ items, Readable entry.predicate)
    (otherReadable : ∀ entry ∈ others, Readable entry.predicate)
    (leftEnds : Apart filterLeads left) (rightEnds : Apart filterLeads right)
    (alike : Alike (filterTail items ++ left) (filterTail others ++ right)) :
    shownChain items = shownChain others ∧ Alike left right := by
  -- A filter on one side only would have to stand where none can.
  have oneSided {item : GroupedPredicate} {items : List GroupedPredicate} {left right : Fragment}
      (ends : Apart filterLeads right) : ¬Alike (filterTail (item :: items) ++ left) right := by
    intro alike
    refine ends " WHERE " (by simp [filterLeads])
      ⟨(chainLayout (item :: items) ++ left).sql .none, ?_⟩
    have same := alike.1
    simp only [filterTail, filterLayout, List.flatMap_cons, List.flatMap_nil, List.append_nil,
      List.cons_append, sql_cons, sql_text] at same
    rw [← same, ← List.append_assoc]
    rfl
  cases items with
  | nil =>
    cases others with
    | nil => exact ⟨rfl, alike⟩
    | cons other others => exact absurd alike.symm (oneSided leftEnds)
  | cons item items =>
    cases others with
    | nil => exact absurd alike (oneSided rightEnds)
    | cons other others =>
      simp only [filterTail, filterLayout, List.flatMap_cons, List.flatMap_nil, List.append_nil,
        List.cons_append] at alike
      have chainEnds {fragment : Fragment} (ends : Apart filterLeads fragment) :
          Apart chainLeads fragment := fun lead mem ↦ ends lead (by simp [filterLeads, mem])
      obtain ⟨samePredicate, rfl, rest⟩ := chain_read readable otherReadable (chainEnds leftEnds)
        (chainEnds rightEnds) alike.text_cancel.text_cancel
      refine ⟨?_, rest⟩
      simp [shownChain, samePredicate]

theorem entries_ext {items others : List GroupedPredicate}
    (predicates : items.map GroupedPredicate.predicate = others.map GroupedPredicate.predicate)
    (connectors : items.map GroupedPredicate.connector = others.map GroupedPredicate.connector) :
    items = others := by
  induction items generalizing others with
  | nil => simpa using predicates
  | cons item items ih =>
    cases others with
    | nil => simp at predicates
    | cons other others =>
      obtain ⟨predicate, connector⟩ := item
      obtain ⟨otherPredicate, otherConnector⟩ := other
      simp only [List.map_cons, List.cons.injEq] at predicates connectors
      obtain ⟨rfl, predicates⟩ := predicates
      obtain ⟨rfl, connectors⟩ := connectors
      rw [ih predicates connectors]

/-- What a chain shows of its entries determines its layout. -/
theorem filterTail_congr {items others : List GroupedPredicate}
    (same : shownChain items = shownChain others) : filterTail items = filterTail others := by
  cases items with
  | nil =>
    cases others with
    | nil => rfl
    | cons other others => simp [shownChain] at same
  | cons item items =>
    cases others with
    | nil => simp [shownChain] at same
    | cons other others =>
      simp only [shownChain, List.map_cons, List.tail_cons, Prod.mk.injEq, List.cons.injEq] at same
      obtain ⟨⟨first, predicates⟩, connectors⟩ := same
      obtain rfl := entries_ext predicates connectors
      simp [filterTail, filterLayout, chainLayout, first]

/-! ## Orderings and pages -/

/-- The texts of the directions. -/
def directionLeads : List Text :=
  [Direction.ascending.lead, Direction.descending.lead]

theorem lead_mem_directionLeads (direction : Direction) : direction.lead ∈ directionLeads := by
  cases direction <;> simp [directionLeads]

theorem ranked_read {ranking other : Text × Option Direction}
    (isWord : ranking.1.IsWord) (isOther : other.1.IsWord)
    (leftWord : WordEnds left) (rightWord : WordEnds right)
    (leftEnds : Apart directionLeads left) (rightEnds : Apart directionLeads right)
    (alike : Alike (ranked ranking ++ left) (ranked other ++ right)) :
    ranking = other ∧ Alike left right := by
  obtain ⟨name, direction⟩ := ranking
  obtain ⟨otherName, otherDirection⟩ := other
  have wordEnds {direction : Option Direction} {rest : Fragment} (ends : WordEnds rest) :
      WordEnds ((direction.map fun direction ↦ .text direction.lead).toList ++ rest) := by
    cases direction with
    | none => exact ends
    | some direction => exact (Text.startsOutside_cons _ _ _).mpr rfl
  simp only [ranked, List.append_assoc] at alike
  obtain ⟨rfl, behind⟩ :=
    column_read isWord isOther (wordEnds leftWord) (wordEnds rightWord) alike
  cases direction with
  | none =>
    cases otherDirection with
    | none => exact ⟨rfl, behind⟩
    | some direction =>
      exact absurd ⟨_, behind.1.symm⟩ (leftEnds _ (lead_mem_directionLeads direction))
  | some direction =>
    cases otherDirection with
    | none => exact absurd ⟨_, behind.1⟩ (rightEnds _ (lead_mem_directionLeads direction))
    | some otherDirection =>
      have same : direction = otherDirection := by
        have starts := Alike.text_prefix behind
        cases direction <;> cases otherDirection <;>
          first | rfl | exact absurd starts (by decide)
      subst same
      exact ⟨rfl, behind.cancel⟩

/-- The texts with which an ordering starts or goes on. -/
def orderLeads : List Text :=
  " ORDER BY " :: directionLeads

theorem orderTail_read {ranking other : Option (Text × Option Direction)}
    (isWord : ∀ ranked ∈ ranking, ranked.1.IsWord) (isOther : ∀ ranked ∈ other, ranked.1.IsWord)
    (leftWord : WordEnds left) (rightWord : WordEnds right)
    (leftEnds : Apart orderLeads left) (rightEnds : Apart orderLeads right)
    (alike : Alike (orderTail ranking ++ left) (orderTail other ++ right)) :
    ranking = other ∧ Alike left right := by
  have oneSided {ranking : Text × Option Direction} {left right : Fragment}
      (ends : Apart orderLeads right) : ¬Alike (orderTail (some ranking) ++ left) right := by
    intro alike
    refine ends " ORDER BY " (by simp [orderLeads]) ⟨(ranked ranking ++ left).sql .none, ?_⟩
    rw [← alike.1]
    rfl
  cases ranking with
  | none =>
    cases other with
    | none => exact ⟨rfl, alike⟩
    | some other => exact absurd alike.symm (oneSided leftEnds)
  | some ranking =>
    cases other with
    | none => exact absurd alike (oneSided rightEnds)
    | some other =>
      have directionEnds {fragment : Fragment} (ends : Apart orderLeads fragment) :
          Apart directionLeads fragment := fun lead mem ↦ ends lead (by simp [orderLeads, mem])
      obtain ⟨rfl, rest⟩ := ranked_read (isWord ranking rfl) (isOther other rfl) leftWord rightWord
        (directionEnds leftEnds) (directionEnds rightEnds) alike.text_cancel.text_cancel
      exact ⟨rfl, rest⟩

/-- A page is read back in every family of dialects. -/
theorem page_read {paging : Paging} {limit other : Limit}
    (alike : Alike (paging.pageLayout limit) (paging.pageLayout other)) : limit = other := by
  obtain ⟨start, rows⟩ := limit
  obtain ⟨otherStart, otherRows⟩ := other
  cases paging with
  | limitOffset =>
    have binds := alike.2
    simp only [Paging.pageLayout, binds_text, binds_bind, binds_nil, List.cons.injEq,
      Bind.integer.injEq] at binds
    rw [binds.1, binds.2.1]
  | offsetFetch =>
    have binds := alike.2
    simp only [Paging.pageLayout, binds_text, binds_bind, binds_nil, List.cons.injEq,
      Bind.integer.injEq] at binds
    rw [binds.1, binds.2.1]
  | rowNumber =>
    have text := alike.1
    simp only [Paging.pageLayout, sql_cons, sql_text, sql_nil, List.append_nil, List.append_assoc,
      List.append_cancel_left_eq] at text
    have gapEnds (rest : Text) :
        Text.StartsOutside Text.isNumeralPoint (Text.ofString " AND " ++ rest) :=
      (Text.startsOutside_cons _ _ _).mpr rfl
    obtain ⟨sameStart, behind⟩ := Text.run_append_inj (Text.isNumeralPoint_of_mem_repr start)
      (Text.isNumeralPoint_of_mem_repr otherStart) (gapEnds _) (gapEnds _) text
    have start := Int.repr_injective (Text.ofString_injective sameStart)
    have stop := Int.repr_injective (Text.ofString_injective (List.append_cancel_left behind))
    simp only [Limit.stop] at start stop
    rw [Limit.mk.injEq]
    omega

end Sql

end DialectSql
