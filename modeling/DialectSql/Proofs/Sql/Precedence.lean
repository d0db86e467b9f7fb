import DialectSql.Proofs.Sql.Clauses

/-!
# Chains and Precedence

A chain of comparisons is meant from left to right: every comparison is combined with all that stand
before it.  It is written without parentheses, though, and a database lets `AND` bind tighter than
`OR`: it reads the text as alternatives, in each of which all comparisons have to hold.

The main statement is that every chain that can be written has exactly one such reading, and that
the reading and the chain always have the same value if and only if no `AND` comes after an `OR`.
What the comparisons mean plays no part; each has a truth value of its own.
-/

namespace DialectSql

/-- Two truth values joined by a connector. -/
def Connector.combine : Connector → Bool → Bool → Bool
  | and, left, right => left && right
  | or, left, right => left || right

/-- A comparison in the SQL of a dialect. -/
def Predicate.shown (quotes : Sql.Quotes) (predicate : Predicate) : Text :=
  "t." ++ quotes.left ++ predicate.column ++ quotes.right ++ predicate.operator.form

namespace PredicateGroup

/-- The comparisons of a chain in the SQL of a dialect. -/
def comparisons (quotes : Sql.Quotes) (group : PredicateGroup) : List Text :=
  group.items.map fun item ↦ item.predicate.shown quotes

/-- The connectors of a chain; the first entry has none to show. -/
def connectors (group : PredicateGroup) : List Connector :=
  group.items.tail.map GroupedPredicate.connector

/-- The value of a chain from left to right, where `truth` tells which comparisons hold, by their
places.  A chain without entries filters nothing. -/
def leftValue (truth : Nat → Bool) (group : PredicateGroup) : Bool :=
  match group.items with
  | [] => true
  | _ :: items =>
    (items.zipIdx 1).foldl
      (fun value entry ↦ entry.1.connector.combine value (truth entry.2)) (truth 0)

end PredicateGroup

namespace Sql

/-! ## Readings -/

/-- How a database reads a condition without parentheses: `OR` stands between alternatives, and
in each of them `AND` stands between comparisons.  The comparisons have the places in which they
come. -/
structure Reads (comparisons : List Text) (text : Text) (alternatives : List (List (Text × Nat))) :
    Prop where
  nonempty : ∀ row ∈ alternatives, row ≠ []
  places : alternatives.flatten = comparisons.zipIdx
  text : Text.joined " OR "
    (alternatives.map fun row ↦ Text.joined " AND " (row.map Prod.fst)) = text

/-- The value of a condition that is read as alternatives; without alternatives there is no
condition. -/
def readValue (truth : Nat → Bool) : List (List (Text × Nat)) → Bool
  | [] => true
  | alternatives => alternatives.any fun row ↦ row.all fun comparison ↦ truth comparison.2

/-! ## Rows of entries -/

section
variable {α : Type}

/-- What goes on the row in front: the entries up to the first `OR`. -/
def rowBehind : List (Connector × α) → List α
  | [] => []
  | (.and, next) :: rest => next :: rowBehind rest
  | (.or, _) :: _ => []

/-- The rows that start behind an `OR`. -/
def rowsBehind : List (Connector × α) → List (List α)
  | [] => []
  | (.and, _) :: rest => rowsBehind rest
  | (.or, next) :: rest => (next :: rowBehind rest) :: rowsBehind rest

/-- The rows of entries of which the first stands behind no connector. -/
def rowsOf (first : α) (rest : List (Connector × α)) : List (List α) :=
  (first :: rowBehind rest) :: rowsBehind rest

theorem nonempty_rowsOf (first : α) (rest : List (Connector × α)) :
    ∀ row ∈ rowsOf first rest, row ≠ [] := by
  rw [rowsOf, List.forall_mem_cons]
  refine ⟨by simp, ?_⟩
  induction rest with
  | nil => simp [rowsBehind]
  | cons entry rest ih =>
    obtain ⟨connector, next⟩ := entry
    cases connector with
    | and => exact ih
    | or =>
      rw [rowsBehind, List.forall_mem_cons]
      exact ⟨by simp, ih⟩

/-- No entry is lost. -/
theorem flatten_rowsOf (first : α) (rest : List (Connector × α)) :
    (rowsOf first rest).flatten = first :: rest.map Prod.snd := by
  rw [rowsOf, List.flatten_cons, List.cons_append, List.cons.injEq]
  refine ⟨rfl, ?_⟩
  induction rest with
  | nil => rfl
  | cons entry rest ih =>
    obtain ⟨connector, next⟩ := entry
    cases connector with
    | and => rw [rowBehind, rowsBehind, List.cons_append, ih, List.map_cons]
    | or =>
      rw [rowBehind, rowsBehind, List.flatten_cons, List.cons_append, ih, List.map_cons,
        List.nil_append]

theorem rowBehind_append (row : List α) (rest : List (Connector × α)) :
    rowBehind (row.map (Connector.and, ·) ++ rest) = row ++ rowBehind rest := by
  induction row with
  | nil => rfl
  | cons next row ih => rw [List.map_cons, List.cons_append, rowBehind, ih, List.cons_append]

theorem rowsBehind_append (row : List α) (rest : List (Connector × α)) :
    rowsBehind (row.map (Connector.and, ·) ++ rest) = rowsBehind rest := by
  induction row with
  | nil => rfl
  | cons next row ih => rw [List.map_cons, List.cons_append, rowsBehind, ih]

/-- All rows come from entries behind connectors. -/
theorem exists_rowsOf_eq {rows : List (List α)} (some : rows ≠ [])
    (nonempty : ∀ row ∈ rows, row ≠ []) : ∃ first rest, rowsOf first rest = rows := by
  induction rows with
  | nil => exact absurd rfl some
  | cons row rows ih =>
    rw [List.forall_mem_cons] at nonempty
    obtain ⟨first, row, rfl⟩ := List.exists_cons_of_ne_nil nonempty.1
    refine ⟨first, ?_⟩
    by_cases last : rows = []
    · refine ⟨row.map (Connector.and, ·) ++ [], ?_⟩
      rw [rowsOf, rowBehind_append, rowsBehind_append, last, rowBehind, rowsBehind, List.append_nil]
    · obtain ⟨next, rest, rfl⟩ := ih last nonempty.2
      refine ⟨row.map (Connector.and, ·) ++ (.or, next) :: rest, ?_⟩
      rw [rowsOf, rowBehind_append, rowsBehind_append, rowBehind, rowsBehind, List.append_nil,
        rowsOf]

/-! ## Rows in SQL -/

theorem joined_cons_cons (separator text other : Text) (texts : List Text) :
    Text.joined separator (text :: other :: texts) =
      text ++ separator ++ Text.joined separator (other :: texts) := by
  simp [Text.joined]

theorem joined_append (separator lead text : Text) (texts : List Text) :
    Text.joined separator ((lead ++ text) :: texts) =
      lead ++ Text.joined separator (text :: texts) := by
  cases texts with
  | nil => rfl
  | cons other texts => simp [Text.joined]

/-- Rows in SQL are their entries, each behind its connector. -/
theorem joined_rowsOf (shown : α → Text) (first : α) (rest : List (Connector × α)) :
    Text.joined " OR " ((rowsOf first rest).map fun row ↦
        Text.joined " AND " (row.map shown)) =
      shown first ++ rest.flatMap fun entry ↦ entry.1.lead ++ shown entry.2 := by
  induction rest generalizing first with
  | nil => simp [rowsOf, rowBehind, rowsBehind, Text.joined]
  | cons entry rest ih =>
    obtain ⟨connector, next⟩ := entry
    have others := ih next
    rw [rowsOf, List.map_cons] at others ⊢
    cases connector with
    | and =>
      have gap : (" AND " : Text) = Connector.and.lead := by decide
      have row : Text.joined " AND " ((first :: rowBehind ((.and, next) :: rest)).map shown) =
          (shown first ++ Connector.and.lead) ++
            Text.joined " AND " ((next :: rowBehind rest).map shown) := by
        rw [rowBehind, List.map_cons, List.map_cons, joined_cons_cons, gap]
      rw [row, joined_append, rowsBehind, others, List.flatMap_cons, List.append_assoc,
        List.append_assoc]
    | or =>
      have row : Text.joined " AND " ((first :: rowBehind ((.or, next) :: rest)).map shown) =
          shown first := rfl
      have gap : (" OR " : Text) = Connector.or.lead := by decide
      rw [row, rowsBehind, List.map_cons, joined_cons_cons, others, List.flatMap_cons, gap,
        List.append_assoc, List.append_assoc]

/-- The connectors can be read off entries in SQL. -/
theorem eq_of_flatMap_lead {shown : α → Text} {entries others : List (Connector × α)}
    (sameEntries : entries.map Prod.snd = others.map Prod.snd)
    (sameText : entries.flatMap (fun entry ↦ entry.1.lead ++ shown entry.2) =
      others.flatMap fun entry ↦ entry.1.lead ++ shown entry.2) : entries = others := by
  induction entries generalizing others with
  | nil => simpa using sameEntries.symm
  | cons entry entries ih =>
    obtain ⟨connector, next⟩ := entry
    obtain ⟨⟨otherConnector, _⟩, others, rfl, rfl, behind⟩ :=
      List.map_eq_cons_iff.mp sameEntries.symm
    simp only [List.flatMap_cons, List.append_assoc] at sameText
    obtain rfl : connector = otherConnector := by
      rcases List.prefix_or_prefix_of_prefix (List.prefix_append connector.lead _)
        (sameText ▸ List.prefix_append otherConnector.lead _) with starts | starts
      · exact Connector.eq_of_lead_prefix starts
      · exact (Connector.eq_of_lead_prefix starts).symm
    have sameRest := List.append_cancel_left (List.append_cancel_left sameText)
    rw [ih behind.symm sameRest]

/-! ## Values -/

/-- The value of entries by precedence, where `value` is that of the row in front. -/
def byPrecedence (value : Bool) : List (Connector × Bool) → Bool
  | [] => value
  | (.and, next) :: rest => byPrecedence (value && next) rest
  | (.or, next) :: rest => value || byPrecedence next rest

/-- The value of entries from left to right. -/
def fromLeft (value : Bool) (entries : List (Connector × Bool)) : Bool :=
  entries.foldl (fun value entry ↦ entry.1.combine value entry.2) value

theorem value_rowBehind (holds : α → Bool) (value : Bool) (rest : List (Connector × α)) :
    (value && (rowBehind rest).all holds || (rowsBehind rest).any (·.all holds)) =
      byPrecedence value (rest.map fun entry ↦ (entry.1, holds entry.2)) := by
  induction rest generalizing value with
  | nil => simp [rowBehind, rowsBehind, byPrecedence]
  | cons entry rest ih =>
    obtain ⟨connector, next⟩ := entry
    cases connector with
    | and =>
      rw [rowBehind, rowsBehind, List.all_cons, ← Bool.and_assoc, ih]
      rfl
    | or =>
      rw [rowBehind, rowsBehind, List.any_cons, List.all_cons, ih, List.all_nil, Bool.and_true]
      rfl

theorem any_rowsOf (holds : α → Bool) (first : α) (rest : List (Connector × α)) :
    (rowsOf first rest).any (·.all holds) =
      byPrecedence (holds first) (rest.map fun entry ↦ (entry.1, holds entry.2)) := by
  rw [← value_rowBehind, rowsOf, List.any_cons, List.all_cons]

end

/-- Behind `OR` alone both values are the same. -/
theorem byPrecedence_or {entries : List (Connector × Bool)}
    (alone : ∀ entry ∈ entries, entry.1 = .or) (value next : Bool) :
    (value || byPrecedence next entries) = fromLeft (value || next) entries := by
  induction entries generalizing value next with
  | nil => rfl
  | cons entry entries ih =>
    obtain ⟨connector, other⟩ := entry
    rw [List.forall_mem_cons] at alone
    obtain rfl : connector = .or := alone.1
    rw [byPrecedence, ← Bool.or_assoc, ih alone.2]
    rfl

/-- Where nothing holds, nothing comes of what is joined. -/
theorem fromLeft_false (connectors : List Connector) :
    fromLeft false (connectors.map (·, false)) = false := by
  induction connectors with
  | nil => rfl
  | cons connector connectors ih => cases connector <;> exact ih

/-- From left to right, `AND` undoes what held before it. -/
theorem fromLeft_and {connectors : List Connector} (joined : .and ∈ connectors) (value : Bool) :
    fromLeft value (connectors.map (·, false)) = false := by
  induction connectors generalizing value with
  | nil => cases joined
  | cons connector connectors ih =>
    cases connector with
    | and =>
      rw [List.map_cons, fromLeft, List.foldl_cons, Connector.combine, Bool.and_false]
      exact fromLeft_false connectors
    | or =>
      have later : Connector.and ∈ connectors := by simpa using joined
      exact ih later _

/-- Both values of entries behind the given connectors agree wherever the comparisons hold. -/
def Agree (connectors : List Connector) : Prop :=
  ∀ value entries, entries.map Prod.fst = connectors →
    byPrecedence value entries = fromLeft value entries

/-- An `AND` in front makes no difference. -/
theorem agree_and_iff {connectors : List Connector} :
    Agree (.and :: connectors) ↔ Agree connectors := by
  constructor
  · intro agree value entries shape
    have behind := agree value ((.and, true) :: entries) (by rw [List.map_cons, shape])
    rwa [byPrecedence, fromLeft, List.foldl_cons, Connector.combine, Bool.and_true] at behind
  · intro agree value entries shape
    obtain ⟨⟨_, next⟩, entries, rfl, rfl, behind⟩ := List.map_eq_cons_iff.mp shape
    exact agree (value && next) entries behind

/-- Behind an `OR` in front, an `AND` makes a difference. -/
theorem agree_or_iff {connectors : List Connector} :
    Agree (.or :: connectors) ↔ .and ∉ connectors := by
  constructor
  · -- The first comparison alone holds: that is an alternative of its own.
    intro agree later
    have same := agree true ((.or, false) :: connectors.map (·, false))
      (by simp [Function.comp_def])
    rw [byPrecedence, Bool.true_or, fromLeft, List.foldl_cons, ← fromLeft,
      fromLeft_and later] at same
    cases same
  · intro noAnd value entries shape
    obtain ⟨⟨_, next⟩, entries, rfl, rfl, rfl⟩ := List.map_eq_cons_iff.mp shape
    have alone : ∀ entry ∈ entries, entry.1 = .or := by
      intro entry mem
      have present : entry.1 ∈ entries.map Prod.fst := List.mem_map_of_mem mem
      cases connector : entry.1 with
      | and => exact absurd (connector ▸ present) noAnd
      | or => rfl
    exact byPrecedence_or alone value next

/-- Both values agree wherever the comparisons hold exactly if no `AND` comes after an `OR`. -/
theorem agree_iff {connectors : List Connector} :
    Agree connectors ↔
      connectors.Pairwise fun earlier later ↦ ¬(earlier = .or ∧ later = .and) := by
  induction connectors with
  | nil => simp [Agree, byPrecedence, fromLeft]
  | cons connector connectors ih =>
    rw [List.pairwise_cons]
    cases connector with
    | and =>
      rw [agree_and_iff, ih, and_iff_right]
      rintro later - ⟨⟨⟩, -⟩
    | or =>
      rw [agree_or_iff]
      constructor
      · intro noAnd
        refine ⟨fun later mem both ↦ noAnd (both.2 ▸ mem), ?_⟩
        apply List.pairwise_of_forall_mem_list
        rintro earlier - later mem ⟨-, rfl⟩
        exact noAnd mem
      · rintro ⟨behind, -⟩ mem
        exact behind .and mem ⟨rfl, rfl⟩

/-! ## Chains -/

/-- The entries of a chain behind the first one. -/
def entriesBehind (quotes : Quotes) (items : List GroupedPredicate) :
    List (Connector × Text × Nat) :=
  (items.zipIdx 1).map fun entry ↦ (entry.1.connector, entry.1.predicate.shown quotes, entry.2)

/-- The rows of a chain. -/
def chainRows (quotes : Quotes) : List GroupedPredicate → List (List (Text × Nat))
  | [] => []
  | item :: items => rowsOf (item.predicate.shown quotes, 0) (entriesBehind quotes items)

theorem sql_chainLayout {items : List GroupedPredicate} (complete : misfitOf items = none)
    (quotes : Quotes) : (chainLayout items).sql quotes =
      Text.joined " OR " ((chainRows quotes items).map fun row ↦
        Text.joined " AND " (row.map Prod.fst)) := by
  have shown : ∀ item ∈ items,
      (comparisonLayout item.predicate).sql quotes = item.predicate.shown quotes := by
    intro item mem
    rw [sql_comparisonLayout (isComplete_of_misfitOf complete item mem), Predicate.shown, column]
    simp [Piece.sql]
  cases items with
  | nil => rfl
  | cons item items =>
    rw [chainRows, joined_rowsOf, chainLayout, Fragment.sql_append, shown item (by simp)]
    congr 1
    calc
      Fragment.sql quotes (items.flatMap entryLayout) =
          items.flatMap fun item ↦ item.connector.lead ++ item.predicate.shown quotes := by
        rw [Fragment.sql, List.flatMap_assoc]
        refine List.flatMap_congr fun other mem ↦ ?_
        rw [← shown other (by simp [mem])]
        rfl
      _ = ((items.zipIdx 1).map Prod.fst).flatMap fun item ↦
          item.connector.lead ++ item.predicate.shown quotes := by rw [List.zipIdx_map_fst]
      _ = _ := by rw [entriesBehind, List.flatMap_map, List.flatMap_map]

/-- A chain in SQL is read as its rows. -/
theorem reads_chainRows {items : List GroupedPredicate} (complete : misfitOf items = none)
    (quotes : Quotes) :
    Reads (items.map fun item ↦ item.predicate.shown quotes) ((chainLayout items).sql quotes)
      (chainRows quotes items) where
  nonempty := by
    cases items with
    | nil => simp [chainRows]
    | cons item items => exact nonempty_rowsOf _ _
  places := by
    cases items with
    | nil => rfl
    | cons item items =>
      rw [chainRows, flatten_rowsOf, List.map_cons, List.zipIdx_cons, List.zipIdx_map,
        entriesBehind, List.map_map]
      rfl
  text := (sql_chainLayout complete quotes).symm

namespace Reads

variable {comparisons : List Text} {text : Text} {alternatives others : List (List (Text × Nat))}

theorem eq_nil_iff (reads : Reads comparisons text alternatives) :
    alternatives = [] ↔ comparisons = [] := by
  have places := reads.places
  constructor
  · rintro rfl
    simpa using places.symm
  · rintro rfl
    rw [List.zipIdx_nil, List.flatten_eq_nil_iff] at places
    exact List.eq_nil_iff_forall_not_mem.mpr fun row mem ↦ reads.nonempty row mem (places row mem)

/-- A condition is read in one way only. -/
theorem unique (reads : Reads comparisons text alternatives)
    (other : Reads comparisons text others) : alternatives = others := by
  by_cases none : comparisons = []
  · rw [reads.eq_nil_iff.mpr none, other.eq_nil_iff.mpr none]
  · obtain ⟨first, rest, rfl⟩ := exists_rowsOf_eq (mt reads.eq_nil_iff.mp none) reads.nonempty
    obtain ⟨otherFirst, otherRest, rfl⟩ :=
      exists_rowsOf_eq (mt other.eq_nil_iff.mp none) other.nonempty
    have places := reads.places.trans other.places.symm
    rw [flatten_rowsOf, flatten_rowsOf, List.cons.injEq] at places
    obtain ⟨rfl, entries⟩ := places
    have texts := reads.text.trans other.text.symm
    rw [joined_rowsOf, joined_rowsOf] at texts
    rw [eq_of_flatMap_lead entries (List.append_cancel_left texts)]

end Reads

/-- Any row of values is that of the comparisons in a chain. -/
theorem exists_truth {items : List GroupedPredicate} {entries : List (Connector × Bool)}
    (shape : entries.map Prod.fst = items.map GroupedPredicate.connector) (value : Bool) :
    ∃ truth : Nat → Bool, truth 0 = value ∧
      (items.zipIdx 1).map (fun entry ↦ (entry.1.connector, truth entry.2)) = entries := by
  have sameLength : entries.length = items.length := by simpa using congrArg List.length shape
  refine ⟨fun place ↦ ((value :: entries.map Prod.snd)[place]?).getD false, rfl, ?_⟩
  refine List.ext_getElem (by simp [sameLength]) fun place inItems inEntries ↦ ?_
  rw [List.length_map, List.length_zipIdx] at inItems
  have connector : entries[place].1 = items[place].connector := by
    have same := congrArg (·[place]?) shape
    simpa [inItems, inEntries] using same
  apply Prod.ext
  · simp [connector]
  · simp [Nat.add_comm 1, inEntries]

/-- Rows and the chain agree exactly if no `AND` comes after an `OR`. -/
theorem readValue_chainRows_eq_iff (quotes : Quotes) (group : PredicateGroup) :
    (∀ truth, readValue truth (chainRows quotes group.items) = group.leftValue truth) ↔
      group.connectors.Pairwise fun earlier later ↦ ¬(earlier = .or ∧ later = .and) := by
  obtain ⟨items⟩ := group
  cases items with
  | nil => simp [PredicateGroup.connectors, chainRows, readValue, PredicateGroup.leftValue]
  | cons item items =>
    have rows (truth : Nat → Bool) : readValue truth (chainRows quotes (item :: items)) =
        byPrecedence (truth 0)
          ((items.zipIdx 1).map fun entry ↦ (entry.1.connector, truth entry.2)) := by
      have some := any_rowsOf (fun comparison : Text × Nat ↦ truth comparison.2)
        (item.predicate.shown quotes, 0) (entriesBehind quotes items)
      rw [entriesBehind, List.map_map] at some
      exact some
    have left (truth : Nat → Bool) : PredicateGroup.leftValue truth ⟨item :: items⟩ =
        fromLeft (truth 0)
          ((items.zipIdx 1).map fun entry ↦ (entry.1.connector, truth entry.2)) := by
      rw [fromLeft, List.foldl_map]
      rfl
    have shape : PredicateGroup.connectors ⟨item :: items⟩ =
        items.map GroupedPredicate.connector := rfl
    rw [shape, ← agree_iff]
    constructor
    · intro agree first entries shape
      obtain ⟨truth, rfl, rfl⟩ := exists_truth shape first
      rw [← rows, ← left, agree]
    · intro agree truth
      rw [rows, left]
      apply agree
      calc
        ((items.zipIdx 1).map fun entry ↦ (entry.1.connector, truth entry.2)).map Prod.fst =
            ((items.zipIdx 1).map Prod.fst).map GroupedPredicate.connector := by
          rw [List.map_map, List.map_map]
          rfl
        _ = items.map GroupedPredicate.connector := by rw [List.zipIdx_map_fst]

/-- A chain that can be written has exactly one reading by precedence.  The reading and the chain
from left to right agree wherever the comparisons hold if and only if no `AND` comes after an
`OR`. -/
theorem reading_eq_leftValue_iff {group : PredicateGroup} {fragment : Fragment}
    (written : condition group.items = .ok fragment) (quotes : Quotes) :
    (∃! alternatives,
        Reads (group.comparisons quotes) (fragment.sql quotes) alternatives) ∧
      ∀ alternatives, Reads (group.comparisons quotes) (fragment.sql quotes) alternatives →
        ((∀ truth, readValue truth alternatives = group.leftValue truth) ↔
          group.connectors.Pairwise fun earlier later ↦ ¬(earlier = .or ∧ later = .and)) := by
  rw [condition_eq] at written
  cases complete : misfitOf group.items with
  | some predicate =>
    rw [complete] at written
    cases written
  | none =>
    rw [complete] at written
    obtain rfl := Except.ok.inj written
    have reads := reads_chainRows complete quotes
    refine ⟨⟨_, reads, fun other isReading ↦ Reads.unique isReading reads⟩, ?_⟩
    intro alternatives isReading
    rw [Reads.unique isReading reads]
    exact readValue_chainRows_eq_iff quotes group

/-- A chain in which an `AND` comes after an `OR`, besides that of a range. -/
def mixedChain : PredicateGroup :=
  ⟨[⟨⟨"age", .between, ["18", "65"]⟩, .and⟩, ⟨⟨"name", .like, ["A%"]⟩, .or⟩,
    ⟨⟨"left", .isNull, []⟩, .and⟩]⟩

theorem mixedChain_reading :
    ∃ fragment, condition mixedChain.items = .ok fragment ∧
      fragment.sql .none = "t.age BETWEEN ? AND ? OR t.name LIKE ? AND t.left IS NULL" ∧
      (∃! alternatives,
        Reads (mixedChain.comparisons .none) (fragment.sql .none) alternatives) ∧
      ∀ alternatives, Reads (mixedChain.comparisons .none) (fragment.sql .none) alternatives →
        ¬∀ truth, readValue truth alternatives = mixedChain.leftValue truth := by
  have written : condition mixedChain.items = .ok _ := rfl
  obtain ⟨reading, agrees⟩ := reading_eq_leftValue_iff written .none
  refine ⟨_, written, by decide, reading, fun alternatives isReading ↦ ?_⟩
  rw [agrees alternatives isReading]
  decide

end Sql

end DialectSql
