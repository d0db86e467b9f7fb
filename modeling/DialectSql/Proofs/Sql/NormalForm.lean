import DialectSql.Proofs.Sql.Clauses

/-!
# Normal Forms of Statements

The normal form of a statement is what a family of dialects writes of it.  Of a request for rows it
keeps the filter in one shape, without the connector of its first entry, and the ordering that takes
effect; of a table it keeps the names that are written.

The main statement is that rendering loses nothing else: where all names are words, two statements
look the same in a dialect exactly when they have the same normal form.
-/

namespace DialectSql

/-- What is written of a request for rows. -/
structure SelectForm where
  schemaName : Text
  name : Text
  columns : List Text
  predicates : List Predicate
  /-- The connectors of all entries of the filter but the first. -/
  connectors : List Connector
  limit : Option Limit
  /-- The column of the ordering, with its direction where that is written. -/
  order : Option (Text × Option Direction)
  deriving DecidableEq

/-- What is written of a statement. -/
inductive NormalForm where
  | select (form : SelectForm)
  | insert (schemaName name : Text) (values : List (Text × Text))
  | update (schemaName name primaryKey id : Text) (values : List (Text × Text))
  | delete (schemaName name primaryKey id : Text)
  /-- The arguments with what is bound for each, and whether it comes out. -/
  | call (name : Text) (arguments : List (Option Text × Bool))
  deriving DecidableEq

/-- The normal form of a request for rows in a family of dialects. -/
def Select.normalForm (paging : Sql.Paging) (select : Select) : SelectForm where
  schemaName := select.table.schemaName
  name := select.table.name
  columns := select.columns
  predicates := select.conditions.map GroupedPredicate.predicate
  connectors := select.conditions.tail.map GroupedPredicate.connector
  limit := select.limit
  order := select.ranking paging

namespace Statement

/-- The normal form of a statement in a family of dialects. -/
def normalForm (paging : Sql.Paging) : Statement → NormalForm
  | .select request => .select (request.normalForm paging)
  | .insert request =>
    .insert request.table.schemaName request.table.name request.values.entries
  | .update request =>
    .update request.table.schemaName request.table.name request.table.primaryKey request.id
      request.values.entries
  | .delete request =>
    .delete request.table.schemaName request.table.name request.table.primaryKey request.id
  | .call request =>
    .call request.name (request.arguments.map fun argument ↦ (argument.bound, argument.out))

/-- What names of procedures are written with. -/
def isProcedurePoint (point : CodePoint) : Bool :=
  Finder.isBodyChar point || point == .char '.'

/-- All names that are written into a statement are words; the name of a procedure may hold dots. -/
def HasWordNames (paging : Sql.Paging) : Statement → Prop
  | .call request => ∀ point ∈ request.name, isProcedurePoint point = true
  | statement => ∀ name ∈ statement.identifiers paging, name.IsWord

instance (paging : Sql.Paging) : (statement : Statement) → Decidable (statement.HasWordNames paging)
  | .select request => inferInstanceAs
    (Decidable (∀ name ∈ (Statement.select request).identifiers paging, name.IsWord))
  | .insert request => inferInstanceAs
    (Decidable (∀ name ∈ (Statement.insert request).identifiers paging, name.IsWord))
  | .update request => inferInstanceAs
    (Decidable (∀ name ∈ (Statement.update request).identifiers paging, name.IsWord))
  | .delete request => inferInstanceAs
    (Decidable (∀ name ∈ (Statement.delete request).identifiers paging, name.IsWord))
  | .call request => inferInstanceAs
    (Decidable (∀ point ∈ request.name, isProcedurePoint point = true))

end Statement

namespace Sql

open Fragment

variable {left right : Fragment}

/-! ## Requests for rows -/

/-- What has to hold of a request so that it can be read back. -/
structure SelectReadable (paging : Paging) (select : Select) : Prop where
  schemaWord : select.table.schemaName.IsWord
  nameWord : select.table.name.IsWord
  columnWords : ∀ name ∈ select.columns, name.IsWord
  readable : ∀ entry ∈ select.conditions, Readable entry.predicate
  rankingWord : ∀ ranked ∈ select.ranking paging, ranked.1.IsWord

theorem selectReadable_of_words {paging : Paging} {select : Select}
    (words : (Statement.select select).HasWordNames paging)
    (complete : misfitOf select.conditions = none) : SelectReadable paging select := by
  have isWord (name : Text) (mem : name ∈ (Statement.select select).identifiers paging) :
      name.IsWord := words name mem
  simp only [Statement.identifiers, List.mem_append, List.mem_cons, List.mem_map,
    Option.mem_toList] at isWord
  refine ⟨isWord _ (by simp), isWord _ (by simp), fun name mem ↦ isWord _ (by simp [mem]), ?_, ?_⟩
  · intro entry mem
    exact ⟨isWord _ (.inl (.inr ⟨entry, mem, rfl⟩)), isComplete_of_misfitOf complete entry mem⟩
  · intro ranked mem
    exact isWord _ (.inr ⟨ranked, mem, rfl⟩)

/-- What stands behind the filter in the plain layout starts no filter. -/
theorem apart_orderTail {paging : Paging} {limit : Option Limit}
    (ranking : Option (Text × Option Direction)) (plain : paging = .rowNumber → limit = none) :
    Apart filterLeads (orderTail ranking ++ pageTail paging limit) := by
  cases ranking with
  | some ranking =>
    exact .of_sql " ORDER BY " ((ranked ranking ++ pageTail paging limit).sql .none) rfl (by decide)
  | none =>
    cases limit with
    | none =>
      have nonempty : ∀ lead ∈ filterLeads, lead ≠ [] := by decide
      exact fun lead mem isPrefix ↦ nonempty lead mem (List.prefix_nil.mp isPrefix)
    | some limit =>
      cases paging with
      | limitOffset => exact .of_sql " LIMIT " _ rfl (by decide)
      | offsetFetch => exact .of_sql " OFFSET " _ rfl (by decide)
      | rowNumber => exact absurd (plain rfl) (by simp)

/-- A page continues neither an ordering nor a word. -/
theorem pageTail_ends (paging : Paging) (limit : Option Limit) :
    WordEnds (pageTail paging limit) ∧ Apart orderLeads (pageTail paging limit) := by
  cases limit with
  | none =>
    have nonempty : ∀ lead ∈ orderLeads, lead ≠ [] := by decide
    exact ⟨Text.startsOutside_nil _,
      fun lead mem isPrefix ↦ nonempty lead mem (List.prefix_nil.mp isPrefix)⟩
  | some limit =>
    refine ⟨(Text.startsOutside_cons _ _ _).mpr rfl, ?_⟩
    cases paging with
    | limitOffset => exact .of_sql " LIMIT " _ rfl (by decide)
    | offsetFetch => exact .of_sql " OFFSET " _ rfl (by decide)
    | rowNumber =>
      refine .of_sql " WHERE ROW_NUMBER BETWEEN " (limit.start.repr ++ " AND " ++ limit.stop.repr)
        ?_ (by decide)
      simp [pageTail, Paging.pageLayout, Text.ofString]

theorem pageTail_read {paging : Paging} {limit other : Option Limit}
    (alike : Alike (pageTail paging limit) (pageTail paging other)) : limit = other := by
  cases limit with
  | none =>
    cases other with
    | none => rfl
    | some other => simp [pageTail, Alike, Text.ofString] at alike
  | some limit =>
    cases other with
    | none => simp [pageTail, Alike, Text.ofString] at alike
    | some other => rw [page_read alike.text_cancel]

/-- What stands between the list of columns and the filter is read back in both layouts. -/
theorem source_read {table other : Table} {gap : Text}
    (schemaWord : table.schemaName.IsWord) (otherSchemaWord : other.schemaName.IsWord)
    (nameWord : table.name.IsWord) (otherNameWord : other.name.IsWord)
    (alike : Alike (.text gap :: (source table ++ left)) (.text gap :: (source other ++ right))) :
    table.schemaName = other.schemaName ∧ table.name = other.name ∧ Alike left right := by
  have aliasEnds (rest : Fragment) : WordEnds (.text " t" :: rest) :=
    (Text.startsOutside_cons _ _ _).mpr rfl
  have fromSource := alike.text_cancel
  simp only [source, List.append_assoc, List.singleton_append] at fromSource
  obtain ⟨sameSchema, sameName, behind⟩ := qualified_read schemaWord otherSchemaWord nameWord
    otherNameWord (aliasEnds _) (aliasEnds _) fromSource
  exact ⟨sameSchema, sameName, behind.text_cancel⟩

theorem plainLayout_read {paging : Paging} {left right : Select}
    (leftReadable : SelectReadable paging left) (rightReadable : SelectReadable paging right)
    (leftPlain : paging = .rowNumber → left.limit = none)
    (rightPlain : paging = .rowNumber → right.limit = none)
    (alike : Alike (plainLayout paging left) (plainLayout paging right)) :
    left.normalForm paging = right.normalForm paging := by
  rw [plainLayout_eq leftPlain, plainLayout_eq rightPlain] at alike
  have gapEnds (rest : Fragment) : ListEnds (.text " " :: rest) :=
    (Text.startsOutside_cons _ _ _).mpr rfl
  obtain ⟨columns, fromGap⟩ := selectList_read leftReadable.columnWords rightReadable.columnWords
    (gapEnds _) (gapEnds _) alike.text_cancel
  obtain ⟨schema, name, fromFilter⟩ := source_read leftReadable.schemaWord
    rightReadable.schemaWord leftReadable.nameWord rightReadable.nameWord fromGap.text_cancel
  obtain ⟨chain, fromOrder⟩ := filter_read leftReadable.readable rightReadable.readable
    (apart_orderTail _ leftPlain) (apart_orderTail _ rightPlain) fromFilter
  obtain ⟨leftWord, leftEnds⟩ := pageTail_ends paging left.limit
  obtain ⟨rightWord, rightEnds⟩ := pageTail_ends paging right.limit
  obtain ⟨order, fromPage⟩ := orderTail_read leftReadable.rankingWord rightReadable.rankingWord
    leftWord rightWord leftEnds rightEnds fromOrder
  have limit := pageTail_read fromPage
  simp only [shownChain, Prod.mk.injEq] at chain
  simp [Select.normalForm, schema, name, columns, chain, limit, order]

theorem numberedLayout_read {left right : Select} {limit other : Limit}
    (leftReadable : SelectReadable .rowNumber left)
    (rightReadable : SelectReadable .rowNumber right)
    (isLimit : left.limit = some limit) (isOther : right.limit = some other)
    (alike : Alike (numberedLayout left limit) (numberedLayout right other)) :
    left.normalForm .rowNumber = right.normalForm .rowNumber := by
  obtain ⟨ranking, isRanking, leftEq⟩ := numberedLayout_eq left limit isLimit
  obtain ⟨otherRanking, isOtherRanking, rightEq⟩ := numberedLayout_eq right other isOther
  rw [leftEq, rightEq] at alike
  have bracketEnds (rest : Fragment) :
      WordEnds (.text " ) AS ROW_NUMBER, " :: rest) ∧
        Apart directionLeads (.text " ) AS ROW_NUMBER, " :: rest) :=
    ⟨(Text.startsOutside_cons _ _ _).mpr rfl, .of_sql " ) AS ROW_NUMBER, " _ rfl (by decide)⟩
  obtain ⟨order, fromBracket⟩ := ranked_read (leftReadable.rankingWord _ isRanking)
    (rightReadable.rankingWord _ isOtherRanking) (bracketEnds _).1 (bracketEnds _).1
    (bracketEnds _).2 (bracketEnds _).2 alike.text_cancel.text_cancel
  have gapEnds (rest : Fragment) : ListEnds (.text " FROM " :: rest) :=
    (Text.startsOutside_cons _ _ _).mpr rfl
  obtain ⟨columns, fromGap⟩ := selectList_read leftReadable.columnWords rightReadable.columnWords
    (gapEnds _) (gapEnds _) fromBracket.text_cancel
  obtain ⟨schema, name, fromFilter⟩ := source_read leftReadable.schemaWord
    rightReadable.schemaWord leftReadable.nameWord rightReadable.nameWord fromGap
  have closeEnds (rest : Fragment) : Apart filterLeads (.text ") " :: rest) :=
    .of_sql ") " _ rfl (by decide)
  obtain ⟨chain, fromPage⟩ := filter_read leftReadable.readable rightReadable.readable
    (closeEnds _) (closeEnds _) fromFilter
  obtain rfl := page_read fromPage.text_cancel
  simp only [shownChain, Prod.mk.injEq] at chain
  simp [Select.normalForm, schema, name, columns, chain, isLimit, isOther, isRanking,
    isOtherRanking, order]

/-- The two layouts differ behind their first word. -/
theorem not_plain_of_numbered {plain numbered : Select} {limit : Limit}
    (isPlain : plain.limit = none) (isNumbered : numbered.limit = some limit) :
    ¬Alike (plainLayout .rowNumber plain) (numberedLayout numbered limit) := by
  obtain ⟨ranking, _, layout⟩ := numberedLayout_eq numbered limit isNumbered
  rw [plainLayout_eq fun _ ↦ isPlain, layout]
  intro alike
  have starts : ∃ rest, (selectList plain.columns).sql .none = .char 't' :: rest := by
    cases plain.columns with
    | nil => exact ⟨_, rfl⟩
    | cons name names => simp [selectList, column, Text.ofString]
  obtain ⟨rest, starts⟩ := starts
  have text := alike.1
  simp [starts, Text.ofString] at text

/-- A request for rows is read back up to its normal form. -/
theorem selectLayout_read {paging : Paging} {left right : Select}
    (leftReadable : SelectReadable paging left) (rightReadable : SelectReadable paging right)
    (alike : Alike (selectLayout paging left) (selectLayout paging right)) :
    left.normalForm paging = right.normalForm paging := by
  by_cases isNumbered : paging = .rowNumber
  · subst isNumbered
    cases leftLimit : left.limit with
    | none =>
      rw [selectLayout_plain fun _ ↦ leftLimit] at alike
      cases rightLimit : right.limit with
      | none =>
        rw [selectLayout_plain fun _ ↦ rightLimit] at alike
        exact plainLayout_read leftReadable rightReadable (fun _ ↦ leftLimit) (fun _ ↦ rightLimit)
          alike
      | some limit =>
        rw [selectLayout_numbered rightLimit] at alike
        exact absurd alike (not_plain_of_numbered leftLimit rightLimit)
    | some limit =>
      rw [selectLayout_numbered leftLimit] at alike
      cases rightLimit : right.limit with
      | none =>
        rw [selectLayout_plain fun _ ↦ rightLimit] at alike
        exact absurd alike.symm (not_plain_of_numbered rightLimit leftLimit)
      | some other =>
        rw [selectLayout_numbered rightLimit] at alike
        exact numberedLayout_read leftReadable rightReadable leftLimit rightLimit alike
  · have plain (select : Select) : paging = .rowNumber → select.limit = none :=
      fun numbered ↦ absurd numbered isNumbered
    rw [selectLayout_plain (plain left), selectLayout_plain (plain right)] at alike
    exact plainLayout_read leftReadable rightReadable (plain left) (plain right) alike

/-- The normal form of a request for rows determines its layout. -/
theorem selectLayout_congr {paging : Paging} {left right : Select}
    (same : left.normalForm paging = right.normalForm paging) :
    selectLayout paging left = selectLayout paging right := by
  simp only [Select.normalForm, SelectForm.mk.injEq] at same
  obtain ⟨schema, name, columns, predicates, connectors, limit, order⟩ := same
  have filter : filterTail left.conditions = filterTail right.conditions :=
    filterTail_congr (by rw [shownChain, shownChain, predicates, connectors])
  have source : source left.table = source right.table := by
    simp [source, qualified, schema, name]
  by_cases isPlain : paging = .rowNumber → left.limit = none
  · have otherPlain : paging = .rowNumber → right.limit = none := fun numbered ↦
      limit ▸ isPlain numbered
    rw [selectLayout_plain isPlain, selectLayout_plain otherPlain, plainLayout_eq isPlain,
      plainLayout_eq otherPlain, columns, source, filter, order, limit]
  · push Not at isPlain
    obtain ⟨rfl, hasLimit⟩ := isPlain
    obtain ⟨page, isPage⟩ := Option.ne_none_iff_exists'.mp hasLimit
    have otherPage := limit ▸ isPage
    obtain ⟨ranking, isRanking, leftEq⟩ := numberedLayout_eq left page isPage
    obtain ⟨otherRanking, isOther, rightEq⟩ := numberedLayout_eq right page otherPage
    obtain rfl : ranking = otherRanking := by
      rw [order, isOther] at isRanking
      exact (Option.some.inj isRanking).symm
    rw [selectLayout_numbered isPage, selectLayout_numbered otherPage, leftEq, rightEq, columns,
      source, filter]

/-! ## Other statements -/

theorem entries_read {names others : OrderedMap Text} (sameNames : names.names = others.names)
    (sameValues : names.values = others.values) : names.entries = others.entries := by
  have zipped : names.entries = List.zip others.names others.values :=
    List.zip_of_prod sameNames sameValues
  rw [zipped]
  exact (List.zip_of_prod rfl rfl).symm

/-- The condition on the primary key at the end of a statement is read back. -/
theorem key_read {table : Table} {primaryKey other id otherId : Text}
    (isWord : primaryKey.IsWord) (isOther : other.IsWord)
    (alike : Alike (assignment table (primaryKey, id)) (assignment table (other, otherId))) :
    primaryKey = other ∧ id = otherId := by
  have behind : Alike (assignment table (primaryKey, id) ++ [])
      (assignment table (other, otherId) ++ []) := by
    rwa [List.append_nil, List.append_nil]
  obtain ⟨same, _⟩ := assignment_read isWord isOther behind
  exact Prod.mk.inj same

theorem insertFragment_read {paging : Paging} {left right : Insert}
    (leftWords : (Statement.insert left).HasWordNames paging)
    (rightWords : (Statement.insert right).HasWordNames paging)
    (alike : Alike (insertFragment left) (insertFragment right)) :
    left.table.schemaName = right.table.schemaName ∧ left.table.name = right.table.name ∧
      left.values.entries = right.values.entries := by
  have isWord (name : Text) (mem : name ∈ (Statement.insert left).identifiers paging) :
      name.IsWord := leftWords name mem
  have isOther (name : Text) (mem : name ∈ (Statement.insert right).identifiers paging) :
      name.IsWord := rightWords name mem
  simp only [Statement.identifiers, List.mem_append, List.mem_cons] at isWord isOther
  have bracketEnds (rest : Fragment) : WordEnds (.text " (" :: rest) :=
    (Text.startsOutside_cons _ _ _).mpr rfl
  have closeEnds (rest : Fragment) : ListEnds (.text ") VALUES (" :: rest) :=
    (Text.startsOutside_cons _ _ _).mpr rfl
  simp only [insertFragment, List.append_assoc, List.cons_append, List.nil_append] at alike
  obtain ⟨schema, name, fromBracket⟩ := qualified_read (isWord _ (by simp)) (isOther _ (by simp))
    (isWord _ (by simp)) (isOther _ (by simp)) (bracketEnds _) (bracketEnds _) alike.text_cancel
  obtain ⟨names, fromValues⟩ := names_read (fun name mem ↦ isWord name (by simp [mem]))
    (fun name mem ↦ isOther name (by simp [mem])) (closeEnds _) (closeEnds _)
    fromBracket.text_cancel
  have sameLength : left.values.values.length = right.values.values.length := by
    have lengths := congrArg List.length names
    simpa [OrderedMap.names, OrderedMap.values] using lengths
  obtain ⟨values, _⟩ := values_read sameLength fromValues.text_cancel
  exact ⟨schema, name, entries_read names values⟩

theorem updateFragment_read {paging : Paging} {left right : Update}
    (leftWords : (Statement.update left).HasWordNames paging)
    (rightWords : (Statement.update right).HasWordNames paging)
    (alike : Alike (updateFragment left) (updateFragment right)) :
    left.table.schemaName = right.table.schemaName ∧ left.table.name = right.table.name ∧
      left.table.primaryKey = right.table.primaryKey ∧ left.id = right.id ∧
      left.values.entries = right.values.entries := by
  have isWord (name : Text) (mem : name ∈ (Statement.update left).identifiers paging) :
      name.IsWord := leftWords name mem
  have isOther (name : Text) (mem : name ∈ (Statement.update right).identifiers paging) :
      name.IsWord := rightWords name mem
  simp only [Statement.identifiers, List.mem_append, List.mem_cons, List.mem_flatMap]
    at isWord isOther
  have setEnds (rest : Fragment) : WordEnds (.text " SET " :: rest) :=
    (Text.startsOutside_cons _ _ _).mpr rfl
  have whereEnds (rest : Fragment) : ListEnds (.text " WHERE " :: rest) :=
    (Text.startsOutside_cons _ _ _).mpr rfl
  rw [updateFragment_eq, updateFragment_eq] at alike
  obtain ⟨schema, name, fromSet⟩ := qualified_read (isWord _ (by simp)) (isOther _ (by simp))
    (isWord _ (by simp)) (isOther _ (by simp)) (setEnds _) (setEnds _) alike.text_cancel
  have assigned := fromSet.text_cancel
  rw [← assignment_congr name] at assigned
  obtain ⟨entries, fromWhere⟩ := join_read
    (fun isWord isOther _ _ alike ↦ assignment_read isWord isOther alike)
    (fun _ ends ↦ name_not_ends (isWord _ (by simp)) ends)
    (fun entry mem ↦ isWord entry.1 (.inl (.inr ⟨entry.1, List.mem_map_of_mem mem, by simp⟩)))
    (fun entry mem ↦ isOther entry.1 (.inl (.inr ⟨entry.1, List.mem_map_of_mem mem, by simp⟩)))
    (whereEnds _) (whereEnds _) assigned
  obtain ⟨primaryKey, id⟩ :=
    key_read (isWord _ (by simp)) (isOther _ (by simp)) fromWhere.text_cancel
  exact ⟨schema, name, primaryKey, id, entries⟩

theorem deleteFragment_read {paging : Paging} {left right : Delete}
    (leftWords : (Statement.delete left).HasWordNames paging)
    (rightWords : (Statement.delete right).HasWordNames paging)
    (alike : Alike (deleteFragment left) (deleteFragment right)) :
    left.table.schemaName = right.table.schemaName ∧ left.table.name = right.table.name ∧
      left.table.primaryKey = right.table.primaryKey ∧ left.id = right.id := by
  have isWord (name : Text) (mem : name ∈ (Statement.delete left).identifiers paging) :
      name.IsWord := leftWords name mem
  have isOther (name : Text) (mem : name ∈ (Statement.delete right).identifiers paging) :
      name.IsWord := rightWords name mem
  simp only [Statement.identifiers, List.mem_cons] at isWord isOther
  have whereEnds (rest : Fragment) : WordEnds (.text " WHERE " :: rest) :=
    (Text.startsOutside_cons _ _ _).mpr rfl
  rw [deleteFragment_eq, deleteFragment_eq] at alike
  obtain ⟨schema, name, fromWhere⟩ := qualified_read (isWord _ (by simp)) (isOther _ (by simp))
    (isWord _ (by simp)) (isOther _ (by simp)) (whereEnds _) (whereEnds _) alike.text_cancel
  have keys := fromWhere.text_cancel
  rw [← assignment_congr name] at keys
  obtain ⟨primaryKey, id⟩ := key_read (isWord _ (by simp)) (isOther _ (by simp)) keys
  exact ⟨schema, name, primaryKey, id⟩

theorem le_of_mem_outPositions {first position : Nat} {arguments : List Argument}
    (mem : position ∈ outPositions first arguments) : first ≤ position := by
  induction arguments generalizing first with
  | nil => simp [outPositions] at mem
  | cons argument arguments ih =>
    simp only [outPositions] at mem
    split at mem
    · rcases List.mem_cons.mp mem with rfl | mem
      · exact le_rfl
      · exact (Nat.le_succ _).trans (ih mem)
    · exact (Nat.le_succ _).trans (ih mem)

/-- The places of the arguments that come out determine which ones do. -/
theorem out_read {first : Nat} {left right : List Argument}
    (sameLength : left.length = right.length)
    (same : outPositions first left = outPositions first right) :
    left.map Argument.out = right.map Argument.out := by
  -- If only one of two arguments at a place comes out, the other row has no such place.
  have oneSided {position : Nat} {positions : List Nat} {arguments : List Argument}
      (equal : position :: positions = outPositions (position + 1) arguments) : False := by
    have later := le_of_mem_outPositions (equal ▸ List.mem_cons_self)
    omega
  induction left generalizing first right with
  | nil => rw [List.length_eq_zero_iff.mp sameLength.symm]
  | cons argument left ih =>
    cases right with
    | nil => simp at sameLength
    | cons other right =>
      have tailLength : left.length = right.length := by simpa using sameLength
      simp only [outPositions] at same
      cases out : argument.out <;> cases otherOut : other.out <;>
        simp only [out, otherOut, if_true, if_false, Bool.false_eq_true, List.cons.injEq,
          true_and] at same
      · simp [out, otherOut, ih tailLength same]
      · exact (oneSided same.symm).elim
      · exact (oneSided same).elim
      · simp [out, otherOut, ih tailLength same]

theorem binds_callFragment (call : Call) :
    (callFragment call).binds =
      call.arguments.map fun argument ↦ Bind.ofText? argument.bound := by
  simp [callFragment, binds_row]

theorem callFragment_read {paging : Paging} {left right : Call}
    (leftWords : (Statement.call left).HasWordNames paging)
    (rightWords : (Statement.call right).HasWordNames paging)
    (alike : Alike (callFragment left) (callFragment right))
    (positions : outPositions 1 left.arguments = outPositions 1 right.arguments) :
    left.name = right.name ∧
      left.arguments.map (fun argument ↦ (argument.bound, argument.out)) =
        right.arguments.map (fun argument ↦ (argument.bound, argument.out)) := by
  obtain ⟨text, binds⟩ := alike
  have bracketEnds (rest : Text) : Text.StartsOutside Statement.isProcedurePoint
      (Text.ofString "(" ++ rest) := (Text.startsOutside_cons _ _ _).mpr rfl
  simp only [callFragment, List.cons_append, sql_cons, sql_text, List.append_assoc,
    List.append_cancel_left_eq] at text
  have name := (Text.run_append_inj leftWords rightWords (bracketEnds _) (bracketEnds _) text).1
  rw [binds_callFragment, binds_callFragment] at binds
  have sameLength : left.arguments.length = right.arguments.length := by
    simpa using congrArg List.length binds
  have outs := out_read sameLength positions
  have ofText_injective : Function.Injective Bind.ofText? := by
    intro value other same
    cases value <;> cases other <;> simp_all [Bind.ofText?]
  have sameBounds : left.arguments.map Argument.bound = right.arguments.map Argument.bound :=
    ofText_injective.list_map (by rw [List.map_map, List.map_map]; exact binds)
  refine ⟨name, ?_⟩
  have pairs (arguments : List Argument) :
      arguments.map (fun argument ↦ (argument.bound, argument.out)) =
        (arguments.map Argument.bound).zip (arguments.map Argument.out) := by
    rw [List.zip_map']
  rw [pairs, pairs, sameBounds, outs]

theorem outPositions_congr {first : Nat} {left right : List Argument}
    (same : left.map Argument.out = right.map Argument.out) :
    outPositions first left = outPositions first right := by
  induction left generalizing first right with
  | nil => rw [List.map_eq_nil_iff.mp same.symm]
  | cons argument left ih =>
    obtain ⟨other, rest, rfl, out, outs⟩ := List.map_eq_cons_iff.mp same.symm
    simp only [outPositions, out, ih outs.symm]

/-! ## All statements -/

/-- The point with which the text of a statement starts tells its kind. -/
def firstPoint : Statement → CodePoint
  | .select _ => .char 'S'
  | .insert _ => .char 'I'
  | .update _ => .char 'U'
  | .delete _ => .char 'D'
  | .call _ => .char '{'

theorem head?_layout (paging : Paging) (statement : Statement) :
    ((statement.layout paging).sql .none).head? = some (firstPoint statement) := by
  cases statement with
  | select select =>
    by_cases plain : paging = .rowNumber → select.limit = none
    · rw [Statement.layout, selectLayout_plain plain, plainLayout_eq plain]
      rfl
    · push Not at plain
      obtain ⟨rfl, hasLimit⟩ := plain
      obtain ⟨limit, isLimit⟩ := Option.ne_none_iff_exists'.mp hasLimit
      obtain ⟨ranking, _, layout⟩ := numberedLayout_eq select limit isLimit
      rw [Statement.layout, selectLayout_numbered isLimit, layout]
      rfl
  | insert insert => rfl
  | update update => rfl
  | delete delete => rfl
  | call call => rfl

/-- A statement that can be written is read back up to its normal form. -/
theorem layout_read {paging : Paging} {left right : Statement}
    (leftComplete : left.misfit? = none) (rightComplete : right.misfit? = none)
    (leftWords : left.HasWordNames paging) (rightWords : right.HasWordNames paging)
    (alike : Alike (left.layout paging) (right.layout paging))
    (positions : left.outPositions = right.outPositions) :
    left.normalForm paging = right.normalForm paging := by
  have sameKind : firstPoint left = firstPoint right := by
    have heads := congrArg List.head? alike.1
    rw [head?_layout, head?_layout] at heads
    exact Option.some.inj heads
  cases left <;> cases right <;> try (simp [firstPoint] at sameKind; done)
  case select.select left right =>
    exact congrArg NormalForm.select (selectLayout_read
      (selectReadable_of_words leftWords leftComplete)
      (selectReadable_of_words rightWords rightComplete) alike)
  case insert.insert left right =>
    obtain ⟨schema, name, values⟩ := insertFragment_read leftWords rightWords alike
    simp [Statement.normalForm, schema, name, values]
  case update.update left right =>
    obtain ⟨schema, name, primaryKey, id, values⟩ := updateFragment_read leftWords rightWords alike
    simp [Statement.normalForm, schema, name, primaryKey, id, values]
  case delete.delete left right =>
    obtain ⟨schema, name, primaryKey, id⟩ := deleteFragment_read leftWords rightWords alike
    simp [Statement.normalForm, schema, name, primaryKey, id]
  case call.call left right =>
    obtain ⟨name, arguments⟩ := callFragment_read leftWords rightWords alike positions
    simp [Statement.normalForm, name, arguments]

/-- The normal form of a statement determines what is written. -/
theorem layout_congr {paging : Paging} {left right : Statement}
    (same : left.normalForm paging = right.normalForm paging) :
    left.layout paging = right.layout paging ∧ left.outPositions = right.outPositions := by
  cases left <;> cases right <;> try cases same
  case select.select left right =>
    exact ⟨selectLayout_congr (NormalForm.select.inj same), rfl⟩
  case insert.insert left right =>
    obtain ⟨schema, name, values⟩ := NormalForm.insert.inj same
    simp [Statement.layout, Statement.outPositions, insertFragment, qualified, OrderedMap.names,
      OrderedMap.values, schema, name, values]
  case update.update left right =>
    obtain ⟨schema, name, primaryKey, id, values⟩ := NormalForm.update.inj same
    simp [Statement.layout, Statement.outPositions, updateFragment_eq, qualified,
      assignment_congr name, schema, name, primaryKey, id, values]
  case delete.delete left right =>
    obtain ⟨schema, name, primaryKey, id⟩ := NormalForm.delete.inj same
    simp [Statement.layout, Statement.outPositions, deleteFragment_eq, qualified,
      assignment_congr name, schema, name, primaryKey, id]
  case call.call left right =>
    obtain ⟨name, arguments⟩ := NormalForm.call.inj same
    have bounds := congrArg (List.map fun pair ↦ [Piece.bind (Bind.ofText? pair.1)]) arguments
    have outs := congrArg (List.map Prod.snd) arguments
    rw [List.map_map, List.map_map] at bounds outs
    have calls : callFragment left = callFragment right := by
      unfold callFragment
      rw [name]
      exact congrArg (fun row ↦ _ :: Fragment.join "," row ++ _) bounds
    exact ⟨calls, outPositions_congr outs⟩

/-- Rendering loses nothing but what the normal form leaves out: two statements whose names are
words look the same in a known dialect exactly when they have the same normal form. -/
theorem render_eq_iff_normalForm_eq {names : List Text} {dialect : Dialect}
    (known : (names, dialect) ∈ builtIn) {left right : Statement}
    {leftCompiled rightCompiled : Compiled}
    (leftRendered : dialect.render left = .ok leftCompiled)
    (rightRendered : dialect.render right = .ok rightCompiled)
    (leftWords : left.HasWordNames dialect.paging)
    (rightWords : right.HasWordNames dialect.paging) :
    (leftCompiled.sql = rightCompiled.sql ∧ leftCompiled.params = rightCompiled.params ∧
        leftCompiled.outPositions = rightCompiled.outPositions) ↔
      left.normalForm dialect.paging = right.normalForm dialect.paging := by
  obtain ⟨leftComplete, rfl⟩ := render_eq_ok leftRendered
  obtain ⟨rightComplete, rfl⟩ := render_eq_ok rightRendered
  simp only [Dialect.finish, quotes_of_mem_builtIn known]
  constructor
  · rintro ⟨sql, params, positions⟩
    exact layout_read leftComplete rightComplete leftWords rightWords ⟨sql, params⟩ positions
  · intro same
    obtain ⟨layout, positions⟩ := layout_congr same
    exact ⟨by rw [layout], by rw [layout], positions⟩

/-- A page of people of an age, with the filter as a single predicate. -/
def singleFilterPage : Statement :=
  .select ⟨⟨"demo", "person", "id", []⟩, ["name"], some ⟨"age", .between, ["18", "65"]⟩, none,
    some ⟨20, 10⟩, none⟩

/-- The same page with the filter as a chain of one entry, whose connector is not written. -/
def chainFilterPage : Statement :=
  .select ⟨⟨"demo", "person", "id", []⟩, ["name"], none,
    some ⟨[⟨⟨"age", .between, ["18", "65"]⟩, .or⟩]⟩, some ⟨20, 10⟩, none⟩

theorem render_singleFilterPage_eq_iff :
    ∃ single chain : Compiled,
      (⟨"oracle", .rowNumber, .none⟩ : Dialect).render singleFilterPage = .ok single ∧
        (⟨"oracle", .rowNumber, .none⟩ : Dialect).render chainFilterPage = .ok chain ∧
        ((single.sql = chain.sql ∧ single.params = chain.params ∧
            single.outPositions = chain.outPositions) ↔
          singleFilterPage.normalForm .rowNumber = chainFilterPage.normalForm .rowNumber) ∧
        singleFilterPage.normalForm .rowNumber = chainFilterPage.normalForm .rowNumber :=
  have known : ((["oracle"], ⟨"oracle", .rowNumber, .none⟩) : List Text × Dialect) ∈ builtIn := by
    decide
  have singleWords : singleFilterPage.HasWordNames .rowNumber := by decide
  have chainWords : chainFilterPage.HasWordNames .rowNumber := by decide
  ⟨_, _, rfl, rfl, render_eq_iff_normalForm_eq known rfl rfl singleWords chainWords, by decide⟩

end Sql

end DialectSql
