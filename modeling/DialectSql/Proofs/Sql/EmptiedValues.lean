import DialectSql.Proofs.Sql.NormalForm
import DialectSql.Proofs.Sql.Placeholders

/-!
# Emptied Values

A statement with all its bind values emptied shows what statements have in common that differ in
bind values only.  The main statement is that rendering commutes with emptying: an emptied
statement is written with the same text, or refused for the same reason, and it binds what the
statement binds, with the bind values emptied in their places.

The text goes through the shapes of fragments, in which nothing is bound; the bind values go through
the slots of the statement.
-/

namespace DialectSql

/-! ## Emptied statements -/

/-- A predicate with its values emptied. -/
def Predicate.emptied (predicate : Predicate) : Predicate :=
  { predicate with values := predicate.values.map fun _ ↦ [] }

/-- An entry of a chain with its values emptied. -/
def GroupedPredicate.emptied (item : GroupedPredicate) : GroupedPredicate :=
  { item with predicate := item.predicate.emptied }

/-- A chain with its values emptied. -/
def PredicateGroup.emptied (group : PredicateGroup) : PredicateGroup :=
  ⟨group.items.map GroupedPredicate.emptied⟩

/-- A request for rows with the values of its filter emptied. -/
def Select.emptied (select : Select) : Select :=
  { select with
    predicate := select.predicate.map Predicate.emptied
    predicateGroup := select.predicateGroup.map PredicateGroup.emptied }

/-- An argument of which only is known whether it comes out. -/
def Argument.emptied (argument : Argument) : Argument :=
  ⟨some [], none, none, none, argument.out⟩

/-- A statement with its bind values emptied.  Of a payload only the number of the arguments and
which of them come out are left. -/
def Statement.emptied : Statement → Statement
  | .select request => .select request.emptied
  | .insert request => .insert { request with values := request.values.mapValues fun _ ↦ [] }
  | .update request =>
    .update { request with id := [], values := request.values.mapValues fun _ ↦ [] }
  | .delete request => .delete { request with id := [] }
  | .call request => .call ⟨request.name, [], request.arguments.map Argument.emptied⟩

/-- Two statements that differ in their bind values only. -/
def Statement.SameButValues (left right : Statement) : Prop :=
  left.emptied = right.emptied

theorem OrderedMap.names_mapValues {α β : Type} (f : α → β) (map : OrderedMap α) :
    (map.mapValues f).names = map.names := by
  simp [names, mapValues, Function.comp_def]

theorem OrderedMap.values_mapValues {α β : Type} (f : α → β) (map : OrderedMap α) :
    (map.mapValues f).values = map.values.map f := by
  simp [values, mapValues]

/-- The values of a filter, in the order of its entries. -/
def Select.filterValues (select : Select) : List Text :=
  select.conditions.flatMap fun item ↦ item.predicate.values

/-- Whether the placeholder at a place, counted from zero, holds a bind value of the statement.
The others hold the numbers of a page, or stand for an argument that comes out. -/
def Statement.holdsValue : Statement → Nat → Bool
  | .select request, place => place < request.filterValues.length
  | .insert request, place => place < request.values.values.length
  | .update request, place => place < request.values.values.length + 1
  | .delete _, place => place < 1
  | .call request, place => (request.arguments[place]?).any fun argument ↦ !argument.out

namespace Sql

/-- Bind values with those at the given places emptied. -/
def emptiedAt (holdsValue : Nat → Bool) (binds : List Bind) : List Bind :=
  binds.mapIdx fun place value ↦ if holdsValue place then .text [] else value

/-- The statement in SQL with the bind values at the given places emptied. -/
def Compiled.hide (holdsValue : Nat → Bool) (compiled : Compiled) : Compiled :=
  { compiled with params := emptiedAt holdsValue compiled.params }

end Sql

namespace Sql

open Fragment

/-! ## Texts -/

namespace Fragment

/-- A row of pieces with its bind values left out. -/
def shape (fragment : Fragment) : Fragment :=
  fragment.map fun
    | .bind _ => .bind .null
    | piece => piece

section
variable (fragment rest : Fragment)

@[simp]
theorem shape_nil : shape [] = [] := rfl

@[simp]
theorem shape_text (content : Text) :
    shape (.text content :: fragment) = .text content :: shape fragment := rfl

@[simp]
theorem shape_name (identifier : Text) :
    shape (.name identifier :: fragment) = .name identifier :: shape fragment := rfl

@[simp]
theorem shape_bind (value : Bind) :
    shape (.bind value :: fragment) = .bind .null :: shape fragment := rfl

@[simp]
theorem shape_append : shape (fragment ++ rest) = shape fragment ++ shape rest := by
  simp [shape]

/-- The text of a row of pieces depends on its shape only. -/
theorem sql_shape (quotes : Quotes) : sql quotes (shape fragment) = sql quotes fragment := by
  induction fragment with
  | nil => rfl
  | cons piece fragment ih =>
    cases piece with
    | text content => rw [shape_text, sql_cons, sql_cons, ih]
    | name identifier => rw [shape_name, sql_cons, sql_cons, ih]
    | bind value => rw [shape_bind, sql_cons, sql_cons, ih, sql_bind, sql_bind]

end

theorem shape_flatMap {α : Type} (row : α → Fragment) (xs : List α) :
    shape (xs.flatMap row) = xs.flatMap fun x ↦ shape (row x) := by
  simp [shape, List.map_flatMap]

@[simp]
theorem shape_join (separator : Text) (fragments : List Fragment) :
    shape (join separator fragments) = join separator (fragments.map shape) := by
  cases fragments with
  | nil => rfl
  | cons first rest => simp [shape_flatMap, List.flatMap_map]

end Fragment

theorem shape_comparisonLayout (predicate : Predicate) :
    (comparisonLayout predicate.emptied).shape = (comparisonLayout predicate).shape := by
  simp [comparisonLayout, Predicate.emptied, Function.comp_def]

theorem shape_entryLayout (item : GroupedPredicate) :
    (entryLayout item.emptied).shape = (entryLayout item).shape :=
  congrArg (Piece.text item.connector.lead :: ·) (shape_comparisonLayout item.predicate)

theorem shape_chainLayout (items : List GroupedPredicate) :
    (chainLayout (items.map GroupedPredicate.emptied)).shape = (chainLayout items).shape := by
  cases items with
  | nil => rfl
  | cons item items =>
    simp only [List.map_cons, chainLayout, shape_append, shape_flatMap, List.flatMap_map,
      shape_entryLayout]
    exact congrArg (· ++ _) (shape_comparisonLayout item.predicate)

theorem shape_filterLayout (items : List GroupedPredicate) :
    (filterLayout (items.map GroupedPredicate.emptied)).map Fragment.shape =
      (filterLayout items).map Fragment.shape := by
  cases items with
  | nil => rfl
  | cons item items =>
    exact congrArg (fun chain ↦ [Piece.text "WHERE " :: chain]) (shape_chainLayout (item :: items))

end Sql

namespace Select

theorem filter_emptied (select : Select) :
    select.emptied.filter = select.filter.map PredicateGroup.emptied := by
  unfold filter emptied
  cases select.predicate with
  | some predicate => rfl
  | none =>
    cases select.predicateGroup with
    | none => rfl
    | some group =>
      have sameEmpty : group.emptied.items.isEmpty = group.items.isEmpty := List.isEmpty_map
      simp only [Option.map_none, Option.map_some, sameEmpty]
      split <;> rfl

theorem conditions_emptied (select : Select) :
    select.emptied.conditions = select.conditions.map GroupedPredicate.emptied := by
  unfold conditions
  rw [filter_emptied]
  cases select.filter <;> rfl

end Select

namespace Sql

open Fragment

theorem shape_plainLayout (paging : Paging) (select : Select) :
    (plainLayout paging select.emptied).shape = (plainLayout paging select).shape := by
  simp only [plainLayout, shape_join, List.map_append, Select.conditions_emptied,
    shape_filterLayout]
  rfl

theorem shape_numberedLayout (select : Select) (limit : Limit) :
    (numberedLayout select.emptied limit).shape = (numberedLayout select limit).shape := by
  simp only [numberedLayout, shape_append, List.cons_append, shape_text, shape_join, List.map_cons,
    Select.conditions_emptied, shape_filterLayout]
  rfl

theorem shape_selectLayout (paging : Paging) (select : Select) :
    (selectLayout paging select.emptied).shape = (selectLayout paging select).shape := by
  by_cases plain : paging = .rowNumber → select.limit = none
  · have emptiedPlain : paging = .rowNumber → select.emptied.limit = none := plain
    rw [selectLayout_plain plain, selectLayout_plain emptiedPlain]
    exact shape_plainLayout paging select
  · push Not at plain
    obtain ⟨rfl, hasLimit⟩ := plain
    obtain ⟨limit, isLimit⟩ := Option.ne_none_iff_exists'.mp hasLimit
    have emptiedLimit : select.emptied.limit = some limit := isLimit
    rw [selectLayout_numbered isLimit, selectLayout_numbered emptiedLimit]
    exact shape_numberedLayout select limit

/-- A statement and the emptied one are written with the same text. -/
theorem shape_layout (paging : Paging) (statement : Statement) :
    (statement.emptied.layout paging).shape = (statement.layout paging).shape := by
  cases statement with
  | select select => exact shape_selectLayout paging select
  | insert insert =>
    simp [Statement.layout, Statement.emptied, insertFragment, OrderedMap.names,
      OrderedMap.values, OrderedMap.mapValues, Function.comp_def]
  | update update =>
    simp [Statement.layout, Statement.emptied, updateFragment_eq, assignment,
      OrderedMap.mapValues, Function.comp_def]
  | delete delete =>
    simp [Statement.layout, Statement.emptied, deleteFragment_eq, assignment]
  | call call =>
    simp [Statement.layout, Statement.emptied, callFragment, Function.comp_def]

/-! ## Bind values -/

theorem values_ofPredicate {lead : Text} {predicate : Predicate}
    (complete : predicate.isComplete = true) :
    (Slot.ofPredicate lead predicate).map Slot.value = predicate.values.map .text := by
  have filled : Fills lead (comparisonLayout predicate) _ _ := fills_comparison complete
  rw [← filled.binds, comparisonLayout, binds_append, binds_text]
  exact binds_row " AND " .text predicate.values

theorem values_ofFilter {items : List GroupedPredicate}
    (complete : ∀ item ∈ items, item.predicate.isComplete = true) :
    (Slot.ofFilter items).map Slot.value =
      (items.flatMap fun item ↦ item.predicate.values).map .text := by
  cases items with
  | nil => rfl
  | cons item items =>
    rw [Slot.ofFilter, List.map_append, values_ofPredicate (complete item (by simp)),
      List.flatMap_cons, List.map_append, List.map_flatMap, List.map_flatMap]
    congr 1
    exact List.flatMap_congr fun other mem ↦ values_ofPredicate (complete other (by simp [mem]))

theorem values_listed (context : Text) (values : List Bind) :
    (Slot.listed context values).map Slot.value = values := by
  induction values generalizing context with
  | nil => rfl
  | cons value values ih => rw [Slot.listed, List.map_cons, ih]

theorem values_ofAssignments (lead table : Text) (entries : List (Text × Text)) :
    (Slot.ofAssignments lead table entries).map Slot.value =
      (entries.map Prod.snd).map .text := by
  induction entries generalizing lead with
  | nil => rfl
  | cons entry entries ih =>
    rw [Slot.ofAssignments, List.map_cons, ih, List.map_cons, List.map_cons]

/-- Emptying as many places as there are values in front empties these values. -/
theorem emptiedAt_append (values : List Text) (others : List Bind) :
    emptiedAt (fun place ↦ place < values.length) (values.map .text ++ others) =
      (values.map fun _ ↦ []).map .text ++ others := by
  rw [emptiedAt, List.mapIdx_append]
  congr 1
  · apply List.ext_getElem?
    intro place
    rw [List.getElem?_mapIdx, List.map_map, List.getElem?_map, List.getElem?_map]
    by_cases inside : place < values.length <;> simp [inside]
  · apply List.ext_getElem?
    intro place
    simp [List.getElem?_mapIdx]

/-- Emptying the places of the arguments that go in leaves those that come out unbound. -/
theorem emptiedAt_arguments (arguments : List Argument) :
    emptiedAt (fun place ↦ (arguments[place]?).any fun argument ↦ !argument.out)
        (arguments.map fun argument ↦ if argument.out then .null else .ofText? argument.value) =
      (arguments.map Argument.emptied).map fun argument ↦
        if argument.out then .null else .ofText? argument.value := by
  apply List.ext_getElem?
  intro place
  rw [emptiedAt, List.getElem?_mapIdx, List.getElem?_map, List.getElem?_map, List.getElem?_map]
  cases arguments[place]? with
  | none => rfl
  | some argument => cases out : argument.out <;> simp [Argument.emptied, out, Bind.ofText?]

/-! ## Predicates that cannot be written -/

theorem isComplete_emptied (predicate : Predicate) :
    predicate.emptied.isComplete = predicate.isComplete := by
  simp [Predicate.isComplete, Predicate.emptied]

/-- The report of a predicate names the number of its values only. -/
theorem complaint_emptied (predicate : Predicate) :
    predicate.emptied.complaint = predicate.complaint := by
  simp [Predicate.complaint, Predicate.emptied]

theorem misfit?_emptied (statement : Statement) :
    statement.emptied.misfit? = statement.misfit?.map Predicate.emptied := by
  cases statement with
  | select select =>
    have entries (items : List GroupedPredicate) :
        misfitOf (items.map GroupedPredicate.emptied) = (misfitOf items).map Predicate.emptied := by
      induction items with
      | nil => rfl
      | cons item items ih =>
        have sameComplete := isComplete_emptied item.predicate
        rw [List.map_cons, misfitOf_cons, misfitOf_cons, ih, GroupedPredicate.emptied, sameComplete]
        split <;> rfl
    rw [Statement.emptied, Statement.misfit?, Select.conditions_emptied]
    exact entries select.conditions
  | insert insert => rfl
  | update update => rfl
  | delete delete => rfl
  | call call => rfl

/-- The values of the slots of an emptied statement are those of the statement, emptied in the
places that hold values. -/
theorem values_slots_emptied {paging : Paging} {statement : Statement}
    (complete : statement.misfit? = none) :
    (statement.emptied.slots paging).map Slot.value =
      emptiedAt statement.holdsValue ((statement.slots paging).map Slot.value) := by
  cases statement with
  | select select =>
    have emptiedComplete : misfitOf (select.conditions.map GroupedPredicate.emptied) = none := by
      have none := misfit?_emptied (.select select)
      rw [complete] at none
      rwa [← Select.conditions_emptied]
    have filterValues : (select.conditions.map GroupedPredicate.emptied).flatMap
        (fun item ↦ item.predicate.values) = select.filterValues.map fun _ ↦ [] := by
      rw [Select.filterValues, List.flatMap_map, List.map_flatMap]
      rfl
    simp only [Statement.emptied, Statement.slots, List.map_append, Select.conditions_emptied]
    rw [values_ofFilter (isComplete_of_misfitOf complete),
      values_ofFilter (isComplete_of_misfitOf emptiedComplete), filterValues]
    exact (emptiedAt_append select.filterValues _).symm
  | insert insert =>
    simp only [Statement.emptied, Statement.slots, values_listed]
    have row := emptiedAt_append insert.values.values []
    rw [List.append_nil, List.append_nil] at row
    rw [OrderedMap.values_mapValues]
    exact row.symm
  | update update =>
    have row := emptiedAt_append (update.values.values ++ [update.id]) []
    rw [List.append_nil, List.append_nil, List.length_append] at row
    have entries := OrderedMap.values_mapValues (fun _ ↦ ([] : Text)) update.values
    simp only [OrderedMap.values] at entries row
    simp only [Statement.emptied, Statement.slots, List.map_append, values_ofAssignments, entries]
    rw [List.map_append, List.map_append, List.map_append] at row
    exact row.symm
  | delete delete =>
    exact (emptiedAt_append [delete.id] []).symm
  | call call =>
    simp only [Statement.emptied, Statement.slots, values_listed]
    exact (emptiedAt_arguments call.arguments).symm

/-- An emptied statement cannot be written for the same reason. -/
theorem fault?_emptied (paging : Paging) (statement : Statement) :
    statement.emptied.fault? paging = statement.fault? paging := by
  have samePage : statement.emptied.page? = statement.page? := by
    cases statement <;> rfl
  unfold Statement.fault?
  rw [misfit?_emptied, samePage]
  cases statement.misfit? with
  | some predicate => exact congrArg some (complaint_emptied predicate)
  | none => rfl

/-- Rendering an emptied statement empties the values of the rendered one. -/
theorem render_emptied (dialect : Dialect) (statement : Statement) :
    dialect.render statement.emptied =
      Compiled.hide statement.holdsValue <$> dialect.render statement := by
  rw [render_eq, render_eq, fault?_emptied]
  cases fault : statement.fault? dialect.paging with
  | some error => rfl
  | none =>
    have misfit := (Statement.fault?_eq_none.mp fault).1
    have emptiedMisfit := misfit?_emptied statement
    rw [misfit] at emptiedMisfit
    have text : (statement.emptied.layout dialect.paging).sql dialect.quotes =
        (statement.layout dialect.paging).sql dialect.quotes := by
      rw [← sql_shape, shape_layout, sql_shape]
    have binds : (statement.emptied.layout dialect.paging).binds =
        emptiedAt statement.holdsValue (statement.layout dialect.paging).binds := by
      rw [(fills_layout emptiedMisfit).binds, (fills_layout misfit).binds]
      exact values_slots_emptied misfit
    have positions : statement.emptied.outPositions = statement.outPositions := by
      cases statement with
      | call call => exact outPositions_congr (by simp [Argument.emptied])
      | _ => rfl
    simp only [unlessFault, Dialect.finish, text, binds, positions]
    rfl

end Sql

end DialectSql
