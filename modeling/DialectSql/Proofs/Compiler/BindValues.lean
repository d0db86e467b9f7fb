import DialectSql.Proofs.Compiler.FinderArguments

/-!
# Bind Values in the Compiler

What a compiler does depends on bind values only in what is bound.  The main statement compares two
runs, for statements that differ in their bind values only and for finders that are given as many
arguments: with the bind values hidden in their places, the runs have the same outcome and the same
log, and they give the same notices.

Each run is compared with that of the emptied statement.  Whatever is done before rendering looks at
names, pages and numbers of values, which emptying leaves as they are.
-/

namespace DialectSql

open Sql

/-! ## Statements -/

theorem Statement.kind_emptied (statement : Statement) :
    statement.emptied.kind = statement.kind := by
  cases statement <;> rfl

/-- Emptying values leaves them in their places. -/
theorem Statement.holdsValue_emptied (statement : Statement) :
    statement.emptied.holdsValue = statement.holdsValue := by
  funext place
  cases statement with
  | select select =>
    have sameLength : select.emptied.filterValues.length = select.filterValues.length := by
      simp [Select.filterValues, Select.conditions_emptied, List.length_flatMap,
        GroupedPredicate.emptied, Predicate.emptied, Function.comp_def]
    rw [emptied, holdsValue, holdsValue, sameLength]
  | insert insert => simp [emptied, holdsValue, OrderedMap.values_mapValues]
  | update update => simp [emptied, holdsValue, OrderedMap.values_mapValues]
  | delete delete => rfl
  | call call =>
    rw [emptied, holdsValue, holdsValue, List.getElem?_map]
    cases call.arguments[place]? <;> rfl

namespace Sql.Dialect

/-- Reporting a rendered statement tells the number of its bind values only. -/
theorem renderTraced_emptied (dialect : Dialect) (statement : Statement) :
    dialect.renderTraced statement.emptied =
      Compiled.hide statement.holdsValue <$> dialect.renderTraced statement := by
  have sameWord : statementWord statement.emptied = statementWord statement := by
    cases statement <;> rfl
  unfold renderTraced
  rw [render_emptied, sameWord]
  cases dialect.render statement with
  | error error => rfl
  | ok compiled =>
    have sameLength : (Compiled.hide statement.holdsValue compiled).params.length =
        compiled.params.length := List.length_mapIdx
    have emptied : Compiled.hide statement.holdsValue <$> (Except.ok compiled : Except Error _) =
        .ok (Compiled.hide statement.holdsValue compiled) := rfl
    rw [emptied, map_bind, Traced.bind_of_ok rfl, Traced.bind_of_ok rfl, sameLength]
    rfl

end Sql.Dialect

namespace Table

theorem checkStatement_emptied (table : Table) (statement : Statement) :
    table.checkStatement statement.emptied = table.checkStatement statement := by
  cases statement with
  | select select =>
    have sameColumns : filterColumns select.emptied.filter = filterColumns select.filter := by
      rw [filterColumns_filter, filterColumns_filter, Select.conditions_emptied, List.map_map]
      rfl
    simp only [Statement.emptied, checkStatement, checkSelect, sameColumns]
    rfl
  | insert insert =>
    rw [Statement.emptied, checkStatement, checkStatement, OrderedMap.names_mapValues]
  | update update =>
    rw [Statement.emptied, checkStatement, checkStatement, OrderedMap.names_mapValues]
  | delete delete => rfl
  | call call => rfl

end Table

namespace Compiler

variable (compiler : Compiler)

/-- Reporting work tells nothing of its value. -/
theorem attempt_map {α β : Type} (aliasName : Text) (kind : StatementKind) (f : α → β)
    (work : Traced Error α) :
    attempt aliasName kind (f <$> work) = f <$> attempt aliasName kind work := by
  cases done : work.outcome with
  | error error =>
    have mapped : (f <$> work).outcome = .error error := by rw [Traced.outcome_map, done]; rfl
    rw [attempt_of_error aliasName kind done, attempt_of_error aliasName kind mapped,
      Traced.log_map]
    rfl
  | ok value =>
    have mapped : (f <$> work).outcome = .ok (f value) := by rw [Traced.outcome_map, done]; rfl
    rw [attempt_of_ok aliasName kind done, attempt_of_ok aliasName kind mapped, Observed.map_eq]

theorem checkColumns_emptied (statement : Statement) :
    compiler.checkColumns statement.emptied = compiler.checkColumns statement := by
  have sameTable : tableOf? statement.emptied = tableOf? statement := by
    cases statement <;> rfl
  unfold checkColumns
  rw [sameTable]
  split
  · exact Table.checkStatement_emptied _ _
  · rfl

theorem prepare_emptied (limit : Option Limit) (order : Option Order) (statement : Statement) :
    compiler.prepare limit order statement.emptied =
      Statement.emptied <$> compiler.prepare limit order statement := by
  cases statement with
  | select select =>
    have paginated : compiler.paginate select.emptied limit order =
        Select.emptied <$> compiler.paginate select limit order := by
      have sameWish : select.emptied.paginate limit order = (select.paginate limit order).emptied :=
        rfl
      unfold paginate
      rw [sameWish]
      generalize select.paginate limit order = wanted
      obtain ⟨table, columns, predicate, group, wish, order⟩ := wanted
      cases wish with
      | none => rfl
      | some page =>
        rw [map_bind]
        rfl
    simp only [Statement.emptied, prepare, paginated, Functor.map_map]
  | insert insert => rfl
  | update update => rfl
  | delete delete => rfl
  | call call => rfl

theorem holdsValue_prepared (limit : Option Limit) (order : Option Order)
    (statement : Statement) :
    (compiler.prepared limit order statement).holdsValue = statement.holdsValue := by
  cases statement <;> rfl

/-- Compiling an emptied statement empties the bind values of the compiled one. -/
theorem compile_emptied (aliasName : Text) (statement : Statement) (limit : Option Limit)
    (order : Option Order) :
    compiler.compile aliasName statement.emptied limit order =
      Compiled.hide statement.holdsValue <$>
        compiler.compile aliasName statement limit order := by
  unfold compile
  rw [Statement.kind_emptied, ← attempt_map, map_bind, prepare_emptied]
  congr 1
  apply bind_congr
  intro dialect
  rw [bind_map_left, map_bind]
  apply Traced.bind_congr_of_ok
  intro ready found
  obtain rfl : compiler.prepared limit order statement = ready :=
    Except.ok.inj ((compiler.outcome_prepare limit order statement).symm.trans found)
  rw [checkColumns_emptied, Dialect.renderTraced_emptied, map_bind, holdsValue_prepared]

end Compiler

/-! ## Finders -/

namespace Finder

/-- Fields take emptied values like the values themselves. -/
theorem assign_emptied (fields : List FieldExpr) (values : List Text) :
    assign fields (values.map fun _ ↦ []) =
      (assign fields values).map GroupedPredicate.emptied := by
  induction fields generalizing values with
  | nil => rfl
  | cons field fields ih =>
    rw [assign, assign, List.map_cons, ← List.map_drop, ih, ← List.map_take]
    rfl

/-- An argument without a text of its own. -/
def emptyArgument : Json := .str []

variable {ε : Type} {refuse : Error → ε} {finder : Finder} {table : Table}
  {arguments : List Json} {limit : Option Limit} {order : Option Order} {strict : Bool}
  {firstPage : Except ε Limit}

theorem consume_emptied (finder : Finder) (arguments : List Json) :
    finder.consume (arguments.map fun _ ↦ emptyArgument) =
      .ok ((finder.consumed arguments).map fun _ ↦ []) := by
  have short : ∀ argument ∈ finder.needed (arguments.map fun _ ↦ emptyArgument),
      ¬argument.Overlong := by
    intro argument mem
    obtain ⟨_, -, rfl⟩ := List.mem_map.mp (List.mem_of_mem_take mem)
    exact Json.not_overlong_str []
  rw [consume_of_short short, consumed, consumed, needed, needed, ← List.map_take, List.map_map,
    List.map_map]
  rfl

/-- Arguments that can be shown all behave alike. -/
theorem bindTraced_emptied (short : ∀ argument ∈ arguments, ¬argument.Overlong) :
    finder.bindTraced refuse table (arguments.map fun _ ↦ emptyArgument) limit order strict
        firstPage =
      Select.emptied <$>
        finder.bindTraced refuse table arguments limit order strict firstPage := by
  have consumes : finder.consume arguments = .ok (finder.consumed arguments) :=
    consume_of_short fun argument mem ↦ short argument (List.mem_of_mem_take mem)
  have bound : finder.bindWith refuse table (arguments.map fun _ ↦ emptyArgument) limit order
      strict firstPage = Select.emptied <$>
        finder.bindWith refuse table arguments limit order strict firstPage := by
    have emptied (page : Limit) :
        finder.request table ((finder.consumed arguments).map fun _ ↦ []) page order =
          (finder.request table (finder.consumed arguments) page order).emptied := by
      simp only [request, filterWith, assign_emptied]
      rfl
    rw [bindWith_of_consume (consume_emptied finder arguments), bindWith_of_consume consumes]
    simp only [emptied, List.length_map, map_bind, map_pure]
  have embedded (outcome : Except ε Select) :
      Traced.ofExcept (Select.emptied <$> outcome) =
        Select.emptied <$> Traced.ofExcept outcome := by
    cases outcome <;> rfl
  unfold bindTraced
  rw [bound, List.length_map, embedded]
  simp only [map_bind]

/-- The values of the filter of a bound finder are as many as the finder requires. -/
theorem length_filterValues {select : Select}
    (found : finder.bindWith refuse table arguments limit order strict firstPage = .ok select) :
    select.filterValues.length = finder.requiredArguments := by
  obtain ⟨counted, values, consumes, page, -, rfl⟩ := bindWith_eq_ok.mp found
  have enough : finder.requiredArguments ≤ arguments.length := by
    by_contra few
    rw [checkCount, if_pos (Or.inl (by omega))] at counted
    cases counted
  obtain rfl := eq_consumed_of_consume consumes
  rw [Select.filterValues, conditions_request, flatMap_assign, List.length_take,
    length_consumed enough]
  exact Nat.min_self _

/-- The number of arguments that a descriptor requires; none are required where it cannot be
read. -/
def argumentCount (descriptor : Text) : Nat :=
  match parse descriptor with
  | .ok finder => finder.requiredArguments
  | .error _ => 0

end Finder

/-- A finder with emptied arguments is rendered like the finder itself, with the bind values
emptied. -/
theorem Sql.Dialect.renderFinder_emptied {ε : Type} (refuse : Error → ε) (dialect : Dialect)
    (finder : Finder) (table : Table) {arguments : List Json}
    (short : ∀ argument ∈ arguments, ¬argument.Overlong) (limit : Option Limit)
    (order : Option Order) (strict : Bool) (firstPage : Except ε Limit) :
    dialect.renderFinder refuse finder table (arguments.map fun _ ↦ Finder.emptyArgument) limit
        order strict firstPage =
      Compiled.hide (fun place ↦ place < finder.requiredArguments) <$>
        dialect.renderFinder refuse finder table arguments limit order strict firstPage := by
  unfold renderFinder
  rw [Finder.bindTraced_emptied short, bind_map_left, map_bind]
  apply Traced.bind_congr_of_ok
  intro select found
  rw [Finder.outcome_bindTraced] at found
  have places : (Statement.select select).holdsValue =
      fun place ↦ decide (place < finder.requiredArguments) := by
    funext place
    rw [Statement.holdsValue, Finder.length_filterValues found]
  have rendered := dialect.renderTraced_emptied (.select select)
  rw [Statement.emptied, places] at rendered
  rw [rendered, Traced.mapError_map]

namespace Compiler

variable (compiler : Compiler)

/-- Compiling a finder with emptied arguments empties the bind values of the compiled one. -/
theorem compileFinder_emptied (aliasName : Text) (table : Table) (descriptor : Text)
    {arguments : List Json} (short : ∀ argument ∈ arguments, ¬argument.Overlong)
    (limit : Option Limit) (order : Option Order) :
    compiler.compileFinder aliasName table descriptor (arguments.map fun _ ↦ Finder.emptyArgument)
        limit order =
      Compiled.hide (fun place ↦ place < Finder.argumentCount descriptor) <$>
        compiler.compileFinder aliasName table descriptor arguments limit order := by
  unfold compileFinder
  rw [← attempt_map, map_bind]
  congr 1
  apply bind_congr
  intro dialect
  rw [map_bind]
  apply Traced.bind_congr_of_ok
  intro finder found
  rw [Finder.outcome_parseTraced] at found
  have counted : Finder.argumentCount descriptor = finder.requiredArguments := by
    rw [Finder.argumentCount, found]
  simp only [map_bind, Dialect.renderFinder_emptied _ _ _ _ short, counted]

/-! ## Two runs -/

/-- Runs that agree up to their values give the same notices. -/
theorem notices_of_map_eq {α β : Type} {f : α → β} {left right : Observed Error α}
    (same : f <$> left = f <$> right) : left.notices = right.notices := by
  rw [Observed.map_eq, Observed.map_eq] at same
  exact (Observed.mk.inj same).2

end Compiler

end DialectSql
