import DialectSql.Proofs.Compiler.Runs

/-!
# Column Validation

A compiler that checks columns compiles what it would compile without the check, as long as every
column that the statement names is known; the first one that is not known is reported.

The main statement compares the two compilers.  The columns that a statement names are listed here
with the clauses that name them, in the order in which they are checked, and the check is a walk
along this list.
-/

namespace DialectSql

namespace Outcome

variable {ε α : Type} {check : α → Except ε Unit}

/-- A walk along a list succeeds exactly if every step does. -/
theorem forM_eq_ok_iff {xs : List α} : forM xs check = .ok () ↔ ∀ x ∈ xs, check x = .ok () := by
  induction xs with
  | nil => exact iff_of_true rfl (by simp)
  | cons x xs ih =>
    rw [List.forall_mem_cons, ← ih]
    constructor
    · intro succeeded
      rw [List.forM_cons] at succeeded
      obtain ⟨_, first, others⟩ := ok_of_bind succeeded
      exact ⟨first, others⟩
    · rintro ⟨first, others⟩
      rw [List.forM_cons, first]
      exact others

/-- A walk along a list fails like the first step that fails. -/
theorem forM_eq_error {before behind : List α} {x : α} {error : ε}
    (passed : ∀ y ∈ before, check y = .ok ()) (failed : check x = .error error) :
    forM (before ++ x :: behind) check = .error error := by
  rw [List.forM_append, forM_eq_ok_iff.mpr passed, List.forM_cons, failed]
  rfl

end Outcome

/-! ## The columns that are named -/

/-- A column that a clause of a statement names. -/
structure Mention where
  clause : Text
  column : Text
  deriving DecidableEq, Repr

/-- The columns that a request filters by, in whichever shape its filter was given. -/
def Select.comparedColumns (select : Select) : List Text :=
  match select.predicate, select.predicateGroup with
  | some predicate, _ => [predicate.column]
  | none, some group => group.items.map fun item ↦ item.predicate.column
  | none, none => []

/-- The columns that a statement names, in the order of its clauses.  An ordering that is given
takes the place of the statement's own one. -/
def Statement.mentions (order : Option Order) : Statement → List Mention
  | .select request =>
    request.columns.map (Mention.mk "SELECT") ++
      request.comparedColumns.map (Mention.mk "WHERE") ++
        (order <|> request.order).toList.map fun order ↦ ⟨"ORDER BY", order.column⟩
  | .insert request => request.values.names.map (Mention.mk "VALUES")
  | .update request => request.values.names.map (Mention.mk "SET")
  | .delete _ => []
  | .call _ => []

/-- A table has a column of the given name, up to the case of letters. -/
def Table.Knows (table : Table) (name : Text) : Prop :=
  ∃ column ∈ table.columns, Text.lower column.name = Text.lower name

instance (table : Table) (name : Text) : Decidable (table.Knows name) :=
  inferInstanceAs (Decidable (∃ column ∈ table.columns, _))

theorem Select.comparedColumns_eq (select : Select) :
    select.comparedColumns = select.conditions.map fun item ↦ item.predicate.column := by
  unfold comparedColumns conditions filter
  cases select.predicate with
  | some predicate => rfl
  | none =>
    cases select.predicateGroup with
    | none => rfl
    | some group =>
      obtain ⟨items⟩ := group
      cases items <;> rfl

/-! ## The check -/

namespace Table

variable (table : Table)

theorem checkColumn_eq_ok_iff {clause name : Text} :
    table.checkColumn clause name = .ok () ↔ table.columns = [] ∨ table.Knows name := by
  have known : table.hasColumn name = true ↔ table.Knows name := by
    simp [hasColumn, Knows]
  rw [← known, ← List.isEmpty_iff, ← Bool.or_eq_true]
  unfold checkColumn
  split <;> simp_all

theorem checkColumn_eq_error {clause name : Text} (hasColumns : table.columns ≠ [])
    (unknown : ¬table.Knows name) :
    table.checkColumn clause name =
      .error (.columnUnknown clause table.qualifiedName name table.columnNames) := by
  have refused : table.checkColumn clause name ≠ .ok () :=
    mt table.checkColumn_eq_ok_iff.mp (not_or.mpr ⟨hasColumns, unknown⟩)
  unfold checkColumn at refused ⊢
  split
  · rename_i passed
    exact absurd (if_pos passed) refused
  · rfl

/-- Checks the columns that are named, one after another. -/
def checkMentions (mentions : List Mention) : Except Error Unit :=
  forM mentions fun mention ↦ table.checkColumn mention.clause mention.column

theorem checkColumns_eq (clause : Text) (names : List Text) :
    table.checkColumns clause names = table.checkMentions (names.map (Mention.mk clause)) := by
  induction names with
  | nil => rfl
  | cons name names ih =>
    rw [checkColumns, ih]
    rfl

/-- Checking a statement is checking the columns that it names. -/
theorem checkStatement_eq (statement : Statement) :
    table.checkStatement statement = table.checkMentions (statement.mentions none) := by
  cases statement with
  | select select =>
    have order : table.checkOrder select.order = table.checkMentions
        (select.order.toList.map fun order ↦ ⟨"ORDER BY", order.column⟩) := by
      cases select.order with
      | none => rfl
      | some order =>
        change _ = (table.checkColumn "ORDER BY" order.column >>= fun _ ↦ .ok ())
        rw [checkOrder]
        cases table.checkColumn "ORDER BY" order.column <;> rfl
    rw [checkStatement, checkSelect, checkColumns_eq, checkColumns_eq, order,
      filterColumns_filter, ← Select.comparedColumns_eq]
    simp only [Statement.mentions, checkMentions, List.forM_append, bind_assoc]
    cases select.order <;> rfl
  | insert insert => exact table.checkColumns_eq _ _
  | update update => exact table.checkColumns_eq _ _
  | delete delete => rfl
  | call call => rfl

/-- The check passes exactly if the columns of the table are unknown or all that are named are
among them. -/
theorem checkMentions_eq_ok_iff {mentions : List Mention} :
    table.checkMentions mentions = .ok () ↔
      table.columns = [] ∨ ∀ mention ∈ mentions, table.Knows mention.column := by
  rw [checkMentions, Outcome.forM_eq_ok_iff]
  simp only [checkColumn_eq_ok_iff]
  by_cases noColumns : table.columns = [] <;> simp [noColumns]

end Table

/-- Every column that a statement names is known, or the columns of its table are not.  A call has
no table. -/
def Statement.ColumnsKnown (order : Option Order) (statement : Statement) : Prop :=
  ∀ table ∈ Compiler.tableOf? statement,
    table.columns = [] ∨ ∀ mention ∈ statement.mentions order, table.Knows mention.column

/-! ## The compiler with and without the check -/

namespace Compiler

open Sql

variable (compiler : Compiler) (aliasName : Text) (limit : Option Limit) (order : Option Order)
  (statement : Statement)

/-- The same compiler with the check. -/
def checked : Compiler :=
  { compiler with validateColumns := true }

/-- The same compiler without the check. -/
def unchecked : Compiler :=
  { compiler with validateColumns := false }

/-- The statement that is rendered names the columns of the statement, with the ordering that
takes effect. -/
theorem mentions_prepared :
    (compiler.prepared limit order statement).mentions none = statement.mentions order := by
  cases statement <;> rfl

theorem tableOf?_prepared :
    tableOf? (compiler.prepared limit order statement) = tableOf? statement := by
  cases statement <;> rfl

theorem checkColumns_checked {statement : Statement} {table : Table}
    (isTable : tableOf? statement = some table) :
    compiler.checked.checkColumns (compiler.prepared limit order statement) =
      table.checkMentions (statement.mentions order) := by
  rw [← mentions_prepared compiler limit, ← Table.checkStatement_eq, checkColumns,
    tableOf?_prepared, isTable]
  rfl

theorem checkColumns_checked_eq_ok_iff :
    compiler.checked.checkColumns (compiler.prepared limit order statement) = .ok () ↔
      statement.ColumnsKnown order := by
  cases isTable : tableOf? statement with
  | none =>
    have passed : compiler.checked.checkColumns (compiler.prepared limit order statement) =
        .ok () := by
      rw [checkColumns, tableOf?_prepared, isTable]
      rfl
    exact iff_of_true passed (by simp [Statement.ColumnsKnown, isTable])
  | some table =>
    rw [checkColumns_checked compiler limit order isTable, Table.checkMentions_eq_ok_iff]
    simp [Statement.ColumnsKnown, isTable]

/-- What becomes of a statement with the check. -/
theorem outcome_compile_checked :
    (compiler.checked.compile aliasName statement limit order).outcome = (do
      let dialect ← (compiler.dialectFor aliasName).outcome
      compiler.checked.checkColumns (compiler.prepared limit order statement)
      dialect.render (compiler.prepared limit order statement)) :=
  compiler.checked.outcome_compile aliasName statement limit order

/-- Where all columns are known, both compilers do the same, with the same log. -/
theorem compile_checked_of_known {statement : Statement} (known : statement.ColumnsKnown order) :
    compiler.checked.compile aliasName statement limit order =
      compiler.unchecked.compile aliasName statement limit order := by
  have passed := (checkColumns_checked_eq_ok_iff compiler limit order statement).mpr known
  unfold compile
  congr 1
  refine bind_congr fun dialect ↦ Traced.bind_congr_of_ok fun ready found ↦ ?_
  obtain rfl : compiler.prepared limit order statement = ready :=
    Except.ok.inj ((compiler.outcome_prepare limit order statement).symm.trans found)
  have notChecked : compiler.unchecked.checkColumns (compiler.prepared limit order statement) =
      .ok () := rfl
  rw [passed, notChecked]

/-- Checking columns filters what is compiled and changes nothing else.  A statement is compiled
with the check exactly if it is compiled without it and its columns are known, and the runs are the
same then.  Otherwise the first unknown column that the statement names is reported, before
anything is rendered. -/
theorem compile_checked_iff :
    (∀ compiled,
      (compiler.checked.compile aliasName statement limit order).outcome = .ok compiled ↔
        (compiler.unchecked.compile aliasName statement limit order).outcome = .ok compiled ∧
          statement.ColumnsKnown order) ∧
    (statement.ColumnsKnown order →
      compiler.checked.compile aliasName statement limit order =
        compiler.unchecked.compile aliasName statement limit order) ∧
    ∀ dialect table before mention behind,
      (compiler.dialectFor aliasName).outcome = .ok dialect →
      tableOf? statement = some table → table.columns ≠ [] →
      statement.mentions order = before ++ mention :: behind →
      (∀ earlier ∈ before, table.Knows earlier.column) → ¬table.Knows mention.column →
      ∃ error, (compiler.checked.compile aliasName statement limit order).outcome = .error error ∧
        error.errorClass = .unsupportedOperation ∧
        error = .columnUnknown mention.clause table.qualifiedName mention.column
          table.columnNames := by
  have same (known : statement.ColumnsKnown order) :=
    compiler.compile_checked_of_known aliasName limit order known
  refine ⟨fun compiled ↦ ⟨fun succeeded ↦ ?_, ?_⟩, same, ?_⟩
  · have checks := succeeded
    rw [outcome_compile_checked] at checks
    obtain ⟨dialect, -, checks⟩ := Outcome.ok_of_bind checks
    obtain ⟨_, passed, -⟩ := Outcome.ok_of_bind checks
    have known := (checkColumns_checked_eq_ok_iff compiler limit order statement).mp passed
    rw [same known] at succeeded
    exact ⟨succeeded, known⟩
  · rintro ⟨succeeded, known⟩
    rwa [same known]
  · intro dialect table before mention behind resolved isTable hasColumns named known unknown
    refine ⟨_, ?_, rfl, rfl⟩
    have reported : table.checkMentions (statement.mentions order) = .error (.columnUnknown
        mention.clause table.qualifiedName mention.column table.columnNames) := by
      rw [named]
      exact Outcome.forM_eq_error
        (fun earlier mem ↦ table.checkColumn_eq_ok_iff.mpr (.inr (known earlier mem)))
        (table.checkColumn_eq_error hasColumns unknown)
    rw [outcome_compile_checked, resolved, checkColumns_checked compiler limit order isTable,
      reported]
    rfl

/-- A table with one known column. -/
def trialRoster : Table :=
  ⟨"hr", "users", "id", [⟨"Name", "TEXT", none, none, none, true⟩]⟩

/-- A known column in other letters; then an unknown one, before a filter that is unknown and cannot
be written. -/
theorem compile_checked_trial :
    let names := Statement.select ⟨trialRoster, ["NAME"], none, none, none, none⟩
    let salaries := Statement.select
      ⟨trialRoster, ["NAME", "salary"], some ⟨"age", .between, []⟩, none, none, none⟩
    trial.checked.compile "app" names none none = trial.unchecked.compile "app" names none none ∧
      ∃ error, (trial.checked.compile "app" salaries none none).outcome = .error error ∧
        error.errorClass = .unsupportedOperation ∧
        error = .columnUnknown "SELECT" "hr.users" "salary" ["Name"] := by
  intro names salaries
  have knowsName : trialRoster.Knows "NAME" := by decide
  have noSalary : ¬trialRoster.Knows "salary" := by decide
  have known : names.ColumnsKnown none := by
    intro table isTable
    obtain rfl : trialRoster = table := Option.some.inj isTable
    refine .inr fun mention mem ↦ ?_
    obtain rfl : mention = ⟨"SELECT", "NAME"⟩ := List.mem_singleton.mp mem
    exact knowsName
  have named : salaries.mentions none =
      [⟨"SELECT", "NAME"⟩] ++ ⟨"SELECT", "salary"⟩ :: [⟨"WHERE", "age"⟩] := rfl
  obtain ⟨-, same, -⟩ := trial.compile_checked_iff "app" none none names
  obtain ⟨-, -, reports⟩ := trial.compile_checked_iff "app" none none salaries
  exact ⟨same known, reports _ trialRoster _ _ _ outcome_dialectFor_trial rfl (by decide) named
    (by simpa using knowsName) noSalary⟩

end Compiler

end DialectSql
