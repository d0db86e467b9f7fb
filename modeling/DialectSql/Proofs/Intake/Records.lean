import DialectSql.Intake.Model
import DialectSql.Proofs.Intake.Outcomes

/-!
# Described Records

What data says about tables, pages and requests for rows, field by field.  A model is read from data
that describes it and passes the rule for the whole.
-/

namespace DialectSql

open Intake Intake.Checked

/-! ## Settled readers -/

section
variable {reasons : Error → Prop}

theorem settles_record {α : Type} {read : Members → Checked α}
    (settles : ∀ members, (read members).Settles reasons) (data : Json) :
    (record read data).Settles reasons := by
  cases data with
  | obj members => exact settles members
  | _ => exact .issue .notRecord

theorem Column.settles_ofJson (data : Json) : (Column.ofJson data).Settles reasons := by
  refine settles_record (fun members ↦ settles_closed ?_) data
  exact (((((settles_field settles_text).map _).seq (settles_fieldOr _ settles_text)).seq
    (settles_fieldOr _ (settles_orNull settles_integer))).seq
    (settles_fieldOr _ (settles_orNull settles_integer))).seq
    (settles_fieldOr _ (settles_orNull settles_integer)) |>.seq (settles_fieldOr _ settles_boolean)

theorem Predicate.settles_ofJson (data : Json) : (Predicate.ofJson data).Settles reasons := by
  refine settles_record (fun members ↦ settles_closed ?_) data
  exact (((settles_field settles_text).map _).seq (settles_fieldOr _ (settles_named _))).seq
    (settles_fieldOr _ (settles_list settles_text))

theorem GroupedPredicate.settles_ofJson (data : Json) :
    (GroupedPredicate.ofJson data).Settles reasons := by
  refine settles_record (fun members ↦ settles_closed ?_) data
  exact ((settles_field Predicate.settles_ofJson).map _).seq
    (settles_fieldOr _ (settles_named _))

theorem PredicateGroup.settles_ofJson (data : Json) :
    (PredicateGroup.ofJson data).Settles reasons := by
  refine settles_record (fun members ↦ settles_closed ?_) data
  exact (settles_fieldOr _ (settles_list GroupedPredicate.settles_ofJson)).map _

end

/-! ## Tables -/

namespace Table

theorem settles_primaryKeyOfJson {reasons : Error → Prop} (data : Json) :
    (primaryKeyOfJson data).Settles reasons := by
  unfold primaryKeyOfJson
  split
  · exact .valid _
  · exact settles_text data

/-- The fields that the data of a table has. -/
def fieldNames (members : Members) : List Text :=
  [schemaField members, "name", "primary_key", "columns"]

/-- Reads the fields of a table. -/
def ofFields (members : Members) : Checked Table :=
  closed members (fieldNames members) <|
    Table.mk <$> field members (schemaField members) text
      <*> field members "name" text
      <*> fieldOr members "primary_key" defaultPrimaryKey primaryKeyOfJson
      <*> fieldOr members "columns" [] (list Column.ofJson)

theorem ofJson_eq (data : Json) :
    ofJson data = (record ofFields data).andThen (Checked.ofExcept ∘ checkNames) := rfl

theorem settles_ofFields {reasons : Error → Prop} (members : Members) :
    (ofFields members).Settles reasons :=
  settles_closed <| ((((settles_field settles_text).map _).seq (settles_field settles_text)).seq
    (settles_fieldOr _ settles_primaryKeyOfJson)).seq
    (settles_fieldOr _ (settles_list Column.settles_ofJson))

/-- Data describes a table: all its fields are valid, and there are no others. -/
inductive DescribedBy (table : Table) : Json → Prop
  | fields {members : Members}
    (schema : FieldHas members (schemaField members) none text table.schemaName)
    (name : FieldHas members "name" none text table.name)
    (primaryKey : FieldHas members "primary_key" (some defaultPrimaryKey) primaryKeyOfJson
      table.primaryKey)
    (columns : FieldHas members "columns" (some []) (list Column.ofJson) table.columns)
    (only : OnlyFields members (fieldNames members)) : DescribedBy table (.obj members)

theorem hasHalf_fieldNames (members : Members) :
    ∀ name ∈ fieldNames members, name.hasHalf = false := by
  have schema : (schemaField members).hasHalf = false := by
    unfold schemaField
    split <;> rfl
  simp only [fieldNames, List.forall_mem_cons, schema, true_and]
  decide

theorem ofFields_eq_valid {data : Json} {table : Table} :
    record ofFields data = .valid table ↔ table.DescribedBy data := by
  constructor
  · intro valid
    cases data with
    | obj members =>
      obtain ⟨parts, only⟩ := (closed_eq_valid (hasHalf_fieldNames members)).mp valid
      obtain ⟨_, columns, upToKey, hasColumns, rfl⟩ := seq_eq_valid.mp parts
      obtain ⟨_, key, upToName, hasKey, rfl⟩ := seq_eq_valid.mp upToKey
      obtain ⟨schema, name, hasSchema, hasName, rfl⟩ := map₂_eq_valid.mp upToName
      exact .fields (field_eq_valid.mp hasSchema) (field_eq_valid.mp hasName)
        (fieldOr_eq_valid.mp hasKey) (fieldOr_eq_valid.mp hasColumns) only
    | _ => cases valid
  · rintro ⟨schema, name, primaryKey, columns, only⟩
    refine (closed_eq_valid (hasHalf_fieldNames _)).mpr ⟨?_, only⟩
    rw [field_eq_valid.mpr schema, field_eq_valid.mpr name, fieldOr_eq_valid.mpr primaryKey,
      fieldOr_eq_valid.mpr columns]
    rfl

theorem checkNames_eq_ok {table result : Table} :
    table.checkNames = .ok result ↔ table = result ∧
      Text.isBlankText table.schemaName = false ∧ Text.isBlankText table.name = false := by
  unfold checkNames
  split
  · simp [*]
  · split <;> simp [*]

/-- Why a table is not accepted although all its fields are valid. -/
inductive NameFault (table : Table) : Error → Prop
  | schema (blank : Text.isBlankText table.schemaName = true) :
    NameFault table (.schemaMissing table.schemaName table.name)
  | name (visible : Text.isBlankText table.schemaName = false)
    (blank : Text.isBlankText table.name = true) :
    NameFault table (.tableNameMissing table.schemaName table.name)

theorem checkNames_eq_error {table : Table} {error : Error} :
    table.checkNames = .error error ↔ table.NameFault error := by
  unfold checkNames
  constructor
  · intro refused
    split at refused
    · rename_i blank
      cases refused
      exact .schema blank
    · rename_i visible
      split at refused
      · rename_i blank
        cases refused
        exact .name (by simpa using visible) blank
      · cases refused
  · rintro (blank | ⟨visible, blank⟩)
    · rw [if_pos blank]
    · rw [if_neg (by simp [visible]), if_pos blank]

theorem ofJson_eq_valid {data : Json} {table : Table} :
    ofJson data = .valid table ↔ table.DescribedBy data ∧
      Text.isBlankText table.schemaName = false ∧ Text.isBlankText table.name = false := by
  rw [ofJson_eq, andThen_rule_eq_valid fun _ _ ↦ checkNames_eq_ok, ofFields_eq_valid]

end Table

/-! ## Pages -/

namespace Limit

/-- The fields that the data of a page has. -/
def fieldNames : List Text :=
  ["start", "rows"]

/-- Reads the fields of a page. -/
def ofFields (members : Members) : Checked Limit :=
  closed members fieldNames <|
    Limit.mk <$> fieldOr members "start" 0 integer <*>
      fieldOr members "rows" defaultPageSize integer

theorem ofJson_eq (data : Json) :
    ofJson data = (record ofFields data).andThen (Checked.ofExcept ∘ checkBounds) := rfl

theorem settles_ofFields {reasons : Error → Prop} (members : Members) :
    (ofFields members).Settles reasons :=
  settles_closed <| ((settles_fieldOr _ settles_integer).map _).seq
    (settles_fieldOr _ settles_integer)

/-- Data describes a page: both fields are valid, and there are no others. -/
inductive DescribedBy (limit : Limit) : Json → Prop
  | fields {members : Members}
    (start : FieldHas members "start" (some 0) integer limit.start)
    (rows : FieldHas members "rows" (some defaultPageSize) integer limit.rows)
    (only : OnlyFields members fieldNames) : DescribedBy limit (.obj members)

theorem ofFields_eq_valid {data : Json} {limit : Limit} :
    record ofFields data = .valid limit ↔ limit.DescribedBy data := by
  have plain : ∀ name ∈ fieldNames, name.hasHalf = false := by decide
  constructor
  · intro valid
    cases data with
    | obj members =>
      obtain ⟨parts, only⟩ := (closed_eq_valid plain).mp valid
      obtain ⟨start, rows, hasStart, hasRows, rfl⟩ := map₂_eq_valid.mp parts
      exact .fields (fieldOr_eq_valid.mp hasStart) (fieldOr_eq_valid.mp hasRows) only
    | _ => cases valid
  · rintro ⟨start, rows, only⟩
    exact (closed_eq_valid plain).mpr ⟨map₂_eq_valid.mpr
      ⟨_, _, fieldOr_eq_valid.mpr start, fieldOr_eq_valid.mpr rows, rfl⟩, only⟩

theorem checkBounds_eq_ok {limit result : Limit} :
    limit.checkBounds = .ok result ↔ limit = result ∧ limit.Valid := by
  unfold checkBounds Valid
  split
  · simp
    omega
  · split <;> simp <;> omega

/-- Why a page is not accepted although both its fields are valid. -/
inductive BoundFault (limit : Limit) : Error → Prop
  | start (negative : limit.start < 0) : BoundFault limit (.negativeStart limit.start)
  | rows (inside : 0 ≤ limit.start) (empty : limit.rows ≤ 0) :
    BoundFault limit (.nonPositiveRows limit.rows)

/-- A page out of bounds is reported for the number that is wrong, where this can be named. -/
theorem checkBounds_eq_error {limit : Limit} {error : Error} :
    limit.checkBounds = .error error ↔ ∃ fault, limit.BoundFault fault ∧ fault.raised = error := by
  unfold checkBounds
  constructor
  · intro refused
    split at refused
    · rename_i negative
      cases refused
      exact ⟨_, .start negative, rfl⟩
    · split at refused
      · rename_i inside empty
        cases refused
        exact ⟨_, .rows (by omega) empty, rfl⟩
      · cases refused
  · rintro ⟨_, negative | ⟨inside, empty⟩, rfl⟩
    · rw [if_pos negative]
    · rw [if_neg (by omega), if_pos empty]

/-- A page that cannot be asked for is out of bounds. -/
theorem exists_boundFault {limit : Limit} (invalid : ¬limit.Valid) :
    ∃ error, limit.BoundFault error := by
  by_cases negative : limit.start < 0
  · exact ⟨_, .start negative⟩
  · exact ⟨_, .rows (Int.not_lt.mp negative) (by unfold Valid at invalid; omega)⟩

theorem BoundFault.ne_numeralTooLong {limit : Limit} {error : Error}
    (fault : limit.BoundFault error) : error ≠ .numeralTooLong := by
  cases fault <;> nofun

theorem ofJson_eq_valid {data : Json} {limit : Limit} :
    ofJson data = .valid limit ↔ limit.DescribedBy data ∧ limit.Valid := by
  rw [ofJson_eq, andThen_rule_eq_valid fun _ _ ↦ checkBounds_eq_ok, ofFields_eq_valid]

end Limit

/-! ## Orderings -/

theorem Direction.settles_ofJson (data : Json) :
    (Direction.ofJson data).Settles fun _ ↦ True := by
  cases data with
  | str text =>
    rw [Direction.ofJson]
    split
    · exact .valid _
    · exact .refused trivial
  | _ => exact .issue .notMember

namespace Order

/-- Reads the fields of an ordering. -/
def ofFields (members : Members) : Checked Order :=
  closed members ["column", "direction"] <|
    Order.mk <$> field members "column" text
      <*> fieldOr members "direction" .ascending Direction.ofJson

theorem ofJson_eq : ofJson = record ofFields := rfl

theorem settles_ofJson (data : Json) : (ofJson data).Settles fun _ ↦ True :=
  settles_record (fun _ ↦ settles_closed <| ((settles_field settles_text).map _).seq
    (settles_fieldOr _ Direction.settles_ofJson)) data

/-- Data describes an ordering: both fields are valid, and there are no others. -/
inductive DescribedBy (order : Order) : Json → Prop
  | fields {members : Members} (column : FieldHas members "column" none text order.column)
    (direction : FieldHas members "direction" (some .ascending) Direction.ofJson order.direction)
    (only : OnlyFields members ["column", "direction"]) : DescribedBy order (.obj members)

theorem ofJson_eq_valid {data : Json} {order : Order} :
    ofJson data = .valid order ↔ order.DescribedBy data := by
  have plain : ∀ name ∈ (["column", "direction"] : List Text), name.hasHalf = false := by decide
  rw [ofJson_eq]
  constructor
  · intro valid
    cases data with
    | obj members =>
      obtain ⟨parts, only⟩ := (closed_eq_valid plain).mp valid
      obtain ⟨column, direction, hasColumn, hasDirection, rfl⟩ := map₂_eq_valid.mp parts
      exact .fields (field_eq_valid.mp hasColumn) (fieldOr_eq_valid.mp hasDirection) only
    | _ => cases valid
  · rintro ⟨column, direction, only⟩
    exact (closed_eq_valid plain).mpr ⟨map₂_eq_valid.mpr
      ⟨_, _, field_eq_valid.mpr column, fieldOr_eq_valid.mpr direction, rfl⟩, only⟩

end Order

/-! ## Requests for rows -/

theorem Table.settles_ofJson (data : Json) : (Table.ofJson data).Settles fun _ ↦ True :=
  (settles_record Table.settles_ofFields data).andThen fun _ ↦ .ofExcept _

theorem Limit.settles_ofJson (data : Json) : (Limit.ofJson data).Settles fun _ ↦ True :=
  (settles_record Limit.settles_ofFields data).andThen fun _ ↦ .ofExcept _

namespace Select

/-- The fields that the data of a request for rows has. -/
def fieldNames : List Text :=
  ["table", "columns", "predicate", "predicate_group", "limit", "order"]

/-- Reads the fields of a request for rows, whatever else is in the data. -/
def fieldsOf (members : Members) : Checked Select :=
  Select.mk <$> field members "table" Table.ofJson
    <*> fieldOr members "columns" [] (list text)
    <*> fieldOr members "predicate" none (orNull Predicate.ofJson)
    <*> fieldOr members "predicate_group" none (orNull PredicateGroup.ofJson)
    <*> fieldOr members "limit" none (orNull Limit.ofJson)
    <*> fieldOr members "order" none (orNull Order.ofJson)

theorem ofJson_obj (members : Members) :
    ofJson (.obj members) =
      (closed members fieldNames (fieldsOf members)).andThen (Checked.ofExcept ∘ checkFilters) :=
  rfl

theorem settles_fieldsOf (members : Members) : (fieldsOf members).Settles fun _ ↦ True :=
  ((((((settles_field Table.settles_ofJson).map _).seq
    (settles_fieldOr _ (settles_list settles_text))).seq
    (settles_fieldOr _ (settles_orNull Predicate.settles_ofJson))).seq
    (settles_fieldOr _ (settles_orNull PredicateGroup.settles_ofJson))).seq
    (settles_fieldOr _ (settles_orNull Limit.settles_ofJson))).seq
    (settles_fieldOr _ (settles_orNull Order.settles_ofJson))

/-- The fields of a request for rows are all valid, whatever else is in the data. -/
structure HasFields (select : Select) (members : Members) : Prop where
  table : FieldHas members "table" none Table.ofJson select.table
  columns : FieldHas members "columns" (some []) (list text) select.columns
  predicate : FieldHas members "predicate" (some none) (orNull Predicate.ofJson) select.predicate
  predicateGroup : FieldHas members "predicate_group" (some none) (orNull PredicateGroup.ofJson)
    select.predicateGroup
  limit : FieldHas members "limit" (some none) (orNull Limit.ofJson) select.limit
  order : FieldHas members "order" (some none) (orNull Order.ofJson) select.order

theorem fieldsOf_eq_valid {members : Members} {select : Select} :
    fieldsOf members = .valid select ↔ select.HasFields members := by
  constructor
  · intro valid
    obtain ⟨_, order, upToLimit, hasOrder, rfl⟩ := seq_eq_valid.mp valid
    obtain ⟨_, limit, upToGroup, hasLimit, rfl⟩ := seq_eq_valid.mp upToLimit
    obtain ⟨_, group, upToPredicate, hasGroup, rfl⟩ := seq_eq_valid.mp upToGroup
    obtain ⟨_, predicate, upToColumns, hasPredicate, rfl⟩ := seq_eq_valid.mp upToPredicate
    obtain ⟨table, columns, hasTable, hasColumns, rfl⟩ := map₂_eq_valid.mp upToColumns
    exact ⟨field_eq_valid.mp hasTable, fieldOr_eq_valid.mp hasColumns,
      fieldOr_eq_valid.mp hasPredicate, fieldOr_eq_valid.mp hasGroup,
      fieldOr_eq_valid.mp hasLimit, fieldOr_eq_valid.mp hasOrder⟩
  · rintro ⟨table, columns, predicate, group, limit, order⟩
    rw [fieldsOf, field_eq_valid.mpr table, fieldOr_eq_valid.mpr columns,
      fieldOr_eq_valid.mpr predicate, fieldOr_eq_valid.mpr group, fieldOr_eq_valid.mpr limit,
      fieldOr_eq_valid.mpr order]
    rfl

theorem closed_fieldsOf_eq_valid {members : Members} {select : Select} :
    closed members fieldNames (fieldsOf members) = .valid select ↔
      select.HasFields members ∧ OnlyFields members fieldNames := by
  rw [closed_eq_valid (by decide), fieldsOf_eq_valid]

theorem ofJson_eq_valid {members : Members} {select : Select} :
    ofJson (.obj members) = .valid select ↔
      (select.HasFields members ∧ OnlyFields members fieldNames) ∧
        ¬(select.predicate ≠ none ∧ select.predicateGroup ≠ none) := by
  have passes (found result : Select) : found.checkFilters = .ok result ↔
      found = result ∧ ¬(found.predicate ≠ none ∧ found.predicateGroup ≠ none) := by
    unfold checkFilters
    simp only [Bool.and_eq_true, Option.isSome_iff_ne_none]
    split <;> simp [*]
  rw [ofJson_obj, andThen_rule_eq_valid passes, closed_fieldsOf_eq_valid]

end Select

end DialectSql
