import DialectSql.Intake.Written
import DialectSql.Proofs.Intake.Records
import DialectSql.Proofs.Procedure.CallOrder

/-!
# Models Read Back

Which models data can describe, and what becomes of them when they are written as data and read
again.  Reading is lenient: blanks, letter case, absent fields and numbers in texts do not show in a
model.  What it gives is legal, however, and a legal model is read back from its written form as it
is.  The main statement follows: reading again what has been read changes nothing.
-/

namespace DialectSql

open Intake Intake.Checked

/-! ## Single values -/

namespace Intake

variable {α : Type} {read : Json → Checked α} {write : α → Json}

theorem orNull_integerOrNull (value : Option Int) :
    orNull integer (integerOrNull value) = .valid value := by
  cases value <;> rfl

theorem orNull_textOrNull (value : Option Text) :
    orNull text (Error.textOrNull value) = .valid value := by
  cases value <;> rfl

/-- What may be absent is read back if its value is and is not written as null. -/
theorem orNull_writtenOrNull {value : Option α}
    (back : ∀ inner ∈ value, read (write inner) = .valid inner)
    (visible : ∀ inner ∈ value, write inner ≠ .null) :
    orNull read (writtenOrNull write value) = .valid value := by
  cases value with
  | none => rfl
  | some inner =>
    rw [writtenOrNull, orNull, back inner rfl]
    · rfl
    · exact visible inner rfl

theorem named_name {ofName? : Text → Option α} {name : Text} {value : α}
    (found : ofName? name = some value) (plain : name.hasHalf = false) :
    named ofName? (.str name) = .valid value := by
  rw [named, spelled, if_neg (by simp [plain]), found]

/-- A list is read back if its items are. -/
theorem list_written {values : List α}
    (back : ∀ value ∈ values, read (write value) = .valid value) :
    list read (.arr (values.map write)) = .valid values := by
  have items (index : Nat) : Checked.list read index (values.map write) = .valid values := by
    induction values generalizing index with
    | nil => rfl
    | cons value values ih =>
      rw [List.forall_mem_cons] at back
      rw [List.map_cons, Checked.list, back.1, ih back.2]
      rfl
  exact items 0

theorem list_textList (texts : List Text) : list text (Error.textList texts) = .valid texts :=
  list_written fun _ _ ↦ rfl

end Intake

namespace OrderedMap

variable {α : Type}

/-- Setting new names one after another adds their entries in order. -/
theorem entries_foldl_insert (entries : List (Text × α)) (map : OrderedMap α)
    (nodup : ((map.entries ++ entries).map Prod.fst).Nodup) :
    (entries.foldl (fun map entry ↦ map.insert entry.1 entry.2) map).entries =
      map.entries ++ entries := by
  induction entries generalizing map with
  | nil => simp
  | cons entry entries ih =>
    have absent : entry.1 ∉ map.entries.map Prod.fst := by
      rw [List.map_append, List.nodup_append] at nodup
      exact fun mem ↦ nodup.2.2 _ mem _ (by simp) rfl
    have inserted : (map.insert entry.1 entry.2).entries = map.entries ++ [entry] :=
      if_neg absent
    rw [List.foldl_cons, ih _ (by simpa [inserted] using nodup), inserted, List.append_assoc,
      List.singleton_append]

/-- A map arises from its own entries. -/
theorem ofList_entries (map : OrderedMap α) : ofList map.entries = map := by
  have same : (ofList map.entries).entries = map.entries :=
    entries_foldl_insert map.entries empty map.nodup
  cases left : ofList map.entries
  cases map
  simp_all

end OrderedMap

theorem map_rowToJson (values : OrderedMap Text) :
    Intake.map text (rowToJson values) = .valid values := by
  have entries (row : List (Text × Text)) :
      Checked.entries text (row.map fun entry ↦ (entry.1, .str entry.2)) = .valid row := by
    induction row with
    | nil => rfl
    | cons entry row ih =>
      rw [List.map_cons, Checked.entries, ih]
      rfl
  rw [rowToJson, Intake.map, entries]
  exact congrArg Checked.valid values.ofList_entries

theorem Operator.ofName?_name (operator : Operator) :
    ofName? operator.name = some operator := by
  cases operator <;> decide

theorem Connector.ofName?_name (connector : Connector) :
    ofName? connector.name = some connector := by
  cases connector <;> decide

/-! ## Models that are always legal -/

theorem Column.ofJson_toJson (column : Column) : ofJson column.toJson = .valid column := by
  have size := orNull_integerOrNull column.size
  have precision := orNull_integerOrNull column.precision
  have scale := orNull_integerOrNull column.scale
  change closed _ _ (Column.mk <$> _ <*> _ <*> (orNull integer _).under _ <*>
    (orNull integer _).under _ <*> (orNull integer _).under _ <*> _) = _
  rw [size, precision, scale]
  rfl

theorem Predicate.ofJson_toJson (predicate : Predicate) :
    ofJson predicate.toJson = .valid predicate := by
  have operator : named Operator.ofName? (.str predicate.operator.name) =
      .valid predicate.operator :=
    named_name predicate.operator.ofName?_name (by cases predicate.operator <;> rfl)
  have values := list_textList predicate.values
  change closed _ _ (Predicate.mk <$> _ <*> (named Operator.ofName? _).under _ <*>
    (Intake.list text _).under _) = _
  rw [operator, values]
  rfl

theorem GroupedPredicate.ofJson_toJson (item : GroupedPredicate) :
    ofJson item.toJson = .valid item := by
  have connector : named Connector.ofName? (.str item.connector.name) = .valid item.connector :=
    named_name item.connector.ofName?_name (by cases item.connector <;> rfl)
  change closed _ _ (GroupedPredicate.mk <$> (Predicate.ofJson _).under _ <*>
    (named Connector.ofName? _).under _) = _
  rw [item.predicate.ofJson_toJson, connector]
  rfl

theorem PredicateGroup.ofJson_toJson (group : PredicateGroup) :
    ofJson group.toJson = .valid group := by
  have items := list_written fun item (_ : item ∈ group.items) ↦ item.ofJson_toJson
  change closed _ _ (PredicateGroup.mk <$> (Intake.list GroupedPredicate.ofJson _).under _) = _
  rw [items]
  rfl

theorem Direction.ofJson_name (direction : Direction) :
    ofJson (.str direction.name) = .valid direction := by
  have spelled : ofName? (Text.upper (Text.strip direction.name)) = some direction := by
    cases direction <;> decide
  rw [ofJson, spelled]

theorem Order.ofJson_toJson (order : Order) : ofJson order.toJson = .valid order := by
  refine ofJson_eq_valid.mpr (.fields (.of_lookup rfl rfl) (.of_lookup rfl ?_) (.of_names rfl))
  exact order.direction.ofJson_name

theorem Argument.ofJson_toJson (argument : Argument) :
    ofJson argument.toJson = .valid argument := by
  have value : valueOfJson (Error.textOrNull argument.value) = .valid argument.value := by
    cases argument.value <;> rfl
  have name := orNull_textOrNull argument.name
  have type := orNull_textOrNull argument.type
  have index := orNull_integerOrNull argument.index
  change Argument.mk <$> (valueOfJson _).under _ <*> (orNull text _).under _ <*>
    (orNull text _).under _ <*> (orNull integer _).under _ <*> _ = _
  rw [value, name, type, index]
  rfl

/-! ## Tables and pages -/

namespace Table

/-- A table that data can describe. -/
structure Legal (table : Table) : Prop where
  schema : Text.isBlankText table.schemaName = false
  name : Text.isBlankText table.name = false
  primaryKey : table.primaryKey ≠ []

theorem legal_of_ofJson {data : Json} {table : Table} (valid : ofJson data = .valid table) :
    table.Legal := by
  obtain ⟨described, schema, name⟩ := ofJson_eq_valid.mp valid
  refine ⟨schema, name, ?_⟩
  obtain @⟨members, -, -, key, -, -⟩ := described
  -- An absent or empty key stands for the usual one, which is not empty.
  unfold FieldHas at key
  split at key
  · rename_i data _
    unfold primaryKeyOfJson at key
    split at key
    · rw [← Checked.valid.inj key]
      decide
    · rename_i present
      cases data with
      | str written =>
        rw [← Checked.valid.inj key]
        simpa [Json.isEmpty] using present
      | _ => cases key
  · rw [← Option.some.inj key]
    decide

theorem ofJson_toJson {table : Table} (legal : table.Legal) :
    ofJson table.toJson = .valid table := by
  refine ofJson_eq_valid.mpr ⟨?_, legal.schema, legal.name⟩
  have key : primaryKeyOfJson (.str table.primaryKey) = .valid table.primaryKey := by
    rw [primaryKeyOfJson, if_neg (by simpa [Json.isEmpty] using legal.primaryKey)]
    rfl
  exact .fields (.of_lookup rfl rfl) (.of_lookup rfl rfl) (.of_lookup rfl key)
    (.of_lookup rfl (list_written fun column _ ↦ column.ofJson_toJson)) (.of_names rfl)

end Table

theorem Limit.ofJson_toJson {limit : Limit} (inside : limit.Valid) :
    ofJson limit.toJson = .valid limit :=
  ofJson_eq_valid.mpr
    ⟨.fields (.of_lookup rfl rfl) (.of_lookup rfl rfl) (.of_names rfl), inside⟩

/-! ## Statements -/

/-- A request for rows that data can describe. -/
structure Select.Legal (select : Select) : Prop where
  table : select.table.Legal
  limit : ∀ limit ∈ select.limit, limit.Valid
  oneFilter : ¬(select.predicate ≠ none ∧ select.predicateGroup ≠ none)

theorem Limit.valid_of_fieldHas {members : Members} {limit : Option Limit}
    (has : FieldHas members "limit" (some none) (orNull Limit.ofJson) limit) :
    ∀ page ∈ limit, page.Valid := by
  rintro page rfl
  unfold FieldHas at has
  split at has
  · rename_i data _
    cases data with
    | null => cases has
    | _ =>
      obtain ⟨_, read, same⟩ := map_eq_valid.mp has
      exact Option.some.inj same ▸ (Limit.ofJson_eq_valid.mp read).2
  · cases has

theorem Table.legal_of_fieldHas {members : Members} {table : Table}
    (has : FieldHas members "table" none Table.ofJson table) : table.Legal := by
  unfold FieldHas at has
  split at has
  · exact Table.legal_of_ofJson has
  · cases has

namespace Select

theorem legal_of_ofJson {data : Json} {select : Select} (valid : ofJson data = .valid select) :
    select.Legal := by
  cases data with
  | obj members =>
    obtain ⟨⟨described, -⟩, oneFilter⟩ := ofJson_eq_valid.mp valid
    exact ⟨Table.legal_of_fieldHas described.table, Limit.valid_of_fieldHas described.limit,
      oneFilter⟩
  | _ => cases valid

theorem ofJson_toJson {select : Select} (legal : select.Legal) :
    ofJson select.toJson = .valid select := by
  refine ofJson_eq_valid.mpr ⟨⟨⟨?_, ?_, ?_, ?_, ?_, ?_⟩, .of_names rfl⟩, legal.oneFilter⟩
  · exact .of_lookup rfl (Table.ofJson_toJson legal.table)
  · exact .of_lookup rfl (list_textList select.columns)
  · exact .of_lookup rfl (orNull_writtenOrNull (fun predicate _ ↦ predicate.ofJson_toJson)
      fun _ _ ↦ Json.noConfusion)
  · exact .of_lookup rfl (orNull_writtenOrNull (fun group _ ↦ group.ofJson_toJson)
      fun _ _ ↦ Json.noConfusion)
  · exact .of_lookup rfl (orNull_writtenOrNull
      (fun limit mem ↦ Limit.ofJson_toJson (legal.limit limit mem)) fun _ _ ↦ Json.noConfusion)
  · exact .of_lookup rfl (orNull_writtenOrNull (fun order _ ↦ order.ofJson_toJson)
      fun _ _ ↦ Json.noConfusion)

end Select

/-! ### Rows -/

theorem checkValues_eq_ok {operation : Text} {table : Table} {values : OrderedMap Text} :
    checkValues operation table values = .ok () ↔ values.entries ≠ [] := by
  unfold checkValues OrderedMap.isEmpty
  split <;> simp_all

theorem checkKey_eq_ok {operation key : Text} {table : Table} :
    checkKey operation table key = .ok () ↔ key ≠ [] := by
  unfold checkKey
  split <;> simp_all

/-- A rule is passed before the next one. -/
theorem bind_eq_ok {α : Type} {check : Except Error Unit} {next : Except Error α} {result : α} :
    (check >>= fun _ ↦ next) = .ok result ↔ check = .ok () ∧ next = .ok result := by
  cases check with
  | ok value => exact (and_iff_right rfl).symm
  | error error => exact iff_of_false (by rintro ⟨⟩) (by rintro ⟨⟨⟩, -⟩)

namespace Insert

/-- A row to add that data can describe. -/
structure Legal (insert : Insert) : Prop where
  table : insert.table.Legal
  values : insert.values.entries ≠ []

theorem ofJson_eq_valid {members : Members} {insert : Insert} :
    ofJson (.obj members) = .valid insert ↔
      (FieldHas members "table" none Table.ofJson insert.table ∧
        FieldHas members "values" none (Intake.map text) insert.values) ∧
      OnlyFields members ["table", "values"] ∧ insert.values.entries ≠ [] := by
  have read : ofJson (.obj members) = (closed members ["table", "values"]
      (Insert.mk <$> field members "table" Table.ofJson <*>
        field members "values" (Intake.map text))).andThen
      (Checked.ofExcept ∘ fun insert ↦
        checkValues "Insert" insert.table insert.values >>= fun _ ↦ .ok insert) := rfl
  have passes (found result : Insert) :
      (checkValues "Insert" found.table found.values >>= fun _ ↦ .ok found) = .ok result ↔
        found = result ∧ found.values.entries ≠ [] := by
    rw [bind_eq_ok, checkValues_eq_ok, Except.ok.injEq, and_comm]
  rw [read, andThen_rule_eq_valid passes, closed_eq_valid (by decide), map₂_eq_valid, and_assoc]
  refine and_congr_left fun _ ↦ ⟨?_, fun ⟨table, values⟩ ↦
    ⟨_, _, field_eq_valid.mpr table, field_eq_valid.mpr values, rfl⟩⟩
  rintro ⟨_, _, table, values, rfl⟩
  exact ⟨field_eq_valid.mp table, field_eq_valid.mp values⟩

theorem legal_of_ofJson {data : Json} {insert : Insert} (valid : ofJson data = .valid insert) :
    insert.Legal := by
  cases data with
  | obj members =>
    obtain ⟨⟨table, -⟩, -, values⟩ := ofJson_eq_valid.mp valid
    exact ⟨Table.legal_of_fieldHas table, values⟩
  | _ => cases valid

theorem ofJson_toJson {insert : Insert} (legal : insert.Legal) :
    ofJson insert.toJson = .valid insert :=
  ofJson_eq_valid.mpr ⟨⟨.of_lookup rfl (Table.ofJson_toJson legal.table),
    .of_lookup rfl (map_rowToJson insert.values)⟩, .of_names rfl, legal.values⟩

end Insert

namespace Update

/-- A change of a row that data can describe. -/
structure Legal (update : Update) : Prop where
  table : update.table.Legal
  id : update.id ≠ []
  values : update.values.entries ≠ []

theorem ofJson_eq_valid {members : Members} {update : Update} :
    ofJson (.obj members) = .valid update ↔
      (FieldHas members "table" none Table.ofJson update.table ∧
        FieldHas members "id" none text update.id ∧
        FieldHas members "values" none (Intake.map text) update.values) ∧
      OnlyFields members ["table", "id", "values"] ∧
        update.id ≠ [] ∧ update.values.entries ≠ [] := by
  have read : ofJson (.obj members) = (closed members ["table", "id", "values"]
      (Update.mk <$> field members "table" Table.ofJson <*> field members "id" text <*>
        field members "values" (Intake.map text))).andThen
      (Checked.ofExcept ∘ fun update ↦ checkKey "Update" update.table update.id >>= fun _ ↦
        checkValues "Update" update.table update.values >>= fun _ ↦ .ok update) := rfl
  have passes (found result : Update) :
      (checkKey "Update" found.table found.id >>= fun _ ↦
        checkValues "Update" found.table found.values >>= fun _ ↦ .ok found) = .ok result ↔
        found = result ∧ found.id ≠ [] ∧ found.values.entries ≠ [] := by
    rw [bind_eq_ok, bind_eq_ok, checkKey_eq_ok, checkValues_eq_ok, Except.ok.injEq, and_comm,
      and_assoc, and_left_comm, and_comm (a := found.values.entries ≠ [])]
  rw [read, andThen_rule_eq_valid passes, closed_eq_valid (by decide), seq_eq_valid, and_assoc]
  refine and_congr_left fun _ ↦ ⟨?_, fun ⟨table, id, values⟩ ↦ ⟨_, _, map₂_eq_valid.mpr
    ⟨_, _, field_eq_valid.mpr table, field_eq_valid.mpr id, rfl⟩, field_eq_valid.mpr values, rfl⟩⟩
  rintro ⟨_, _, tableAndId, values, rfl⟩
  obtain ⟨_, _, table, id, rfl⟩ := map₂_eq_valid.mp tableAndId
  exact ⟨field_eq_valid.mp table, field_eq_valid.mp id, field_eq_valid.mp values⟩

theorem legal_of_ofJson {data : Json} {update : Update} (valid : ofJson data = .valid update) :
    update.Legal := by
  cases data with
  | obj members =>
    obtain ⟨⟨table, -, -⟩, -, id, values⟩ := ofJson_eq_valid.mp valid
    exact ⟨Table.legal_of_fieldHas table, id, values⟩
  | _ => cases valid

theorem ofJson_toJson {update : Update} (legal : update.Legal) :
    ofJson update.toJson = .valid update :=
  ofJson_eq_valid.mpr ⟨⟨.of_lookup rfl (Table.ofJson_toJson legal.table), .of_lookup rfl rfl,
    .of_lookup rfl (map_rowToJson update.values)⟩, .of_names rfl, legal.id, legal.values⟩

end Update

namespace Delete

/-- A removal of a row that data can describe. -/
structure Legal (delete : Delete) : Prop where
  table : delete.table.Legal
  id : delete.id ≠ []

theorem ofJson_eq_valid {members : Members} {delete : Delete} :
    ofJson (.obj members) = .valid delete ↔
      (FieldHas members "table" none Table.ofJson delete.table ∧
        FieldHas members "id" none text delete.id) ∧
      OnlyFields members ["table", "id"] ∧ delete.id ≠ [] := by
  have read : ofJson (.obj members) = (closed members ["table", "id"]
      (Delete.mk <$> field members "table" Table.ofJson <*> field members "id" text)).andThen
      (Checked.ofExcept ∘ fun delete ↦
        checkKey "Delete" delete.table delete.id >>= fun _ ↦ .ok delete) := rfl
  have passes (found result : Delete) :
      (checkKey "Delete" found.table found.id >>= fun _ ↦ .ok found) = .ok result ↔
        found = result ∧ found.id ≠ [] := by
    rw [bind_eq_ok, checkKey_eq_ok, Except.ok.injEq, and_comm]
  rw [read, andThen_rule_eq_valid passes, closed_eq_valid (by decide), map₂_eq_valid, and_assoc]
  refine and_congr_left fun _ ↦ ⟨?_, fun ⟨table, id⟩ ↦
    ⟨_, _, field_eq_valid.mpr table, field_eq_valid.mpr id, rfl⟩⟩
  rintro ⟨_, _, table, id, rfl⟩
  exact ⟨field_eq_valid.mp table, field_eq_valid.mp id⟩

theorem legal_of_ofJson {data : Json} {delete : Delete} (valid : ofJson data = .valid delete) :
    delete.Legal := by
  cases data with
  | obj members =>
    obtain ⟨⟨table, -⟩, -, id⟩ := ofJson_eq_valid.mp valid
    exact ⟨Table.legal_of_fieldHas table, id⟩
  | _ => cases valid

theorem ofJson_toJson {delete : Delete} (legal : delete.Legal) :
    ofJson delete.toJson = .valid delete :=
  ofJson_eq_valid.mpr ⟨⟨.of_lookup rfl (Table.ofJson_toJson legal.table), .of_lookup rfl rfl⟩,
    .of_names rfl, legal.id⟩

end Delete

/-! ### Calls -/

namespace Call

/-- A call that data can describe: it is what its name and its payload make. -/
def Legal (call : Call) : Prop :=
  make call.name call.payload = .valid call

theorem ofJson_toJson {call : Call} (legal : call.Legal) : ofJson call.toJson = .valid call :=
  (ofJson_fields call.name call.payload).trans legal

end Call

/-! ## Models -/

/-- A statement that data can describe. -/
def Statement.Legal : Statement → Prop
  | .select request => request.Legal
  | .insert request => request.Legal
  | .update request => request.Legal
  | .delete request => request.Legal
  | .call request => request.Legal

namespace Model

/-- A model that data can describe. -/
def Legal : Model → Prop
  | table model => model.Legal
  | limit model => model.Valid
  | statement model => model.Legal
  | column _ | predicate _ | group _ | order _ => True

/-- The name of the kind of a model. -/
def kindName : Model → String
  | column _ => "column"
  | table _ => "table"
  | predicate _ => "predicate"
  | group _ => "group"
  | limit _ => "limit"
  | order _ => "order"
  | statement (.select _) => "select"
  | statement (.insert _) => "insert"
  | statement (.update _) => "update"
  | statement (.delete _) => "delete"
  | statement (.call _) => "call"

/-- What is read under the name of a kind is of this kind, and legal. -/
theorem legal_of_ofJson? {kind : String} {data : Json} {model : Model}
    (valid : ofJson? kind data = some (.valid model)) : kind = model.kindName ∧ model.Legal := by
  have made {α : Type} {make : α → Model} {outcome : Checked α}
      (read : some (make <$> outcome) = some (.valid model)) :
      ∃ value, outcome = .valid value ∧ make value = model :=
    map_eq_valid.mp (Option.some.inj read)
  unfold ofJson? at valid
  split at valid
  · obtain ⟨_, -, rfl⟩ := made valid
    exact ⟨rfl, trivial⟩
  · obtain ⟨_, read, rfl⟩ := made valid
    exact ⟨rfl, Table.legal_of_ofJson read⟩
  · obtain ⟨_, -, rfl⟩ := made valid
    exact ⟨rfl, trivial⟩
  · obtain ⟨_, -, rfl⟩ := made valid
    exact ⟨rfl, trivial⟩
  · obtain ⟨_, read, rfl⟩ := made valid
    exact ⟨rfl, (Limit.ofJson_eq_valid.mp read).2⟩
  · obtain ⟨_, -, rfl⟩ := made valid
    exact ⟨rfl, trivial⟩
  · obtain ⟨_, read, rfl⟩ := made valid
    exact ⟨rfl, Select.legal_of_ofJson read⟩
  · obtain ⟨_, read, rfl⟩ := made valid
    exact ⟨rfl, Insert.legal_of_ofJson read⟩
  · obtain ⟨_, read, rfl⟩ := made valid
    exact ⟨rfl, Update.legal_of_ofJson read⟩
  · obtain ⟨_, read, rfl⟩ := made valid
    exact ⟨rfl, Delete.legal_of_ofJson read⟩
  · obtain ⟨_, read, rfl⟩ := made valid
    exact ⟨rfl, Call.make_of_ofJson read⟩
  · cases valid

/-- A legal model is read back from its written form. -/
theorem ofJson?_toJson {model : Model} (legal : model.Legal) :
    ofJson? model.kindName model.toJson = some (.valid model) := by
  have read {α : Type} {make : α → Model} {outcome : Checked α} {value : α}
      (back : outcome = .valid value) :
      some (make <$> outcome) = some (.valid (make value)) := by
    rw [back]
    rfl
  cases model with
  | column column => exact read column.ofJson_toJson
  | table table => exact read (Table.ofJson_toJson legal)
  | predicate predicate => exact read predicate.ofJson_toJson
  | group group => exact read group.ofJson_toJson
  | limit limit => exact read (Limit.ofJson_toJson legal)
  | order order => exact read order.ofJson_toJson
  | statement statement =>
    cases statement with
    | select select => exact read (Select.ofJson_toJson legal)
    | insert insert => exact read (Insert.ofJson_toJson legal)
    | update update => exact read (Update.ofJson_toJson legal)
    | delete delete => exact read (Delete.ofJson_toJson legal)
    | call call => exact read (Call.ofJson_toJson legal)

end Model

/-- Reading again what has been read changes nothing: a model of any kind that has been read from
some data is written as data of the same kind that reads as the model itself, with the values of a
row in their order, and so is an argument of a procedure. -/
theorem reading_idempotent :
    (∀ (kind : String) (data : Json) (model : Model),
      Model.ofJson? kind data = some (.valid model) →
        Model.ofJson? kind model.toJson = some (.valid model)) ∧
    ∀ (data : Json) (argument : Argument), Argument.ofJson data = .valid argument →
      Argument.ofJson argument.toJson = .valid argument := by
  refine ⟨fun kind data model valid ↦ ?_, fun _ argument _ ↦ argument.ofJson_toJson⟩
  obtain ⟨rfl, legal⟩ := Model.legal_of_ofJson? valid
  exact Model.ofJson?_toJson legal

/-- Data of a row to add in which little is given as it is kept. -/
def looseRow : Json :=
  .obj [("values", .obj [("name", .str "Ada"), ("age", .str "36")]),
    ("table", .obj [("primary_key", .int 0), ("name", .str "people"), ("schema", .str "app"),
      ("columns", .arr [.obj [("name", .str "age"), ("size", .str " +07 ")]])])]

/-- Data of an argument with a nested value, a place that is spelled out and a member that does not
count. -/
def looseArgument : Json :=
  .obj [("colour", .null), ("out", .str "No"), ("index", .str " +02 "),
    ("value", .arr [.int (-1), .bool true, .obj [("é", .null)]])]

/-- Loose data of a row and of an argument is read, and what is read reads as itself. -/
theorem reading_idempotent_trial :
    let column : Column := ⟨"age", "", some 7, none, none, true⟩
    let insert : Insert :=
      ⟨⟨"app", "people", "id", [column]⟩, .ofList [("name", "Ada"), ("age", "36")]⟩
    let argument : Argument :=
      ⟨some "[-1, true, \x7b\"\\u00e9\": null\x7d]", none, none, some 2, false⟩
    (Model.ofJson? "insert" looseRow = some (.valid (.statement (.insert insert))) ∧
      Model.ofJson? "insert" insert.toJson = some (.valid (.statement (.insert insert)))) ∧
    Argument.ofJson looseArgument = .valid argument ∧
      Argument.ofJson argument.toJson = .valid argument := by
  intro column insert argument
  have readRow : Model.ofJson? "insert" looseRow = some (.valid (.statement (.insert insert))) :=
    rfl
  have readArgument : Argument.ofJson looseArgument = .valid argument := by cbv
  exact ⟨⟨readRow, reading_idempotent.1 "insert" looseRow _ readRow⟩, readArgument,
    reading_idempotent.2 looseArgument _ readArgument⟩

end DialectSql
