import DialectSql.Proofs.Intake.Records
import DialectSql.Proofs.Json.RoundTrip
import DialectSql.Proofs.Json.WritableValues

/-!
# Domain Errors in Requests for Rows

Three parts of the data of a request for rows can hold a domain error: a table without a name or a
schema, a page out of bounds, and an ordering in no known direction.  A table and a page are judged
only if all their fields are valid; a direction is judged wherever it is a text.

The main statement is that issues never hide such an error.  Of several the first in the order of
the fields is reported, whatever else is wrong with the data.  Without one, any other fault of the
data is reported as an issue, and two filters are complained of only if nothing else is wrong.
-/

namespace DialectSql

open Intake Intake.Checked

/-! ## Faults of the parts -/

/-- Data of an ordering whose direction is a text that spells no direction. -/
inductive Order.DirectionFault : Json → Error → Prop
  | text {members : Members} {text : Text}
    (entry : members.lookup ("direction" : Text) = some (.str text))
    (notAscending : Text.upper (Text.strip text) ≠ "ASC")
    (notDescending : Text.upper (Text.strip text) ≠ "DESC") :
    DirectionFault (.obj members) (.unknownDirection text)

theorem Direction.ofName?_eq_none {text : Text} :
    ofName? text = none ↔ text ≠ "ASC" ∧ text ≠ "DESC" := by
  simp only [ofName?, List.find?_eq_none, List.forall_mem_cons, beq_iff_eq, Direction.name]
  exact and_congr (not_congr eq_comm) (by simp [eq_comm])

/-! ## Numbers of the parts -/

theorem Intake.FieldHas.isWritable {members : Members} {name : Text} {usual value : Int}
    (writable : Json.membersWritable members = true)
    (usualWritable : Number.isWritable usual = true)
    (has : FieldHas members name (some usual) integer value) :
    Number.isWritable value = true := by
  unfold FieldHas at has
  split at has
  · rename_i data entry
    exact isWritable_of_integer (Json.isWritable_of_lookup writable entry) has
  · cases has
    exact usualWritable

/-- Both numbers of a page can be written if all those of its data can. -/
theorem Limit.DescribedBy.isWritable {limit : Limit} {data : Json}
    (described : limit.DescribedBy data) (writable : data.isWritable = true) :
    Number.isWritable limit.start = true ∧ Number.isWritable limit.rows = true := by
  obtain ⟨start, rows, -⟩ := described
  rw [Json.isWritable] at writable
  exact ⟨start.isWritable writable (by decide), rows.isWritable writable (by decide)⟩

/-! ## Refusals of the parts -/

theorem Table.refusal?_ofJson {data : Json} {error : Error} :
    (ofJson data).refusal? = some error ↔
      ∃ table : Table, table.DescribedBy data ∧ table.NameFault error := by
  have accepted : (record ofFields data).refusal? = none :=
    (settles_record settles_ofFields data).refusal?_eq_none
  have worded {table : Table} (fault : table.NameFault error) : error ≠ .numeralTooLong := by
    cases fault <;> nofun
  rw [refusal?_eq_some, ofJson_eq, andThen_ofExcept_eq_refused, accepted]
  simp only [reduceCtorEq, false_or, ofFields_eq_valid, checkNames_eq_error]
  exact exists_congr fun table ↦ and_congr_right fun _ ↦ and_iff_left_of_imp worded

theorem Limit.refusal?_ofJson {data : Json} {error : Error} :
    (ofJson data).refusal? = some error ↔
      ∃ limit : Limit, limit.DescribedBy data ∧ limit.BoundFault error ∧
        error.isWritable = true := by
  have accepted : (record ofFields data).refusal? = none :=
    (settles_record settles_ofFields data).refusal?_eq_none
  rw [refusal?_eq_some, ofJson_eq, andThen_ofExcept_eq_refused, accepted]
  simp only [reduceCtorEq, false_or, ofFields_eq_valid, checkBounds_eq_error]
  refine exists_congr fun limit ↦ and_congr_right fun _ ↦ ⟨?_, ?_⟩
  · rintro ⟨⟨fault, isFault, met⟩, worded⟩
    obtain ⟨rfl, writable⟩ := (Error.raised_eq_iff worded).mp met
    exact ⟨isFault, writable⟩
  · rintro ⟨isFault, writable⟩
    exact ⟨⟨error, isFault, Error.raised_of_isWritable writable⟩, isFault.ne_numeralTooLong⟩

theorem Direction.refusal?_ofJson {data : Json} {error : Error} :
    (ofJson data).refusal? = some error ↔
      ∃ text, data = .str text ∧ ofName? (Text.upper (Text.strip text)) = none ∧
        error = .unknownDirection text := by
  cases data with
  | str text =>
    rw [ofJson]
    cases named : ofName? (Text.upper (Text.strip text)) <;> simp [refusal?, named, eq_comm]
  | _ => simp [ofJson, refusal?, issue]

theorem Order.refusal?_ofJson {data : Json} {error : Error} :
    (ofJson data).refusal? = some error ↔ DirectionFault data error := by
  constructor
  · intro refused
    cases data with
    | obj members =>
      have column : (field members "column" text).refusal? = none :=
        (settles_field settles_text).refusal?_eq_none
      simp only [ofJson, record, refusal?_closed, refusal?_seq, refusal?_map, column,
        Option.none_or, refusal?_fieldOr, Option.bind_eq_some_iff] at refused
      obtain ⟨_, entry, unknown⟩ := refused
      obtain ⟨text, rfl, unnamed, rfl⟩ := Direction.refusal?_ofJson.mp unknown
      obtain ⟨notAscending, notDescending⟩ := Direction.ofName?_eq_none.mp unnamed
      exact .text entry notAscending notDescending
    | _ => cases refused
  · rintro @⟨members, text, entry, notAscending, notDescending⟩
    have column : (field members "column" Intake.text).refusal? = none :=
      (settles_field settles_text).refusal?_eq_none
    have unknown := Direction.refusal?_ofJson.mpr ⟨text, rfl,
      Direction.ofName?_eq_none.mpr ⟨notAscending, notDescending⟩, rfl⟩
    simp only [ofJson, record, refusal?_closed, refusal?_seq, refusal?_map, column,
      Option.none_or, refusal?_fieldOr, entry, Option.bind_some, unknown]

/-- Null is never refused, so it makes no difference that a part may be null. -/
theorem Intake.refusal?_orNull {α : Type} {read : Json → Checked α}
    (null : (read .null).refusal? = none) (data : Json) :
    (orNull read data).refusal? = (read data).refusal? := by
  cases data with
  | null => exact null.symm
  | _ => exact refusal?_map some _

namespace Select

/-! ## Faults of a request -/

section
variable (members : Members) (error : Error)

/-- The data of the table has valid fields only, but the schema or the name is blank. -/
def TableFault : Prop :=
  ∃ data, ∃ table : Table, members.lookup ("table" : Text) = some data ∧ table.DescribedBy data ∧
    table.NameFault error

/-- The data of the page has valid fields only, but the page is out of bounds, by a number that can
be written. -/
def LimitFault : Prop :=
  ∃ data, ∃ limit : Limit, members.lookup ("limit" : Text) = some data ∧ limit.DescribedBy data ∧
    limit.BoundFault error ∧ error.isWritable = true

/-- The data of the ordering has a text as direction that spells none. -/
def OrderFault : Prop :=
  ∃ data, members.lookup ("order" : Text) = some data ∧ Order.DirectionFault data error

/-- No part of the data holds a domain error. -/
def Unfaulted : Prop :=
  ∀ error, ¬TableFault members error ∧ ¬LimitFault members error ∧ ¬OrderFault members error

end

variable {members : Members} {error : Error}

theorem refusal?_table :
    (field members "table" Table.ofJson).refusal? = some error ↔ TableFault members error := by
  simp only [refusal?_field, Option.bind_eq_some_iff, Table.refusal?_ofJson, TableFault,
    exists_and_left]

theorem refusal?_limit :
    (fieldOr members "limit" none (orNull Limit.ofJson)).refusal? = some error ↔
      LimitFault members error := by
  have null : (Limit.ofJson .null).refusal? = none := rfl
  simp only [refusal?_fieldOr, Option.bind_eq_some_iff, refusal?_orNull null,
    Limit.refusal?_ofJson, LimitFault, exists_and_left]

theorem refusal?_order :
    (fieldOr members "order" none (orNull Order.ofJson)).refusal? = some error ↔
      OrderFault members error := by
  have null : (Order.ofJson .null).refusal? = none := rfl
  simp only [refusal?_fieldOr, Option.bind_eq_some_iff, refusal?_orNull null,
    Order.refusal?_ofJson, OrderFault]

/-- The fields refuse a request in the order table, page and ordering. -/
theorem refusal?_fieldsOf (members : Members) :
    (fieldsOf members).refusal? =
      ((field members "table" Table.ofJson).refusal?.or
        (fieldOr members "limit" none (orNull Limit.ofJson)).refusal?).or
          (fieldOr members "order" none (orNull Order.ofJson)).refusal? := by
  have columns : (fieldOr members "columns" [] (list text)).refusal? = none :=
    (settles_fieldOr _ (settles_list settles_text)).refusal?_eq_none
  have predicate : (fieldOr members "predicate" none (orNull Predicate.ofJson)).refusal? = none :=
    (settles_fieldOr _ (settles_orNull Predicate.settles_ofJson)).refusal?_eq_none
  have group :
      (fieldOr members "predicate_group" none (orNull PredicateGroup.ofJson)).refusal? = none :=
    (settles_fieldOr _ (settles_orNull PredicateGroup.settles_ofJson)).refusal?_eq_none
  simp only [fieldsOf, refusal?_seq, refusal?_map, columns, predicate, group, Option.or_none]

theorem refusal?_fieldsOf_eq_none : (fieldsOf members).refusal? = none ↔ Unfaulted members := by
  rw [refusal?_fieldsOf, Option.or_eq_none_iff, Option.or_eq_none_iff]
  simp only [Option.eq_none_iff_forall_ne_some, ne_eq, refusal?_table, refusal?_limit,
    refusal?_order, Unfaulted, forall_and, and_assoc]

/-! ## Requests -/

theorem checkFilters_eq_error {select : Select} {error : Error} :
    select.checkFilters = .error error ↔
      (select.predicate ≠ none ∧ select.predicateGroup ≠ none) ∧
        error = .bothFilters select.table.qualifiedName := by
  unfold checkFilters
  simp only [Bool.and_eq_true, Option.isSome_iff_ne_none]
  split <;> simp_all [eq_comm]

/-- A request is refused by the first of its parts that holds a domain error, or for its filters. -/
theorem ofJson_eq_refused :
    ofJson (.obj members) = .refused error ↔
      (fieldsOf members).refusal? = some error ∨
        ∃ select : Select, (select.HasFields members ∧ OnlyFields members fieldNames) ∧
          select.checkFilters = .error error := by
  simp only [ofJson_obj, andThen_ofExcept_eq_refused, refusal?_closed, closed_fieldsOf_eq_valid]
  refine or_congr_right (exists_congr fun select ↦ and_congr_right fun _ ↦
    and_iff_left_of_imp fun refused ↦ ?_)
  obtain ⟨-, rfl⟩ := checkFilters_eq_error.mp refused
  nofun

/-- Data without a domain error in its parts is read, apart from the rule for filters, or it has
issues. -/
theorem ofJson_flawed (unfaulted : Unfaulted members)
    (other : ¬((∃ select : Select, select.HasFields members) ∧ OnlyFields members fieldNames)) :
    ∃ issues, issues ≠ [] ∧ ofJson (.obj members) = .flawed issues := by
  have accepted : (closed members fieldNames (fieldsOf members)).refusal? = none := by
    rw [refusal?_closed, refusal?_fieldsOf_eq_none.mpr unfaulted]
  rcases (settles_closed (settles_fieldsOf members)).valid_or_flawed accepted with
    ⟨select, valid⟩ | ⟨issues, some, flawed⟩
  · obtain ⟨described, only⟩ := closed_fieldsOf_eq_valid.mp valid
    exact absurd ⟨⟨select, described⟩, only⟩ other
  · exact ⟨issues, some, by rw [ofJson_obj, flawed]; rfl⟩

/-- In data that is read from a text every page out of bounds is a fault: all numbers of such data
can be written. -/
theorem limitFault_of_parse {text : Text} {data : Json} {limit : Limit}
    (read : Json.parse text = .ok (.obj members))
    (entry : members.lookup ("limit" : Text) = some data) (described : limit.DescribedBy data)
    (fault : limit.BoundFault error) : LimitFault members error := by
  have writable := described.isWritable
    (Json.isWritable_of_lookup (Json.isWritable_of_parse read) entry)
  refine ⟨data, limit, entry, described, fault, ?_⟩
  cases fault with
  | start => exact writable.1
  | rows => exact writable.2

/-- Domain errors in the data of a request for rows are never masked.  The outcome is the first of
them in the order table, page and ordering, whatever else is wrong with the data.  Where there is
none and a field is not valid or unknown, the outcome is a list of issues with at least one.  That
there are two filters is the outcome exactly where this is all that is wrong.  A page that is out of
bounds counts if the number that is wrong can be written, as every number can that comes from a
text. -/
theorem faults_unmasked (members : Members) :
    (∀ error, TableFault members error →
      ofJson (.obj members) = .refused error ∧ error.errorClass = .configuration) ∧
    (∀ error, (∀ other, ¬TableFault members other) → LimitFault members error →
      ofJson (.obj members) = .refused error ∧ error.errorClass = .invalidStatement) ∧
    (∀ error, (∀ other, ¬TableFault members other ∧ ¬LimitFault members other) →
      OrderFault members error →
        ofJson (.obj members) = .refused error ∧ error.errorClass = .invalidStatement) ∧
    (Unfaulted members →
      ¬((∃ select : Select, select.HasFields members) ∧ OnlyFields members fieldNames) →
        ∃ issues, issues ≠ [] ∧ ofJson (.obj members) = .flawed issues) ∧
    (∀ table, ofJson (.obj members) = .refused (.bothFilters table) ↔
      Unfaulted members ∧ OnlyFields members fieldNames ∧
        ∃ select : Select, select.HasFields members ∧
          (select.predicate ≠ none ∧ select.predicateGroup ≠ none) ∧
            table = select.table.qualifiedName) ∧
    ∀ text, Json.parse text = .ok (.obj members) → ∀ data, ∀ limit : Limit,
      members.lookup ("limit" : Text) = some data → limit.DescribedBy data → ¬limit.Valid →
        ∃ error, LimitFault members error := by
  refine ⟨fun error fault ↦ ?_, fun error noTable fault ↦ ?_, fun error neither fault ↦ ?_,
    ofJson_flawed, fun table ↦ ⟨fun refused ↦ ?_, ?_⟩, ?_⟩
  · refine ⟨ofJson_eq_refused.mpr (.inl ?_), ?_⟩
    · rw [refusal?_fieldsOf, refusal?_table.mpr fault]
      rfl
    · obtain ⟨_, _, _, _, _ | _⟩ := fault <;> rfl
  · have table : (field members "table" Table.ofJson).refusal? = none :=
      Option.eq_none_iff_forall_ne_some.mpr fun other ↦ mt refusal?_table.mp (noTable other)
    refine ⟨ofJson_eq_refused.mpr (.inl ?_), ?_⟩
    · rw [refusal?_fieldsOf, table, refusal?_limit.mpr fault]
      rfl
    · obtain ⟨_, _, _, _, _ | _, -⟩ := fault <;> rfl
  · have table : (field members "table" Table.ofJson).refusal? = none :=
      Option.eq_none_iff_forall_ne_some.mpr fun other ↦ mt refusal?_table.mp (neither other).1
    have limit : (fieldOr members "limit" none (orNull Limit.ofJson)).refusal? = none :=
      Option.eq_none_iff_forall_ne_some.mpr fun other ↦ mt refusal?_limit.mp (neither other).2
    refine ⟨ofJson_eq_refused.mpr (.inl ?_), ?_⟩
    · rw [refusal?_fieldsOf, table, limit, refusal?_order.mpr fault]
      rfl
    · obtain ⟨_, _, _, _, _⟩ := fault
      rfl
  · obtain inParts | ⟨select, ⟨described, only⟩, both⟩ := ofJson_eq_refused.mp refused
    · -- No part complains of filters.
      rw [refusal?_fieldsOf, Option.or_eq_some_iff, Option.or_eq_some_iff] at inParts
      obtain (inTable | ⟨-, inLimit⟩) | ⟨-, inOrder⟩ := inParts
      · obtain ⟨_, _, _, _, ⟨⟩⟩ := refusal?_table.mp inTable
      · obtain ⟨_, _, _, _, ⟨⟩, -⟩ := refusal?_limit.mp inLimit
      · obtain ⟨_, _, ⟨⟩⟩ := refusal?_order.mp inOrder
    · obtain ⟨filters, named⟩ := checkFilters_eq_error.mp both
      have accepted : (fieldsOf members).refusal? = none := by
        rw [fieldsOf_eq_valid.mpr described]
        rfl
      exact ⟨refusal?_fieldsOf_eq_none.mp accepted, only, select, described, filters,
        Error.bothFilters.inj named⟩
  · rintro ⟨-, only, select, described, filters, rfl⟩
    exact ofJson_eq_refused.mpr (.inr ⟨select, ⟨described, only⟩,
      checkFilters_eq_error.mpr ⟨filters, rfl⟩⟩)
  · intro text read data limit entry described invalid
    obtain ⟨error, fault⟩ := Limit.exists_boundFault invalid
    exact ⟨error, limitFault_of_parse read entry described fault⟩

/-- Data without a table, in which the page has no rows and the direction is unknown. -/
def emptyPageMembers : Members :=
  [("order", .obj [("direction", .str " up ")]), ("limit", .obj [("rows", .bool false)]),
    ("colour", .null)]

/-- Data with both kinds of filter. -/
def twoFilterMembers : Members :=
  [("table", .obj [("schema", .str "app"), ("name", .str "people")]),
    ("predicate", .obj [("column", .str "name")]), ("predicate_group", .obj [])]

/-- The data with an empty page, also read from its text, is refused for the page; the data with two
filters is refused for them, unless something else is wrong with it. -/
theorem faults_unmasked_trial :
    (∃ error, LimitFault emptyPageMembers error) ∧
    (LimitFault emptyPageMembers (.nonPositiveRows 0) ∧
      ofJson (.obj emptyPageMembers) = .refused (.nonPositiveRows 0)) ∧
    (Unfaulted twoFilterMembers ∧
      ofJson (.obj twoFilterMembers) = .refused (.bothFilters "app.people")) ∧
    ∃ issues, issues ≠ [] ∧
      ofJson (.obj (("colour", .null) :: twoFilterMembers)) = .flawed issues := by
  have noTable (other : Error) : ¬TableFault emptyPageMembers other := by
    rintro ⟨_, _, ⟨⟩, -⟩
  have described : (⟨0, 0⟩ : Limit).DescribedBy (.obj [("rows", .bool false)]) :=
    .fields rfl (.of_lookup rfl rfl) (by decide)
  have page : LimitFault emptyPageMembers (.nonPositiveRows 0) :=
    ⟨_, _, rfl, described, .rows (by decide) (by decide), by decide⟩
  have unfaulted : Unfaulted twoFilterMembers := refusal?_fieldsOf_eq_none.mp rfl
  let filtered : Select :=
    ⟨⟨"app", "people", "id", []⟩, [], some ⟨"name", .equals, []⟩, some ⟨[]⟩, none, none⟩
  have hasFields : filtered.HasFields twoFilterMembers := fieldsOf_eq_valid.mp rfl
  obtain ⟨-, limit, -, -, -, read⟩ := faults_unmasked emptyPageMembers
  obtain ⟨-, -, -, -, filters, -⟩ := faults_unmasked twoFilterMembers
  obtain ⟨-, -, -, flawed, -, -⟩ := faults_unmasked (("colour", .null) :: twoFilterMembers)
  have exact : (Json.obj emptyPageMembers).Exact := by
    refine .obj (by decide) (by decide) ?_
    simp only [emptyPageMembers, List.forall_mem_cons]
    exact ⟨.obj (by decide) (by decide) (List.forall_mem_singleton.mpr (.str (by decide))),
      .obj (by decide) (by decide) (List.forall_mem_singleton.mpr (.bool false)), .null,
      List.forall_mem_nil _⟩
  refine ⟨read _ exact.parse_write _ _ rfl described (by decide), ⟨page, (limit _ noTable page).1⟩,
    ⟨unfaulted, (filters _).mpr ?_⟩, flawed ?_ ?_⟩
  · exact ⟨unfaulted, by decide, filtered, hasFields, by decide, rfl⟩
  · exact refusal?_fieldsOf_eq_none.mp rfl
  · exact fun ⟨_, only⟩ ↦ absurd only (by decide)

end Select

end DialectSql
