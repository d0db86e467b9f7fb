import DialectSql.Proofs.Json.RoundTrip
import DialectSql.Proofs.Json.WritableValues
import DialectSql.Proofs.Procedure.CallOrder

/-!
# Arrays and Objects as Arguments

An argument whose value is an array or an object is bound as JSON text.  The main statement is that
nothing is lost on the way: the text that is bound holds ASCII characters only and reads as the
value that the payload gave.  In the other direction, the text of any list of arrays is a payload,
and its arguments are bound as texts that read as the arrays.

Numbers with a fraction or an exponent are left out, and so are halves of surrogate pairs.
-/

namespace DialectSql

open Intake

/-! ## Values of arguments -/

namespace Json

/-- An array or an object. -/
inductive IsNested : Json → Prop
  | arr (items : List Json) : IsNested (.arr items)
  | obj (members : List (Text × Json)) : IsNested (.obj members)

theorem Exact.isWritable {item : Json} (exact : Exact item) : item.isWritable = true := by
  induction exact with
  | int short => exact decide_eq_true short
  | arr _ ih => exact itemsWritable_iff.mpr ih
  | obj _ _ _ ih => exact membersWritable_iff.mpr ih
  | _ => rfl

end Json

namespace Argument

/-- An item of a payload gives its argument an array or an object: the item is the array itself, or
it describes an argument that goes in and has the array or the object as its value. -/
inductive Carries (argument : Argument) : Json → Json → Prop
  | bare (items : List Json) : Carries argument (.arr items) (.arr items)
  | member {members : Members} {value : Json} (entry : members.lookup ("value" : Text) = some value)
      (nested : value.IsNested) (goesIn : argument.out = false) :
    Carries argument (.obj members) value

theorem valueOfJson_nested {value : Json} (nested : value.IsNested)
    (writable : value.isWritable = true) : valueOfJson value = .valid (some value.write) := by
  cases nested <;> exact if_pos writable

theorem ofJson_array {items : List Json} (writable : (Json.arr items).isWritable = true) :
    ofJson (.arr items) = .valid ⟨some (Json.arr items).write, none, none, none, false⟩ := by
  have value : fieldOr [("value", .arr items)] "value" none valueOfJson =
      .valid (some (Json.arr items).write) :=
    fieldOr_eq_valid.mpr (.of_lookup rfl (valueOfJson_nested (.arr items) writable))
  change ofMembers [("value", .arr items)] = _
  rw [ofMembers, value]
  rfl

theorem fieldOr_of_ofMembers {members : Members} {argument : Argument}
    (read : ofMembers members = .valid argument) :
    fieldOr members "value" none valueOfJson = .valid argument.value := by
  -- The fields are read from left to right, so reading is taken apart from the last one on.
  obtain ⟨_, _, toIndex, -, rfl⟩ := Checked.seq_eq_valid.mp read
  obtain ⟨_, _, toType, -, rfl⟩ := Checked.seq_eq_valid.mp toIndex
  obtain ⟨_, _, toName, -, rfl⟩ := Checked.seq_eq_valid.mp toType
  obtain ⟨_, _, toValue, -, rfl⟩ := Checked.seq_eq_valid.mp toName
  obtain ⟨value, found, rfl⟩ := Checked.map_eq_valid.mp toValue
  exact found

theorem Carries.bound {item value : Json} {argument : Argument}
    (carries : argument.Carries item value) (writable : value.isWritable = true)
    (read : ofJson item = .valid argument) : argument.bound = some value.write := by
  cases carries with
  | bare items =>
    rw [ofJson_array writable] at read
    cases read
    rfl
  | member entry nested goesIn =>
    have value := fieldOr_of_ofMembers read
    rw [fieldOr_eq_valid, fieldHas_of_lookup entry, valueOfJson_nested nested writable,
      Checked.valid.injEq] at value
    rw [Argument.bound, goesIn, ← value]
    rfl

end Argument

namespace Sql

/-- What is bound conveys a value: it is a text of ASCII characters that reads as the value. -/
def Bind.Conveys (bind : Bind) (value : Json) : Prop :=
  ∃ text : Text, bind = .text text ∧ text.Within Text.isAscii ∧ Json.parse text = .ok value

theorem conveys_write {value : Json} (exact : value.Exact) :
    (Bind.ofText? (some value.write)).Conveys value :=
  ⟨value.write, rfl, exact.within_write, exact.parse_write⟩

end Sql

/-! ## Payloads -/

namespace Call

/-- What a payload that is accepted reads as: an array with one item for each argument. -/
theorem Lists.payloadValue {payload : Text} {listed : List Argument} (lists : Lists payload listed)
    (name : Text) :
    ∃ items, payloadValue name payload = .valid (.arr items) ∧
      List.Forall₂ (fun item argument ↦ Argument.ofJson item = .valid argument) items listed := by
  unfold Lists at lists
  unfold Call.payloadValue
  split_ifs at lists ⊢ with blank
  · exact ⟨[], rfl, lists ▸ .nil⟩
  · obtain ⟨items, read, arguments⟩ := lists
    rw [read]
    exact ⟨items, rfl, arguments⟩

/-- The argument whose value is the given array. -/
def arrayArgument (items : List Json) : Argument :=
  ⟨some (Json.arr items).write, none, none, none, false⟩

theorem callOrder_arrayArguments (arrays : List (List Json)) :
    Argument.callOrder (arrays.map arrayArgument) = arrays.map arrayArgument := by
  cases arrays with
  | nil => simp [Argument.callOrder]
  | cons items arrays =>
    exact Argument.callOrder_of_unindexed ⟨arrayArgument items, List.mem_cons_self, rfl⟩

/-- The text of a list of arrays lists an argument for each of them. -/
theorem lists_arrays {arrays : List (List Json)}
    (exact : ∀ items ∈ arrays, (Json.arr items).Exact) :
    Lists (Json.arr (arrays.map .arr)).write (arrays.map arrayArgument) := by
  have whole : (Json.arr (arrays.map .arr)).Exact := by
    apply Json.Exact.arr
    simpa using exact
  have visible : Text.isBlankText (Json.arr (arrays.map .arr)).write = false := by
    cases arrays <;> rfl
  rw [Lists, if_neg (by simp [visible])]
  refine ⟨arrays.map .arr, whole.parse_write, ?_⟩
  rw [List.forall₂_map_left_iff, List.forall₂_map_right_iff, List.forall₂_same]
  exact fun items mem ↦ Argument.ofJson_array (exact items mem).isWritable

end Call

/-- A call that is made has an argument for each item that its payload reads as.  An argument that
goes in and has an array or an object as its value, or an array instead of a description, is bound
as a text of ASCII characters that reads as this array or object.  Conversely the text of a list of
arrays is accepted as a payload, and the arguments are bound in order as texts that read as the
arrays. -/
theorem nested_values_survive (dialect : Sql.Dialect) :
    (∀ (data : Json) (call : Call), Call.ofJson data = .valid call → ∃ items listed compiled,
      Call.payloadValue call.name call.payload = .valid (.arr items) ∧
      call.arguments = Argument.callOrder listed ∧
      dialect.render (.call call) = .ok compiled ∧
      compiled.params = call.arguments.map (fun argument ↦ Sql.Bind.ofText? argument.bound) ∧
      List.Forall₂ (fun item argument ↦ Argument.ofJson item = .valid argument ∧
        ∀ value, value.Exact → argument.Carries item value →
          (Sql.Bind.ofText? argument.bound).Conveys value) items listed) ∧
    (∀ (name : Text) (arrays : List (List Json)), Text.isBlankText name = false →
      (∀ items ∈ arrays, (Json.arr items).Exact) → ∃ call compiled,
        Call.ofJson (.obj [("name", .str name),
          ("payload", .str (Json.arr (arrays.map .arr)).write)]) = .valid call ∧
        dialect.render (.call call) = .ok compiled ∧
        List.Forall₂ Sql.Bind.Conveys compiled.params (arrays.map .arr)) := by
  constructor
  · intro data call read
    obtain ⟨-, listed, lists, same⟩ := Call.make_eq_valid.mp (Call.make_of_ofJson read)
    obtain ⟨items, payload, arguments⟩ := lists.payloadValue call.name
    refine ⟨items, listed, _, payload, congrArg Call.arguments same, rfl,
      Sql.binds_callFragment call, arguments.imp fun item argument read ↦ ⟨read, ?_⟩⟩
    intro value exact carries
    rw [carries.bound exact.isWritable read]
    exact Sql.conveys_write exact
  · intro name arrays visible exact
    let payload : Text := (Json.arr (arrays.map .arr)).write
    let call : Call := ⟨name, payload, arrays.map Call.arrayArgument⟩
    have made : Call.make name payload = .valid call := by
      apply Call.make_eq_valid.mpr
      refine ⟨visible, _, Call.lists_arrays exact, ?_⟩
      rw [Call.callOrder_arrayArguments]
    refine ⟨call, _, (Call.ofJson_fields name payload).trans made, rfl, ?_⟩
    change List.Forall₂ Sql.Bind.Conveys (Sql.callFragment call).binds (arrays.map .arr)
    rw [Sql.binds_callFragment, List.map_map, List.forall₂_map_left_iff,
      List.forall₂_map_right_iff, List.forall₂_same]
    exact fun items mem ↦ Sql.conveys_write (exact items mem)

/-- A call with one object as an argument, in which a text holds characters beyond ASCII. -/
def importPayload : Text :=
  "[\x7b\"value\": \x7b\"tags\": [\"é😀\", -3]\x7d, \"index\": 1\x7d]"

theorem import_conveys :
    (∃ call compiled bind,
      Call.ofJson (.obj [("name", .str "import"), ("payload", .str importPayload)]) =
        .valid call ∧
      (⟨"derby", .offsetFetch, .none⟩ : Sql.Dialect).render (.call call) = .ok compiled ∧
      compiled.params = [bind] ∧
      bind.Conveys (.obj [("tags", .arr [.str "é😀", .int (-3)])])) ∧
    ∃ call compiled,
      Call.ofJson (.obj [("name", .str "import"),
        ("payload", .str (Json.arr [.arr [.null], .arr []]).write)]) = .valid call ∧
      (⟨"derby", .offsetFetch, .none⟩ : Sql.Dialect).render (.call call) = .ok compiled ∧
      List.Forall₂ Sql.Bind.Conveys compiled.params [.arr [.null], .arr []] := by
  let value : Json := .obj [("tags", .arr [.str "é😀", .int (-3)])]
  let item : Json := .obj [("value", value), ("index", .int 1)]
  let argument : Argument := ⟨some value.write, none, none, some 1, false⟩
  have parsed : Json.parse importPayload = .ok (.arr [item]) := by cbv
  have lists : Call.Lists importPayload [argument] := by
    rw [Call.Lists, if_neg (by decide)]
    exact ⟨_, parsed, .cons rfl .nil⟩
  have read : Call.ofJson (.obj [("name", .str "import"), ("payload", .str importPayload)]) =
      .valid ⟨"import", importPayload, Argument.callOrder [argument]⟩ :=
    (Call.ofJson_fields ..).trans (Call.make_eq_valid.mpr ⟨by decide, [argument], lists, rfl⟩)
  have tags : (Json.arr [.str "é😀", .int (-3)]).Exact :=
    .arr (List.forall_mem_cons.mpr ⟨.str (by decide), List.forall_mem_singleton.mpr
      (.int (by decide))⟩)
  have exact : value.Exact := .obj (by decide) (by decide) (List.forall_mem_singleton.mpr tags)
  obtain ⟨carried, written⟩ := nested_values_survive ⟨"derby", .offsetFetch, .none⟩
  obtain ⟨items, listed, compiled, payload, ordered, rendered, params, each⟩ := carried _ _ read
  have decoded : Call.payloadValue "import" importPayload = .valid (.arr [item]) := by
    rw [Call.payloadValue, if_neg (by decide), parsed]
  obtain rfl : [item] = items := Json.arr.inj (Checked.valid.inj (decoded.symm.trans payload))
  obtain ⟨first, others, ⟨readFirst, conveys⟩, -, rfl⟩ := List.forall₂_cons_left_iff.mp each
  obtain rfl : argument = first := Checked.valid.inj readFirst
  have nullExact : (Json.arr [.null]).Exact := .arr (List.forall_mem_singleton.mpr .null)
  have noneExact : (Json.arr []).Exact := .arr (List.forall_mem_nil _)
  refine ⟨⟨_, compiled, _, read, rendered, ?_, conveys value exact (.member rfl (.obj _) rfl)⟩,
    written "import" [[.null], []] (by decide)
      (List.forall_mem_cons.mpr ⟨nullExact, List.forall_mem_singleton.mpr noneExact⟩)⟩
  rw [params]
  simp [Argument.callOrder]

end DialectSql
