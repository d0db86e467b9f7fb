import DialectSql.Intake.Scalar

/-!
# Reading Records

A record is read field by field, in the order in which its type declares them; fields that the
type does not know come last.
-/

namespace DialectSql.Intake

/-- The members of the object that a record is read from. -/
abbrev Members := List (Text × Json)

/-- Whether a field is present. -/
def hasField (members : Members) (name : Text) : Bool :=
  (members.lookup name).isSome

/-- Reads a field that has to be present. -/
def field {α : Type} (members : Members) (name : Text) (read : Json → Checked α) :
    Checked α :=
  match members.lookup name with
  | some data => (read data).under (.field name)
  | none => .flawed [⟨[.field name], .missing⟩]

/-- Reads a field that has a value of its own where it is absent. -/
def fieldOr {α : Type} (members : Members) (name : Text) (absent : α)
    (read : Json → Checked α) : Checked α :=
  match members.lookup name with
  | some data => (read data).under (.field name)
  | none => .valid absent

/-- An issue for every member that is no field of the record, in the order of the data. -/
def noOthers (members : Members) (fields : List Text) : Checked Unit :=
  match members.filter fun member ↦ !fields.contains member.1 with
  | [] => .valid ()
  | others => .flawed (others.map fun member ↦ ⟨[.field member.1], .extraField⟩)

/-- The outcome of a record that has been read from the given members and has no other fields than
the given ones.  If the name of a member holds half of a surrogate pair, this is the only issue of
the record. -/
def closed {α : Type} (members : Members) (fields : List Text) (outcome : Checked α) :
    Checked α :=
  match outcome with
  | .refused error => .refused error
  | _ =>
    if members.any fun member ↦ member.1.hasHalf then .issue .loneSurrogate
    else outcome <* noOthers members fields

/-- Reads a record from an object. -/
def record {α : Type} (read : Members → Checked α) : Json → Checked α
  | .obj members => read members
  | _ => .issue .notRecord

end DialectSql.Intake
