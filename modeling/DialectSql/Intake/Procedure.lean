import DialectSql.Intake.Record
import DialectSql.Json.Writer
import DialectSql.Statement

/-!
# Reading Procedure Calls

A call is read from a procedure name and a payload, the JSON text of an array.  An object in the
array describes an argument; anything else is the value of one.  Values that are themselves arrays
or objects are bound as JSON text.  A value that holds a number with too many digits has no text.
-/

namespace DialectSql

open Intake

namespace Argument

/-- The text that is bound for a value. -/
def spelling : Json → Text
  | .arr items => (Json.arr items).write
  | .obj members => (Json.obj members).write
  | scalar => scalar.display

/-- Reads the value of an argument as the text that is bound for it. -/
def valueOfJson : Json → Checked (Option Text)
  | .null => .valid none
  | .str text => .valid (some text)
  | value =>
    if value.isWritable then .valid (some (spelling value)) else .issue .oversizedNumber

/-- Reads an argument from an object that describes it, whose other members do not count. -/
def ofMembers (members : Members) : Checked Argument :=
  Argument.mk <$> fieldOr members "value" none valueOfJson
    <*> fieldOr members "name" none (orNull text)
    <*> fieldOr members "type" none (orNull text)
    <*> fieldOr members "index" none (orNull integer)
    <*> fieldOr members "out" false boolean

/-- Reads one item of a payload. -/
def ofJson : Json → Checked Argument
  | .obj members => ofMembers members
  | data => ofMembers [("value", data)]

/-- Reads the items of a payload up to the first one that has an issue. -/
def listOfJson : List Json → Checked (List Argument)
  | [] => .valid []
  | item :: items =>
    (ofJson item).andThen fun argument ↦
      (listOfJson items).andThen fun arguments ↦ .valid (argument :: arguments)

end Argument

namespace Call

/-- What a fault in the payload means for the call. -/
def payloadFault (name : Text) (payload : Text) : Json.Fault → Checked Json
  | .malformed complaint left =>
    .refused (.payloadMalformed name complaint (Json.placeLeft payload left))
  | .oversizedNumber => .issue .oversizedNumber

/-- Reads the payload as JSON; a blank one stands for an empty array. -/
def payloadValue (name payload : Text) : Checked Json :=
  if Text.isBlankText payload then .valid (.arr [])
  else
    match Json.parse payload with
    | .ok value => .valid value
    | .error fault => payloadFault name payload fault

/-- Reads the arguments that a payload lists, in the order of the list. -/
def listedArguments (name payload : Text) : Checked (List Argument) :=
  (payloadValue name payload).andThen fun
    | .arr items => Argument.listOfJson items
    | _ => .refused (.payloadNotArray name)

/-- The call of the given name and payload. -/
def make (name payload : Text) : Checked Call :=
  if Text.isBlankText name then .refused .procedureNameMissing
  else
    (listedArguments name payload).andThen fun arguments ↦
      .valid ⟨name, payload, Argument.callOrder arguments⟩

/-- Reads a call. -/
def ofJson (data : Json) : Checked Call :=
  let read : Json → Checked (Text × Text) := record fun members ↦
    closed members ["name", "payload"] <|
      Prod.mk <$> field members "name" text
        <*> fieldOr members "payload" "[]" text
  (read data).andThen fun (name, payload) ↦ make name payload

end Call

end DialectSql
