import DialectSql.Number.Numeral
import DialectSql.Number.Shortest
import DialectSql.Text.Quoted

/-!
# JSON Values

The values of data that arrives as JSON.  Whole numbers are kept exactly, whatever their size;
objects keep their members in order of first appearance, one member to a name.  Beside the type
stand the forms in which a value is shown inside a message; they are meant for values whose whole
numbers can all be written.
-/

namespace DialectSql

/-- A JSON value. -/
inductive Json where
  | null
  | bool (value : Bool)
  | int (value : Int)
  | float (value : Number.Binary64)
  | str (text : Text)
  | arr (items : List Json)
  | obj (members : List (Text × Json))
  deriving Inhabited

namespace Json

/-- The member of the given name, if the value is an object that has it. -/
def member? (name : Text) : Json → Option Json
  | obj members => members.lookup name
  | _ => none

/-- Whether a value counts as absent: null, false, zero, or an empty text, array or object. -/
def isEmpty : Json → Bool
  | null => true
  | bool value => !value
  | int value => value == 0
  | float value => value.isZero
  | str text => text.isEmpty
  | arr items => items.isEmpty
  | obj members => members.isEmpty

mutual

/-- Whether all whole numbers in a value can be written. -/
def isWritable : Json → Bool
  | int value => Number.isWritable value
  | arr items => itemsWritable items
  | obj members => membersWritable members
  | _ => true

/-- Whether all whole numbers in the items can be written. -/
def itemsWritable : List Json → Bool
  | [] => true
  | item :: items => isWritable item && itemsWritable items

/-- Whether all whole numbers in the members can be written. -/
def membersWritable : List (Text × Json) → Bool
  | [] => true
  | (_, value) :: members => isWritable value && membersWritable members

end

mutual

/-- The form of a value nested in another: texts are quoted. -/
def inner : Json → Text
  | null => "None"
  | bool value => if value then "True" else "False"
  | int value => value.repr
  | float value => value.display
  | str text => Text.quoted text
  | arr [] => "[]"
  | arr (item :: items) => "[" ++ inner item ++ innerItems items ++ "]"
  | obj [] => "\x7b\x7d"
  | obj ((name, value) :: members) =>
    "\x7b" ++ Text.quoted name ++ ": " ++ inner value ++ innerMembers members ++ "\x7d"

/-- The items behind the first one. -/
def innerItems : List Json → Text
  | [] => ""
  | item :: items => ", " ++ inner item ++ innerItems items

/-- The members behind the first one. -/
def innerMembers : List (Text × Json) → Text
  | [] => ""
  | (name, value) :: members =>
    ", " ++ Text.quoted name ++ ": " ++ inner value ++ innerMembers members

end

/-- The form of a value shown on its own: a text stands for itself. -/
def display : Json → Text
  | str text => text
  | value => inner value

end Json

end DialectSql
