import DialectSql.Json.Value

/-!
# Writing JSON

The canonical text of a value: ASCII only, a blank behind every comma and colon, members in order.
Code points outside ASCII are escaped as UTF-16 units, so characters beyond the basic plane take a
surrogate pair, and half of a pair stands for itself.
-/

namespace DialectSql.Json

/-- One UTF-16 unit as an escape. -/
def escapeUnit (unit : Nat) : Text :=
  "\\u" ++ Text.hexDigits 4 unit

/-- The UTF-16 units of a code point. -/
def units (code : Nat) : List Nat :=
  if code < 0x10000 then [code]
  else [0xD800 + (code - 0x10000) / 0x400, 0xDC00 + (code - 0x10000) % 0x400]

/-- One code point inside a written text. -/
def escapePoint (point : CodePoint) : Text :=
  if point = '"' then "\\\""
  else if point = '\\' then "\\\\"
  else if point = '\n' then "\\n"
  else if point = '\r' then "\\r"
  else if point = '\t' then "\\t"
  else if point = '\x08' then "\\b"
  else if point = '\x0c' then "\\f"
  else if 0x20 ≤ point.code ∧ point.code ≤ 0x7E then [point]
  else (units point.code).flatMap escapeUnit

/-- A text between double quotes. -/
def writeText (text : Text) : Text :=
  "\"" ++ text.flatMap escapePoint ++ "\""

mutual

/-- The text of a value. -/
def write : Json → Text
  | null => "null"
  | bool value => if value then "true" else "false"
  | int value => value.repr
  | float value => value.literal
  | str text => writeText text
  | arr [] => "[]"
  | arr (item :: items) => "[" ++ write item ++ writeItems items ++ "]"
  | obj [] => "\x7b\x7d"
  | obj ((name, value) :: members) =>
    "\x7b" ++ writeText name ++ ": " ++ write value ++ writeMembers members ++ "\x7d"

/-- The items behind the first one, each after a comma. -/
def writeItems : List Json → Text
  | [] => []
  | item :: items => ", " ++ write item ++ writeItems items

/-- The members behind the first one, each after a comma. -/
def writeMembers : List (Text × Json) → Text
  | [] => []
  | (name, value) :: members =>
    ", " ++ writeText name ++ ": " ++ write value ++ writeMembers members

end

end DialectSql.Json
