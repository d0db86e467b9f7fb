import DialectSql.Intake.Checked
import DialectSql.Number.Numeral

/-!
# Reading Single Values

How the single values of model data are read.  Texts must be texts.  Whole numbers and booleans
are read leniently: from numbers of the other kinds where nothing is lost, and from texts that
spell them.  Such a text, and one that names a member, must not hold half of a surrogate pair.
-/

namespace DialectSql.Intake

/-- Reads a text. -/
def text : Json → Checked Text
  | .str text => .valid text
  | _ => .issue .notText

/-- Reads a text without halves of surrogate pairs further. -/
def spelled {α : Type} (text : Text) (read : Text → Checked α) : Checked α :=
  if text.hasHalf then .issue .loneSurrogate else read text

/-- Reads a value that may be null. -/
def orNull {α : Type} (read : Json → Checked α) : Json → Checked (Option α)
  | .null => .valid none
  | data => some <$> read data

/-- The upper end of the 64-bit range: the 63rd power of two. -/
def wordBound : Int := 0x8000000000000000

/-- Reads a whole number out of a floating-point number, which has to lie strictly between the
ends of the 64-bit range. -/
def integerOfFloat (value : Number.Binary64) : Checked Int :=
  match value.truncate? with
  | none => .issue .infiniteInteger
  | some whole =>
    if !value.isWhole then .issue .fractionalInteger
    else if -wordBound < whole ∧ whole < wordBound then .valid whole
    else .issue .oversizedInteger

/-- Reads a whole number out of a text. -/
def integerOfText (text : Text) : Checked Int :=
  match Number.ofText text with
  | .ok value => .valid value
  | .error .unreadable => .issue .unreadableInteger
  | .error .oversized => .issue .oversizedInteger

/-- Reads a whole number. -/
def integer : Json → Checked Int
  | .int value => .valid value
  | .bool value => .valid (if value then 1 else 0)
  | .float value => integerOfFloat value
  | .str text => spelled text integerOfText
  | _ => .issue .notInteger

/-- The spellings of true; letters may have either case. -/
def trueWords : List Text := ["1", "true", "t", "yes", "y", "on"]

/-- The spellings of false; letters may have either case. -/
def falseWords : List Text := ["0", "false", "f", "no", "n", "off"]

/-- The boolean that a text spells. -/
def booleanWord? (text : Text) : Option Bool :=
  let word := text.map (CodePoint.mapChar Char.toLower)
  if trueWords.contains word then some true
  else if falseWords.contains word then some false
  else none

/-- Reads a boolean out of a whole number of the 64-bit range. -/
def booleanOfInteger (value : Int) : Checked Bool :=
  if value = 0 then .valid false
  else if value = 1 then .valid true
  else if -wordBound ≤ value ∧ value < wordBound then .issue .unreadableBoolean
  else .issue .notBoolean

/-- Reads a boolean out of a floating-point number that a whole number can be read out of. -/
def booleanOfFloat (value : Number.Binary64) : Checked Bool :=
  match integerOfFloat value with
  | .valid whole => booleanOfInteger whole
  | _ => .issue .notBoolean

/-- Reads a boolean out of a text. -/
def booleanOfText (text : Text) : Checked Bool :=
  match booleanWord? text with
  | some value => .valid value
  | none => .issue .unreadableBoolean

/-- Reads a boolean. -/
def boolean : Json → Checked Bool
  | .bool value => .valid value
  | .int value => booleanOfInteger value
  | .float value => booleanOfFloat value
  | .str text => spelled text booleanOfText
  | _ => .issue .notBoolean

/-- Reads one of the values that have a name. -/
def named {α : Type} (ofName? : Text → Option α) : Json → Checked α
  | .str text =>
    spelled text fun text ↦
      match ofName? text with
      | some value => .valid value
      | none => .issue .notMember
  | _ => .issue .notMember

/-- Reads a list. -/
def list {α : Type} (read : Json → Checked α) : Json → Checked (List α)
  | .arr items => Checked.list read 0 items
  | _ => .issue .notList

/-- Reads a map from names. -/
def map {α : Type} (read : Json → Checked α) : Json → Checked (OrderedMap α)
  | .obj members => OrderedMap.ofList <$> Checked.entries read members
  | _ => .issue .notMap

end DialectSql.Intake
