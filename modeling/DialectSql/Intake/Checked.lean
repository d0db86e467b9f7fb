import DialectSql.Error
import DialectSql.Text.Utf8

/-!
# Checked Data

The outcome of reading data of unknown shape into a type of the domain.  Issues of shape are
collected: every part of the data is looked at, and each issue names its place.  A domain error is
not collected but refuses the data at once, so the first refusal wins over every issue found so
far or still to be found.
-/

namespace DialectSql.Intake

/-- One step into nested data. -/
inductive Step where
  | field (name : Text)
  | item (index : Nat)
  deriving DecidableEq, Repr, Inhabited

/-- What is wrong with the shape of a part of the data. -/
inductive IssueKind where
  | missing
  | extraField
  | notRecord
  | notText
  | loneSurrogate
  | notInteger
  | unreadableInteger
  | fractionalInteger
  | oversizedInteger
  | infiniteInteger
  | notBoolean
  | unreadableBoolean
  | notMember
  | notList
  | notMap
  | oversizedNumber
  deriving DecidableEq, Repr, Inhabited

/-- The code of a kind of issue. -/
def IssueKind.code : IssueKind → String
  | missing => "missing"
  | extraField => "extra_forbidden"
  | notRecord => "model_type"
  | notText => "string_type"
  | loneSurrogate => "string_unicode"
  | notInteger => "int_type"
  | unreadableInteger => "int_parsing"
  | fractionalInteger => "int_from_float"
  | oversizedInteger => "int_parsing_size"
  | infiniteInteger => "finite_number"
  | notBoolean => "bool_type"
  | unreadableBoolean => "bool_parsing"
  | notMember => "enum"
  | notList => "tuple_type"
  | notMap => "dict_type"
  | oversizedNumber => "value_error"

/-- An issue and the place it concerns. -/
structure Issue where
  place : List Step
  kind : IssueKind
  deriving DecidableEq, Repr, Inhabited

/-- The outcome of reading data. -/
inductive Checked (α : Type) where
  | valid (value : α)
  | flawed (issues : List Issue)
  | refused (error : Error)

namespace Checked

variable {α β : Type}

/-- The outcome of a part with an issue of its own. -/
def issue (kind : IssueKind) : Checked α :=
  flawed [⟨[], kind⟩]

/-- Applies a function to the value. -/
def map (f : α → β) : Checked α → Checked β
  | valid value => valid (f value)
  | flawed issues => flawed issues
  | refused error => refused error

/-- Reads two parts, the left one first: the first refusal wins, and issues add up. -/
def both (left : Checked (α → β)) (right : Checked α) : Checked β :=
  match left, right with
  | refused error, _ => refused error
  | _, refused error => refused error
  | flawed issues, flawed more => flawed (issues ++ more)
  | flawed issues, valid _ => flawed issues
  | valid _, flawed issues => flawed issues
  | valid f, valid value => valid (f value)

instance : Applicative Checked where
  pure := valid
  map := map
  seq left right := both left (right ())

/-- A rule for the whole value, applied only when all its parts are valid. -/
def andThen (first : Checked α) (rule : α → Checked β) : Checked β :=
  match first with
  | valid value => rule value
  | flawed issues => flawed issues
  | refused error => refused error

/-- The same outcome, one step further out. -/
def under (step : Step) : Checked α → Checked α
  | valid value => valid value
  | flawed issues => flawed (issues.map fun issue ↦ ⟨step :: issue.place, issue.kind⟩)
  | refused error => refused error

/-- The outcome of a rule that can only refuse.  Where its error could not be put into words, that
is an issue of the data. -/
def ofExcept : Except Error α → Checked α
  | .ok value => valid value
  | .error .numeralTooLong => issue .oversizedNumber
  | .error error => refused error

/-- Reads the items of a list one after another, the first of which has the given index. -/
def list (read : Json → Checked α) : Nat → List Json → Checked (List α)
  | _, [] => valid []
  | index, item :: items =>
    (List.cons <$> (read item).under (.item index)) <*> list read (index + 1) items

/-- Reads the values of named entries one after another.  In the places of issues the names stand
without halves of surrogate pairs. -/
def entries (read : Json → Checked α) : List (Text × Json) → Checked (List (Text × α))
  | [] => valid []
  | (name, value) :: rest =>
    ((fun value rest ↦ (name, value) :: rest) <$>
      (read value).under (.field (Text.mended name))) <*> entries read rest

end Checked

end DialectSql.Intake
