import DialectSql.Intake.Checked

/-!
# Failures

Everything that can keep a request from being answered: a domain error, data of the wrong shape,
three faults of the way in which a value was passed, and an error that is none of the library.
-/

namespace DialectSql

/-- An error of something else than the library, such as a database: the name of its class and its
wording. -/
structure ForeignError where
  className : Text
  message : Text
  deriving DecidableEq, Repr, Inhabited

/-- The error of a lookup under a key that is not there. -/
def ForeignError.keyMissing (key : Text) : ForeignError :=
  ⟨"KeyError", Text.quoted key⟩

/-- Why there is no answer. -/
inductive Failure where
  | refused (error : Error)
  | flawed (issues : List Intake.Issue)
  /-- An operation by a name that no operation has, in lower case. -/
  | unknownOperation (name : Text)
  /-- An infinite number where a whole one is wanted. -/
  | infiniteParameter
  /-- A variable whose text is not JSON, for the setting of the given name. -/
  | unreadableVariable (setting : Text)
  | foreign (error : ForeignError)
  deriving Inhabited

/-- The result of reading data. -/
def Intake.Checked.result {α : Type} : Checked α → Except Failure α
  | .valid value => .ok value
  | .flawed issues => .error (.flawed issues)
  | .refused error => .error (.refused error)

end DialectSql
