import DialectSql.Text.CodePoint

/-!
# Traces

Computations that leave a log.  A trace holds the outcome together with the records made on the
way; records made before a failure stay.
-/

namespace DialectSql

/-- The level of a log record. -/
inductive Level where
  | debug
  | warning
  deriving DecidableEq, Repr, Inhabited

/-- The name of a level. -/
def Level.name : Level → String
  | debug => "DEBUG"
  | warning => "WARNING"

/-- One line of a log. -/
structure LogRecord where
  level : Level
  message : Text
  deriving DecidableEq, Repr, Inhabited

/-- An outcome and the records made on the way to it. -/
structure Traced (ε α : Type) where
  outcome : Except ε α
  log : List LogRecord

namespace Traced

variable {ε α β : Type}

/-- An outcome that leaves no record. -/
def ofExcept (outcome : Except ε α) : Traced ε α :=
  ⟨outcome, []⟩

/-- Makes one record. -/
def tell (level : Level) (message : Text) : Traced ε Unit :=
  ⟨.ok (), [⟨level, message⟩]⟩

/-- Runs a continuation on the value, behind the records made before; a failure ends the run. -/
def andThen (first : Traced ε α) (next : α → Traced ε β) : Traced ε β :=
  match first.outcome with
  | .error error => ⟨.error error, first.log⟩
  | .ok value => ⟨(next value).outcome, first.log ++ (next value).log⟩

/-- The same run with its error in another form. -/
def mapError {ε' : Type} (f : ε → ε') (run : Traced ε α) : Traced ε' α :=
  ⟨run.outcome.mapError f, run.log⟩

instance : Monad (Traced ε) where
  pure value := ⟨.ok value, []⟩
  bind := andThen

end Traced

end DialectSql
