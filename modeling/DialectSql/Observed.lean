import DialectSql.Trace
import DialectSql.Usage

/-!
# Observed Runs

Work that somebody watches.  Beside its outcome and the records that it makes, such a run has the
notices that it gives to an observer, in the order in which they are given.
-/

namespace DialectSql

/-- The outcome of work, the records made on the way to it, and the notices given to the
observer. -/
structure Observed (ε α : Type) extends Traced ε α where
  notices : List Notice

namespace Observed

variable {ε α β : Type}

/-- Work that gives no notice. -/
def ofTraced (run : Traced ε α) : Observed ε α :=
  ⟨run, []⟩

/-- Gives one notice. -/
def notify (notice : Notice) : Observed ε Unit :=
  ⟨pure (), [notice]⟩

/-- Fails. -/
def fail (error : ε) : Observed ε α :=
  ofTraced (.ofExcept (.error error))

/-- Runs a continuation on the value, behind the records and notices made before; a failure ends the
run. -/
def andThen (first : Observed ε α) (next : α → Observed ε β) : Observed ε β :=
  match first.outcome with
  | .error error => ⟨⟨.error error, first.log⟩, first.notices⟩
  | .ok value =>
    ⟨⟨(next value).outcome, first.log ++ (next value).log⟩, first.notices ++ (next value).notices⟩

/-- Runs a handler if the work fails, behind the records and notices made before. -/
def handle (work : Observed ε α) (handler : ε → Observed ε α) : Observed ε α :=
  match work.outcome with
  | .error error =>
    ⟨⟨(handler error).outcome, work.log ++ (handler error).log⟩,
      work.notices ++ (handler error).notices⟩
  | .ok _ => work

instance : Monad (Observed ε) where
  pure value := ofTraced (pure value)
  bind := andThen

end Observed

end DialectSql
