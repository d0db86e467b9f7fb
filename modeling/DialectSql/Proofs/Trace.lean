import DialectSql.Trace
import Mathlib

/-!
# Traces as Outcomes with a Log

A traced run composes like its outcome, and its log is the records of its parts one after another.
So what a run answers can be told without its log, and two runs agree if they are composed of parts
that agree.
-/

namespace DialectSql

/-- A composed outcome fails where one of its parts fails. -/
theorem Outcome.error_of_bind {ε α β : Type} {outcome : Except ε α} {next : α → Except ε β}
    {error : ε} (failed : (outcome >>= next) = .error error) :
    outcome = .error error ∨ ∃ value, outcome = .ok value ∧ next value = .error error := by
  cases outcome with
  | error other => exact .inl (congrArg Except.error (Except.error.inj failed))
  | ok value => exact .inr ⟨value, rfl, failed⟩

/-- A composed outcome succeeds where all of its parts succeed. -/
theorem Outcome.ok_of_bind {ε α β : Type} {outcome : Except ε α} {next : α → Except ε β}
    {result : β} (succeeded : (outcome >>= next) = .ok result) :
    ∃ value, outcome = .ok value ∧ next value = .ok result := by
  cases outcome with
  | error error => cases succeeded
  | ok value => exact ⟨value, rfl, succeeded⟩

/-- Applying a function to the value leaves an error as it is. -/
theorem Outcome.error_of_map {ε α β : Type} {f : α → β} {outcome : Except ε α} {error : ε}
    (failed : f <$> outcome = .error error) : outcome = .error error := by
  cases outcome with
  | error other => exact congrArg Except.error (Except.error.inj failed)
  | ok value => cases failed

/-- What is made of the value does not matter to the form of an error. -/
theorem Outcome.mapError_map {ε ε' α β : Type} (refuse : ε → ε') (f : α → β)
    (outcome : Except ε α) : (f <$> outcome).mapError refuse = f <$> outcome.mapError refuse := by
  cases outcome <;> rfl

/-- An error in another form comes from an error. -/
theorem Outcome.error_of_mapError {ε ε' α : Type} {refuse : ε → ε'} {outcome : Except ε α}
    {error : ε'} (failed : outcome.mapError refuse = .error error) :
    ∃ cause, outcome = .error cause ∧ refuse cause = error := by
  cases outcome with
  | error cause => exact ⟨cause, rfl, Except.error.inj failed⟩
  | ok value => cases failed

theorem Outcome.mapError_eq_ok {ε ε' α : Type} {refuse : ε → ε'} {outcome : Except ε α}
    {value : α} : outcome.mapError refuse = .ok value ↔ outcome = .ok value := by
  cases outcome <;> simp [Except.mapError]

namespace Traced

variable {ε α β : Type}

@[ext]
theorem ext {left right : Traced ε α} (outcome : left.outcome = right.outcome)
    (log : left.log = right.log) : left = right := by
  cases left
  cases right
  simp_all

@[simp]
theorem outcome_pure (value : α) : (pure value : Traced ε α).outcome = .ok value := rfl

@[simp]
theorem log_pure (value : α) : (pure value : Traced ε α).log = [] := rfl

@[simp]
theorem outcome_ofExcept (outcome : Except ε α) : (ofExcept outcome).outcome = outcome := rfl

@[simp]
theorem outcome_tell (level : Level) (message : Text) :
    (tell level message : Traced ε Unit).outcome = .ok () := rfl

/-- The outcome of a composed run is the composed outcome. -/
@[simp]
theorem outcome_bind (run : Traced ε α) (next : α → Traced ε β) :
    (run >>= next).outcome = run.outcome >>= fun value ↦ (next value).outcome := by
  obtain ⟨outcome, log⟩ := run
  cases outcome <;> rfl

/-- Behind a value the records of the continuation are appended. -/
theorem bind_of_ok {run : Traced ε α} {value : α} (found : run.outcome = .ok value)
    (next : α → Traced ε β) :
    run >>= next = ⟨(next value).outcome, run.log ++ (next value).log⟩ := by
  obtain ⟨outcome, log⟩ := run
  obtain rfl : outcome = .ok value := found
  rfl

/-- Behind an error nothing is run. -/
theorem bind_of_error {run : Traced ε α} {error : ε} (found : run.outcome = .error error)
    (next : α → Traced ε β) : run >>= next = ⟨.error error, run.log⟩ := by
  obtain ⟨outcome, log⟩ := run
  obtain rfl : outcome = .error error := found
  rfl

/-- Continuations that agree on the value of a run agree behind the run. -/
theorem bind_congr_of_ok {run : Traced ε α} {left right : α → Traced ε β}
    (agree : ∀ value, run.outcome = .ok value → left value = right value) :
    run >>= left = run >>= right := by
  cases found : run.outcome with
  | error error => rw [bind_of_error found, bind_of_error found]
  | ok value => rw [bind_of_ok found, bind_of_ok found, agree value found]

instance : LawfulMonad (Traced ε) := by
  refine LawfulMonad.mk' (Traced ε) ?_ ?_ ?_
  · intro α run
    obtain ⟨outcome, log⟩ := run
    cases outcome <;> simp [Functor.map, andThen]
  · intro α β value next
    rfl
  · intro α β γ run next last
    cases found : run.outcome with
    | error error => rw [bind_of_error found, bind_of_error found, bind_of_error rfl]
    | ok value =>
      rw [bind_of_ok found, bind_of_ok found]
      cases second : (next value).outcome with
      | error error => rw [bind_of_error rfl, bind_of_error second]
      | ok other =>
        rw [bind_of_ok rfl, bind_of_ok second]
        simp

/-- Applying a function to the value leaves the records as they are. -/
@[simp]
theorem log_map (f : α → β) (run : Traced ε α) : (f <$> run).log = run.log := by
  rw [← bind_pure_comp]
  cases found : run.outcome with
  | error error => rw [bind_of_error found]
  | ok value => simp [bind_of_ok found]

@[simp]
theorem outcome_map (f : α → β) (run : Traced ε α) : (f <$> run).outcome = f <$> run.outcome := by
  rw [← bind_pure_comp, outcome_bind, ← bind_pure_comp]
  rfl

/-- What is made of the value does not matter to its error. -/
theorem mapError_map {ε' : Type} (refuse : ε → ε') (f : α → β) (run : Traced ε α) :
    (f <$> run).mapError refuse = f <$> run.mapError refuse := by
  apply ext
  · rw [outcome_map, mapError, outcome_map, Outcome.mapError_map]
    rfl
  · simp [mapError]

@[simp]
theorem mapError_id (run : Traced ε α) : run.mapError id = run := by
  obtain ⟨outcome, log⟩ := run
  cases outcome <;> rfl

end Traced

end DialectSql
