import DialectSql.Error
import DialectSql.Page
import Mathlib.Tactic

/-!
# Numbers that Can Be Written

A whole number can be turned into text if it lies strictly between the power of ten that has one
digit too many and its negative.  What quotes such numbers only can be put into words; where another
number is quoted, this is what is reported instead.

The last page that starts at a number that can be written ends at one that cannot.
-/

namespace DialectSql

namespace Number

/-- The numbers that can be written are those below the power of ten with one digit more. -/
theorem isWritable_iff {value : Int} :
    isWritable value = true ↔ value.natAbs < 10 ^ maxDigits := by
  rw [isWritable, decide_eq_true_iff]
  exact Nat.length_repr_le_iff (by decide)

theorem isWritable_eq_false_iff {value : Int} :
    isWritable value = false ↔ 10 ^ maxDigits ≤ value.natAbs := by
  rw [← not_lt, ← isWritable_iff, Bool.not_eq_true]

/-- A number below zero that cannot be written is far below. -/
theorem le_neg_of_not_isWritable {value : Int} (nonpositive : value ≤ 0)
    (unwritable : isWritable value = false) : 10 ^ maxDigits ≤ -value := by
  have long := isWritable_eq_false_iff.mp unwritable
  have magnitude : (value.natAbs : Int) = -value := Int.ofNat_natAbs_of_nonpos nonpositive
  rw [← magnitude]
  exact_mod_cast long

/-- A row of digits that is not too long denotes a number that can be written. -/
theorem ofDigits_lt {digits : List Nat} (areDigits : ∀ digit ∈ digits, digit < 10) :
    ofDigits digits < 10 ^ digits.length := by
  induction digits using List.reverseRecOn with
  | nil => exact Nat.one_pos
  | append_singleton digits digit ih =>
    have before := ih fun other mem ↦ areDigits other (List.mem_append_left _ mem)
    have last := areDigits digit (by simp)
    have value : ofDigits (digits ++ [digit]) = 10 * ofDigits digits + digit := by
      simp [ofDigits]
    rw [value, List.length_append, List.length_singleton, pow_succ]
    omega

end Number

namespace Error

theorem raised_of_isWritable {error : Error} (writable : error.isWritable = true) :
    error.raised = error := by
  rw [raised, if_pos writable]

theorem raised_of_not_isWritable {error : Error} (unwritable : error.isWritable = false) :
    error.raised = .numeralTooLong := by
  rw [raised, unwritable, if_neg Bool.false_ne_true]

/-- Another error than the one for long numbers is met only where its own numbers can be written. -/
theorem raised_eq_iff {error met : Error} (named : met ≠ .numeralTooLong) :
    error.raised = met ↔ error = met ∧ error.isWritable = true := by
  unfold raised
  split
  · simp [*]
  · simp [*, named.symm]

end Error

namespace Limit

/-- The last page of the usual size that starts at a number that can be written. -/
def farthest : Limit :=
  ⟨(10 ^ Number.maxDigits : Nat) - 1, defaultPageSize⟩

theorem isWritable_farthest_stop : Number.isWritable farthest.stop = false := by
  rw [Number.isWritable_eq_false_iff, stop, farthest, defaultPageSize]
  generalize 10 ^ Number.maxDigits = bound
  dsimp only
  omega

end Limit

end DialectSql
