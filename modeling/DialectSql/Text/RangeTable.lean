import DialectSql.Text.CodePoint

/-!
# Range Tables

Sets of characters given as closed ranges of code points.
-/

namespace DialectSql.Text

/-- A set of code points, as the union of closed ranges. -/
abbrev RangeTable := List (Nat × Nat)

/-- Whether a number lies in one of the ranges. -/
def RangeTable.covers (table : RangeTable) (code : Nat) : Bool :=
  table.any fun range ↦ decide (range.1 ≤ code) && decide (code ≤ range.2)

/-- Whether a code point lies in one of the ranges. -/
def RangeTable.has (table : RangeTable) (point : CodePoint) : Bool :=
  table.covers point.code

theorem RangeTable.covers_iff {table : RangeTable} {code : Nat} :
    table.covers code = true ↔ ∃ range ∈ table, range.1 ≤ code ∧ code ≤ range.2 := by
  simp [RangeTable.covers]

end DialectSql.Text
