import DialectSql.Proofs.Text.Run
import DialectSql.Text.Lowercase
import DialectSql.Text.Uppercase

/-!
# Letter Case in ASCII

On ASCII texts both case mappings work character by character.
-/

namespace DialectSql.Text

/-- Whether a code point is an ASCII character. -/
def isAscii (point : CodePoint) : Bool :=
  point.isIn fun c ↦ c.toNat < 0x80

/-- Whether a code point is a small ASCII letter. -/
def isSmall (point : CodePoint) : Bool :=
  point.isIn Char.isLower

/-- A table of all ASCII characters decides what holds of them. -/
theorem of_isAscii (P : CodePoint → Prop) (table : ∀ code < 0x80, P (.char (Char.ofNat code)))
    {point : CodePoint} (ascii : isAscii point = true) : P point := by
  cases point with
  | half offset => cases ascii
  | char c =>
    have code : c.toNat < 0x80 := by simpa [isAscii, CodePoint.isIn] using ascii
    have entry := table c.toNat code
    rwa [Char.ofNat_toNat] at entry

theorem isAscii_toUpper {point : CodePoint} (ascii : isAscii point = true) :
    isAscii (point.mapChar Char.toUpper) = true := by
  apply of_isAscii (fun point ↦ isAscii (point.mapChar Char.toUpper) = true) _ ascii
  decide

theorem lowerPoint_ascii {point : CodePoint} (ascii : isAscii point = true) :
    lowerPoint point = [point.mapChar Char.toLower] := by
  cases point with
  | half offset => cases ascii
  | char c =>
    have code : c.toNat < 0x80 := by simpa [isAscii, CodePoint.isIn] using ascii
    rw [lowerPoint, lowerChar, if_pos code]
    rfl

theorem upperPoint_ascii {point : CodePoint} (ascii : isAscii point = true) :
    upperPoint point = [point.mapChar Char.toUpper] := by
  cases point with
  | half offset => cases ascii
  | char c =>
    have code : c.toNat < 0x80 := by simpa [isAscii, CodePoint.isIn] using ascii
    rw [upperPoint, upperChar, if_pos code]
    rfl

theorem lowerFrom_ascii {text : Text} (ascii : ∀ point ∈ text, isAscii point = true)
    (afterCased : Bool) :
    lowerFrom afterCased text = text.map (CodePoint.mapChar Char.toLower) := by
  induction text generalizing afterCased with
  | nil => rfl
  | cons point rest ih =>
    have others := ih fun other mem ↦ ascii other (by simp [mem])
    have here := ascii point (by simp)
    have noSigma : point ≠ 'Σ' := by
      rintro rfl
      exact absurd here (by decide)
    rw [lowerFrom, if_neg noSigma, others, lowerPoint_ascii here]
    rfl

/-- On ASCII texts, lower-casing works character by character. -/
theorem lower_ascii {text : Text} (ascii : ∀ point ∈ text, isAscii point = true) :
    lower text = text.map (CodePoint.mapChar Char.toLower) :=
  lowerFrom_ascii ascii false

/-- On ASCII texts, upper-casing works character by character. -/
theorem upper_ascii {text : Text} (ascii : ∀ point ∈ text, isAscii point = true) :
    upper text = text.map (CodePoint.mapChar Char.toUpper) := by
  rw [upper, List.map_eq_flatMap]
  apply List.flatMap_congr
  intro point mem
  exact upperPoint_ascii (ascii point mem)

end DialectSql.Text
