import DialectSql.Text.CapitalTable
import DialectSql.Text.CodePoint

/-!
# Upper Case

The full upper-case mapping of Unicode.  Every character has an image that does not depend on its
neighbours; some images, such as that of `ß`, are several characters.  Directions and the types of
declared columns are compared in this form.
-/

namespace DialectSql.Text

/-- The image of a number outside ASCII under the first run that holds it. -/
def upperCode (code : Nat) : Nat :=
  match upperRuns.find? fun run ↦
      run.1 ≤ code && code ≤ run.2.1 && (code - run.1) % run.2.2.1 == 0 with
  | some run => run.2.2.2 + (code - run.1)
  | none => code

/-- The upper-case image of a character. -/
def upperChar (c : Char) : Text :=
  if c.toNat < 0x80 then [c.toUpper]
  else
    match upperExpansions.lookup c.toNat with
    | some codes => codes.map .ofCode
    | none => [.ofCode (upperCode c.toNat)]

/-- The upper-case image of a code point. -/
def upperPoint : CodePoint → Text
  | .char c => upperChar c
  | .half offset => [.half offset]

/-- The upper-case form of a text. -/
def upper (text : Text) : Text :=
  text.flatMap upperPoint

end DialectSql.Text
