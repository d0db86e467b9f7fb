import DialectSql.Text.CodePoint

/-!
# Splitting Texts

The parts of a text between separators.
-/

namespace DialectSql.Text

/-- The parts of a text between separators. -/
def splitAt (separator : CodePoint) : Text → List Text
  | [] => [[]]
  | point :: rest =>
    if point = separator then [] :: splitAt separator rest
    else
      match splitAt separator rest with
      | [] => [[point]]
      | part :: parts => (point :: part) :: parts

/-- The parts of a text between double underscores, found from left to right. -/
def splitDoubleUnderscores : Text → List Text
  | [] => [[]]
  | .char '_' :: .char '_' :: rest => [] :: splitDoubleUnderscores rest
  | point :: rest =>
    match splitDoubleUnderscores rest with
    | [] => [[point]]
    | part :: parts => (point :: part) :: parts

end DialectSql.Text
