/-!
# Code Points

What texts are made of.  Names and values come from outside, and there half of a surrogate pair may
stand on its own; it is no character, but it counts as one code point and is kept.  A text is a row
of code points, and a string is the text of its characters.
-/

namespace DialectSql

/-- A character, or half of a surrogate pair. -/
inductive CodePoint where
  | char (c : Char)
  /-- The half of a surrogate pair at the given distance from the first one. -/
  | half (offset : Fin 2048)
  deriving DecidableEq, Repr, Inhabited

namespace CodePoint

/-- The number of the first half of a surrogate pair. -/
def firstHalf : Nat := 0xD800

/-- The number of a code point. -/
def code : CodePoint → Nat
  | char c => c.toNat
  | half offset => firstHalf + offset

/-- The code point of a number. -/
def ofCode (code : Nat) : CodePoint :=
  if bounds : firstHalf ≤ code ∧ code < firstHalf + 2048 then
    half ⟨code - firstHalf, by omega⟩
  else char (Char.ofNat code)

/-- Whether a code point is half of a surrogate pair. -/
def isHalf : CodePoint → Bool
  | char _ => false
  | half _ => true

/-- The character that a code point is. -/
def char? : CodePoint → Option Char
  | char c => some c
  | half _ => none

/-- Whether a code point is a character of the given class. -/
def isIn (kind : Char → Bool) : CodePoint → Bool
  | char c => kind c
  | half _ => false

/-- The code point with its character replaced by the image under a function. -/
def mapChar (f : Char → Char) : CodePoint → CodePoint
  | char c => char (f c)
  | half offset => half offset

instance : Coe Char CodePoint :=
  ⟨char⟩

/-- No character has the number of half of a surrogate pair. -/
theorem not_half_toNat (c : Char) : ¬(firstHalf ≤ c.toNat ∧ c.toNat < firstHalf + 2048) := by
  have valid : c.toNat < 0xD800 ∨ 0xDFFF < c.toNat ∧ c.toNat < 0x110000 := c.valid
  unfold firstHalf
  omega

/-- A code point is determined by its number. -/
theorem ofCode_code (point : CodePoint) : ofCode point.code = point := by
  cases point with
  | char c =>
    unfold ofCode code
    rw [dif_neg (not_half_toNat c)]
    exact congrArg char (Char.ofNat_toNat c)
  | half offset =>
    have bounds : firstHalf ≤ firstHalf + offset.val ∧ firstHalf + offset.val < firstHalf + 2048 :=
      ⟨by omega, by omega⟩
    have same : firstHalf + offset.val - firstHalf = offset.val := by omega
    change (if bounds : firstHalf ≤ firstHalf + offset.val ∧
        firstHalf + offset.val < firstHalf + 2048 then
      half ⟨firstHalf + offset.val - firstHalf, by omega⟩ else _) = _
    rw [dif_pos bounds]
    simp [same]

end CodePoint

/-- A row of code points. -/
abbrev Text := List CodePoint

namespace Text

/-- The text of a string. -/
def ofString (s : String) : Text :=
  s.toList.map .char

instance : Coe String Text :=
  ⟨ofString⟩

/-- The string of a text, unless half of a surrogate pair stands in it. -/
def toString? (text : Text) : Option String :=
  (text.mapM CodePoint.char?).map String.ofList

/-- Whether half of a surrogate pair stands in a text. -/
def hasHalf (text : Text) : Bool :=
  text.any CodePoint.isHalf

/-- Whether a text comes before another one, or is the same, in the order of code points. -/
def atMost : Text → Text → Bool
  | [], _ => true
  | _ :: _, [] => false
  | point :: left, other :: right =>
    point.code < other.code || (point = other && atMost left right)

/-- Texts one after another, with a separator between them. -/
def joined (separator : Text) : List Text → Text
  | [] => []
  | [text] => text
  | text :: texts => text ++ separator ++ joined separator texts

end Text

end DialectSql
