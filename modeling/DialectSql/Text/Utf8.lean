import DialectSql.Text.CodePoint

/-!
# UTF-8

Texts as bytes.  Reading never fails: bytes that belong to no code point are read as the replacement
character, one for every longest row of bytes that begins a code point and is not continued.
-/

namespace DialectSql.Text

/-- The bytes of a code point. -/
def utf8 (point : CodePoint) : List Nat :=
  let code := point.code
  if code < 0x80 then [code]
  else if code < 0x800 then [0xC0 + code / 0x40, 0x80 + code % 0x40]
  else if code < 0x10000 then
    [0xE0 + code / 0x1000, 0x80 + code / 0x40 % 0x40, 0x80 + code % 0x40]
  else
    [0xF0 + code / 0x40000, 0x80 + code / 0x1000 % 0x40, 0x80 + code / 0x40 % 0x40,
      0x80 + code % 0x40]

/-- A code point of which some bytes have been read: their value, how many are missing, and the
range of the next one. -/
structure PartialPoint where
  value : Nat
  missing : Nat
  least : Nat
  greatest : Nat
  deriving DecidableEq, Repr, Inhabited

/-- The character that stands for bytes of no code point. -/
def replacement : CodePoint := '\ufffd'

/-- What a byte that begins a code point contributes, and what has been read behind it. -/
def beginPoint (byte : Nat) : Text × Option PartialPoint :=
  if byte < 0x80 then ([.ofCode byte], none)
  else if byte < 0xC2 then ([replacement], none)
  else if byte < 0xE0 then ([], some ⟨byte - 0xC0, 1, 0x80, 0xBF⟩)
  else if byte < 0xF0 then
    ([], some ⟨byte - 0xE0, 2, if byte = 0xE0 then 0xA0 else 0x80,
      if byte = 0xED then 0x9F else 0xBF⟩)
  else if byte < 0xF5 then
    ([], some ⟨byte - 0xF0, 3, if byte = 0xF0 then 0x90 else 0x80,
      if byte = 0xF4 then 0x8F else 0xBF⟩)
  else ([replacement], none)

/-- What a byte contributes behind the given ones, and what has been read behind it. -/
def readByte (byte : Nat) : Option PartialPoint → Text × Option PartialPoint
  | none => beginPoint byte
  | some begun =>
    if begun.least ≤ byte ∧ byte ≤ begun.greatest then
      let value := begun.value * 0x40 + byte % 0x40
      if begun.missing ≤ 1 then ([.ofCode value], none)
      else ([], some ⟨value, begun.missing - 1, 0x80, 0xBF⟩)
    else
      let (points, next) := beginPoint byte
      (replacement :: points, next)

/-- Reads bytes behind those of a code point that has been begun. -/
def readBytes (begun : Option PartialPoint) : List Nat → Text
  | [] => if begun.isSome then [replacement] else []
  | byte :: bytes =>
    let (points, next) := readByte byte begun
    points ++ readBytes next bytes

/-- The text of bytes. -/
def ofUtf8 (bytes : List Nat) : Text :=
  readBytes none bytes

/-- The bytes of a text. -/
def toUtf8 (text : Text) : List Nat :=
  text.flatMap utf8

/-- A text without halves of surrogate pairs.  The bytes of a half belong to no character, so each
of its three bytes becomes a replacement character. -/
def mended (text : Text) : Text :=
  ofUtf8 (toUtf8 text)

end DialectSql.Text
