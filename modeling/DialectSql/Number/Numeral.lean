import DialectSql.Text.Blank
import DialectSql.Text.DecimalDigit

/-!
# Numerals

Whole numbers written as text, for two readers.

The reader of model data wants the plain form: perhaps a minus sign, then ASCII digits that start
with a zero only if that is all.  A text in another form is brought into it where possible: white
space, a plus sign, zeros at the start, a fraction of zeros and single underscores do not count.
Zeros at the start may be mixed with underscores, and a minus sign may stand in front of them or
behind them.  There is a limit on the number of digits; only a text that begins with too many in
plain form is told apart from what is no number.

The reader of request parameters takes the digits of every script, between which single underscores
may stand, behind an optional sign; it takes no fraction and limits how many digits there are.

The same limit holds the other way round: a whole number with more digits cannot be turned into
text.
-/

namespace DialectSql.Number

/-- The number that a row of decimal digits denotes. -/
def ofDigits (digits : List Nat) : Nat :=
  digits.foldl (fun value digit ↦ 10 * value + digit) 0

/-- The whole number with the given sign and digits. -/
def signed (negative : Bool) (digits : List Nat) : Int :=
  if negative then -(ofDigits digits : Int) else ofDigits digits

/-- The most digits a whole number may be written with. -/
def maxDigits : Nat := 4300

/-- Whether a whole number can be turned into text: it has no more digits than may be written, where
the sign does not count. -/
def isWritable (value : Int) : Bool :=
  value.natAbs.repr.length ≤ maxDigits

/-! ## Model data -/

/-- Why a text denotes no whole number. -/
inductive NumeralFault where
  | unreadable
  | oversized
  deriving DecidableEq, Repr, Inhabited

/-- Reads a number in plain form.  A number with too many digits is refused for that, whatever
stands behind it. -/
def ofPlain (text : Text) : Except NumeralFault Int :=
  let negative := text.head? == some '-'
  let unsigned := if negative then text.drop 1 else text
  let digits := unsigned.takeWhile Text.isAsciiDigit
  let alone := unsigned.length == digits.length
  if digits.isEmpty then .error .unreadable
  else if digits.head? == some '0' then
    if alone && digits.length == 1 then .ok 0 else .error .unreadable
  else if digits.length > maxDigits then .error .oversized
  else if alone then .ok (signed negative (digits.filterMap Text.asciiDigit?))
  else .error .unreadable

/-- A text without a plus sign in front of it; a minus sign must not follow one. -/
def dropPlus? (text : Text) : Option Text :=
  if text.head? == some '+' then
    if (text.drop 1).head? == some '-' then none else some (text.drop 1)
  else some text

/-- What is left of a number behind zeros and underscores, the last of which is given.  That one
stays in front of a point and where nothing follows. -/
def behindZeros? (last : CodePoint) : Text → Option Text
  | [] => some [last]
  | point :: rest =>
    if point = '0' ∨ point = '_' then behindZeros? point rest
    else if point = '.' then some (last :: point :: rest)
    else if point = '-' ∨ Text.isAsciiDigit point then some (point :: rest)
    else none

/-- A number without zeros at its start. -/
def dropZeros? : Text → Option Text
  | [] => none
  | point :: rest =>
    if point = '0' then behindZeros? point rest
    else if point = '-' ∨ Text.isAsciiDigit point then some (point :: rest)
    else none

/-- A text without a fraction of zeros behind it: a point and at least one zero. -/
def dropZeroFraction (text : Text) : Text :=
  match text.reverse.span fun point ↦ point == CodePoint.char '0' with
  | (_ :: _, .char '.' :: whole) => whole.reverse
  | _ => text

/-- Whether every underscore of a text stands alone between other code points. -/
def underscoresApart : Text → Bool
  | [] => true
  | [point] => point != '_'
  | point :: next :: rest =>
    !(point == '_' && next == '_') && underscoresApart (next :: rest)

/-- A text without underscores, if each of them stands alone between other code points. -/
def dropUnderscores (text : Text) : Text :=
  if text.head? != some '_' && underscoresApart text then text.filter (· != '_') else text

/-- A text brought into plain form, where that is possible. -/
def toPlain? (text : Text) : Option Text := do
  let unplussed ← dropPlus? (Text.trim Text.isWhiteSpace text)
  let negative := unplussed.head? == some '-'
  let number ← dropZeros? (if negative then unplussed.drop 1 else unplussed)
  let plain := dropUnderscores (dropZeroFraction number)
  return if negative then '-' :: plain else plain

/-- The whole number that a text in another than the plain form denotes. -/
def ofCleaned (text : Text) : Except NumeralFault Int :=
  match (toPlain? text).map ofPlain with
  | some (.ok value) => .ok value
  | _ => .error .unreadable

/-- The whole number that a text of model data denotes. -/
def ofText (text : Text) : Except NumeralFault Int :=
  match ofPlain text with
  | .error .unreadable => ofCleaned text
  | known => known

/-! ## Request parameters -/

/-- The digits of a numeral; single underscores stand between digits only. -/
def digitsOf? : Text → Option (List Nat)
  | [] => none
  | [point] => (Text.digitValue? point).map ([·])
  | point :: .char '_' :: more => do
    let value ← Text.digitValue? point
    let values ← digitsOf? more
    return value :: values
  | point :: next :: more => do
    let value ← Text.digitValue? point
    let values ← digitsOf? (next :: more)
    return value :: values

/-- Splits a sign off; the flag says whether it is a minus. -/
def splitSign : Text → Bool × Text
  | .char '-' :: rest => (true, rest)
  | .char '+' :: rest => (false, rest)
  | text => (false, text)

/-- The whole number that a request parameter denotes. -/
def ofParameter? (text : Text) : Option Int :=
  let sign := splitSign (Text.trim Text.isWhiteSpace text)
  match digitsOf? sign.2 with
  | some digits => if digits.length ≤ maxDigits then some (signed sign.1 digits) else none
  | none => none

end DialectSql.Number
