import DialectSql.Text.Hexadecimal
import DialectSql.Text.PrintableTable

/-!
# Quoted Text

The quoted form in which messages show a text.  Single quotes enclose it unless it holds a single
quote and no double one; the backslash, the enclosing quote and everything that cannot be printed
are escaped.
-/

namespace DialectSql.Text

/-- How a code point that cannot be printed is written: with two, four or eight digits. -/
def escapeCode (code : Nat) : Text :=
  if code < 0x100 then "\\x" ++ hexDigits 2 code
  else if code < 0x10000 then "\\u" ++ hexDigits 4 code
  else "\\U" ++ hexDigits 8 code

/-- One code point inside the given quotes. -/
def quotePoint (mark point : CodePoint) : Text :=
  if point = mark ∨ point = '\\' then ['\\', point]
  else if point = '\n' then "\\n"
  else if point = '\r' then "\\r"
  else if point = '\t' then "\\t"
  else if printableRanges.has point then [point]
  else escapeCode point.code

/-- The quotes around a text: double ones only if it holds a single quote and no double one. -/
def quoteMark (text : Text) : CodePoint :=
  if text.contains '\'' && !text.contains '"' then '"' else '\''

/-- The quoted form of a text. -/
def quoted (text : Text) : Text :=
  let mark := quoteMark text
  mark :: text.flatMap (quotePoint mark) ++ [mark]

/-- The quoted form of a list of texts, in brackets. -/
def quotedList (texts : List Text) : Text :=
  "[" ++ joined ", " (texts.map quoted) ++ "]"

end DialectSql.Text
