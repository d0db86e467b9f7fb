import DialectSql.Json.Value
import DialectSql.Number.Numeral
import DialectSql.OrderedMap

/-!
# Reading JSON

The reader of JSON text and of its faults.  White space is the space, the tab, the line feed and
the carriage return only; `NaN`, `Infinity` and `-Infinity` count as numbers; a number is the
longest prefix that has the form of one.  Each step returns what is left of the text, and a fault
records how much was left where it was found, which fixes its place in the text.

Whole numbers of more than 4300 digits are refused.  Half of a surrogate pair may stand in a text or
a name, as itself or as an escape; escapes of two halves that follow each other at once join into
the character of the pair.
-/

namespace DialectSql.Json

/-- What is wrong with the form of a text. -/
inductive Complaint where
  | valueExpected
  | commaExpected
  | colonExpected
  | nameExpected
  | extraData
  | unterminatedText
  | controlCharacter
  | badEscape
  | badUnitEscape
  | byteOrderMark
  deriving DecidableEq, Repr, Inhabited

/-- The wording of a complaint. -/
def Complaint.message : Complaint → String
  | .valueExpected => "Expecting value"
  | .commaExpected => "Expecting ',' delimiter"
  | .colonExpected => "Expecting ':' delimiter"
  | .nameExpected => "Expecting property name enclosed in double quotes"
  | .extraData => "Extra data"
  | .unterminatedText => "Unterminated string starting at"
  | .controlCharacter => "Invalid control character at"
  | .badEscape => "Invalid \\escape"
  | .badUnitEscape => "Invalid \\uXXXX escape"
  | .byteOrderMark => "Unexpected UTF-8 BOM (decode using utf-8-sig)"

/-- Why reading stopped; `left` counts the code points from the fault to the end. -/
inductive Fault where
  | malformed (complaint : Complaint) (left : Nat)
  | oversizedNumber
  deriving DecidableEq, Repr, Inhabited

/-- A place in a text: the line, the column on it, and the offset from the start. -/
structure Place where
  line : Nat
  column : Nat
  offset : Nat
  deriving DecidableEq, Repr

/-- The place at an offset; lines end at line feeds. -/
def Place.ofOffset (text : Text) (offset : Nat) : Place :=
  let before := text.take offset
  let lastLine := before.reverse.takeWhile (· != CodePoint.char '\n')
  ⟨before.count (.char '\n') + 1, lastLine.length + 1, offset⟩

/-- A complaint together with the place it is about. -/
def Complaint.located (complaint : Complaint) (place : Place) : String :=
  let reason := complaint.message
  let line := place.line
  let column := place.column
  let offset := place.offset
  s!"{reason}: line {line} column {column} (char {offset})"

/-- The four characters that may stand between the parts of a value. -/
def isSpace (point : CodePoint) : Bool :=
  point == ' ' || point == '\t' || point == '\n' || point == '\r'

/-- What stands behind the white space at the start. -/
def skipSpace (text : Text) : Text :=
  text.dropWhile isSpace

/-! ## Texts -/

/-- Four hexadecimal digits that do not end the text. -/
def unit? : Text → Option (Nat × Text)
  | a :: b :: c :: d :: next :: rest => do
    let a ← Text.hexValue? a
    let b ← Text.hexValue? b
    let c ← Text.hexValue? c
    let d ← Text.hexValue? d
    return (((a * 16 + b) * 16 + c) * 16 + d, next :: rest)
  | _ => none

/-- The character that a one-letter escape stands for. -/
def escaped? : CodePoint → Option Char
  | .char '"' => some '"'
  | .char '\\' => some '\\'
  | .char '/' => some '/'
  | .char 'b' => some '\x08'
  | .char 'f' => some '\x0c'
  | .char 'n' => some '\n'
  | .char 'r' => some '\r'
  | .char 't' => some '\t'
  | _ => none

/-- Whether a UTF-16 unit is the first half of a pair. -/
def isHighUnit (unit : Nat) : Bool :=
  0xD800 ≤ unit && unit ≤ 0xDBFF

/-- Whether a UTF-16 unit is the second half of a pair. -/
def isLowUnit (unit : Nat) : Bool :=
  0xDC00 ≤ unit && unit ≤ 0xDFFF

/-- The code point of a pair of UTF-16 units. -/
def pairCode (high low : Nat) : Nat :=
  0x10000 + (high - 0xD800) * 0x400 + (low - 0xDC00)

/-- Reads an escape whose `\u` has been read.  A first half of a pair joins with an escape of the
second half that follows it at once. -/
def unitEscape (text : Text) : Except Fault (CodePoint × Text) :=
  match unit? text with
  | none => .error (.malformed .badUnitEscape (text.length + 1))
  | some (unit, rest) =>
    match isHighUnit unit, rest with
    | true, .char '\\' :: .char 'u' :: more =>
      match unit? more with
      | some (low, rest') =>
        if isLowUnit low then .ok (.ofCode (pairCode unit low), rest')
        else .ok (.ofCode unit, rest)
      | none => .ok (.ofCode unit, rest)
    | _, _ => .ok (.ofCode unit, rest)

/-- Reads a quoted text up to its closing quote; `start` counts the code points from the opening
quote on.  The fuel bounds the number of code points read. -/
def textBody (start : Nat) : Nat → Text → Except Fault (Text × Text)
  | 0, _ => .error (.malformed .unterminatedText start)
  | _, [] => .error (.malformed .unterminatedText start)
  | fuel + 1, point :: rest =>
    if point = '"' then .ok ([], rest)
    else if point = '\\' then
      match rest with
      | [] => .error (.malformed .unterminatedText start)
      | .char 'u' :: more => do
        let (found, rest) ← unitEscape more
        let (others, rest) ← textBody start fuel rest
        return (found :: others, rest)
      | letter :: more =>
        match escaped? letter with
        | some found => do
          let (others, rest) ← textBody start fuel more
          return (.char found :: others, rest)
        | none => .error (.malformed .badEscape (rest.length + 1))
    else if point.code ≤ 0x1F then .error (.malformed .controlCharacter (rest.length + 1))
    else do
      let (others, rest) ← textBody start fuel rest
      return (point :: others, rest)

/-- Reads a quoted text whose opening quote has been read. -/
def textAfterQuote (text : Text) : Except Fault (Text × Text) :=
  textBody (text.length + 1) (text.length + 1) text

/-! ## Numbers -/

/-- The values of the digits at the start, and what follows them. -/
def takeDigits (text : Text) : List Nat × Text :=
  ((text.takeWhile Text.isAsciiDigit).filterMap Text.asciiDigit?,
    text.dropWhile Text.isAsciiDigit)

/-- The digits of the whole part: a lone zero, or a row that starts with another digit. -/
def wholePart (text : Text) : List Nat × Text :=
  match text with
  | .char '0' :: rest => ([0], rest)
  | _ => takeDigits text

/-- The digits behind a point, if a digit follows it. -/
def fractionPart (text : Text) : List Nat × Text :=
  match text with
  | .char '.' :: rest => match takeDigits rest with
    | ([], _) => ([], text)
    | found => found
  | _ => ([], text)

/-- The exponent, if it has a digit. -/
def exponentPart (text : Text) : Option Int × Text :=
  match text with
  | [] => (none, text)
  | mark :: rest =>
    if mark = 'e' ∨ mark = 'E' then
      let sign := Number.splitSign rest
      match takeDigits sign.2 with
      | ([], _) => (none, text)
      | (digits, left) => (some (Number.signed sign.1 digits), left)
    else (none, text)

/-- Reads a number whose sign has been read; `left` counts the code points from the sign on. -/
def number (left : Nat) (negative : Bool) (text : Text) : Except Fault (Json × Text) :=
  let (whole, afterWhole) := wholePart text
  if whole.isEmpty then .error (.malformed .valueExpected left)
  else
    let (fraction, afterFraction) := fractionPart afterWhole
    let (exponent, rest) := exponentPart afterFraction
    if fraction.isEmpty && exponent.isNone then
      if whole.length > Number.maxDigits then .error .oversizedNumber
      else .ok (.int (Number.signed negative whole), rest)
    else
      let significand := Number.ofDigits (whole ++ fraction)
      .ok (.float (Number.Binary64.ofDecimal negative significand (Number.digitCount significand)
        (exponent.getD 0 - fraction.length)), rest)

/-- The words that stand for a value. -/
def words : List (Text × Json) :=
  [("null", .null), ("true", .bool true), ("false", .bool false), ("NaN", .float .notANumber),
    ("Infinity", .float (.infinite false)), ("-Infinity", .float (.infinite true))]

/-- The value of the word at the start, and what follows it. -/
def word? (text : Text) : Option (Json × Text) :=
  words.findSome? fun word ↦
    if word.1.isPrefixOf text then some (word.2, text.drop word.1.length) else none

/-- Reads a value that is a word or a number. -/
def scalar (text : Text) : Except Fault (Json × Text) :=
  match word? text, text with
  | some found, _ => .ok found
  | none, .char '-' :: rest => number text.length true rest
  | none, _ => number text.length false text

/-! ## Values -/

mutual

/-- Reads the value at the start; the fuel bounds twice the length of the text, for a bracket takes
two steps. -/
def value : Nat → Text → Except Fault (Json × Text)
  | 0, text => .error (.malformed .valueExpected text.length)
  | fuel + 1, text =>
    match text with
    | .char '"' :: rest => do
      let (found, rest) ← textAfterQuote rest
      return (.str found, rest)
    | .char '[' :: rest =>
      match skipSpace rest with
      | .char ']' :: rest => .ok (.arr [], rest)
      | rest => do
        let (items, rest) ← items fuel rest
        return (.arr items, rest)
    | .char '\x7b' :: rest =>
      match skipSpace rest with
      | .char '\x7d' :: rest => .ok (.obj [], rest)
      | rest => do
        let (members, rest) ← members fuel [] rest
        return (.obj members, rest)
    | _ => scalar text

/-- Reads the items of an array up to its closing bracket. -/
def items : Nat → Text → Except Fault (List Json × Text)
  | 0, text => .error (.malformed .valueExpected text.length)
  | fuel + 1, text => do
    let (item, rest) ← value fuel text
    match skipSpace rest with
    | .char ']' :: rest => return ([item], rest)
    | .char ',' :: rest =>
      let (more, rest) ← items fuel (skipSpace rest)
      return (item :: more, rest)
    | rest => .error (.malformed .commaExpected rest.length)

/-- Reads the members of an object up to its closing brace, behind those read before. -/
def members : Nat → List (Text × Json) → Text → Except Fault (List (Text × Json) × Text)
  | 0, _, text => .error (.malformed .nameExpected text.length)
  | fuel + 1, seen, text =>
    match text with
    | .char '"' :: rest => do
      let (name, rest) ← textAfterQuote rest
      match skipSpace rest with
      | .char ':' :: rest =>
        let (item, rest) ← value fuel (skipSpace rest)
        let seen := setEntry seen name item
        match skipSpace rest with
        | .char '\x7d' :: rest => return (seen, rest)
        | .char ',' :: rest => members fuel seen (skipSpace rest)
        | rest => .error (.malformed .commaExpected rest.length)
      | rest => .error (.malformed .colonExpected rest.length)
    | _ => .error (.malformed .nameExpected text.length)

end

/-- Reads a whole text as one value. -/
def parse (text : Text) : Except Fault Json :=
  match text with
  | .char '\ufeff' :: _ => .error (.malformed .byteOrderMark text.length)
  | _ => do
    let (found, rest) ← value (2 * text.length + 1) (skipSpace text)
    match skipSpace rest with
    | [] => return found
    | rest => .error (.malformed .extraData rest.length)

/-- The place in a text that a count of code points before its end denotes. -/
def placeLeft (text : Text) (left : Nat) : Place :=
  Place.ofOffset text (text.length - left)

end DialectSql.Json
