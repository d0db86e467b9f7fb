import DialectSql.Json.Reader
import DialectSql.Json.Writer
import DialectSql.Proofs.Text.AsciiCase

/-!
# Written Texts Read Back

A text is written between quotes with its points escaped one by one, so it is read back point by
point: an escape is a letter behind a backslash, one UTF-16 unit, or the two units of a pair, and
each of them stands for one point.  Half of a pair is no character; written next to its counterpart
it would be read as the character of the pair, so texts with halves are left out here.

What is written holds ASCII characters only.
-/

namespace DialectSql

namespace Text

theorem hexValue?_hexDigit {digit : Nat} (small : digit < 16) :
    hexValue? (.char (hexDigit digit)) = some digit := by
  have table : ∀ digit < 16, hexValue? (.char (hexDigit digit)) = some digit := by decide
  exact table digit small

theorem isAscii_hexDigit {digit : Nat} (small : digit < 16) :
    isAscii (.char (hexDigit digit)) = true := by
  have table : ∀ digit < 16, isAscii (.char (hexDigit digit)) = true := by decide
  exact table digit small

theorem isAscii_of_code_lt {point : CodePoint} (small : point.code < 0x80) :
    isAscii point = true := by
  cases point with
  | char c => exact decide_eq_true small
  | half offset =>
    simp only [CodePoint.code, CodePoint.firstHalf] at small
    omega

/-- Hexadecimal digits are ASCII characters. -/
theorem within_hexDigits (width number : Nat) : (hexDigits width number).Within isAscii := by
  induction width generalizing number with
  | zero => simp [hexDigits, Within]
  | succ width ih =>
    rw [hexDigits, within_append]
    refine ⟨ih _, ?_⟩
    simpa [Within] using isAscii_hexDigit (Nat.mod_lt number (by decide))

end Text

namespace CodePoint

theorem code_lt (point : CodePoint) : point.code < 0x110000 := by
  cases point with
  | char c =>
    have valid : c.toNat < 0xD800 ∨ 0xDFFF < c.toNat ∧ c.toNat < 0x110000 := c.valid
    simp only [code]
    omega
  | half offset =>
    simp only [code, firstHalf]
    omega

end CodePoint

namespace Json

/-! ## Escapes -/

/-- Four hexadecimal digits are read as the unit that they were written for. -/
theorem unit?_hexDigits {unit : Nat} (isUnit : unit < 0x10000) (next : CodePoint) (rest : Text) :
    unit? (Text.hexDigits 4 unit ++ next :: rest) = some (unit, next :: rest) := by
  have value {digit : Nat} (small : digit < 16) := Text.hexValue?_hexDigit small
  simp only [Text.hexDigits, List.nil_append, List.cons_append, unit?]
  rw [value (by omega), value (by omega), value (by omega), value (by omega)]
  simp only [Option.bind_eq_bind, Option.bind_some, Option.pure_def, Option.some.injEq,
    Prod.mk.injEq, and_true]
  omega

theorem isHighUnit_iff {unit : Nat} : isHighUnit unit = true ↔ 0xD800 ≤ unit ∧ unit ≤ 0xDBFF := by
  rw [isHighUnit, Bool.and_eq_true]
  exact and_congr decide_eq_true_iff decide_eq_true_iff

theorem isLowUnit_iff {unit : Nat} : isLowUnit unit = true ↔ 0xDC00 ≤ unit ∧ unit ≤ 0xDFFF := by
  rw [isLowUnit, Bool.and_eq_true]
  exact and_congr decide_eq_true_iff decide_eq_true_iff

/-- The number of a character is no unit of a pair. -/
theorem isHighUnit_code {point : CodePoint} (whole : point.isHalf = false) :
    isHighUnit point.code = false := by
  cases point with
  | char c =>
    apply Bool.eq_false_of_not_eq_true
    intro isHigh
    obtain ⟨lower, upper⟩ := isHighUnit_iff.mp isHigh
    apply CodePoint.not_half_toNat c
    exact ⟨lower, Nat.lt_of_le_of_lt upper (by decide)⟩
  | half offset => cases whole

/-- The unit of a character of the basic plane is read as the character. -/
theorem unitEscape_unit {point : CodePoint} (whole : point.isHalf = false)
    (basic : point.code < 0x10000) (next : CodePoint) (rest : Text) :
    unitEscape (Text.hexDigits 4 point.code ++ next :: rest) = .ok (point, next :: rest) := by
  rw [unitEscape, unit?_hexDigits basic]
  simp only [isHighUnit_code whole, CodePoint.ofCode_code]

/-- Two units that form a pair are read as the character of the pair. -/
theorem unitEscape_pair {high low : Nat} (isHigh : isHighUnit high = true)
    (isLow : isLowUnit low = true) (next : CodePoint) (rest : Text) :
    unitEscape (Text.hexDigits 4 high ++ escapeUnit low ++ next :: rest) =
      .ok (.ofCode (pairCode high low), next :: rest) := by
  have highSmall : high < 0x10000 := by
    have := isHighUnit_iff.mp isHigh
    omega
  have lowSmall : low < 0x10000 := by
    have := isLowUnit_iff.mp isLow
    omega
  have units : Text.hexDigits 4 high ++ escapeUnit low ++ next :: rest =
      Text.hexDigits 4 high ++ .char '\\' :: .char 'u' ::
        (Text.hexDigits 4 low ++ next :: rest) := by
    rw [List.append_assoc]
    rfl
  rw [units, unitEscape, unit?_hexDigits highSmall]
  simp only [isHigh, unit?_hexDigits lowSmall, isLow, if_true]

/-- The units of a character beyond the basic plane form a pair, which stands for the character. -/
theorem pairCode_units {code : Nat} (beyond : 0x10000 ≤ code) (bound : code < 0x110000) :
    isHighUnit (0xD800 + (code - 0x10000) / 0x400) = true ∧
      isLowUnit (0xDC00 + (code - 0x10000) % 0x400) = true ∧
      pairCode (0xD800 + (code - 0x10000) / 0x400) (0xDC00 + (code - 0x10000) % 0x400) = code := by
  refine ⟨isHighUnit_iff.mpr ?_, isLowUnit_iff.mpr ?_, ?_⟩
  · omega
  · omega
  · unfold pairCode
    omega

/-- A character that was written as units is read back from them. -/
theorem unitEscape_units {point : CodePoint} (whole : point.isHalf = false) (next : CodePoint)
    (rest : Text) :
    ∃ digits, (units point.code).flatMap escapeUnit = ("\\u" : Text) ++ digits ∧
      unitEscape (digits ++ next :: rest) = .ok (point, next :: rest) := by
  by_cases basic : point.code < 0x10000
  · refine ⟨Text.hexDigits 4 point.code, ?_, unitEscape_unit whole basic next rest⟩
    simp only [units, if_pos basic, List.flatMap_cons, List.flatMap_nil, List.append_nil,
      escapeUnit]
  · obtain ⟨isHigh, isLow, code⟩ := pairCode_units (Nat.le_of_not_lt basic) point.code_lt
    have pair := unitEscape_pair isHigh isLow next rest
    rw [code, CodePoint.ofCode_code] at pair
    refine ⟨_, ?_, pair⟩
    simp only [units, if_neg basic, List.flatMap_cons, List.flatMap_nil, List.append_nil,
      escapeUnit, List.append_assoc]

/-! ## Points -/

/-- What a text reads as when a point that was read stands in front of it. -/
def readBehind (point : CodePoint) (others : Except Fault (Text × Text)) :
    Except Fault (Text × Text) :=
  others.map fun read ↦ (point :: read.1, read.2)

theorem textBody_plain {point : CodePoint} (noQuote : point ≠ '"') (noBackslash : point ≠ '\\')
    (noControl : 0x1F < point.code) (start fuel : Nat) (rest : Text) :
    textBody start (fuel + 1) (point :: rest) = readBehind point (textBody start fuel rest) := by
  simp only [textBody.eq_def start (fuel + 1), if_neg noQuote, if_neg noBackslash,
    if_neg (Nat.not_le_of_lt noControl)]
  rfl

theorem textBody_letter {letter found : Char} (meaning : escaped? (.char letter) = some found)
    (start fuel : Nat) (rest : Text) :
    textBody start (fuel + 1) (.char '\\' :: .char letter :: rest) =
      readBehind found (textBody start fuel rest) := by
  have noUnit : letter ≠ 'u' := by
    rintro rfl
    cases meaning
  simp only [textBody.eq_def start (fuel + 1)]
  rw [if_neg (by decide), if_pos trivial]
  split
  next same => cases same
  next same => exact absurd (CodePoint.char.inj (List.cons.inj same).1) noUnit
  next same =>
    cases same
    rw [meaning]
    rfl

theorem textBody_unit {found : CodePoint} {digits rest : Text}
    (units : unitEscape digits = .ok (found, rest)) (start fuel : Nat) :
    textBody start (fuel + 1) (("\\u" : Text) ++ digits) =
      readBehind found (textBody start fuel rest) := by
  have step : textBody start (fuel + 1) (("\\u" : Text) ++ digits) =
      (unitEscape digits >>= fun unit ↦ readBehind unit.1 (textBody start fuel unit.2)) := rfl
  rw [step, units]
  rfl

/-- The characters that have an escape of one letter, each with its letter. -/
def letterEscapes : List (Char × Char) :=
  [('"', '"'), ('\\', '\\'), ('\n', 'n'), ('\r', 'r'), ('\t', 't'), ('\x08', 'b'), ('\x0c', 'f')]

/-- How a point is written: as an escape of one letter, as itself, or as units. -/
theorem escapePoint_cases (point : CodePoint) :
    (∃ found letter : Char, (found, letter) ∈ letterEscapes ∧ point = .char found ∧
      escapePoint point = [.char '\\', .char letter]) ∨
    (escapePoint point = [point] ∧ 0x20 ≤ point.code ∧ point.code ≤ 0x7E ∧ point ≠ '"' ∧
      point ≠ '\\') ∨
    escapePoint point = (units point.code).flatMap escapeUnit := by
  by_cases plain : ∀ escape ∈ letterEscapes, point ≠ .char escape.1
  · right
    simp only [letterEscapes, List.forall_mem_cons] at plain
    obtain ⟨quote, backslash, lineFeed, carriageReturn, tab, backspace, formFeed, -⟩ := plain
    rw [escapePoint, if_neg quote, if_neg backslash, if_neg lineFeed, if_neg carriageReturn,
      if_neg tab, if_neg backspace, if_neg formFeed]
    split_ifs with printable
    · exact .inl ⟨rfl, printable.1, printable.2, quote, backslash⟩
    · exact .inr rfl
  · left
    have table : ∀ escape ∈ letterEscapes,
        escapePoint (.char escape.1) = [.char '\\', .char escape.2] := by
      decide
    simp only [not_forall, not_not] at plain
    obtain ⟨⟨found, letter⟩, mem, rfl⟩ := plain
    exact ⟨found, letter, mem, rfl, table _ mem⟩

/-- An escaped point in front of a text that goes on is read as the point. -/
theorem textBody_escapePoint {point : CodePoint} (whole : point.isHalf = false) (start fuel : Nat)
    {rest : Text} (goesOn : rest ≠ []) :
    textBody start (fuel + 1) (escapePoint point ++ rest) =
      readBehind point (textBody start fuel rest) := by
  obtain ⟨found, letter, mem, rfl, written⟩ | ⟨written, lower, -, noQuote, noBackslash⟩ | written :=
    escapePoint_cases point
  · have table : ∀ escape ∈ letterEscapes, escaped? (.char escape.2) = some escape.1 := by decide
    rw [written]
    exact textBody_letter (table _ mem) start fuel rest
  · rw [written]
    exact textBody_plain noQuote noBackslash lower start fuel rest
  · -- The digits of a unit are read only if something follows them, if only the closing quote.
    obtain ⟨next, rest, rfl⟩ := List.exists_cons_of_ne_nil goesOn
    obtain ⟨digits, form, read⟩ := unitEscape_units whole next rest
    rw [written, form, List.append_assoc]
    exact textBody_unit read start fuel

/-- A text escaped point by point is read back up to its closing quote. -/
theorem textBody_flatMap {text : Text} (whole : text.hasHalf = false) (start fuel : Nat)
    (rest : Text) :
    textBody start (text.length + fuel + 1) (text.flatMap escapePoint ++ .char '"' :: rest) =
      .ok (text, rest) := by
  induction text generalizing fuel with
  | nil => rfl
  | cons point text ih =>
    obtain ⟨here, others⟩ : point.isHalf = false ∧ Text.hasHalf text = false := by
      simpa only [Text.hasHalf, List.any_cons, Bool.or_eq_false_iff] using whole
    have goesOn : text.flatMap escapePoint ++ .char '"' :: rest ≠ [] := by simp
    rw [List.flatMap_cons, List.append_assoc, List.length_cons, Nat.add_right_comm _ 1,
      textBody_escapePoint here start _ goesOn, ih others]
    rfl

/-- Escaping leaves no point out. -/
theorem length_escapePoint_pos (point : CodePoint) : 0 < (escapePoint point).length := by
  obtain ⟨found, letter, -, -, written⟩ | ⟨written, -⟩ | written := escapePoint_cases point
  · simp [written]
  · simp [written]
  · rw [written, units]
    split_ifs <;> exact Nat.succ_pos _

theorem length_le_length_flatMap (text : Text) :
    text.length ≤ (text.flatMap escapePoint).length := by
  induction text with
  | nil => rfl
  | cons point text ih =>
    have written := length_escapePoint_pos point
    rw [List.flatMap_cons, List.length_append, List.length_cons]
    omega

/-- A written text is read back. -/
theorem textAfterQuote_flatMap {text : Text} (whole : text.hasHalf = false) (rest : Text) :
    textAfterQuote (text.flatMap escapePoint ++ .char '"' :: rest) = .ok (text, rest) := by
  have short := length_le_length_flatMap text
  obtain ⟨spare, enough⟩ : ∃ spare,
      (text.flatMap escapePoint ++ .char '"' :: rest).length + 1 = text.length + spare + 1 := by
    refine ⟨(text.flatMap escapePoint ++ .char '"' :: rest).length - text.length, ?_⟩
    rw [List.length_append]
    omega
  rw [textAfterQuote, enough]
  exact textBody_flatMap whole _ spare rest

/-! ## Alphabet -/

theorem within_escapeUnit (unit : Nat) : (escapeUnit unit).Within Text.isAscii := by
  apply Text.within_append.mpr
  exact ⟨by decide, Text.within_hexDigits 4 unit⟩

theorem within_escapePoint (point : CodePoint) : (escapePoint point).Within Text.isAscii := by
  obtain ⟨found, letter, mem, -, written⟩ | ⟨written, -, upper, -⟩ | written :=
    escapePoint_cases point
  · have table : ∀ escape ∈ letterEscapes,
        Text.Within Text.isAscii [.char '\\', .char escape.2] := by
      decide
    rw [written]
    exact table _ mem
  · rw [written]
    simpa [Text.Within] using Text.isAscii_of_code_lt (Nat.lt_succ_of_le (Nat.le_succ_of_le upper))
  · rw [written]
    exact Text.within_flatMap fun unit _ ↦ within_escapeUnit unit

/-- A written text holds ASCII characters only. -/
theorem within_writeText (text : Text) : (writeText text).Within Text.isAscii := by
  have quote : Text.Within Text.isAscii ("\"" : Text) := by decide
  rw [writeText, Text.within_append, Text.within_append]
  exact ⟨⟨quote, Text.within_flatMap fun point _ ↦ within_escapePoint point⟩, quote⟩

end Json

end DialectSql
