import DialectSql.Number.Numeral
import DialectSql.Proofs.Json.RoundTrip
import DialectSql.Proofs.Text.Trim

/-!
# Numerals in Request Parameters

The texts that a request parameter may denote a whole number by, and the numbers that they denote:
digits of any script, between which single underscores may stand, behind at most one sign and with
white space around them.  The reader finds the number of exactly these texts.

In particular it reads back the decimal numeral of every natural number that is short enough, also
behind zeros and a plus sign.
-/

namespace DialectSql

namespace Text

/-- No digit is white space. -/
theorem not_isWhiteSpace_of_digit {point : CodePoint} {value : Nat}
    (digit : digitValue? point = some value) : isWhiteSpace point = false := by
  obtain ⟨first, found, -⟩ := Option.map_eq_some_iff.mp digit
  have isZero := List.mem_of_find?_eq_some found
  have inside := List.find?_some found
  simp only [Bool.and_eq_true, decide_eq_true_eq] at inside
  -- The ten digits of no script meet a range of white space.
  have apart : ∀ first ∈ digitZeros, ∀ range ∈ whiteSpaceRanges,
      range.2 < first ∨ first + 10 ≤ range.1 := by
    decide
  rw [isWhiteSpace, RangeTable.has, Bool.eq_false_iff]
  intro covered
  obtain ⟨range, isRange, low, high⟩ := RangeTable.covers_iff.mp covered
  have := apart first isZero range isRange
  omega

end Text

namespace Number

/-! ## The grammar of numerals -/

/-- Digits with at most one underscore between any two, and their values. -/
inductive SpellsDigits : Text → List Nat → Prop
  | last {point : CodePoint} {value : Nat} (digit : Text.digitValue? point = some value) :
    SpellsDigits [point] [value]
  | next {point : CodePoint} {value : Nat} {text : Text} {values : List Nat}
    (digit : Text.digitValue? point = some value) (others : SpellsDigits text values) :
    SpellsDigits (point :: text) (value :: values)
  | apart {point : CodePoint} {value : Nat} {text : Text} {values : List Nat}
    (digit : Text.digitValue? point = some value) (others : SpellsDigits text values) :
    SpellsDigits (point :: '_' :: text) (value :: values)

/-- The signs, and whether they make a number negative. -/
inductive IsSign : Text → Bool → Prop
  | none : IsSign [] false
  | plus : IsSign ['+'] false
  | minus : IsSign ['-'] true

/-- A text denotes a whole number: white space around a sign and digits that are not too many. -/
inductive Denotes : Text → Int → Prop
  | numeral {before sign body after : Text} {negative : Bool} {digits : List Nat}
    (spaceBefore : ∀ point ∈ before, Text.isWhiteSpace point = true)
    (isSign : IsSign sign negative) (spells : SpellsDigits body digits)
    (short : digits.length ≤ maxDigits)
    (spaceAfter : ∀ point ∈ after, Text.isWhiteSpace point = true) :
    Denotes (before ++ (sign ++ body ++ after)) (signed negative digits)

/-! ## Reading numerals -/

theorem SpellsDigits.digitsOf?_eq {text : Text} {digits : List Nat}
    (spells : SpellsDigits text digits) : digitsOf? text = some digits := by
  have underscore : Text.digitValue? '_' = none := by decide
  induction spells with
  | last digit => simp [digitsOf?, digit]
  | apart digit others ih => simp [digitsOf?, digit, ih]
  | @next point value text values digit others ih =>
    cases text with
    | nil => cases others
    | cons following rest =>
      have notUnderscore : following ≠ '_' := by
        rintro rfl
        cases others <;> simp_all
      rw [digitsOf?, digit, ih]
      · rfl
      · exact notUnderscore

theorem spellsDigits_of_digitsOf? {text : Text} {digits : List Nat}
    (read : digitsOf? text = some digits) : SpellsDigits text digits := by
  induction text using digitsOf?.induct generalizing digits with
  | case1 => cases read
  | case2 point =>
    obtain ⟨value, digit, rfl⟩ := Option.map_eq_some_iff.mp read
    exact .last digit
  | case3 point more ih =>
    simp only [digitsOf?, Option.bind_eq_bind, Option.bind_eq_some_iff] at read
    obtain ⟨value, digit, values, others, same⟩ := read
    cases same
    exact .apart digit (ih others)
  | case4 point next more notUnderscore ih =>
    rw [digitsOf?.eq_4 _ _ _ notUnderscore] at read
    simp only [Option.bind_eq_bind, Option.bind_eq_some_iff] at read
    obtain ⟨value, digit, values, others, same⟩ := read
    cases same
    exact .next digit (ih others)

namespace SpellsDigits

variable {text : Text} {digits : List Nat}

/-- Digits start with a digit. -/
theorem exists_first (spells : SpellsDigits text digits) :
    ∃ point value rest, text = point :: rest ∧ Text.digitValue? point = some value := by
  cases spells with
  | last digit | next digit | apart digit => exact ⟨_, _, _, rfl, digit⟩

/-- Digits end with a digit. -/
theorem exists_last (spells : SpellsDigits text digits) :
    ∃ front point value, text = front ++ [point] ∧ Text.digitValue? point = some value := by
  induction spells with
  | last digit => exact ⟨[], _, _, rfl, digit⟩
  | next _ _ ih =>
    obtain ⟨front, point, value, rfl, digit⟩ := ih
    exact ⟨_ :: front, point, value, rfl, digit⟩
  | apart _ _ ih =>
    obtain ⟨front, point, value, rfl, digit⟩ := ih
    exact ⟨_ :: _ :: front, point, value, rfl, digit⟩

end SpellsDigits

theorem splitSign_append {sign body : Text} {negative : Bool} {digits : List Nat}
    (isSign : IsSign sign negative) (spells : SpellsDigits body digits) :
    splitSign (sign ++ body) = (negative, body) := by
  have minus : Text.digitValue? '-' = none := by decide
  have plus : Text.digitValue? '+' = none := by decide
  cases isSign with
  | plus | minus => rfl
  | none =>
    obtain ⟨point, value, rest, rfl, digit⟩ := spells.exists_first
    unfold splitSign
    split <;> simp_all

theorem exists_sign (text : Text) :
    ∃ sign, IsSign sign (splitSign text).1 ∧ text = sign ++ (splitSign text).2 := by
  unfold splitSign
  split
  · exact ⟨_, .minus, rfl⟩
  · exact ⟨_, .plus, rfl⟩
  · exact ⟨_, .none, rfl⟩

/-- What is read is the number of the digits behind the sign, in the text without white space at
its ends. -/
theorem ofParameter?_eq_some_iff_digits {text : Text} {number : Int} :
    ofParameter? text = some number ↔
      ∃ digits, digitsOf? (splitSign (Text.trim Text.isWhiteSpace text)).2 = some digits ∧
        digits.length ≤ maxDigits ∧
        signed (splitSign (Text.trim Text.isWhiteSpace text)).1 digits = number := by
  simp only [ofParameter?]
  cases digitsOf? (splitSign (Text.trim Text.isWhiteSpace text)).2 <;> simp

/-- The reader of request parameters finds the whole number that a text denotes, and none where it
denotes none. -/
theorem ofParameter?_eq_some {text : Text} {number : Int} :
    ofParameter? text = some number ↔ Denotes text number := by
  rw [ofParameter?_eq_some_iff_digits]
  constructor
  · rintro ⟨digits, found, short, rfl⟩
    obtain ⟨before, after, split, spaceBefore, spaceAfter⟩ :=
      Text.exists_trim Text.isWhiteSpace text
    obtain ⟨sign, isSign, core⟩ := exists_sign (Text.trim Text.isWhiteSpace text)
    have numeral := Denotes.numeral spaceBefore isSign (spellsDigits_of_digitsOf? found) short
      spaceAfter
    rwa [← core, ← split] at numeral
  · rintro @⟨before, sign, body, after, negative, digits, spaceBefore, isSign, spells, short,
      spaceAfter⟩
    have trimmed : Text.trim Text.isWhiteSpace (before ++ (sign ++ body ++ after)) =
        sign ++ body := by
      obtain ⟨first, _, others, isBody, firstDigit⟩ := spells.exists_first
      obtain ⟨front, last, _, endsBody, lastDigit⟩ := spells.exists_last
      apply Text.trim_append _ spaceBefore spaceAfter
      · cases isSign with
        | none => simpa [isBody] using Text.not_isWhiteSpace_of_digit firstDigit
        | plus | minus => exact (Text.startsOutside_cons _ _ _).mpr rfl
      · simpa [endsBody] using Text.not_isWhiteSpace_of_digit lastDigit
      · simp [isBody]
    rw [trimmed, splitSign_append isSign spells]
    exact ⟨digits, spells.digitsOf?_eq, short, rfl⟩

theorem Denotes.ne_nil {text : Text} {number : Int} (denotes : Denotes text number) :
    text ≠ [] := by
  obtain ⟨-, -, spells, -, -⟩ := denotes
  obtain ⟨_, _, _, rfl, -⟩ := spells.exists_first
  simp

/-! ## Decimal numerals -/

theorem digitValue?_of_isDigit {c : Char} (digit : c.isDigit = true) :
    Text.digitValue? c = some (c.toNat - '0'.toNat) := by
  obtain ⟨low, high⟩ : 48 ≤ c.toNat ∧ c.toNat ≤ 57 := by
    simpa [Char.isDigit, UInt32.le_iff_toNat_le] using digit
  rw [Text.digitValue?, Text.digitZeros, List.find?_cons_of_pos]
  · rfl
  · exact Bool.and_eq_true_iff.mpr ⟨decide_eq_true low, decide_eq_true (Nat.lt_succ_of_le high)⟩

/-- A row of ASCII digits spells their values. -/
theorem spellsDigits_of_isDigit {digits : List Char} (nonempty : digits ≠ [])
    (areDigits : ∀ digit ∈ digits, digit.isDigit = true) :
    SpellsDigits (digits.map .char) (digits.map fun digit ↦ digit.toNat - '0'.toNat) := by
  induction digits with
  | nil => exact absurd rfl nonempty
  | cons digit digits ih =>
    have first := digitValue?_of_isDigit (areDigits digit List.mem_cons_self)
    cases digits with
    | nil => exact .last first
    | cons second rest =>
      exact .next first (ih (List.cons_ne_nil _ _) fun other mem ↦
        areDigits other (List.mem_cons_of_mem _ mem))

/-- Zeros in front do not change a number. -/
theorem ofDigits_zeros (zeros : Nat) (digits : List Nat) :
    ofDigits (List.replicate zeros 0 ++ digits) = ofDigits digits := by
  induction zeros with
  | zero => rfl
  | succ zeros ih => simpa [List.replicate_succ, ofDigits] using ih

/-- The decimal numeral of a natural number denotes it, also behind zeros and a plus sign and
between white space, as long as it has not too many digits. -/
theorem denotes_decimal {before sign after : Text} (zeros count : Nat)
    (spaceBefore : ∀ point ∈ before, Text.isWhiteSpace point = true)
    (isSign : IsSign sign false) (short : zeros + count.repr.length ≤ maxDigits)
    (spaceAfter : ∀ point ∈ after, Text.isWhiteSpace point = true) :
    Denotes (before ++ (sign ++ (List.replicate zeros (CodePoint.char '0') ++ count.repr) ++ after))
      count := by
  have areDigits : ∀ digit ∈ List.replicate zeros '0' ++ Nat.toDigits 10 count,
      digit.isDigit = true := by
    intro digit mem
    rcases List.mem_append.mp mem with isZero | ofCount
    · rw [List.eq_of_mem_replicate isZero]
      rfl
    · exact Nat.isDigit_of_mem_toDigits (by decide) (by decide) ofCount
  have spells := spellsDigits_of_isDigit (by simp [Nat.toDigits_ne_nil]) areDigits
  rw [List.map_append, List.map_append, List.map_replicate, List.map_replicate,
    ← Json.ofString_repr] at spells
  have few : (List.replicate zeros 0 ++ Json.digitsOf count).length ≤ maxDigits := by
    rwa [List.length_append, List.length_replicate, Json.length_digitsOf]
  have numeral := Denotes.numeral spaceBefore isSign spells few spaceAfter
  have value : signed false (List.replicate zeros 0 ++ Json.digitsOf count) = count := by
    rw [signed, ofDigits_zeros, Json.ofDigits_digitsOf]
    rfl
  exact value ▸ numeral

end Number

end DialectSql
