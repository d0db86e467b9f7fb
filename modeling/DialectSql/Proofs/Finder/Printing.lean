import DialectSql.Proofs.Finder.Scanning
import DialectSql.Proofs.Text.AsciiCase

/-!
# Printing Finders

A row of fields as a descriptor.  Columns are printed in capitals, so that every letter starts a
word of its own and no word of a column spells a keyword.  What is printed is read back as it was,
and everything that is read can be printed.
-/

namespace DialectSql.Finder

open Text

/-! ## Columns -/

/-- What columns of finders are written like: a small letter with small letters, digits and
underscores behind it. -/
def IsColumn (column : Text) : Prop :=
  column ≠ [] ∧ (∀ point ∈ column.head?, isSmall point = true) ∧
    ∀ point ∈ column.tail, isWordTail point = true

instance (column : Text) : Decidable (IsColumn column) :=
  inferInstanceAs (Decidable (_ ∧ _))

theorem isAscii_of_isBodyChar {point : CodePoint} (body : isBodyChar point = true) :
    isAscii point = true := by
  cases point with
  | half offset => cases body
  | char c =>
    simp only [isBodyChar, CodePoint.isIn, Char.isAlphanum, Char.isAlpha, Char.isUpper,
      Char.isLower, Char.isDigit, Bool.or_eq_true, Bool.and_eq_true, decide_eq_true_eq,
      UInt32.le_iff_toNat_le, beq_iff_eq] at body
    have code : c.toNat < 0x80 := by
      obtain ((⟨-, high⟩ | ⟨-, high⟩) | ⟨-, high⟩) | rfl := body
      · exact Nat.lt_of_le_of_lt high (by decide)
      · exact Nat.lt_of_le_of_lt high (by decide)
      · exact Nat.lt_of_le_of_lt high (by decide)
      · decide
    simpa [isAscii, CodePoint.isIn] using code

/-- The capitals of what a column is written with. -/
theorem toUpper_of_isWordTail {point : CodePoint} (tail : isWordTail point = true) :
    isBodyChar (point.mapChar Char.toUpper) = true ∧
      isSmall (point.mapChar Char.toUpper) = false ∧
      (isSmall point = true → isCapital (point.mapChar Char.toUpper) = true) ∧
      (point.mapChar Char.toUpper).mapChar Char.toLower = point := by
  have ascii := isAscii_of_isBodyChar ((isBodyChar_eq point).trans (by simp [tail]))
  revert tail
  apply of_isAscii (fun point ↦ isWordTail point = true →
    isBodyChar (point.mapChar Char.toUpper) = true ∧
      isSmall (point.mapChar Char.toUpper) = false ∧
      (isSmall point = true → isCapital (point.mapChar Char.toUpper) = true) ∧
      (point.mapChar Char.toUpper).mapChar Char.toLower = point) _ ascii
  decide

/-- The small letters of what a word is written with. -/
theorem toLower_of_isBodyChar {point : CodePoint} (body : isBodyChar point = true) :
    isWordTail (point.mapChar Char.toLower) = true ∧
      (isCapital point = true → isSmall (point.mapChar Char.toLower) = true) := by
  have ascii := isAscii_of_isBodyChar body
  revert body
  apply of_isAscii (fun point ↦ isBodyChar point = true →
    isWordTail (point.mapChar Char.toLower) = true ∧
      (isCapital point = true → isSmall (point.mapChar Char.toLower) = true)) _ ascii
  decide

theorem isWordTail_of_isSmall {point : CodePoint} (small : isSmall point = true) :
    isWordTail point = true := by
  cases point with
  | half offset => cases small
  | char c =>
    have lower : c.isLower = true := small
    simp [isWordTail, CodePoint.isIn, lower]

namespace IsColumn

variable {column : Text}

theorem isWordTail (isColumn : IsColumn column) : ∀ point ∈ column, isWordTail point = true := by
  obtain ⟨nonempty, first, tail⟩ := isColumn
  cases column with
  | nil => exact absurd rfl nonempty
  | cons point rest =>
    rw [List.forall_mem_cons]
    exact ⟨isWordTail_of_isSmall (first point rfl), tail⟩

theorem isAscii (isColumn : IsColumn column) : ∀ point ∈ column, isAscii point = true := by
  intro point mem
  apply isAscii_of_isBodyChar
  rw [isBodyChar_eq, isColumn.isWordTail point mem, Bool.or_true]

/-- A column in capitals is a body. -/
theorem isBody_upper (isColumn : IsColumn column) : IsBody (upper column) := by
  have tails := isColumn.isWordTail
  rw [upper_ascii isColumn.isAscii]
  obtain ⟨nonempty, first, -⟩ := isColumn
  refine ⟨by simpa using nonempty, ?_, ?_⟩
  · rw [List.forall_mem_map]
    exact fun point mem ↦ (toUpper_of_isWordTail (tails point mem)).1
  · cases column with
    | nil => exact absurd rfl nonempty
    | cons point rest =>
      have capital := (toUpper_of_isWordTail (tails point (by simp))).2.2.1 (first point rfl)
      simpa using capital

/-- No small letter stands in the words of a column in capitals. -/
theorem not_isSmall_words (isColumn : IsColumn column) :
    ∀ word ∈ words (upper column), ∀ point ∈ word, isSmall point = false := by
  intro word isWord point mem
  have inside : point ∈ upper column := by
    rw [← (isCut_words isColumn.isBody_upper).whole]
    exact List.mem_flatten_of_mem isWord mem
  rw [upper_ascii isColumn.isAscii] at inside
  obtain ⟨source, isSource, rfl⟩ := List.mem_map.mp inside
  exact (toUpper_of_isWordTail (isColumn.isWordTail source isSource)).2.1

theorem words_ne_nil (isColumn : IsColumn column) : words (upper column) ≠ [] := by
  intro none
  have whole := (isCut_words isColumn.isBody_upper).whole
  rw [none] at whole
  exact isColumn.isBody_upper.nonempty whole.symm

/-- Reading a column in capitals gives the column. -/
theorem lower_words (isColumn : IsColumn column) :
    lower (words (upper column)).flatten = column := by
  have ascii : ∀ point ∈ column.map (CodePoint.mapChar Char.toUpper),
      Text.isAscii point = true := by
    rw [List.forall_mem_map]
    exact fun point mem ↦ isAscii_toUpper (isColumn.isAscii point mem)
  have back : ∀ point ∈ column, (point.mapChar Char.toUpper).mapChar Char.toLower = point :=
    fun point mem ↦ (toUpper_of_isWordTail (isColumn.isWordTail point mem)).2.2.2
  calc
    lower (words (upper column)).flatten = lower (upper column) := by
      rw [(isCut_words isColumn.isBody_upper).whole]
    _ = (column.map (CodePoint.mapChar Char.toUpper)).map (CodePoint.mapChar Char.toLower) := by
      rw [upper_ascii isColumn.isAscii, lower_ascii ascii]
    _ = column.map id := by
      rw [List.map_map]
      exact List.map_congr_left back
    _ = column := List.map_id column

end IsColumn

/-- Words in small letters are a column. -/
theorem isColumn_lower {fieldWords : List Text} (nonempty : fieldWords ≠ [])
    (capital : ∀ word ∈ fieldWords, IsCapitalWord word) :
    IsColumn (lower fieldWords.flatten) := by
  have cut : IsCut fieldWords fieldWords.flatten := ⟨rfl, capital⟩
  obtain ⟨present, points, starts⟩ := cut.isBody nonempty
  rw [lower_ascii fun point mem ↦ isAscii_of_isBodyChar (points point mem)]
  obtain ⟨point, rest, shape⟩ := List.exists_cons_of_ne_nil present
  rw [shape] at points starts ⊢
  have first := (toLower_of_isBodyChar (points point (by simp))).2 (starts point rfl)
  refine ⟨by simp, by simpa using first, ?_⟩
  rw [List.map_cons, List.tail_cons, List.forall_mem_map]
  exact fun other mem ↦ (toLower_of_isBodyChar (points other (by simp [mem]))).1

/-! ## Fields -/

/-- What can be read from a descriptor: fields with columns, of which the first stands behind no
connector and counts as joined by `AND`. -/
def IsChain (fields : List FieldExpr) : Prop :=
  fields ≠ [] ∧ (∀ field ∈ fields.head?, field.connector = .and) ∧
    ∀ field ∈ fields, IsColumn field.column

instance (fields : List FieldExpr) : Decidable (IsChain fields) :=
  inferInstanceAs (Decidable (_ ∧ _))

/-- A field as it is printed, without its connector. -/
def FieldExpr.printed (field : FieldExpr) : Text :=
  upper field.column ++ field.operator.suffix.flatten

/-- A row of fields as a descriptor. -/
def printed (allRows : Bool) (fields : List FieldExpr) : Text :=
  openingOf allRows ++
    match fields with
    | [] => []
    | field :: fields =>
      field.printed ++ fields.flatMap fun field ↦ field.connector.word ++ field.printed

/-- The words that a field is printed with. -/
def FieldExpr.words (field : FieldExpr) : List Text :=
  Finder.words (upper field.column) ++ field.operator.suffix

/-- A field as a segment. -/
def FieldExpr.segment (field : FieldExpr) : Segment :=
  ⟨field.connector, field.words⟩

theorem IsCut.append {words more : List Text} {body rest : Text} (cut : IsCut words body)
    (cutRest : IsCut more rest) : IsCut (words ++ more) (body ++ rest) := by
  refine ⟨by rw [List.flatten_append, cut.whole, cutRest.whole], ?_⟩
  rw [List.forall_mem_append]
  exact ⟨cut.capital, cutRest.capital⟩

/-- Every operator is spelled with a small letter. -/
theorem isSmall_of_suffixed {operator : Operator} (isSuffixed : operator ∈ suffixed) :
    ∃ word ∈ operator.suffix, ∃ point ∈ word, isSmall point = true := by
  have all : ∀ operator ∈ suffixed,
      ∃ word ∈ operator.suffix, ∃ point ∈ word, isSmall point = true := by decide
  exact all operator isSuffixed

namespace FieldExpr

variable {field : FieldExpr}

theorem isCut_words (isColumn : IsColumn field.column) : IsCut field.words field.printed := by
  have suffix : IsCut field.operator.suffix field.operator.suffix.flatten := by
    refine ⟨rfl, ?_⟩
    cases field.operator <;> decide
  exact (Finder.isCut_words isColumn.isBody_upper).append suffix

/-- No printed word joins fields. -/
theorem inside_words (isColumn : IsColumn field.column) : Inside field.words := by
  unfold Inside words
  rw [List.forall_mem_append]
  refine ⟨fun word isWord ↦ ?_, by cases field.operator <;> decide⟩
  have noSmall := isColumn.not_isSmall_words word isWord
  rw [Bool.eq_false_iff, ne_eq, isConnectorWord_iff]
  rintro (rfl | rfl)
  · exact absurd (noSmall 'n' (by decide)) (by decide)
  · exact absurd (noSmall 'r' (by decide)) (by decide)

theorem operatorOf_words (isColumn : IsColumn field.column) :
    operatorOf field.words = field.operator := by
  by_cases plain : field.operator = .equals
  · rw [plain]
    apply operatorOf_eq_equals
    intro operator isSuffixed ends
    obtain ⟨word, inSuffix, point, inWord, small⟩ := isSmall_of_suffixed isSuffixed
    have inWords : word ∈ Finder.words (upper field.column) := by
      have found := ends.subset inSuffix
      rw [words, plain] at found
      simpa [Operator.suffix] using found
    rw [isColumn.not_isSmall_words word inWords point inWord] at small
    cases small
  · exact operatorOf_eq (mem_suffixed.mpr plain) (List.suffix_append _ _)

theorem fieldWords_words (isColumn : IsColumn field.column) :
    fieldWords field.words = Finder.words (upper field.column) := by
  apply fieldWords_eq
  rw [operatorOf_words isColumn]
  rfl

/-- A printed field is read back as it was. -/
theorem field_segment (isColumn : IsColumn field.column) : field.segment.field = field := by
  rw [Segment.field, segment, operatorOf_words isColumn, fieldWords_words isColumn,
    isColumn.lower_words]

end FieldExpr

/-! ## Descriptors -/

theorem isCut_spelled {fields : List FieldExpr}
    (columns : ∀ field ∈ fields, IsColumn field.column) :
    IsCut (spelled (fields.map FieldExpr.segment))
      (fields.flatMap fun field ↦ field.connector.word ++ field.printed) := by
  induction fields with
  | nil => exact .nil
  | cons field fields ih =>
    have others := ih fun other mem ↦ columns other (by simp [mem])
    have connector : IsCut [field.connector.word] field.connector.word := by
      refine ⟨by simp, ?_⟩
      cases field.connector <;> decide
    have here := connector.append (field.isCut_words (columns field (by simp)))
    exact here.append others

/-- A chain of fields is read back from its descriptor. -/
theorem parse_printed_chain {fields : List FieldExpr} (allRows : Bool) (chain : IsChain fields) :
    parse (printed allRows fields) = .ok ⟨printed allRows fields, allRows, fields⟩ := by
  obtain ⟨nonempty, first, columns⟩ := chain
  cases fields with
  | nil => exact absurd rfl nonempty
  | cons field fields =>
    have isColumn := columns field (by simp)
    have othersColumns : ∀ other ∈ fields, IsColumn other.column :=
      fun other mem ↦ columns other (by simp [mem])
    have cut := (field.isCut_words isColumn).append (isCut_spelled othersColumns)
    have inside : ∀ segment ∈ fields.map FieldExpr.segment, Inside segment.words := by
      rw [List.forall_mem_map]
      exact fun other mem ↦ other.inside_words (othersColumns other mem)
    have hasWords (other : FieldExpr) (isColumn : IsColumn other.column) :
        fieldWords other.words ≠ [] := by
      rw [other.fieldWords_words isColumn]
      exact isColumn.words_ne_nil
    have noBare : bareField? (openingOf allRows).length field.words
        (fields.map FieldExpr.segment) = none := by
      rw [bareField?_eq_none, List.forall_mem_cons, List.map_map, List.forall_mem_map]
      exact ⟨hasWords field isColumn, fun other mem ↦ hasWords other (othersColumns other mem)⟩
    have joined : Segment.field ⟨.and, field.words⟩ = field := by
      rw [← first field rfl]
      exact field.field_segment isColumn
    have others : (fields.map FieldExpr.segment).map Segment.field = fields := by
      have back : ∀ other ∈ fields, other.segment.field = other :=
        fun other mem ↦ other.field_segment (othersColumns other mem)
      rw [List.map_map]
      exact (List.map_congr_left back).trans (List.map_id fields)
    rw [printed, parse_segments cut (field.inside_words isColumn) inside, noBare, joined, others]

/-- What is read from a descriptor is a chain of fields. -/
theorem isChain_of_parse {descriptor : Text} {finder : Finder}
    (read : parse descriptor = .ok finder) : IsChain finder.fields := by
  obtain ⟨allRows, body, first, segments, -, isCut, -, -, fields, rfl⟩ := segments_of_parse read
  have isColumn {words : List Text} (present : fieldWords words ≠ [])
      (inside : ∀ word ∈ words, word ∈ first ++ spelled segments) :
      IsColumn (lower (fieldWords words).flatten) := by
    apply isColumn_lower present
    intro word mem
    exact isCut.capital word (inside word (List.mem_of_mem_take mem))
  refine ⟨by simp, by simp [Segment.field], ?_⟩
  rw [List.forall_mem_cons, List.forall_mem_map]
  constructor
  · exact isColumn (fields first (by simp)) fun word mem ↦ List.mem_append_left _ mem
  · intro segment isSegment
    apply isColumn (fields segment.words (by simp [List.mem_map_of_mem isSegment]))
    intro word mem
    apply List.mem_append_right
    exact List.mem_flatMap.mpr ⟨segment, isSegment, List.mem_cons_of_mem _ mem⟩

/-- Finders and chains of fields are the same: every chain is read back from its descriptor, and
everything that is read is a chain and is read again from the descriptor that prints it. -/
theorem parse_printed :
    (∀ allRows fields, IsChain fields →
        parse (printed allRows fields) = .ok ⟨printed allRows fields, allRows, fields⟩) ∧
      ∀ descriptor finder, parse descriptor = .ok finder →
        IsChain finder.fields ∧
          ∃ again, parse (printed finder.allRows finder.fields) = .ok again ∧
            again.allRows = finder.allRows ∧ again.fields = finder.fields := by
  refine ⟨fun allRows fields chain ↦ parse_printed_chain allRows chain, ?_⟩
  intro descriptor finder read
  have chain := isChain_of_parse read
  exact ⟨chain, _, parse_printed_chain finder.allRows chain, rfl, rfl⟩

/-- A chain whose columns are spelled like keywords. -/
def keywordColumns : List FieldExpr :=
  [⟨"and", .like, .and⟩, ⟨"is_null2", .isNotNull, .or⟩, ⟨"between", .equals, .and⟩]

theorem parse_keywordColumns :
    IsChain keywordColumns ∧
      parse "findAllByANDLikeOrIS_NULL2IsNotNullAndBETWEEN" =
        .ok ⟨"findAllByANDLikeOrIS_NULL2IsNotNullAndBETWEEN", true, keywordColumns⟩ :=
  have chain : IsChain keywordColumns := by decide
  have shape : printed true keywordColumns = "findAllByANDLikeOrIS_NULL2IsNotNullAndBETWEEN" := by
    decide
  ⟨chain, shape ▸ parse_printed.1 true keywordColumns chain⟩

end DialectSql.Finder
