import DialectSql.Proofs.Finder.Grammar

/-!
# Scanning Segments

The scanner of field expressions against the grammar.  On the tokens of a segment and of what
follows it, the scanner finds the field words and the operator of the segment and stops in front of
the connector or the end.  By induction over the segments, a descriptor is read exactly when every
segment has field words, and otherwise the first segment without any is reported.
-/

namespace DialectSql.Finder

/-! ## Tokens of words -/

@[simp]
theorem kindAt_cons_zero (token : Token) (tokens : List Token) :
    kindAt (token :: tokens) 0 = token.kind :=
  rfl

@[simp]
theorem kindAt_cons_succ (token : Token) (tokens : List Token) (distance : Nat) :
    kindAt (token :: tokens) (distance + 1) = kindAt tokens distance :=
  rfl

@[simp]
theorem placeWords_cons (position : Nat) (word : Text) (words : List Text) :
    placeWords position (word :: words) =
      ⟨wordKind word, word, position⟩ :: placeWords (position + word.length) words :=
  rfl

@[simp]
theorem positionOf_placeWords (position : Nat) (words : List Text) :
    positionOf (placeWords position words) = position := by
  cases words <;> rfl

theorem drop_placeWords (position : Nat) (words rest : List Text) :
    (placeWords position (words ++ rest)).drop words.length =
      placeWords (position + words.flatten.length) rest := by
  induction words generalizing position with
  | nil => rfl
  | cons word words ih =>
    rw [List.cons_append, placeWords_cons, List.length_cons, List.drop_succ_cons, ih,
      List.flatten_cons, List.length_append, Nat.add_assoc]

/-- The word that a kind of tokens is spelled by. -/
def TokenKind.keyword? : TokenKind → Option Text
  | and => some "And"
  | or => some "Or"
  | between => some "Between"
  | like => some "Like"
  | is => some "Is"
  | not => some "Not"
  | null => some "Null"
  | _ => none

theorem wordKind_cases (word : Text) :
    wordKind word = .word ∨ (wordKind word).keyword? = some word := by
  unfold wordKind
  split_ifs with and or between like is not null
  · exact .inr (congrArg some and.symm)
  · exact .inr (congrArg some or.symm)
  · exact .inr (congrArg some between.symm)
  · exact .inr (congrArg some like.symm)
  · exact .inr (congrArg some is.symm)
  · exact .inr (congrArg some not.symm)
  · exact .inr (congrArg some null.symm)
  · exact .inl rfl

/-- Two words of one kind are the same, unless they are no keywords. -/
theorem eq_of_wordKind_eq {word keyword : Text} (isKeyword : wordKind keyword ≠ .word)
    (same : wordKind word = wordKind keyword) : word = keyword := by
  have spelled := (wordKind_cases keyword).resolve_left isKeyword
  have otherSpelled := (wordKind_cases word).resolve_left (same ▸ isKeyword)
  rw [same, spelled] at otherSpelled
  exact (Option.some.inj otherSpelled).symm

theorem eq_of_map_wordKind_eq {words keywords : List Text}
    (areKeywords : ∀ keyword ∈ keywords, wordKind keyword ≠ .word)
    (same : words.map wordKind = keywords.map wordKind) : words = keywords := by
  induction keywords generalizing words with
  | nil => simpa using same
  | cons keyword keywords ih =>
    obtain ⟨word, rest, rfl, kind, kinds⟩ := List.map_eq_cons_iff.mp same
    have first := eq_of_wordKind_eq (areKeywords keyword (by simp)) kind
    have others := ih (fun other mem ↦ areKeywords other (by simp [mem])) kinds
    rw [first, others]

/-- Only connectors and the end stop a field expression. -/
theorem endsField_wordKind (word : Text) : (wordKind word).endsField = isConnectorWord word := by
  rcases wordKind_cases word with plain | spelled
  · have noConnector : ¬isConnectorWord word = true := by
      rw [isConnectorWord_iff]
      rintro (rfl | rfl)
      · exact absurd plain (by decide)
      · exact absurd plain (by decide)
    rw [plain, Bool.eq_false_iff.mpr noConnector]
    rfl
  · generalize kind : wordKind word = found at spelled ⊢
    cases found <;> cases spelled <;> rfl

/-- A text that is empty or starts with a connector. -/
def Stops (rest : List Text) : Prop :=
  ∀ word ∈ rest.head?, isConnectorWord word = true

/-- Words of which none is a connector. -/
def Inside (words : List Text) : Prop :=
  ∀ word ∈ words, isConnectorWord word = false

theorem Stops.endsField {rest : List Text} (stops : Stops rest) (position : Nat) :
    (kindAt (placeWords position rest) 0).endsField = true := by
  cases rest with
  | nil => rfl
  | cons word rest =>
    rw [placeWords_cons, kindAt_cons_zero, endsField_wordKind]
    exact stops word rfl

/-! ## Operators -/

/-- Kinds of tokens that end no field expression, and behind which one ends, are those of the whole
segment. -/
theorem map_wordKind_eq {kinds : List TokenKind} {position : Nat} {segment rest : List Text}
    (inside : Inside segment) (stops : Stops rest)
    (ahead : ∀ distance (h : distance < kinds.length),
      kindAt (placeWords position (segment ++ rest)) distance = kinds[distance])
    (noEnd : ∀ kind ∈ kinds, kind.endsField = false)
    (ends : (kindAt (placeWords position (segment ++ rest)) kinds.length).endsField = true) :
    segment.map wordKind = kinds := by
  induction segment generalizing kinds position with
  | nil =>
    cases kinds with
    | nil => rfl
    | cons kind kinds =>
      have stopsHere := stops.endsField position
      have first := ahead 0 (by simp)
      rw [List.nil_append] at first
      rw [first, List.getElem_cons_zero, noEnd kind (by simp)] at stopsHere
      cases stopsHere
  | cons word segment ih =>
    cases kinds with
    | nil =>
      rw [List.cons_append, placeWords_cons, List.length_nil, kindAt_cons_zero, endsField_wordKind,
        inside word (by simp)] at ends
      cases ends
    | cons kind kinds =>
      have first : wordKind word = kind := ahead 0 (by simp)
      have others : segment.map wordKind = kinds :=
        ih (fun other mem ↦ inside other (by simp [mem]))
          (fun distance h ↦ ahead (distance + 1) (by simpa using h))
          (fun other mem ↦ noEnd other (by simp [mem])) ends
      rw [List.map_cons, first, others]

theorem keyword_of_mem_suffix {operator : Operator} :
    ∀ keyword ∈ operator.suffix, wordKind keyword ≠ .word := by
  cases operator <;> decide

/-- An operator whose kinds stand here, in front of the end of a field expression, is the whole
segment. -/
theorem suffix_of_ahead (operator : Operator) {position : Nat} {segment rest : List Text}
    (isSuffixed : operator ∈ suffixed) (inside : Inside segment) (stops : Stops rest)
    (ahead : ∀ distance (h : distance < (operator.suffix.map wordKind).length),
      kindAt (placeWords position (segment ++ rest)) distance =
        (operator.suffix.map wordKind)[distance])
    (ends : (kindAt (placeWords position (segment ++ rest))
      (operator.suffix.map wordKind).length).endsField = true) :
    operator ∈ suffixed ∧ operator.suffix = segment ∧
      (operator.suffix.map wordKind).length = segment.length := by
  have noEnd : ∀ kind ∈ operator.suffix.map wordKind, kind.endsField = false := by
    cases operator <;> decide
  have kinds := map_wordKind_eq inside stops ahead noEnd ends
  have same := eq_of_map_wordKind_eq keyword_of_mem_suffix kinds
  exact ⟨isSuffixed, same.symm, by rw [same, List.length_map]⟩

/-- An operator that is found is the whole segment. -/
theorem suffix_of_operatorHere? {position count : Nat} {segment rest : List Text}
    {operator : Operator} (inside : Inside segment) (stops : Stops rest)
    (found : operatorHere? (placeWords position (segment ++ rest)) = some (operator, count)) :
    operator ∈ suffixed ∧ operator.suffix = segment ∧ count = segment.length := by
  unfold operatorHere? at found
  split at found
  · rename_i between
    split at found
    · rename_i ends
      cases found
      apply suffix_of_ahead .between (by decide) inside stops _ ends
      intro distance h
      match distance, h with
      | 0, _ => exact between
    · cases found
  · rename_i like
    split at found
    · rename_i ends
      cases found
      apply suffix_of_ahead .like (by decide) inside stops _ ends
      intro distance h
      match distance, h with
      | 0, _ => exact like
    · cases found
  · rename_i is
    split at found
    · rename_i tail
      obtain ⟨null, ends⟩ := tail
      cases found
      apply suffix_of_ahead .isNull (by decide) inside stops _ ends
      intro distance h
      match distance, h with
      | 0, _ => exact is
      | 1, _ => exact null
    · split at found
      · rename_i tail
        obtain ⟨not, null, ends⟩ := tail
        cases found
        apply suffix_of_ahead .isNotNull (by decide) inside stops _ ends
        intro distance h
        match distance, h with
        | 0, _ => exact is
        | 1, _ => exact not
        | 2, _ => exact null
      · cases found
  · cases found

/-- An operator that is the whole segment is found. -/
theorem operatorHere?_suffix {operator : Operator} {rest : List Text} (position : Nat)
    (isSuffixed : operator ∈ suffixed) (stops : Stops rest) :
    operatorHere? (placeWords position (operator.suffix ++ rest)) =
      some (operator, operator.suffix.length) := by
  have ends (position : Nat) := stops.endsField position
  have kinds : wordKind "Between" = .between ∧ wordKind "Like" = .like ∧ wordKind "Is" = .is ∧
      wordKind "Not" = .not ∧ wordKind "Null" = .null := by decide
  cases operator with
  | equals => exact absurd isSuffixed (by decide)
  | between => simp [operatorHere?, Operator.suffix, kinds, ends]
  | like => simp [operatorHere?, Operator.suffix, kinds, ends]
  | isNull => simp [operatorHere?, Operator.suffix, kinds, ends]
  | isNotNull => simp [operatorHere?, Operator.suffix, kinds, ends]

/-- The scanner reads a segment as the grammar does. -/
theorem scanField_placeWords {segment rest : List Text} (position : Nat)
    (inside : Inside segment) (stops : Stops rest) :
    scanField (placeWords position (segment ++ rest)) =
      (fieldWords segment, operatorOf segment,
        placeWords (position + segment.flatten.length) rest) := by
  induction segment generalizing position with
  | nil =>
    have ends := stops.endsField position
    rw [List.nil_append]
    cases rest with
    | nil => rfl
    | cons word rest =>
      rw [placeWords_cons, kindAt_cons_zero] at ends
      rw [placeWords_cons, scanField, if_pos ends]
      rfl
  | cons word segment ih =>
    have goesOn : ¬(wordKind word).endsField = true := by
      rw [endsField_wordKind, inside word (by simp)]
      decide
    have others := ih (position + word.length) fun other mem ↦ inside other (by simp [mem])
    rw [List.cons_append, placeWords_cons, scanField, if_neg goesOn, ← placeWords_cons,
      ← List.cons_append]
    cases found : operatorHere? (placeWords position (word :: segment ++ rest)) with
    | some operatorAndCount =>
      obtain ⟨operator, count⟩ := operatorAndCount
      obtain ⟨isSuffixed, whole, rfl⟩ := suffix_of_operatorHere? inside stops found
      have isOperator : operatorOf (word :: segment) = operator :=
        operatorOf_eq isSuffixed (whole ▸ List.suffix_rfl)
      have noWords : fieldWords (word :: segment) = [] :=
        fieldWords_eq (by rw [isOperator, List.nil_append, whole])
      rw [noWords, isOperator]
      simp only [drop_placeWords]
    | none =>
      have notWhole : ∀ operator ∈ suffixed, operator.suffix ≠ word :: segment := by
        intro operator isSuffixed whole
        rw [← whole, operatorHere?_suffix position isSuffixed stops] at found
        cases found
      rw [operatorOf_cons notWhole, fieldWords_cons notWhole]
      simp only [others, List.flatten_cons, List.length_append, Nat.add_assoc]

theorem parseField_placeWords {segment rest : List Text} (descriptor : Text)
    (connector : Connector) (position : Nat) (inside : Inside segment) (stops : Stops rest) :
    parseField descriptor connector (placeWords position (segment ++ rest)) =
      if fieldWords segment = [] then .error (.finder descriptor (.missingField position))
      else .ok (⟨Text.lower (fieldWords segment).flatten, operatorOf segment, connector⟩,
        placeWords (position + segment.flatten.length) rest) := by
  rw [parseField, scanField_placeWords position inside stops, positionOf_placeWords]
  simp only [List.isEmpty_iff]
  rfl

/-! ## Segments -/

/-- A segment with the connector in front of it. -/
structure Segment where
  connector : Connector
  words : List Text

/-- The field that a segment describes. -/
def Segment.field (segment : Segment) : FieldExpr :=
  ⟨Text.lower (fieldWords segment.words).flatten, operatorOf segment.words, segment.connector⟩

/-- The words of segments, each behind its connector. -/
def spelled (segments : List Segment) : List Text :=
  segments.flatMap fun segment ↦ segment.connector.word :: segment.words

/-- The offset behind its connector of the first segment without field words, for segments of which
the first connector stands at the given offset. -/
def bareStart? (position : Nat) : List Segment → Option Nat
  | [] => none
  | segment :: segments =>
    let start := position + segment.connector.word.length
    if fieldWords segment.words = [] then some start
    else bareStart? (start + segment.words.flatten.length) segments

theorem stops_spelled (segments : List Segment) : Stops (spelled segments) := by
  cases segments with
  | nil => intro word mem; cases mem
  | cons segment segments =>
    intro word mem
    cases mem
    exact isConnectorWord_word segment.connector

/-- Every row of words is cut into segments. -/
theorem exists_segments (words : List Text) :
    ∃ first segments, words = first ++ spelled segments ∧ Inside first ∧
      ∀ segment ∈ segments, Inside segment.words := by
  induction words with
  | nil => exact ⟨[], [], rfl, by simp [Inside], by simp⟩
  | cons word words ih =>
    obtain ⟨first, segments, rfl, inside, segmentsInside⟩ := ih
    by_cases joins : isConnectorWord word = true
    · obtain ⟨connector, rfl⟩ : ∃ connector : Connector, word = connector.word := by
        rcases isConnectorWord_iff.mp joins with isAnd | isOr
        · exact ⟨.and, isAnd⟩
        · exact ⟨.or, isOr⟩
      refine ⟨[], ⟨connector, first⟩ :: segments, rfl, by simp [Inside], ?_⟩
      simpa using ⟨inside, segmentsInside⟩
    · refine ⟨word :: first, segments, rfl, ?_, segmentsInside⟩
      intro other mem
      obtain rfl | mem := List.mem_cons.mp mem
      · exact Bool.eq_false_iff.mpr joins
      · exact inside other mem

theorem segmentsOf_spelled {first : List Text} {segments : List Segment} (inside : Inside first)
    (segmentsInside : ∀ segment ∈ segments, Inside segment.words) :
    segmentsOf (first ++ spelled segments) = first :: segments.map Segment.words := by
  induction segments generalizing first with
  | nil =>
    rw [spelled, List.flatMap_nil, List.append_nil]
    exact List.splitOnP_eq_singleton inside
  | cons segment segments ih =>
    have others := ih (segmentsInside segment (by simp))
      fun other mem ↦ segmentsInside other (by simp [mem])
    have joins := isConnectorWord_word segment.connector
    have cut : segmentsOf (first ++ segment.connector.word :: (segment.words ++ spelled segments)) =
        first :: segmentsOf (segment.words ++ spelled segments) :=
      List.splitOnP_append_cons_of_forall_mem inside _ joins _
    rw [others] at cut
    exact cut

theorem connectors_inside {words : List Text} (inside : Inside words) :
    words.filterMap connectorOfWord? = [] := by
  rw [List.filterMap_eq_nil_iff]
  intro word mem
  exact Option.not_isSome_iff_eq_none.mp (Bool.eq_false_iff.mp (inside word mem))

theorem connectors_spelled {first : List Text} {segments : List Segment} (inside : Inside first)
    (segmentsInside : ∀ segment ∈ segments, Inside segment.words) :
    (first ++ spelled segments).filterMap connectorOfWord? = segments.map Segment.connector := by
  rw [List.filterMap_append, connectors_inside inside, List.nil_append]
  induction segments with
  | nil => rfl
  | cons segment segments ih =>
    have others := ih fun other mem ↦ segmentsInside other (by simp [mem])
    have none := connectors_inside (segmentsInside segment (by simp))
    unfold spelled at others ⊢
    rw [List.flatMap_cons, List.cons_append, List.filterMap_cons, connectorOfWord?_word]
    simp only [List.filterMap_append, none, List.nil_append, others, List.map_cons]

/-! ## Descriptors -/

theorem parseMore_error {descriptor : Text} {token : Token} {tokens : List Token}
    {connector : Connector} {error : Error} (joins : connectorOf? token = some connector)
    (failed : parseField descriptor connector tokens = .error error) :
    parseMore descriptor (token :: tokens) = .error error := by
  rw [parseMore, joins]
  simp only
  split
  · rename_i other found
    rw [failed] at found
    cases found
    rfl
  · rename_i field left found
    rw [failed] at found
    cases found

theorem parseMore_ok {descriptor : Text} {token : Token} {tokens left : List Token}
    {connector : Connector} {field : FieldExpr} (joins : connectorOf? token = some connector)
    (read : parseField descriptor connector tokens = .ok (field, left)) :
    parseMore descriptor (token :: tokens) =
      match parseMore descriptor left with
      | .error error => .error error
      | .ok (fields, left) => .ok (field :: fields, left) := by
  rw [parseMore, joins]
  simp only
  split
  · rename_i error found
    rw [read] at found
    cases found
  · rename_i other rest found
    rw [read] at found
    cases found
    rfl

/-- The segments behind the first one are read one after another, up to the first one without field
words. -/
theorem parseMore_spelled {segments : List Segment} (descriptor : Text) (position : Nat)
    (inside : ∀ segment ∈ segments, Inside segment.words) :
    parseMore descriptor (placeWords position (spelled segments)) =
      match bareStart? position segments with
      | some start => .error (.finder descriptor (.missingField start))
      | none => .ok (segments.map Segment.field,
          placeWords (position + (spelled segments).flatten.length) []) := by
  induction segments generalizing position with
  | nil =>
    rw [spelled, List.flatMap_nil, placeWords, parseMore]
    rfl
  | cons segment segments ih =>
    have read := parseField_placeWords descriptor segment.connector
      (position + segment.connector.word.length) (inside segment (by simp)) (stops_spelled segments)
    have others := ih (position + segment.connector.word.length + segment.words.flatten.length)
      fun other mem ↦ inside other (by simp [mem])
    have joins : connectorOf? ⟨wordKind segment.connector.word, segment.connector.word, position⟩ =
        some segment.connector := by
      cases segment.connector <;> rfl
    have shape : spelled (segment :: segments) =
        segment.connector.word :: (segment.words ++ spelled segments) := rfl
    rw [shape, placeWords_cons, bareStart?]
    by_cases bare : fieldWords segment.words = []
    · rw [if_pos bare] at read ⊢
      exact parseMore_error joins read
    · rw [if_neg bare] at read ⊢
      rw [parseMore_ok joins read, others]
      cases bareStart? (position + segment.connector.word.length + segment.words.flatten.length)
        segments with
      | some start => rfl
      | none =>
        simp only [List.map_cons, List.flatten_cons, List.flatten_append, List.length_append,
          Nat.add_assoc]
        rfl

/-- The offset of the first segment without field words, where the first segment stands at the given
offset. -/
def bareField? (position : Nat) (first : List Text) (segments : List Segment) : Option Nat :=
  if fieldWords first = [] then some position
  else bareStart? (position + first.flatten.length) segments

/-- A descriptor with its body cut into segments is read segment by segment, or the first one
without field words is reported. -/
theorem parse_segments {allRows : Bool} {body : Text} {first : List Text} {segments : List Segment}
    (cut : IsCut (first ++ spelled segments) body) (inside : Inside first)
    (segmentsInside : ∀ segment ∈ segments, Inside segment.words) :
    parse (openingOf allRows ++ body) =
      match bareField? (openingOf allRows).length first segments with
      | some start => .error (.finder (openingOf allRows ++ body) (.missingField start))
      | none => .ok ⟨openingOf allRows ++ body, allRows,
          Segment.field ⟨.and, first⟩ :: segments.map Segment.field⟩ := by
  have read := parseField_placeWords (openingOf allRows ++ body) .and (openingOf allRows).length
    inside (stops_spelled segments)
  have others := parseMore_spelled (openingOf allRows ++ body)
    ((openingOf allRows).length + first.flatten.length) segmentsInside
  have behind (tokens : List Token) : behindOpening (openingToken allRows :: tokens) = tokens := by
    cases allRows <;> rfl
  have kind (tokens : List Token) :
      decide (kindAt (openingToken allRows :: tokens) 0 = .findAllBy) = allRows := by
    cases allRows <;> rfl
  rw [parse, tokenize_cut cut, bareField?]
  change parseTokens _ _ = _
  rw [parseTokens, behind, read]
  by_cases bare : fieldWords first = []
  · rw [if_pos bare, if_pos bare]
    rfl
  · rw [if_neg bare, if_neg bare, kind]
    change (parseMore _ _ >>= _) = _
    rw [others]
    cases bareStart? ((openingOf allRows).length + first.flatten.length) segments with
    | some start => rfl
    | none => rfl

theorem bareStart?_eq_none {segments : List Segment} {position : Nat} :
    bareStart? position segments = none ↔
      ∀ segment ∈ segments, fieldWords segment.words ≠ [] := by
  induction segments generalizing position with
  | nil => simp [bareStart?]
  | cons segment segments ih =>
    rw [bareStart?, List.forall_mem_cons]
    by_cases bare : fieldWords segment.words = []
    · simp [bare]
    · simp [bare, ih]

theorem bareField?_eq_none {first : List Text} {segments : List Segment} {position : Nat} :
    bareField? position first segments = none ↔
      ∀ words ∈ first :: segments.map Segment.words, fieldWords words ≠ [] := by
  rw [bareField?, List.forall_mem_cons, List.forall_mem_map]
  by_cases bare : fieldWords first = []
  · simp [bare]
  · simp [bare, bareStart?_eq_none]

/-- A descriptor that is read has a body whose words are cut into segments with field words. -/
theorem segments_of_parse {descriptor : Text} {finder : Finder}
    (read : parse descriptor = .ok finder) :
    ∃ allRows body first segments, descriptor = openingOf allRows ++ body ∧
      IsCut (first ++ spelled segments) body ∧ Inside first ∧
      (∀ segment ∈ segments, Inside segment.words) ∧
      (∀ words ∈ first :: segments.map Segment.words, fieldWords words ≠ []) ∧
      finder = ⟨descriptor, allRows,
        Segment.field ⟨.and, first⟩ :: segments.map Segment.field⟩ := by
  have lexed : ∃ tokens, tokenize descriptor = .ok tokens := by
    cases found : tokenize descriptor with
    | ok tokens => exact ⟨tokens, rfl⟩
    | error error =>
      rw [parse, found] at read
      cases read
  obtain ⟨tokens, found⟩ := lexed
  obtain ⟨allRows, body, cut, rfl, isCut⟩ := exists_cut_of_tokenize found
  obtain ⟨first, segments, rfl, inside, segmentsInside⟩ := exists_segments cut
  rw [parse_segments isCut inside segmentsInside] at read
  cases bare : bareField? (openingOf allRows).length first segments with
  | some start =>
    rw [bare] at read
    cases read
  | none =>
    rw [bare] at read
    cases read
    exact ⟨allRows, body, first, segments, rfl, isCut, inside, segmentsInside,
      bareField?_eq_none.mp bare, rfl⟩

theorem totalArity_eq_sum (operators : List Operator) :
    Operator.totalArity operators = (operators.map Operator.arity).sum := by
  induction operators with
  | nil => rfl
  | cons operator operators ih => rw [Operator.totalArity, ih, List.map_cons, List.sum_cons]

theorem isDescriptor_of_segments {allRows : Bool} {descriptor body : Text} {first : List Text}
    {segments : List Segment} (shape : descriptor = openingOf allRows ++ body)
    (isCut : IsCut (first ++ spelled segments) body) (inside : Inside first)
    (segmentsInside : ∀ segment ∈ segments, Inside segment.words)
    (fields : ∀ words ∈ first :: segments.map Segment.words, fieldWords words ≠ []) :
    IsDescriptor descriptor allRows (first ++ spelled segments) := by
  have nonempty : first ++ spelled segments ≠ [] := by
    intro empty
    have noFirst := fields first (by simp)
    rw [(List.append_eq_nil_iff.mp empty).1] at noFirst
    exact noFirst rfl
  refine ⟨⟨body, shape, isCut.isBody nonempty, isCut⟩, ?_⟩
  rwa [segmentsOf_spelled inside segmentsInside]

/-- Descriptors are read exactly if they are of the grammar.  A field is read from every segment,
with the small letters of its field words as the column, the operator that the segment ends with
and the connector in front of the segment. -/
theorem parse_ok_iff_isDescriptor (descriptor : Text) :
    ((∃ finder, parse descriptor = .ok finder) ↔
        ∃ allRows words, IsDescriptor descriptor allRows words) ∧
      ∀ finder, parse descriptor = .ok finder →
        ∃ allRows words, IsDescriptor descriptor allRows words ∧
          finder.descriptor = descriptor ∧ finder.allRows = allRows ∧
          finder.fields.map FieldExpr.column = (segmentsOf words).map (fun segment ↦
            Text.lower (fieldWords segment).flatten) ∧
          finder.fields.map FieldExpr.operator = (segmentsOf words).map operatorOf ∧
          finder.fields.map FieldExpr.connector = .and :: words.filterMap connectorOfWord? ∧
          finder.requiredArguments =
            ((segmentsOf words).map fun segment ↦ (operatorOf segment).arity).sum := by
  refine ⟨⟨?_, ?_⟩, ?_⟩
  · rintro ⟨finder, read⟩
    obtain ⟨allRows, body, first, segments, shape, isCut, inside, segmentsInside, fields, -⟩ :=
      segments_of_parse read
    exact ⟨allRows, _, isDescriptor_of_segments shape isCut inside segmentsInside fields⟩
  · rintro ⟨allRows, words, ⟨body, rfl, -, isCut⟩, fields⟩
    obtain ⟨first, segments, rfl, inside, segmentsInside⟩ := exists_segments words
    rw [segmentsOf_spelled inside segmentsInside] at fields
    rw [parse_segments isCut inside segmentsInside, bareField?_eq_none.mpr fields]
    exact ⟨_, rfl⟩
  · intro finder read
    obtain ⟨allRows, body, first, segments, shape, isCut, inside, segmentsInside, fields, rfl⟩ :=
      segments_of_parse read
    refine ⟨allRows, _, isDescriptor_of_segments shape isCut inside segmentsInside fields, rfl, rfl,
      ?_⟩
    rw [segmentsOf_spelled inside segmentsInside, connectors_spelled inside segmentsInside]
    refine ⟨by simp [Segment.field], by simp [Segment.field], by simp [Segment.field], ?_⟩
    simp [Finder.requiredArguments, totalArity_eq_sum, Segment.field, Function.comp_def]

theorem read_nameAndAge :
    ∃ finder, parse "findAllByNameAndAgeBetween" = .ok finder ∧
      ∃ allRows words, IsDescriptor "findAllByNameAndAgeBetween" allRows words ∧
        finder.allRows = allRows ∧
        finder.requiredArguments =
          ((segmentsOf words).map fun segment ↦ (operatorOf segment).arity).sum := by
  have isDescriptor :
      IsDescriptor "findAllByNameAndAgeBetween" true ["Name", "And", "Age", "Between"] :=
    ⟨⟨"NameAndAgeBetween", by decide, ⟨by decide, by decide, by decide⟩, by decide, by decide⟩,
      by decide⟩
  obtain ⟨accepts, described⟩ := parse_ok_iff_isDescriptor "findAllByNameAndAgeBetween"
  obtain ⟨finder, read⟩ := accepts.mpr ⟨true, _, isDescriptor⟩
  obtain ⟨allRows, words, isRead, -, rows, -, -, -, required⟩ := described finder read
  exact ⟨finder, read, allRows, words, isRead, rows, required⟩

end DialectSql.Finder
