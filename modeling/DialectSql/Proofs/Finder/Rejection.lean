import DialectSql.Proofs.Finder.Scanning
import DialectSql.Proofs.Trace

/-!
# Why a Descriptor Is Rejected

The causes for which a descriptor is no finder, said without tokens, and the place that each of them
names.  A cause counts only if none of those before it applies: a missing opening, a character that
no field name has, a body that does not start with a capital, and a segment without a field word.
Of several such segments the leftmost one is named by the offset at which it begins.

The scanner meets the segments from left to right and stops at the first one without field words, so
by induction over the segments it names the leftmost one.  That a token stands where the descriptor
should end is never reported.
-/

namespace DialectSql.Finder

/-! ## Segments without a field word -/

/-- The place of a segment in a row of words: no connector stands in the segment, and on either side
of it stands a connector or nothing. -/
structure IsSegment (front segment rest : List Text) : Prop where
  begins : ∀ word ∈ front.getLast?, isConnectorWord word = true
  inside : Inside segment
  stops : Stops rest

/-- A segment without a field word: it is empty, or it is the words of one operator. -/
def IsBare (segment : List Text) : Prop :=
  segment = [] ∨ ∃ operator ∈ suffixed, segment = operator.suffix

/-- The leftmost segment without a field word. -/
structure IsFirstBare (front segment rest : List Text) : Prop where
  isSegment : IsSegment front segment rest
  bare : IsBare segment
  leftmost : ∀ {before other behind : List Text},
    before ++ (other ++ behind) = front ++ (segment ++ rest) → IsSegment before other behind →
      before.length < front.length → ¬IsBare other

theorem isBare_iff {segment : List Text} : IsBare segment ↔ fieldWords segment = [] := by
  constructor
  · rintro (rfl | ⟨operator, isSuffixed, rfl⟩)
    · rfl
    · apply fieldWords_eq
      rw [operatorOf_eq isSuffixed List.suffix_rfl, List.nil_append]
  · intro noWords
    have whole := fieldWords_append segment
    rw [noWords, List.nil_append] at whole
    by_cases plain : operatorOf segment = .equals
    · rw [plain] at whole
      exact .inl whole.symm
    · exact .inr ⟨_, mem_suffixed.mpr plain, whole.symm⟩

/-- Words without a connector that reach as far as they can are determined. -/
theorem segment_unique {segment other rest behind : List Text} (inside : Inside segment)
    (otherInside : Inside other) (stops : Stops rest) (otherStops : Stops behind)
    (same : segment ++ rest = other ++ behind) : segment = other := by
  have run {words next : List Text} (noJoin : Inside words) (ends : Stops next) :
      (words ++ next).takeWhile (fun word ↦ !isConnectorWord word) = words := by
    rw [List.takeWhile_append_of_pos fun word mem ↦ by simp [noJoin word mem]]
    cases next with
    | nil => simp
    | cons word next => simp [ends word rfl]
  rw [← run inside stops, same, run otherInside otherStops]

/-- A segment that begins before the first connector is all the words in front of it. -/
theorem segment_of_front_nil {first segment rest behind : List Text} (inside : Inside first)
    (stops : Stops behind) (isSegment : IsSegment [] segment rest)
    (whole : segment ++ rest = first ++ behind) : segment = first :=
  segment_unique isSegment.inside inside isSegment.stops stops whole

/-- Between words without a connector no segment begins. -/
theorem front_eq_nil {first front others : List Text} (inside : Inside first)
    (begins : ∀ word ∈ front.getLast?, isConnectorWord word = true)
    (whole : first = front ++ others) : front = [] := by
  by_contra nonempty
  have last := List.getLast?_eq_some_getLast nonempty
  have joins := begins _ last
  have mem : front.getLast nonempty ∈ first := by
    rw [whole]
    exact List.mem_append_left _ (List.getLast_mem nonempty)
  rw [inside _ mem] at joins
  cases joins

/-- Words in front of a connector move a segment to the right. -/
theorem isSegment_behind {first front segment rest : List Text} {connector : Connector} :
    IsSegment (first ++ connector.word :: front) segment rest ↔ IsSegment front segment rest := by
  have last : (first ++ connector.word :: front).getLast? =
      some (front.getLast?.getD connector.word) := by
    simp [List.getLast?_append, List.getLast?_cons]
  constructor
  · rintro ⟨begins, inside, stops⟩
    refine ⟨fun word mem ↦ begins word ?_, inside, stops⟩
    rw [last, Option.mem_def.mp mem]
    rfl
  · rintro ⟨begins, inside, stops⟩
    refine ⟨fun word mem ↦ ?_, inside, stops⟩
    rw [last] at mem
    cases ends : front.getLast? with
    | none =>
      rw [ends] at mem
      cases mem
      exact isConnectorWord_word connector
    | some other =>
      rw [ends] at mem
      cases mem
      exact begins other ends

/-- A segment is the first one, or it lies behind the first connector. -/
theorem segment_cases {first words front segment rest : List Text} {connector : Connector}
    (inside : Inside first) (isSegment : IsSegment front segment rest)
    (whole : front ++ (segment ++ rest) = first ++ connector.word :: words) :
    (front = [] ∧ segment = first) ∨
      ∃ later, front = first ++ connector.word :: later ∧ later ++ (segment ++ rest) = words := by
  have stops : Stops (connector.word :: words) := by
    intro word mem
    cases mem
    exact isConnectorWord_word connector
  rcases List.append_eq_append_iff.mp whole with ⟨others, isInside, -⟩ | ⟨behind, isFront, tail⟩
  · obtain rfl := front_eq_nil inside isSegment.begins isInside
    exact .inl ⟨rfl, segment_of_front_nil inside stops isSegment whole⟩
  · cases behind with
    | nil =>
      rw [List.append_nil] at isFront
      obtain rfl := front_eq_nil inside isSegment.begins
        (isFront.symm.trans (List.append_nil front).symm)
      exact .inl ⟨rfl, segment_of_front_nil inside stops isSegment whole⟩
    | cons word later =>
      obtain ⟨rfl, isRest⟩ := List.cons.inj tail
      exact .inr ⟨later, isFront, isRest.symm⟩

/-- A first segment without field words is the leftmost one. -/
theorem isFirstBare_of_bare {first rest : List Text} (bare : IsBare first) (inside : Inside first)
    (stops : Stops rest) : IsFirstBare [] first rest where
  isSegment := ⟨by simp, inside, stops⟩
  bare := bare
  leftmost := by simp

/-- Behind a first segment with field words, the leftmost segment without any is the leftmost one of
the words behind the connector. -/
theorem isFirstBare_behind {first front segment rest : List Text} {connector : Connector}
    (inside : Inside first) (named : ¬IsBare first) :
    IsFirstBare (first ++ connector.word :: front) segment rest ↔
      IsFirstBare front segment rest := by
  constructor
  · rintro ⟨isSegment, bare, leftmost⟩
    refine ⟨isSegment_behind.mp isSegment, bare, fun {before} _ _ whole isOther shorter ↦ ?_⟩
    have isBehind : IsSegment (first ++ connector.word :: before) _ _ :=
      isSegment_behind.mpr isOther
    apply leftmost _ isBehind
    · simpa using shorter
    · rw [List.append_assoc, List.cons_append, whole, List.append_assoc, List.cons_append]
  · rintro ⟨isSegment, bare, leftmost⟩
    refine ⟨isSegment_behind.mpr isSegment, bare, fun whole isOther shorter ↦ ?_⟩
    rw [List.append_assoc first, List.cons_append] at whole
    rcases segment_cases inside isOther whole with ⟨-, rfl⟩ | ⟨later, rfl, tail⟩
    · exact named
    · exact leftmost tail (isSegment_behind.mp isOther) (by simpa using shorter)

/-- A first segment without field words is where the scanner stops. -/
theorem bareField?_eq_some_of_bare {first : List Text} {segments : List Segment}
    {position start : Nat} (inside : Inside first) (bare : IsBare first) :
    bareField? position first segments = some start ↔
      ∃ front segment rest, front ++ (segment ++ rest) = first ++ spelled segments ∧
        IsFirstBare front segment rest ∧ start = position + front.flatten.length := by
  have firstBare := isFirstBare_of_bare bare inside (stops_spelled segments)
  rw [bareField?, if_pos (isBare_iff.mp bare), Option.some.injEq]
  constructor
  · rintro rfl
    exact ⟨[], first, spelled segments, rfl, firstBare, rfl⟩
  · rintro ⟨front, segment, rest, whole, other, rfl⟩
    have atStart : front = [] := by
      by_contra later
      exact other.leftmost whole.symm firstBare.isSegment (List.length_pos_of_ne_nil later) bare
    rw [atStart]
    rfl

/-- The scanner stops at the leftmost segment without field words. -/
theorem bareField?_eq_some {segments : List Segment} {first : List Text} {position start : Nat}
    (inside : Inside first) (segmentsInside : ∀ segment ∈ segments, Inside segment.words) :
    bareField? position first segments = some start ↔
      ∃ front segment rest, front ++ (segment ++ rest) = first ++ spelled segments ∧
        IsFirstBare front segment rest ∧ start = position + front.flatten.length := by
  induction segments generalizing first position with
  | nil =>
    by_cases bare : IsBare first
    · exact bareField?_eq_some_of_bare inside bare
    rw [bareField?, if_neg (mt isBare_iff.mpr bare), bareStart?]
    refine iff_of_false (by simp) ?_
    rintro ⟨front, segment, rest, whole, firstBare, -⟩
    obtain rfl := front_eq_nil inside firstBare.isSegment.begins
      ((List.append_nil first).symm.trans whole.symm)
    have isFirst : segment = first :=
      segment_of_front_nil inside (stops_spelled []) firstBare.isSegment whole
    exact bare (isFirst ▸ firstBare.bare)
  | cons here segments ih =>
    by_cases bare : IsBare first
    · exact bareField?_eq_some_of_bare inside bare
    have others (position : Nat) := @ih here.words position (segmentsInside here (by simp))
      fun other mem ↦ segmentsInside other (by simp [mem])
    have shape : first ++ spelled (here :: segments) =
        first ++ here.connector.word :: (here.words ++ spelled segments) := rfl
    rw [bareField?, if_neg (mt isBare_iff.mpr bare), shape]
    refine (others _).trans ⟨?_, ?_⟩
    · rintro ⟨front, segment, rest, whole, firstBare, rfl⟩
      refine ⟨first ++ here.connector.word :: front, segment, rest, ?_,
        (isFirstBare_behind inside bare).mpr firstBare, ?_⟩
      · rw [List.append_assoc, List.cons_append, whole]
      · simp only [List.flatten_append, List.flatten_cons, List.length_append]
        omega
    · rintro ⟨front, segment, rest, whole, firstBare, rfl⟩
      rcases segment_cases inside firstBare.isSegment whole with ⟨-, rfl⟩ | ⟨later, rfl, tail⟩
      · exact absurd firstBare.bare bare
      · refine ⟨later, segment, rest, tail, (isFirstBare_behind inside bare).mp firstBare, ?_⟩
        simp only [List.flatten_append, List.flatten_cons, List.length_append]
        omega

/-! ## Causes -/

/-- Why a descriptor is rejected, and the place that is named.  The conditions of each cause keep
those before it from applying. -/
inductive Rejects (descriptor : Text) : FinderFault → Prop
  | noPrefix (unopened : ∀ allRows, ¬openingOf allRows <+: descriptor) :
    Rejects descriptor .noPrefix
  | strangeCharacter {allRows : Bool} {body : Text}
      (opened : descriptor = openingOf allRows ++ body)
      (strange : ∃ point ∈ body, isBodyChar point = false) :
    Rejects descriptor (.strangeCharacter (openingOf allRows).length)
  | uncapitalised {allRows : Bool} {body : Text} (opened : descriptor = openingOf allRows ++ body)
      (points : ∀ point ∈ body, isBodyChar point = true)
      (small : ∃ point ∈ body.head?, isCapital point = false) :
    Rejects descriptor (.uncapitalised (openingOf allRows) (openingOf allRows).length)
  | missingField {allRows : Bool} {front segment rest : List Text} {body : Text}
      (opened : descriptor = openingOf allRows ++ body)
      (cut : IsCut (front ++ (segment ++ rest)) body)
      (firstBare : IsFirstBare front segment rest) :
    Rejects descriptor (.missingField (openingOf allRows ++ front.flatten).length)

/-- A descriptor whose body is cut into words is rejected for its leftmost segment without field
words, and for nothing else. -/
theorem parse_cut_eq_error {allRows : Bool} {body : Text} {words : List Text} {error : Error}
    (cut : IsCut words body) :
    parse (openingOf allRows ++ body) = .error error ↔
      ∃ front segment rest, front ++ (segment ++ rest) = words ∧ IsFirstBare front segment rest ∧
        error = .finder (openingOf allRows ++ body)
          (.missingField (openingOf allRows ++ front.flatten).length) := by
  obtain ⟨first, segments, rfl, inside, segmentsInside⟩ := exists_segments words
  have stops (start : Nat) :=
    @bareField?_eq_some segments first (openingOf allRows).length start inside segmentsInside
  rw [parse_segments cut inside segmentsInside]
  cases bare : bareField? (openingOf allRows).length first segments with
  | none =>
    refine iff_of_false (by simp) ?_
    rintro ⟨front, segment, rest, whole, firstBare, -⟩
    have found := (stops _).mpr ⟨front, segment, rest, whole, firstBare, rfl⟩
    rw [bare] at found
    cases found
  | some start =>
    constructor
    · intro failed
      cases failed
      obtain ⟨front, segment, rest, whole, firstBare, rfl⟩ := (stops start).mp bare
      exact ⟨front, segment, rest, whole, firstBare, by rw [List.length_append]⟩
    · rintro ⟨front, segment, rest, whole, firstBare, rfl⟩
      have found := (stops _).mpr ⟨front, segment, rest, whole, firstBare, rfl⟩
      rw [bare] at found
      cases found
      rw [List.length_append]

/-- A descriptor without tokens is rejected before its words are looked at. -/
theorem rejects_of_tokenize {descriptor : Text} {error : Error}
    (failed : tokenize descriptor = .error error) :
    ∃ fault, Rejects descriptor fault ∧ error = .finder descriptor fault := by
  unfold tokenize at failed
  split at failed
  · rename_i unopened
    cases failed
    refine ⟨.noPrefix, .noPrefix fun allRows starts ↦ ?_, rfl⟩
    obtain ⟨body, rfl⟩ := starts
    rw [opening?_append] at unopened
    cases unopened
  · rename_i token body opened
    obtain ⟨allRows, rfl, rfl⟩ := opening?_eq_some opened
    dsimp only at failed
    split at failed
    · rename_i strange
      cases failed
      exact ⟨_, .strangeCharacter rfl (by simpa using strange), rfl⟩
    · rename_i noStrange
      split at failed
      · rename_i small
        cases failed
        refine ⟨_, .uncapitalised rfl (by simpa using noStrange) ?_, rfl⟩
        cases body with
        | nil => cases small
        | cons point rest => exact ⟨point, rfl, by simpa using small⟩
      · cases failed

/-- Every cause for which a descriptor is rejected is reported. -/
theorem Rejects.parse_eq_error {descriptor : Text} {fault : FinderFault}
    (rejects : Rejects descriptor fault) :
    parse descriptor = .error (.finder descriptor fault) := by
  cases rejects with
  | noPrefix unopened =>
    have missing : opening? descriptor = none := by
      cases found : opening? descriptor with
      | none => rfl
      | some opened =>
        obtain ⟨allRows, -, shape⟩ := opening?_eq_some found
        exact absurd ⟨_, shape.symm⟩ (unopened allRows)
    rw [parse, tokenize, missing]
    rfl
  | @strangeCharacter allRows body opened strange =>
    subst opened
    have notAll : body.all isBodyChar = false := by simpa using strange
    rw [parse, tokenize, opening?_append]
    simp only [notAll]
    rfl
  | @uncapitalised allRows body opened points small =>
    subst opened
    obtain ⟨point, head, isSmall⟩ := small
    have allPoints : body.all isBodyChar = true := by simpa using points
    have notCapital : (body.take 1).all isCapital = false := by
      cases body with
      | nil => cases head
      | cons first rest =>
        cases head
        simpa using isSmall
    rw [parse, tokenize, opening?_append]
    simp only [allPoints, notCapital]
    rfl
  | missingField opened cut firstBare =>
    subst opened
    exact (parse_cut_eq_error cut).mpr ⟨_, _, _, rfl, firstBare, rfl⟩

/-- A descriptor is rejected with exactly one error, which carries the descriptor and tells the
first cause that applies and its place.  Only the wording for a segment without a field word speaks
of a missing field name. -/
theorem parse_eq_error_iff (descriptor : Text) (error : Error) :
    (parse descriptor = .error error ↔
        ∃ fault, Rejects descriptor fault ∧ error = .finder descriptor fault) ∧
      ∀ fault, Rejects descriptor fault →
        (Error.finder descriptor fault).errorClass = .invalidFinder ∧
        (Error.finder descriptor fault).details.lookup ("descriptor" : Text) =
          some (.str descriptor) ∧
        (Error.finder descriptor fault).details.lookup ("position" : Text) =
          fault.position?.map (fun position ↦ Json.int position) ∧
        (("Missing field name" : Text) <+: (Error.finder descriptor fault).message ↔
          ∃ position, fault = .missingField position) := by
  refine ⟨⟨fun failed ↦ ?_, ?_⟩, ?_⟩
  · rw [parse] at failed
    rcases Outcome.error_of_bind failed with unread | ⟨tokens, lexed, -⟩
    · exact rejects_of_tokenize unread
    · obtain ⟨allRows, body, words, rfl, cut⟩ := exists_cut_of_tokenize lexed
      obtain ⟨front, segment, rest, rfl, firstBare, rfl⟩ := (parse_cut_eq_error cut).mp failed
      exact ⟨_, .missingField rfl cut firstBare, rfl⟩
  · rintro ⟨fault, rejects, rfl⟩
    exact rejects.parse_eq_error
  · rintro fault rejects
    refine ⟨rfl, rfl, ?_, ?_⟩
    · cases rejects <;> rfl
    · cases rejects <;> simp [Error.message, FinderFault.message, Text.ofString]

/-- The second segment is the operator alone, and the third one is empty. -/
theorem parse_operatorAlone :
    parse "findByNameAndIsNullOr" = .error (.finder "findByNameAndIsNullOr" (.missingField 13)) ∧
      Rejects "findByNameAndIsNullOr" (.missingField 13) := by
  let first : List Text := ["Name"]
  let others : List Segment := [⟨.and, ["Is", "Null"]⟩, ⟨.or, []⟩]
  have cut : IsCut (first ++ spelled others) "NameAndIsNullOr" := ⟨by decide, by decide⟩
  have inside : ∀ words ∈ first :: others.map Segment.words,
      ∀ word ∈ words, isConnectorWord word = false := by decide
  have failed := @parse_segments false _ _ _ cut (inside first List.mem_cons_self)
    fun segment mem ↦ inside _ (List.mem_cons_of_mem _ (List.mem_map_of_mem mem))
  obtain ⟨told, described⟩ := parse_eq_error_iff "findByNameAndIsNullOr" _
  obtain ⟨fault, rejects, same⟩ := told.mp failed
  obtain rfl : FinderFault.missingField 13 = fault := (Error.finder.inj same).2
  exact ⟨failed, rejects⟩

end DialectSql.Finder
