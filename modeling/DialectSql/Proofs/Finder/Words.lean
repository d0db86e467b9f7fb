import DialectSql.Proofs.Text.Run

/-!
# Bodies and Their Words

A word of a finder is a capital letter with the small letters, digits and underscores behind it.
Every body that starts with a capital is cut into such words in exactly one way.  The search for
words finds those of the cut, so it passes nothing over, and the tokens of a descriptor are its
opening, the words of this cut one behind the other and the end.
-/

namespace DialectSql.Finder

theorem isBodyChar_eq (point : CodePoint) :
    isBodyChar point = (isCapital point || isWordTail point) := by
  cases point with
  | char c =>
    simp [isBodyChar, isCapital, isWordTail, CodePoint.isIn, Char.isAlphanum, Char.isAlpha,
      Bool.or_assoc]
  | half offset => rfl

/-- No capital stands inside a word. -/
theorem not_isCapital_of_isWordTail {point : CodePoint} (tail : isWordTail point = true) :
    isCapital point = false := by
  cases point with
  | char c =>
    simp only [isWordTail, isCapital, CodePoint.isIn, Char.isLower, Char.isUpper, Char.isDigit,
      Bool.or_eq_true, Bool.and_eq_true, decide_eq_true_eq, beq_iff_eq] at tail ⊢
    rw [← Bool.not_eq_true, decide_eq_true_eq]
    rintro ⟨above, below⟩
    obtain (⟨low, -⟩ | ⟨-, high⟩) | rfl := tail
    · exact absurd (UInt32.le_trans low below) (by decide)
    · exact absurd (UInt32.le_trans above high) (by decide)
    · exact absurd below (by decide)
  | half offset => rfl

/-- A capital letter with the small letters, digits and underscores behind it. -/
def IsCapitalWord (word : Text) : Prop :=
  word ≠ [] ∧ (∀ point ∈ word.head?, isCapital point = true) ∧
    ∀ point ∈ word.tail, isWordTail point = true

instance (word : Text) : Decidable (IsCapitalWord word) :=
  inferInstanceAs (Decidable (_ ∧ _))

theorem isCapitalWord_cons {point : CodePoint} {rest : Text} :
    IsCapitalWord (point :: rest) ↔
      isCapital point = true ∧ ∀ other ∈ rest, isWordTail other = true := by
  simp [IsCapitalWord]

theorem IsCapitalWord.isBodyChar {word : Text} (capital : IsCapitalWord word) :
    ∀ point ∈ word, isBodyChar point = true := by
  cases word with
  | nil => simp
  | cons first rest =>
    obtain ⟨start, tail⟩ := isCapitalWord_cons.mp capital
    intro point mem
    rw [isBodyChar_eq, Bool.or_eq_true]
    obtain rfl | mem := List.mem_cons.mp mem
    · exact .inl start
    · exact .inr (tail point mem)

/-- What a descriptor may hold behind its opening. -/
structure IsBody (body : Text) : Prop where
  nonempty : body ≠ []
  points : ∀ point ∈ body, isBodyChar point = true
  capital : ∀ point ∈ body.head?, isCapital point = true

/-- The words that a body is cut into. -/
structure IsCut (words : List Text) (body : Text) : Prop where
  whole : words.flatten = body
  capital : ∀ word ∈ words, IsCapitalWord word

namespace IsCut

variable {words : List Text} {body : Text}

theorem nil : IsCut [] [] :=
  ⟨rfl, by simp⟩

/-- A cut into at least one word is a cut of a body. -/
theorem isBody (cut : IsCut words body) (nonempty : words ≠ []) : IsBody body := by
  obtain ⟨rfl, capital⟩ := cut
  cases words with
  | nil => exact absurd rfl nonempty
  | cons word words =>
    obtain ⟨point, rest, rfl⟩ := List.exists_cons_of_ne_nil (capital word (by simp)).1
    have start := (isCapitalWord_cons.mp (capital (point :: rest) (by simp))).1
    refine ⟨by simp, fun other mem ↦ ?_, by simpa using start⟩
    obtain ⟨holder, isWord, inside⟩ := List.mem_flatten.mp mem
    exact (capital holder isWord).isBodyChar other inside

end IsCut

/-! ## Searching -/

/-- The words that a search of a body finds. -/
def words (body : Text) : List Text :=
  (findWords 0 0 body).map Found.word

/-- Points that belong to a word are passed. -/
theorem findWords_taken (offset : Nat) (front rest : Text) :
    findWords offset front.length (front ++ rest) = findWords (offset + front.length) 0 rest := by
  induction front generalizing offset with
  | nil => rfl
  | cons point front ih =>
    rw [List.length_cons, List.cons_append, findWords, ih, Nat.add_right_comm, Nat.add_assoc]

/-- A word in front of nothing or of a capital is found, and the search goes on behind it. -/
theorem findWords_word {word rest : Text} (offset : Nat) (capital : IsCapitalWord word)
    (next : ∀ point ∈ rest.head?, isCapital point = true) :
    findWords offset 0 (word ++ rest) =
      ⟨word, offset⟩ :: findWords (offset + word.length) 0 rest := by
  obtain ⟨point, tail, rfl⟩ := List.exists_cons_of_ne_nil capital.1
  obtain ⟨start, small⟩ := isCapitalWord_cons.mp capital
  have stops : rest.takeWhile isWordTail = [] := by
    cases rest with
    | nil => rfl
    | cons other rest =>
      refine List.takeWhile_cons_of_neg fun isTail ↦ ?_
      have large := next other rfl
      rw [not_isCapital_of_isWordTail isTail] at large
      cases large
  have longest : wordAt? (point :: (tail ++ rest)) = some (point :: tail) := by
    rw [wordAt?, if_pos start, List.takeWhile_append_of_pos small, stops, List.append_nil]
  rw [List.cons_append, findWords, longest]
  simp only [List.length_cons, Nat.add_sub_cancel]
  rw [findWords_taken, Nat.add_assoc, Nat.add_comm 1]

/-- The tokens of words that follow each other from the given offset on, and the end. -/
def placeWords (position : Nat) : List Text → List Token
  | [] => [⟨.eof, [], position⟩]
  | word :: rest =>
    ⟨wordKind word, word, position⟩ :: placeWords (position + word.length) rest

theorem head?_flatten_capital {cut : List Text} (capital : ∀ word ∈ cut, IsCapitalWord word) :
    ∀ point ∈ cut.flatten.head?, isCapital point = true := by
  cases cut with
  | nil => simp
  | cons word cut =>
    obtain ⟨point, tail, rfl⟩ := List.exists_cons_of_ne_nil (capital word (by simp)).1
    simpa using (isCapitalWord_cons.mp (capital (point :: tail) (by simp))).1

/-- A search finds the words of a cut, one behind the other. -/
theorem findWords_cut {cut : List Text} (capital : ∀ word ∈ cut, IsCapitalWord word)
    (offset position : Nat) :
    (findWords offset 0 cut.flatten).map Found.word = cut ∧
      (findWords offset 0 cut.flatten).map (Found.token position) ++
          [⟨.eof, [], position + offset + cut.flatten.length⟩] =
        placeWords (position + offset) cut := by
  induction cut generalizing offset with
  | nil => exact ⟨rfl, rfl⟩
  | cons word cut ih =>
    have others : ∀ other ∈ cut, IsCapitalWord other := fun other mem ↦
      capital other (List.mem_cons_of_mem word mem)
    obtain ⟨found, placed⟩ := ih others (offset + word.length)
    rw [List.flatten_cons,
      findWords_word offset (capital word List.mem_cons_self) (head?_flatten_capital others)]
    constructor
    · rw [List.map_cons, found]
    · rw [List.map_cons, List.cons_append, List.length_append, placeWords, Nat.add_assoc position,
        Nat.add_assoc position, ← placed, Nat.add_assoc position, Nat.add_assoc offset]
      rfl

/-- The search of a body finds the words of any cut. -/
theorem words_of_isCut {cut : List Text} {body : Text} (isCut : IsCut cut body) :
    words body = cut := by
  rw [words, ← isCut.whole, (findWords_cut isCut.capital 0 0).1]

/-- A text of points of a body is the rest of a word with capital words behind it. -/
theorem exists_cut_behind {body : Text} (points : ∀ point ∈ body, isBodyChar point = true) :
    ∃ (front : Text) (cut : List Text), front ++ cut.flatten = body ∧
      (∀ point ∈ front, isWordTail point = true) ∧ ∀ word ∈ cut, IsCapitalWord word := by
  induction body with
  | nil => exact ⟨[], [], rfl, by simp, by simp⟩
  | cons point rest ih =>
    obtain ⟨front, cut, rfl, small, capital⟩ := ih fun other mem ↦ points other (by simp [mem])
    have kind := points point (by simp)
    rw [isBodyChar_eq, Bool.or_eq_true] at kind
    rcases kind with start | tail
    · refine ⟨[], (point :: front) :: cut, by simp, by simp, ?_⟩
      exact List.forall_mem_cons.mpr ⟨isCapitalWord_cons.mpr ⟨start, small⟩, capital⟩
    · exact ⟨point :: front, cut, rfl, List.forall_mem_cons.mpr ⟨tail, small⟩, capital⟩

/-- A body is cut by the search: nothing stands in front of its first capital. -/
theorem isCut_words {body : Text} (isBody : IsBody body) : IsCut (words body) body := by
  obtain ⟨front, cut, whole, small, capital⟩ := exists_cut_behind isBody.points
  have noFront : front = [] := by
    cases front with
    | nil => rfl
    | cons point front =>
      have start := isBody.capital point (by rw [← whole]; rfl)
      rw [not_isCapital_of_isWordTail (small point List.mem_cons_self)] at start
      cases start
  rw [noFront] at whole
  have isCut : IsCut cut body := ⟨whole, capital⟩
  rwa [words_of_isCut isCut]

/-- Every body has exactly one cut. -/
theorem existsUnique_isCut {body : Text} (isBody : IsBody body) : ∃! words, IsCut words body :=
  ⟨words body, isCut_words isBody, fun _ isCut ↦ (words_of_isCut isCut).symm⟩

/-! ## Tokens -/

/-- The opening of a descriptor. -/
def openingOf (allRows : Bool) : Text :=
  if allRows then findAllBy else findBy

/-- The token of the opening. -/
def openingToken (allRows : Bool) : Token :=
  ⟨if allRows then .findAllBy else .findBy, openingOf allRows, 0⟩

theorem opening?_append (allRows : Bool) (body : Text) :
    opening? (openingOf allRows ++ body) = some (openingToken allRows, body) := by
  cases allRows <;> simp [opening?, openingOf, openingToken, findAllBy, findBy, Text.ofString]

theorem opening?_eq_some {descriptor body : Text} {token : Token}
    (found : opening? descriptor = some (token, body)) :
    ∃ allRows, token = openingToken allRows ∧ descriptor = openingOf allRows ++ body := by
  unfold opening? at found
  split at found
  · rename_i starts
    obtain ⟨rest, rfl⟩ := List.isPrefixOf_iff_prefix.mp starts
    cases found
    exact ⟨true, rfl, by simp [openingOf]⟩
  · split at found
    · rename_i starts
      obtain ⟨rest, rfl⟩ := List.isPrefixOf_iff_prefix.mp starts
      cases found
      exact ⟨false, rfl, by simp [openingOf]⟩
    · cases found

/-- The tokens of a descriptor whose body is cut into words; without words the body is empty. -/
theorem tokenize_cut {allRows : Bool} {body : Text} {cut : List Text} (isCut : IsCut cut body) :
    tokenize (openingOf allRows ++ body) =
      .ok (openingToken allRows :: placeWords (openingOf allRows).length cut) := by
  have length : (openingToken allRows).text.length = (openingOf allRows).length := rfl
  have placed := (findWords_cut isCut.capital 0 (openingOf allRows).length).2
  rw [isCut.whole, Nat.add_zero, ← List.length_append] at placed
  rw [tokenize, opening?_append, ← placed]
  cases cut with
  | nil =>
    obtain ⟨rfl, -⟩ := isCut
    rfl
  | cons word rest =>
    obtain ⟨nonempty, points, capital⟩ := isCut.isBody (by simp)
    have allPoints : body.all isBodyChar = true := List.all_eq_true.mpr points
    have starts : (body.take 1).all isCapital = true := by
      obtain ⟨point, rest, rfl⟩ := List.exists_cons_of_ne_nil nonempty
      simpa using capital point rfl
    simp [allPoints, starts, length]

/-- Only such descriptors have tokens. -/
theorem exists_cut_of_tokenize {descriptor : Text} {tokens : List Token}
    (found : tokenize descriptor = .ok tokens) :
    ∃ allRows body cut, descriptor = openingOf allRows ++ body ∧ IsCut cut body := by
  unfold tokenize at found
  split at found
  · cases found
  · rename_i token body opened
    obtain ⟨allRows, rfl, rfl⟩ := opening?_eq_some opened
    dsimp only at found
    split at found
    · cases found
    · split at found
      · cases found
      · rename_i noStrange starts
        simp only [Bool.not_eq_true', Bool.not_eq_false] at noStrange starts
        cases body with
        | nil => exact ⟨allRows, [], [], rfl, .nil⟩
        | cons point rest =>
          have isBody : IsBody (point :: rest) :=
            ⟨by simp, List.all_eq_true.mp noStrange, by simpa using starts⟩
          exact ⟨allRows, _, _, rfl, isCut_words isBody⟩

end DialectSql.Finder
