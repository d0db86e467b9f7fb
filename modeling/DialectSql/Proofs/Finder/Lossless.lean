import DialectSql.Proofs.Finder.Scanning

/-!
# Tokens Spell Their Descriptor

Cutting a descriptor into tokens loses nothing.  The texts of the tokens one after another are the
descriptor, each token stands behind the texts in front of it, and between the opening and the end
stand the longest words there are.  This fixes the tokens: a descriptor has the tokens that spell
it in this way, and it has none when no tokens do.
-/

namespace DialectSql.Finder

/-- The text of tokens, one after another. -/
def spelling (tokens : List Token) : Text :=
  (tokens.map Token.text).flatten

@[simp]
theorem spelling_nil : spelling [] = [] := rfl

@[simp]
theorem spelling_cons (token : Token) (tokens : List Token) :
    spelling (token :: tokens) = token.text ++ spelling tokens := rfl

@[simp]
theorem spelling_append (left right : List Token) :
    spelling (left ++ right) = spelling left ++ spelling right := by
  rw [spelling, List.map_append, List.flatten_append]
  rfl

/-- Every token stands behind the texts in front of it, the first one at the given offset. -/
def PlacedFrom (offset : Nat) (tokens : List Token) : Prop :=
  ∀ front token rest, tokens = front ++ token :: rest →
    token.position = offset + (spelling front).length

theorem placedFrom_cons {offset : Nat} {token : Token} {tokens : List Token} :
    PlacedFrom offset (token :: tokens) ↔
      token.position = offset ∧ PlacedFrom (offset + token.text.length) tokens := by
  constructor
  · intro placed
    refine ⟨by simpa using placed [] token tokens rfl, fun front other rest shape ↦ ?_⟩
    have behind := placed (token :: front) other rest (by rw [shape, List.cons_append])
    rw [behind, spelling_cons, List.length_append, Nat.add_assoc]
  · rintro ⟨first, placed⟩ front other rest shape
    cases front with
    | nil =>
      obtain ⟨rfl, -⟩ := List.cons.inj shape
      simpa using first
    | cons head front =>
      obtain ⟨rfl, tail⟩ := List.cons.inj shape
      rw [placed front other rest tail, spelling_cons, List.length_append, Nat.add_assoc]

/-- The longest capital word that a text starts with. -/
structure IsLongestWord (word text : Text) : Prop where
  capital : IsCapitalWord word
  starts : word <+: text
  longest : ∀ other, IsCapitalWord other → other <+: text → other.length ≤ word.length

/-- A capital word in front of nothing or of another one is as long as it can be. -/
theorem isLongestWord_append {word rest : Text} (capital : IsCapitalWord word)
    (next : ∀ point ∈ rest.head?, isCapital point = true) : IsLongestWord word (word ++ rest) where
  capital := capital
  starts := List.prefix_append word rest
  longest := by
    intro other otherCapital starts
    by_contra longer
    -- A longer word would go on with the first code point of the rest, which is a capital.
    obtain ⟨more, rfl⟩ := List.prefix_of_prefix_length_le (List.prefix_append word rest) starts
      (by omega)
    obtain ⟨behind, rfl⟩ := (List.prefix_append_right_inj word).mp starts
    obtain ⟨point, others, rfl⟩ := List.exists_cons_of_ne_nil (l := more) (by
      rintro rfl
      simp at longer)
    obtain ⟨first, front, rfl⟩ := List.exists_cons_of_ne_nil capital.1
    have small := (isCapitalWord_cons.mp otherCapital).2 point (by simp)
    have large := next point rfl
    rw [not_isCapital_of_isWordTail small] at large
    cases large

/-- The opening, the words and the end of a descriptor as tokens. -/
structure Spells (descriptor : Text) (opening : Token) (words : List Token) (last : Token) :
    Prop where
  opens : opening.kind = .findBy ∧ opening.text = findBy ∨
    opening.kind = .findAllBy ∧ opening.text = findAllBy
  ends : last = ⟨.eof, [], descriptor.length⟩
  whole : spelling (opening :: (words ++ [last])) = descriptor
  placed : PlacedFrom 0 (opening :: (words ++ [last]))
  longest : ∀ token ∈ words, IsLongestWord token.text (descriptor.drop token.position)
  kinds : ∀ token ∈ words, token.kind = .word ∨ token.kind.keyword?.isSome
  keyword : ∀ token ∈ words, ∀ kind keyword, kind.keyword? = some keyword →
    (token.kind = kind ↔ token.text = keyword)

/-! ## Kinds -/

theorem keyword?_wordKind {kind : TokenKind} {keyword : Text}
    (spelled : kind.keyword? = some keyword) : wordKind keyword = kind := by
  cases kind <;> cases spelled <;> decide

/-- A token whose kind is a keyword exactly when its text is that keyword has the kind of its
text. -/
theorem kind_eq_wordKind {token : Token} (kinds : token.kind = .word ∨ token.kind.keyword?.isSome)
    (keyword : ∀ kind keyword, kind.keyword? = some keyword →
      (token.kind = kind ↔ token.text = keyword)) :
    token.kind = wordKind token.text := by
  rcases wordKind_cases token.text with plain | spelled
  · rcases kinds with isWord | isKeyword
    · rw [isWord, plain]
    · obtain ⟨text, found⟩ := Option.isSome_iff_exists.mp isKeyword
      rw [(keyword _ _ found).mp rfl, keyword?_wordKind found]
  · exact (keyword _ _ spelled).mpr rfl

/-- A token that has the kind of its text is of the kind of a keyword exactly when its text is that
keyword. -/
theorem kind_iff_of_kind_eq_wordKind {token : Token} {kind : TokenKind} {keyword : Text}
    (same : token.kind = wordKind token.text) (spelled : kind.keyword? = some keyword) :
    token.kind = kind ↔ token.text = keyword := by
  rw [same]
  constructor
  · intro isKind
    have isKeyword : wordKind keyword ≠ .word := by
      rw [keyword?_wordKind spelled]
      rintro rfl
      cases spelled
    exact eq_of_wordKind_eq isKeyword (isKind.trans (keyword?_wordKind spelled).symm)
  · rintro rfl
    exact keyword?_wordKind spelled

/-! ## Tokens of words -/

theorem placedFrom_placeWords (offset : Nat) (words : List Text) :
    PlacedFrom offset (placeWords offset words) := by
  induction words generalizing offset with
  | nil =>
    refine placedFrom_cons.mpr ⟨rfl, fun front token rest shape ↦ ?_⟩
    simp at shape
  | cons word words ih => exact placedFrom_cons.mpr ⟨rfl, ih (offset + word.length)⟩

/-- The tokens of words are one token for each word and the end. -/
theorem exists_placeWords (offset : Nat) (words : List Text) :
    ∃ tokens, placeWords offset words =
        tokens ++ [⟨.eof, [], offset + words.flatten.length⟩] ∧
      tokens.map Token.text = words ∧ ∀ token ∈ tokens, token.kind = wordKind token.text := by
  induction words generalizing offset with
  | nil => exact ⟨[], rfl, rfl, by simp⟩
  | cons word words ih =>
    obtain ⟨tokens, shape, texts, kinds⟩ := ih (offset + word.length)
    refine ⟨⟨wordKind word, word, offset⟩ :: tokens, ?_, by rw [List.map_cons, texts], ?_⟩
    · rw [placeWords_cons, shape, List.flatten_cons, List.length_append, Nat.add_assoc]
      rfl
    · intro token mem
      obtain rfl | mem := List.mem_cons.mp mem
      · rfl
      · exact kinds token mem

/-- Tokens in their places, each of the kind of its text, are the tokens of their texts. -/
theorem placeWords_of_placed {offset position : Nat} {tokens : List Token}
    (placed : PlacedFrom offset (tokens ++ [⟨.eof, [], position⟩]))
    (kinds : ∀ token ∈ tokens, token.kind = wordKind token.text) :
    tokens ++ [⟨.eof, [], position⟩] = placeWords offset (tokens.map Token.text) := by
  induction tokens generalizing offset with
  | nil =>
    obtain ⟨rfl, -⟩ := placedFrom_cons.mp placed
    rfl
  | cons token tokens ih =>
    obtain ⟨rfl, behind⟩ := placedFrom_cons.mp placed
    have others := ih behind fun other mem ↦ kinds other (by simp [mem])
    have same := kinds token (by simp)
    rw [List.cons_append, others, List.map_cons, placeWords_cons, ← same]

/-- Behind a word of a cut stands nothing or a capital. -/
theorem isLongestWord_of_isCut {front rest : List Text} {word body : Text}
    (cut : IsCut (front ++ word :: rest) body) :
    IsLongestWord word (word ++ rest.flatten) := by
  refine isLongestWord_append (cut.capital word (by simp)) fun point head ↦ ?_
  cases rest with
  | nil => cases head
  | cons next rest =>
    have behind : IsCut (next :: rest) (next :: rest).flatten :=
      ⟨rfl, fun other mem ↦ cut.capital other (by simp [mem])⟩
    exact (behind.isBody (by simp)).capital point head

/-- A descriptor whose body is cut into words is spelled by its tokens. -/
theorem spells_of_isCut {allRows : Bool} {body : Text} {cut : List Text} (isCut : IsCut cut body) :
    ∃ words last, tokenize (openingOf allRows ++ body) =
        .ok (openingToken allRows :: (words ++ [last])) ∧
      Spells (openingOf allRows ++ body) (openingToken allRows) words last := by
  obtain ⟨words, shape, texts, kinds⟩ := exists_placeWords (openingOf allRows).length cut
  have text : (openingToken allRows).text = openingOf allRows := rfl
  have spelled : spelling words = body := by rw [spelling, texts, isCut.whole]
  rw [isCut.whole, ← List.length_append] at shape
  generalize isLast : Token.mk .eof [] (openingOf allRows ++ body).length = last at shape
  have placed : PlacedFrom 0 (openingToken allRows :: (words ++ [last])) := by
    refine placedFrom_cons.mpr ⟨rfl, ?_⟩
    rw [← shape, text, Nat.zero_add]
    exact placedFrom_placeWords _ cut
  refine ⟨words, last, by rw [tokenize_cut isCut, shape], ?_⟩
  refine { opens := ?_, ends := isLast.symm, whole := ?_, placed, longest := ?_, kinds := ?_,
           keyword := fun token mem kind keyword ↦ kind_iff_of_kind_eq_wordKind (kinds token mem) }
  · cases allRows
    · exact .inl ⟨rfl, rfl⟩
    · exact .inr ⟨rfl, rfl⟩
  · rw [← isLast]
    simp [text, spelled]
  · intro token mem
    obtain ⟨front, rest, rfl⟩ := List.append_of_mem mem
    have offset : token.position = (openingOf allRows ++ spelling front).length := by
      rw [placed (openingToken allRows :: front) token (rest ++ [last]) (by simp)]
      simp [text]
    rw [List.map_append, List.map_cons] at texts
    have behind : (openingOf allRows ++ body).drop token.position =
        token.text ++ spelling rest := by
      rw [offset, ← spelled, spelling_append, spelling_cons, ← List.append_assoc, List.drop_left]
    rw [behind]
    exact isLongestWord_of_isCut (texts ▸ isCut)
  · intro token mem
    rw [kinds token mem]
    exact (wordKind_cases token.text).imp_right fun found ↦ by rw [found]; rfl

/-- Tokens that spell a descriptor are its tokens. -/
theorem Spells.tokenize_eq {descriptor : Text} {opening last : Token} {words : List Token}
    (spells : Spells descriptor opening words last) :
    tokenize descriptor = .ok (opening :: (words ++ [last])) := by
  obtain ⟨opens, rfl, whole, placed, longest, kinds, keyword⟩ := spells
  obtain ⟨first, behind⟩ := placedFrom_cons.mp placed
  obtain ⟨allRows, rfl⟩ : ∃ allRows, opening = openingToken allRows := by
    obtain ⟨kind, text, position⟩ := opening
    obtain rfl : position = 0 := first
    rcases opens with ⟨rfl, rfl⟩ | ⟨rfl, rfl⟩
    · exact ⟨false, rfl⟩
    · exact ⟨true, rfl⟩
  have cut : IsCut (words.map Token.text) (spelling words) := by
    refine ⟨rfl, fun word mem ↦ ?_⟩
    obtain ⟨token, isToken, rfl⟩ := List.mem_map.mp mem
    exact (longest token isToken).capital
  have shape : openingOf allRows ++ spelling words = descriptor := by
    rw [← whole]
    simp [openingToken]
  have tokens := placeWords_of_placed behind fun token mem ↦
    kind_eq_wordKind (kinds token mem) (keyword token mem)
  rw [tokens, Nat.zero_add, ← shape]
  exact tokenize_cut cut

/-- The tokens of a descriptor are exactly those that spell it: an opening, the longest words that
follow each other behind it, with the kinds of the keywords that they are, and one end.  No
character is passed over. -/
theorem tokenize_eq_ok_iff_spells (descriptor : Text) (tokens : List Token) :
    tokenize descriptor = .ok tokens ↔
      ∃ opening words last, tokens = opening :: (words ++ [last]) ∧
        Spells descriptor opening words last := by
  constructor
  · intro found
    obtain ⟨allRows, body, cut, rfl, isCut⟩ := exists_cut_of_tokenize found
    obtain ⟨words, last, lexed, spells⟩ := @spells_of_isCut allRows body cut isCut
    rw [found] at lexed
    exact ⟨_, words, last, Except.ok.inj lexed, spells⟩
  · rintro ⟨opening, words, last, rfl, spells⟩
    exact spells.tokenize_eq

example : tokenize "findAllByA1_bAndBy" =
    .ok [⟨.findAllBy, "findAllBy", 0⟩, ⟨.word, "A1_b", 9⟩, ⟨.and, "And", 13⟩, ⟨.word, "By", 16⟩,
      ⟨.eof, "", 18⟩] := by
  rfl

end DialectSql.Finder
