import DialectSql.Proofs.Json.WrittenText

/-!
# Written Values Read Back

A value is read back from its text as it was, with the members of objects in their order, if it is
made of null, truth values, whole numbers that are not too long, texts of characters, arrays and
objects.  Other numbers are left out, and so are halves of surrogate pairs.

Reading goes down into a value as writing does, so the statement about a value nested in another is
about its text in front of a text that may follow it there.
-/

namespace DialectSql.Json

/-- A text that may stand behind a value: none, or one that starts with a comma or a closing
bracket. -/
def Closes (rest : Text) : Prop :=
  ∀ point ∈ rest.head?, point = ',' ∨ point = ']' ∨ point = '\x7d'

/-! ## Numerals -/

/-- The numeral of a positive number does not start with a zero. -/
theorem head?_toDigits_ne {count : Nat} (positive : 0 < count) :
    (Nat.toDigits 10 count).head? ≠ some '0' := by
  induction count using Nat.strong_induction_on with
  | _ count ih =>
    rw [Nat.toDigits_eq_if (by decide)]
    split_ifs with single
    · have table : ∀ digit < 10, 0 < digit → digit.digitChar ≠ '0' := by decide
      simpa using table count single positive
    · -- The last digit is split off, and the first one is that of a tenth of the number.
      have front := ih (count / 10) (by omega) (by omega)
      rwa [List.head?_append_of_ne_nil _ Nat.toDigits_ne_nil]

/-- The values of the digits of a number. -/
def digitsOf (count : Nat) : List Nat :=
  (Nat.toDigits 10 count).map fun digit ↦ digit.toNat - '0'.toNat

theorem length_digitsOf (count : Nat) : (digitsOf count).length = count.repr.length := by
  rw [digitsOf, List.length_map, Nat.repr, String.length_ofList]

theorem digitsOf_ne_nil (count : Nat) : digitsOf count ≠ [] := by
  simp [digitsOf, Nat.toDigits_ne_nil]

theorem ofDigits_digitsOf (count : Nat) : Number.ofDigits (digitsOf count) = count := by
  rw [Number.ofDigits, digitsOf, List.foldl_map]
  exact Nat.ofDigitChars_toDigits (by decide) (by decide)

theorem ofString_repr (count : Nat) :
    Text.ofString count.repr = (Nat.toDigits 10 count).map CodePoint.char := by
  rw [Text.ofString, Nat.repr, String.toList_ofList]

/-- A numeral starts with a digit, and not with a zero if more than a zero is meant. -/
theorem repr_eq_cons (count : Nat) :
    ∃ (first : Char) (others : Text), Text.ofString count.repr = .char first :: others ∧
      first.isDigit = true ∧ (0 < count → first ≠ '0') := by
  obtain ⟨first, digits, form⟩ : ∃ first digits, Nat.toDigits 10 count = first :: digits :=
    List.exists_cons_of_ne_nil Nat.toDigits_ne_nil
  refine ⟨first, digits.map CodePoint.char, ?_, ?_, ?_⟩
  · rw [ofString_repr, form, List.map_cons]
  · exact Nat.isDigit_of_mem_toDigits (by decide) (by decide) (form ▸ List.mem_cons_self)
  · rintro positive rfl
    apply head?_toDigits_ne positive
    rw [form, List.head?_cons]

theorem takeDigits_repr (count : Nat) {rest : Text}
    (stops : Text.StartsOutside Text.isAsciiDigit rest) :
    takeDigits (count.repr ++ rest) = (digitsOf count, rest) := by
  have isDigit : ∀ point ∈ Text.ofString count.repr, Text.isAsciiDigit point = true :=
    Text.isDigit_of_mem_repr count
  have values : (Text.ofString count.repr).filterMap Text.asciiDigit? = digitsOf count := by
    rw [ofString_repr, List.filterMap_map, digitsOf, ← List.filterMap_eq_map]
    apply List.filterMap_congr
    intro digit mem
    exact if_pos (Nat.isDigit_of_mem_toDigits (by decide) (by decide) mem)
  rw [takeDigits, List.takeWhile_append_of_pos isDigit, List.dropWhile_append_of_pos isDigit]
  cases rest with
  | nil => simp [values]
  | cons point rest =>
    rw [Text.startsOutside_cons] at stops
    simp [stops, values]

/-- The digits of a numeral are its whole part. -/
theorem wholePart_repr (count : Nat) {rest : Text}
    (stops : Text.StartsOutside Text.isAsciiDigit rest) :
    wholePart (count.repr ++ rest) = (digitsOf count, rest) := by
  rcases Nat.eq_zero_or_pos count with rfl | positive
  · rfl
  · obtain ⟨first, others, form, -, noZero⟩ := repr_eq_cons count
    rw [← takeDigits_repr count stops]
    unfold wholePart
    split
    next same =>
      rw [form] at same
      exact absurd (CodePoint.char.inj (List.cons.inj same).1) (noZero positive)
    next => rfl

theorem Closes.stops {rest : Text} (closes : Closes rest) :
    Text.StartsOutside Text.isAsciiDigit rest := by
  intro point head
  obtain rfl | rfl | rfl := closes point head <;> rfl

theorem fractionPart_of_closes {rest : Text} (closes : Closes rest) :
    fractionPart rest = ([], rest) := by
  unfold fractionPart
  split
  next others =>
    have comma := closes '.' rfl
    exact absurd comma (by decide)
  next => rfl

theorem exponentPart_of_closes {rest : Text} (closes : Closes rest) :
    exponentPart rest = (none, rest) := by
  cases rest with
  | nil => rfl
  | cons point rest =>
    apply if_neg
    obtain rfl | rfl | rfl := closes point rfl <;> decide

theorem number_repr (left : Nat) (negative : Bool) {count : Nat}
    (short : count.repr.length ≤ Number.maxDigits) {rest : Text} (closes : Closes rest) :
    number left negative (count.repr ++ rest) =
      .ok (.int (if negative then -count else count), rest) := by
  have whole : (digitsOf count).isEmpty = false := by
    simpa using digitsOf_ne_nil count
  simp only [number, wholePart_repr count closes.stops, fractionPart_of_closes closes,
    exponentPart_of_closes closes, whole]
  rw [if_neg (by decide), if_pos (by decide), if_neg (by rw [length_digitsOf]; omega),
    Number.signed, ofDigits_digitsOf]

theorem ne_of_isDigit {first : Char} (digit : first.isDigit = true) {others : List Char}
    (none : ∀ other ∈ others, other.isDigit = false) : ∀ other ∈ others, other ≠ first := by
  rintro other mem rfl
  rw [none other mem] at digit
  cases digit

/-- What starts with a digit, or with a digit behind a sign, is no word. -/
theorem word?_of_digit {first : Char} (digit : first.isDigit = true) (rest : Text) :
    word? (.char first :: rest) = none ∧ word? (.char '-' :: .char first :: rest) = none := by
  have apart : ∀ letter ∈ ['n', 't', 'f', 'N', 'I', '-'], letter ≠ first :=
    ne_of_isDigit digit (by simp)
  simp only [List.forall_mem_cons] at apart
  simp [word?, words, Text.ofString, apart]

/-- What starts with a digit is read as a number, and what starts with one behind a minus sign is
read as a negative one. -/
theorem scalar_of_digit {first : Char} (digit : first.isDigit = true) (rest : Text) :
    scalar (.char first :: rest) = number (rest.length + 1) false (.char first :: rest) ∧
      scalar (.char '-' :: .char first :: rest) =
        number (rest.length + 2) true (.char first :: rest) := by
  obtain ⟨noWord, noSignedWord⟩ := word?_of_digit digit rest
  constructor
  · unfold scalar
    rw [noWord]
    split
    next found => cases found
    next same =>
      cases same
      cases digit
    next => rfl
  · unfold scalar
    rw [noSignedWord]
    rfl

/-- The numeral of a whole number is a row of digits, behind a minus sign if it is negative. -/
theorem ofString_int_repr (value : Int) :
    Text.ofString value.repr =
      (if value < 0 then [.char '-'] else []) ++ Text.ofString value.natAbs.repr := by
  cases value with
  | ofNat count => rfl
  | negSucc count => simp [Int.repr, Text.ofString, Int.negSucc_lt_zero]

/-- The numeral of a whole number that is not too long is read back. -/
theorem scalar_repr {value : Int} (short : value.natAbs.repr.length ≤ Number.maxDigits)
    {rest : Text} (closes : Closes rest) :
    scalar (value.repr ++ rest) = .ok (.int value, rest) := by
  obtain ⟨first, others, form, digit, -⟩ := repr_eq_cons value.natAbs
  obtain ⟨unsigned, signed⟩ := scalar_of_digit digit (others ++ rest)
  have read (left : Nat) (negative : Bool) := number_repr left negative short closes
  rw [form, List.cons_append] at read
  rw [ofString_int_repr, form]
  split_ifs with below
  · calc scalar (.char '-' :: .char first :: (others ++ rest))
      _ = number _ true (.char first :: (others ++ rest)) := signed
      _ = .ok (.int (-(value.natAbs : Int)), rest) := read _ true
      _ = .ok (.int value, rest) := by rw [Int.ofNat_natAbs_of_nonpos below.le, neg_neg]
  · calc scalar (.char first :: (others ++ rest))
      _ = number _ false (.char first :: (others ++ rest)) := unsigned
      _ = .ok (.int (value.natAbs : Int), rest) := read _ false
      _ = .ok (.int value, rest) := by rw [Int.natAbs_of_nonneg (not_lt.mp below)]

/-! ## Values -/

/-- The values that their text determines.  Numbers with a fraction or an exponent are left out. -/
inductive Exact : Json → Prop
  | null : Exact .null
  | bool (value : Bool) : Exact (.bool value)
  | int {value : Int} (short : value.natAbs.repr.length ≤ Number.maxDigits) : Exact (.int value)
  | str {text : Text} (whole : text.hasHalf = false) : Exact (.str text)
  | arr {items : List Json} (each : ∀ item ∈ items, Exact item) : Exact (.arr items)
  | obj {members : List (Text × Json)} (distinct : (members.map Prod.fst).Nodup)
      (whole : ∀ member ∈ members, Text.hasHalf member.1 = false)
      (each : ∀ member ∈ members, Exact member.2) : Exact (.obj members)

/-- A value is read from its text wherever the text may stand. -/
def ReadsBack (item : Json) : Prop :=
  ∀ (fuel : Nat) (rest : Text), 2 * (write item).length ≤ fuel → Closes rest →
    value fuel (write item ++ rest) = .ok (item, rest)

@[simp]
theorem closes_cons {point : CodePoint} {rest : Text} :
    Closes (point :: rest) ↔ point = ',' ∨ point = ']' ∨ point = '\x7d' := by
  simp [Closes]

theorem closes_writeItems (others : List Json) (rest : Text) :
    Closes (writeItems others ++ .char ']' :: rest) := by
  cases others with
  | nil => exact closes_cons.mpr (.inr (.inl rfl))
  | cons next others => exact closes_cons.mpr (.inl rfl)

theorem closes_writeMembers (others : List (Text × Json)) (rest : Text) :
    Closes (writeMembers others ++ .char '\x7d' :: rest) := by
  cases others with
  | nil => exact closes_cons.mpr (.inr (.inr rfl))
  | cons next others => exact closes_cons.mpr (.inl rfl)

theorem skipSpace_cons {point : CodePoint} (noSpace : isSpace point = false) (rest : Text) :
    skipSpace (point :: rest) = point :: rest := by
  simp [skipSpace, noSpace]

theorem opens_of_digit {first : Char} (digit : first.isDigit = true) :
    isSpace (.char first) = false ∧ (.char first : CodePoint) ≠ ']' ∧
      (.char first : CodePoint) ≠ '\ufeff' := by
  have apart : ∀ mark ∈ [' ', '\t', '\n', '\r', ']', '\ufeff'], mark ≠ first :=
    ne_of_isDigit digit (by simp)
  simp only [List.forall_mem_cons] at apart
  simp [isSpace, apart, Ne.symm]

/-- The text of a value starts with what is neither white space nor the end of an array. -/
theorem Exact.write_eq_cons {item : Json} (exact : Exact item) :
    ∃ first others, write item = first :: others ∧ isSpace first = false ∧ first ≠ ']' ∧
      first ≠ '\ufeff' := by
  cases exact with
  | null => exact ⟨_, _, rfl, by decide⟩
  | bool value => cases value <;> exact ⟨_, _, rfl, by decide⟩
  | @int value short =>
    obtain ⟨first, others, form, digit, -⟩ := repr_eq_cons value.natAbs
    rw [write, ofString_int_repr, form]
    split_ifs with below
    · exact ⟨_, _, rfl, by decide⟩
    · exact ⟨_, _, rfl, opens_of_digit digit⟩
  | str whole => exact ⟨_, _, rfl, by decide⟩
  | @arr items each => cases items <;> exact ⟨_, _, rfl, by decide⟩
  | @obj members distinct whole each => cases members <;> exact ⟨_, _, rfl, by decide⟩

theorem skipSpace_write {item : Json} (exact : Exact item) (rest : Text) :
    skipSpace (write item ++ rest) = write item ++ rest := by
  obtain ⟨first, others, form, noSpace, -⟩ := exact.write_eq_cons
  rw [form]
  exact skipSpace_cons noSpace _

/-! ## Arrays -/

theorem items_last {fuel : Nat} {text left rest : Text} {item : Json}
    (read : value fuel text = .ok (item, left)) (closing : skipSpace left = .char ']' :: rest) :
    items (fuel + 1) text = .ok ([item], rest) := by
  rw [items, read]
  simp only [bind, Except.bind, closing]
  rfl

theorem items_next {fuel : Nat} {text left behind : Text} {item : Json}
    (read : value fuel text = .ok (item, left)) (comma : skipSpace left = .char ',' :: behind) :
    items (fuel + 1) text =
      (items fuel (skipSpace behind)).map fun more ↦ (item :: more.1, more.2) := by
  rw [items, read]
  simp only [bind, Except.bind, comma]
  rfl

/-- The items of an array are read back up to its closing bracket. -/
theorem items_write {item : Json} {others : List Json}
    (each : ∀ one ∈ item :: others, Exact one ∧ ReadsBack one) {fuel : Nat}
    (enough : 2 * (write item ++ writeItems others).length ≤ fuel) (rest : Text) :
    items (fuel + 1) (write item ++ (writeItems others ++ .char ']' :: rest)) =
      .ok (item :: others, rest) := by
  induction others generalizing item fuel with
  | nil =>
    rw [List.length_append] at enough
    have read := (each item (by simp)).2 fuel _ (by omega) (closes_writeItems [] rest)
    exact items_last read rfl
  | cons next others ih =>
    obtain ⟨⟨-, back⟩, eachOther⟩ := List.forall_mem_cons.mp each
    have comma : skipSpace (writeItems (next :: others) ++ .char ']' :: rest) =
        .char ',' :: .char ' ' :: (write next ++ (writeItems others ++ .char ']' :: rest)) := by
      simp only [writeItems, List.append_assoc]
      rfl
    have blank : skipSpace (.char ' ' :: (write next ++ (writeItems others ++ .char ']' :: rest))) =
        write next ++ (writeItems others ++ .char ']' :: rest) :=
      skipSpace_write (eachOther next (by simp)).1 _
    -- The comma and the blank pay for the step that reads the next item.
    have length : (writeItems (next :: others)).length =
        2 + (write next ++ writeItems others).length := by
      simp only [writeItems, List.length_append, Nat.add_assoc]
      rfl
    rw [List.length_append, length] at enough
    have read := back fuel _ (by omega) (closes_writeItems (next :: others) rest)
    obtain ⟨spare, rfl⟩ : ∃ spare, fuel = spare + 1 := Nat.exists_eq_add_of_le' (by omega)
    rw [items_next read comma, blank, ih eachOther (by omega)]
    rfl

/-! ## Objects -/

theorem writeText_append (text rest : Text) :
    writeText text ++ rest = .char '"' :: (text.flatMap escapePoint ++ .char '"' :: rest) := by
  simp [writeText, Text.ofString]

theorem not_mem_of_nodup {seen others : List (Text × Json)} {name : Text} {item : Json}
    (distinct : ((seen ++ (name, item) :: others).map Prod.fst).Nodup) :
    name ∉ seen.map Prod.fst := by
  rw [List.map_append, List.map_cons] at distinct
  intro mem
  exact List.disjoint_of_nodup_append distinct mem List.mem_cons_self

/-- A member with a new name is read back, and what follows it decides how reading goes on. -/
theorem members_write_cons {seen : List (Text × Json)} {name : Text} {item : Json} {fuel : Nat}
    {left : Text} (new : name ∉ seen.map Prod.fst) (whole : name.hasHalf = false)
    (exact : Exact item) (back : ReadsBack item) (enough : 2 * (write item).length ≤ fuel)
    (closes : Closes left) :
    members (fuel + 1) seen (writeText name ++ (": " ++ (write item ++ left))) =
      match skipSpace left with
      | .char '\x7d' :: rest => .ok (seen ++ [(name, item)], rest)
      | .char ',' :: next => members fuel (seen ++ [(name, item)]) (skipSpace next)
      | rest => .error (.malformed .commaExpected rest.length) := by
  have nameRead := textAfterQuote_flatMap whole (": " ++ (write item ++ left))
  have colon : skipSpace (": " ++ (write item ++ left)) =
      .char ':' :: .char ' ' :: (write item ++ left) := rfl
  have held : skipSpace (.char ' ' :: (write item ++ left)) = write item ++ left :=
    skipSpace_write exact left
  have set : setEntry seen name item = seen ++ [(name, item)] := if_neg new
  rw [writeText_append, members]
  simp only [nameRead, bind, Except.bind, colon, held, back fuel left enough closes, set]
  rfl

/-- The members of an object are read back up to its closing brace, behind those read before. -/
theorem members_write {seen others : List (Text × Json)} {name : Text} {item : Json}
    (distinct : ((seen ++ (name, item) :: others).map Prod.fst).Nodup)
    (each : ∀ one ∈ (name, item) :: others,
      Text.hasHalf one.1 = false ∧ Exact one.2 ∧ ReadsBack one.2)
    {fuel : Nat} (enough : 2 * (write item ++ writeMembers others).length ≤ fuel) (rest : Text) :
    members (fuel + 1) seen (writeText name ++ (": " ++ (write item ++ (writeMembers others ++
      .char '\x7d' :: rest)))) = .ok (seen ++ (name, item) :: others, rest) := by
  induction others generalizing seen name item fuel with
  | nil =>
    obtain ⟨whole, exact, back⟩ : Text.hasHalf name = false ∧ Exact item ∧ ReadsBack item :=
      each (name, item) (by simp)
    rw [List.length_append] at enough
    rw [members_write_cons (not_mem_of_nodup distinct) whole exact back (by omega)
      (closes_writeMembers [] rest)]
    rfl
  | cons next others ih =>
    obtain ⟨nextName, nextItem⟩ := next
    obtain ⟨whole, exact, back⟩ : Text.hasHalf name = false ∧ Exact item ∧ ReadsBack item :=
      each (name, item) (by simp)
    have comma : writeMembers ((nextName, nextItem) :: others) ++ .char '\x7d' :: rest =
        .char ',' :: .char ' ' :: (writeText nextName ++ ((": " : Text) ++ (write nextItem ++
          (writeMembers others ++ .char '\x7d' :: rest)))) := by
      simp only [writeMembers, List.append_assoc]
      rfl
    have length : (writeMembers ((nextName, nextItem) :: others)).length =
        (writeText nextName).length + 4 + (write nextItem ++ writeMembers others).length := by
      simp only [writeMembers, List.length_append]
      have blanks : (", " : Text).length = 2 ∧ (": " : Text).length = 2 := ⟨rfl, rfl⟩
      omega
    rw [List.length_append, length] at enough
    obtain ⟨spare, rfl⟩ : ∃ spare, fuel = spare + 1 := Nat.exists_eq_add_of_le' (by omega)
    have here := members_write_cons (not_mem_of_nodup distinct) whole exact back
      (show _ ≤ spare + 1 by omega) (closes_writeMembers ((nextName, nextItem) :: others) rest)
    rw [comma] at here ⊢
    -- The member goes over to those read before, behind which the others are read.
    rw [List.append_cons] at distinct
    have goesOn := ih distinct (fun one mem ↦ each one (List.mem_cons_of_mem _ mem))
      (show 2 * (write nextItem ++ writeMembers others).length ≤ spare by omega)
    rw [← List.append_cons] at goesOn
    rw [here, ← goesOn, writeText_append]
    rfl

/-! ## Values within values -/

/-- The text of a value is not empty, so there is fuel for a step. -/
theorem Exact.readsBack_of_succ {item : Json} (exact : Exact item)
    (read : ∀ (fuel : Nat) (rest : Text), Closes rest →
      value (fuel + 1) (write item ++ rest) = .ok (item, rest)) : ReadsBack item := by
  intro fuel rest enough closes
  cases fuel with
  | zero =>
    obtain ⟨first, others, form, -⟩ := exact.write_eq_cons
    rw [form, List.length_cons] at enough
    omega
  | succ fuel => exact read fuel rest closes

theorem value_of_digit {first : Char} (digit : first.isDigit = true) (fuel : Nat) (others : Text) :
    value (fuel + 1) (.char first :: others) = scalar (.char first :: others) := by
  rw [value]
  all_goals
    rintro rest same
    cases same
    cases digit

theorem readsBack_int {number : Int} (short : number.natAbs.repr.length ≤ Number.maxDigits) :
    ReadsBack (.int number) := by
  apply (Exact.int short).readsBack_of_succ
  intro fuel rest closes
  obtain ⟨first, others, form, digit, -⟩ := repr_eq_cons number.natAbs
  rw [write, ← scalar_repr short closes, ofString_int_repr, form]
  split_ifs with below
  · rfl
  · exact value_of_digit digit fuel (others ++ rest)

theorem value_bracket {fuel : Nat} {text : Text}
    (goesOn : ∀ rest, skipSpace text ≠ .char ']' :: rest) :
    value (fuel + 1) (.char '[' :: text) =
      (items fuel (skipSpace text)).map fun read ↦ (.arr read.1, read.2) := by
  rw [value]
  split
  next same => exact absurd same (goesOn _)
  next => rfl

theorem readsBack_arr {item : Json} {others : List Json}
    (each : ∀ one ∈ item :: others, Exact one ∧ ReadsBack one) :
    ReadsBack (.arr (item :: others)) := by
  intro fuel rest enough _
  have exact : Exact item := (each item (by simp)).1
  have text : write (.arr (item :: others)) ++ rest =
      .char '[' :: (write item ++ (writeItems others ++ .char ']' :: rest)) := by
    simp only [write, List.append_assoc]
    rfl
  have length : (write (.arr (item :: others))).length =
      (write item ++ writeItems others).length + 2 := by
    simp only [write, List.length_append]
    have brackets : ("[" : Text).length = 1 ∧ ("]" : Text).length = 1 := ⟨rfl, rfl⟩
    omega
  have goesOn (behind : Text) :
      write item ++ (writeItems others ++ .char ']' :: rest) ≠ .char ']' :: behind := by
    obtain ⟨first, left, form, -, noEnd, -⟩ := exact.write_eq_cons
    rw [form]
    exact fun same ↦ noEnd (List.cons.inj same).1
  obtain ⟨spare, rfl⟩ : ∃ spare, fuel = spare + 2 := Nat.exists_eq_add_of_le' (by omega)
  rw [← skipSpace_write exact] at goesOn
  rw [text, value_bracket goesOn, skipSpace_write exact, items_write each (by omega)]
  rfl

theorem readsBack_obj {name : Text} {item : Json} {others : List (Text × Json)}
    (distinct : (((name, item) :: others).map Prod.fst).Nodup)
    (each : ∀ one ∈ (name, item) :: others,
      Text.hasHalf one.1 = false ∧ Exact one.2 ∧ ReadsBack one.2) :
    ReadsBack (.obj ((name, item) :: others)) := by
  intro fuel rest enough _
  have text : write (.obj ((name, item) :: others)) ++ rest =
      .char '\x7b' :: (writeText name ++ ((": " : Text) ++ (write item ++ (writeMembers others ++
        .char '\x7d' :: rest)))) := by
    simp only [write, List.append_assoc]
    rfl
  have length : (write (.obj ((name, item) :: others))).length =
      (writeText name).length + (write item ++ writeMembers others).length + 4 := by
    simp only [write, List.length_append]
    have marks : ("\x7b" : Text).length = 1 ∧ (": " : Text).length = 2 ∧
        ("\x7d" : Text).length = 1 := ⟨rfl, rfl, rfl⟩
    omega
  obtain ⟨spare, rfl⟩ : ∃ spare, fuel = spare + 2 := Nat.exists_eq_add_of_le' (by omega)
  have read : members (spare + 1) [] (writeText name ++ ((": " : Text) ++ (write item ++
      (writeMembers others ++ .char '\x7d' :: rest)))) = .ok ((name, item) :: others, rest) :=
    members_write distinct each (by omega) rest
  rw [writeText_append] at text read
  have step (members' : Text) : value (spare + 2) (.char '\x7b' :: .char '"' :: members') =
      (members (spare + 1) [] (.char '"' :: members')).map fun read ↦ (.obj read.1, read.2) := rfl
  rw [text, step, read]
  rfl

/-- A value that is exact is read back wherever its text may stand. -/
theorem Exact.readsBack {item : Json} (exact : Exact item) : ReadsBack item := by
  induction exact with
  | null => exact Exact.null.readsBack_of_succ fun _ _ _ ↦ rfl
  | bool holds =>
    apply (Exact.bool holds).readsBack_of_succ
    intro fuel rest _
    cases holds <;> rfl
  | int short => exact readsBack_int short
  | str whole =>
    apply (Exact.str whole).readsBack_of_succ
    intro fuel rest _
    rw [write, writeText_append, value, textAfterQuote_flatMap whole]
    rfl
  | @arr others each ih =>
    cases others with
    | nil => exact (Exact.arr each).readsBack_of_succ fun _ _ _ ↦ rfl
    | cons item others => exact readsBack_arr fun one mem ↦ ⟨each one mem, ih one mem⟩
  | @obj others distinct whole each ih =>
    cases others with
    | nil => exact (Exact.obj distinct whole each).readsBack_of_succ fun _ _ _ ↦ rfl
    | cons member others =>
      exact readsBack_obj distinct fun one mem ↦ ⟨whole one mem, each one mem, ih one mem⟩

/-- A value is read back from its text as it was. -/
theorem Exact.parse_write {item : Json} (exact : Exact item) : parse (write item) = .ok item := by
  obtain ⟨first, others, form, noSpace, -, noMark⟩ := exact.write_eq_cons
  have start : skipSpace (write item) = write item := by
    rw [form]
    exact skipSpace_cons noSpace others
  have read := exact.readsBack (2 * (write item).length + 1) [] (by omega) (by simp [Closes])
  rw [List.append_nil] at read
  unfold parse
  split
  next same => exact absurd (List.cons.inj (form.symm.trans same)).1 noMark
  next =>
    rw [start, read]
    rfl

/-! ## Alphabet -/

theorem within_int_repr (value : Int) : (Text.ofString value.repr).Within Text.isAscii := by
  intro point mem
  have numeral := Text.isNumeralPoint_of_mem_repr value point mem
  cases point with
  | char c =>
    apply decide_eq_true
    obtain digit | minus := Bool.or_eq_true_iff.mp numeral
    · have upper : c.toNat ≤ '9'.toNat := (Char.isDigit_iff_toNat.mp digit).2
      exact lt_of_le_of_lt upper (by decide)
    · rw [beq_iff_eq.mp minus]
      decide
  | half offset => cases numeral

theorem within_writeItems {others : List Json}
    (each : ∀ item ∈ others, (write item).Within Text.isAscii) :
    (writeItems others).Within Text.isAscii := by
  induction others with
  | nil => simp [writeItems, Text.Within]
  | cons item others ih =>
    rw [List.forall_mem_cons] at each
    simp only [writeItems, Text.within_append]
    exact ⟨⟨by decide, each.1⟩, ih each.2⟩

theorem within_writeMembers {others : List (Text × Json)}
    (each : ∀ member ∈ others, (write member.2).Within Text.isAscii) :
    (writeMembers others).Within Text.isAscii := by
  induction others with
  | nil => simp [writeMembers, Text.Within]
  | cons member others ih =>
    obtain ⟨name, item⟩ := member
    rw [List.forall_mem_cons] at each
    simp only [writeMembers, Text.within_append]
    exact ⟨⟨⟨⟨by decide, within_writeText name⟩, by decide⟩, each.1⟩, ih each.2⟩

/-- The text of a value holds ASCII characters only. -/
theorem Exact.within_write {item : Json} (exact : Exact item) :
    (write item).Within Text.isAscii := by
  induction exact with
  | null =>
    rw [write]
    decide
  | bool holds => cases holds <;> decide
  | @int value short =>
    rw [write]
    exact within_int_repr value
  | @str text whole =>
    rw [write]
    exact within_writeText text
  | @arr others each ih =>
    cases others with
    | nil => decide
    | cons item others =>
      rw [List.forall_mem_cons] at ih
      simp only [write, Text.within_append]
      exact ⟨⟨⟨by decide, ih.1⟩, within_writeItems ih.2⟩, by decide⟩
  | @obj others distinct whole each ih =>
    cases others with
    | nil => decide
    | cons member others =>
      obtain ⟨name, item⟩ := member
      rw [List.forall_mem_cons] at ih
      simp only [write, Text.within_append]
      exact ⟨⟨⟨⟨⟨by decide, within_writeText name⟩, by decide⟩, ih.1⟩, within_writeMembers ih.2⟩,
        by decide⟩

end DialectSql.Json
