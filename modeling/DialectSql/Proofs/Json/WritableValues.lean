import DialectSql.Json.Reader
import DialectSql.Intake.Scalar
import DialectSql.Proofs.Number.Writable
import DialectSql.Proofs.Trace

/-!
# Values that Can Be Written

A reader accepts no number with more digits than may be written.  So whatever is read from a JSON
text holds only numbers that can be written, and so does a whole number that is read from such a
value, in whichever form it stands there.
-/

namespace DialectSql

namespace Json

/-! ## Parts of a value -/

theorem itemsWritable_iff {items : List Json} :
    itemsWritable items = true ↔ ∀ item ∈ items, item.isWritable = true := by
  induction items with
  | nil => simp [itemsWritable]
  | cons item items ih => simp [itemsWritable, ih]

theorem membersWritable_iff {members : List (Text × Json)} :
    membersWritable members = true ↔ ∀ member ∈ members, member.2.isWritable = true := by
  induction members with
  | nil => simp [membersWritable]
  | cons member members ih => simp [membersWritable, ih]

/-- A whole number stands somewhere in a value. -/
inductive Mentions (number : Int) : Json → Prop
  | int : Mentions number (.int number)
  | item {items : List Json} {item : Json} (mem : item ∈ items) (inside : Mentions number item) :
    Mentions number (.arr items)
  | member {members : List (Text × Json)} {member : Text × Json} (mem : member ∈ members)
    (inside : Mentions number member.2) : Mentions number (.obj members)

/-- A value holds a whole number with more digits than may be written. -/
def Overlong (value : Json) : Prop :=
  ∃ number, Mentions number value ∧ 10 ^ Number.maxDigits ≤ number.natAbs

theorem not_overlong_str (text : Text) : ¬(str text).Overlong := by
  rintro ⟨number, mentions, -⟩
  cases mentions

theorem not_overlong_float (number : Number.Binary64) : ¬(float number).Overlong := by
  rintro ⟨number, mentions, -⟩
  cases mentions

theorem Mentions.isWritable {number : Int} {value : Json} (mentions : Mentions number value)
    (writable : value.isWritable = true) : Number.isWritable number = true := by
  induction mentions with
  | int => rwa [Json.isWritable] at writable
  | item mem _ ih =>
    rw [Json.isWritable, itemsWritable_iff] at writable
    exact ih (writable _ mem)
  | member mem _ ih =>
    rw [Json.isWritable, membersWritable_iff] at writable
    exact ih (writable _ mem)

/-- A value can be written if all whole numbers that stand in it can. -/
theorem isWritable_of_forall : (value : Json) →
    (∀ number, Mentions number value → Number.isWritable number = true) → value.isWritable = true
  | .int value, each => each value .int
  | .arr items, each => itemsWritable_iff.mpr fun item mem ↦
    isWritable_of_forall item fun number inside ↦ each number (.item mem inside)
  | .obj members, each => membersWritable_iff.mpr fun member mem ↦
    have : sizeOf member.2 < sizeOf members := by
      have := List.sizeOf_lt_of_mem mem
      obtain ⟨name, value⟩ := member
      simp only [Prod.mk.sizeOf_spec] at this
      dsimp only
      omega
    isWritable_of_forall member.2 fun number inside ↦ each number (.member mem inside)
  | .null, _ | .bool _, _ | .float _, _ | .str _, _ => rfl

theorem isWritable_eq_false_iff {value : Json} : value.isWritable = false ↔ value.Overlong := by
  constructor
  · intro unwritable
    by_contra short
    refine absurd (isWritable_of_forall value fun number mentions ↦ ?_) (by simp [unwritable])
    exact Number.isWritable_iff.mpr (not_le.mp fun long ↦ short ⟨number, mentions, long⟩)
  · rintro ⟨number, mentions, long⟩
    by_contra writable
    have := mentions.isWritable (Bool.not_eq_false _ ▸ writable)
    rw [Number.isWritable_iff] at this
    omega

theorem isWritable_eq_true_iff {value : Json} : value.isWritable = true ↔ ¬value.Overlong := by
  rw [← isWritable_eq_false_iff, Bool.not_eq_false]

theorem isWritable_of_lookup {members : List (Text × Json)} {name : Text} {value : Json}
    (writable : membersWritable members = true) (entry : members.lookup name = some value) :
    value.isWritable = true := by
  obtain ⟨before, behind, rfl, -⟩ := List.lookup_eq_some_iff.mp entry
  exact membersWritable_iff.mp writable (name, value) (by simp)

theorem membersWritable_setEntry {members : List (Text × Json)} {name : Text} {value : Json}
    (writable : membersWritable members = true) (isWritable : value.isWritable = true) :
    membersWritable (setEntry members name value) = true := by
  refine membersWritable_iff.mpr fun member mem ↦ ?_
  rcases mem_setEntry mem with rfl | former
  · exact isWritable
  · exact membersWritable_iff.mp writable member former

end Json

/-! ## Numerals -/

namespace Number

theorem natAbs_signed (negative : Bool) (digits : List Nat) :
    (signed negative digits).natAbs = ofDigits digits := by
  cases negative <;> simp [signed]

theorem isWritable_signed {digits : List Nat} (negative : Bool)
    (areDigits : ∀ digit ∈ digits, digit < 10) (short : digits.length ≤ maxDigits) :
    isWritable (signed negative digits) = true := by
  rw [isWritable_iff, natAbs_signed]
  exact (ofDigits_lt areDigits).trans_le (Nat.pow_le_pow_right (by decide) short)

theorem asciiDigit?_lt {text : Text} {digit : Nat}
    (mem : digit ∈ text.filterMap Text.asciiDigit?) : digit < 10 := by
  obtain ⟨point, -, value⟩ := List.mem_filterMap.mp mem
  unfold Text.asciiDigit? at value
  split at value
  · rename_i isDigit
    cases value
    cases point with
    | char c =>
      have inside : c.isDigit = true := isDigit
      have high : c.toNat ≤ 57 := by
        simpa [Char.isDigit, UInt32.le_iff_toNat_le] using (Bool.and_eq_true_iff.mp inside).2
      change c.toNat - 48 < 10
      omega
    | _ => cases isDigit
  · cases value

theorem isWritable_ofPlain {text : Text} {value : Int} (read : ofPlain text = .ok value) :
    isWritable value = true := by
  unfold ofPlain at read
  extract_lets negative unsigned digits alone at read
  split at read
  · cases read
  split at read
  · split at read
    · cases read
      decide
    · cases read
  split at read
  · cases read
  rename_i short
  split at read
  · cases read
    refine isWritable_signed _ (fun _ ↦ asciiDigit?_lt) ?_
    exact (List.length_filterMap_le _ _).trans (not_lt.mp short)
  · cases read

theorem isWritable_ofText {text : Text} {value : Int} (read : ofText text = .ok value) :
    isWritable value = true := by
  unfold ofText at read
  split at read
  · unfold ofCleaned at read
    split at read
    · rename_i cleaned
      cases read
      obtain ⟨plain, -, found⟩ := Option.map_eq_some_iff.mp cleaned
      exact isWritable_ofPlain found
    · cases read
  · exact isWritable_ofPlain read

end Number

/-! ## Values of JSON texts -/

namespace Json

theorem takeDigits_lt {text : Text} {digit : Nat} (mem : digit ∈ (takeDigits text).1) :
    digit < 10 :=
  Number.asciiDigit?_lt mem

theorem wholePart_lt {text : Text} {digit : Nat} (mem : digit ∈ (wholePart text).1) :
    digit < 10 := by
  unfold wholePart at mem
  split at mem
  · simp_all
  · exact takeDigits_lt mem

theorem isWritable_of_number {left : Nat} {negative : Bool} {text rest : Text} {found : Json}
    (read : number left negative text = .ok (found, rest)) : found.isWritable = true := by
  simp only [number] at read
  split at read
  · cases read
  split at read
  · split at read
    · cases read
    · rename_i short
      cases read
      exact Number.isWritable_signed _ (fun _ ↦ wholePart_lt) (not_lt.mp short)
  · cases read
    rfl

theorem isWritable_of_word? {text rest : Text} {found : Json}
    (read : word? text = some (found, rest)) : found.isWritable = true := by
  obtain ⟨word, isWord, same⟩ := List.exists_of_findSome?_eq_some read
  have all : ∀ word ∈ words, word.2.isWritable = true := by decide
  split at same
  · cases same
    exact all word isWord
  · cases same

theorem isWritable_of_scalar {text rest : Text} {found : Json}
    (read : scalar text = .ok (found, rest)) : found.isWritable = true := by
  unfold scalar at read
  split at read
  · rename_i isWord
    cases read
    exact isWritable_of_word? isWord
  · exact isWritable_of_number read
  · exact isWritable_of_number read

/-- What the three readers of nested values return with the given fuel can be written. -/
structure ReadsWritable (fuel : Nat) : Prop where
  value {text rest : Text} {found : Json} (read : value fuel text = .ok (found, rest)) :
    found.isWritable = true
  items {text rest : Text} {found : List Json} (read : items fuel text = .ok (found, rest)) :
    itemsWritable found = true
  members {seen found : List (Text × Json)} {text rest : Text}
    (writable : membersWritable seen = true)
    (read : members fuel seen text = .ok (found, rest)) : membersWritable found = true

namespace ReadsWritable

variable {fuel : Nat} (reads : ReadsWritable fuel)
include reads

theorem value_succ {text rest : Text} {found : Json}
    (read : Json.value (fuel + 1) text = .ok (found, rest)) : found.isWritable = true := by
  rw [Json.value.eq_def] at read
  dsimp only at read
  split at read
  · -- A text holds no number.
    obtain ⟨_, -, same⟩ := Outcome.ok_of_bind read
    cases same
    rfl
  · split at read
    · cases read
      rfl
    · obtain ⟨_, items, same⟩ := Outcome.ok_of_bind read
      cases same
      exact reads.items items
  · split at read
    · cases read
      rfl
    · obtain ⟨_, members, same⟩ := Outcome.ok_of_bind read
      cases same
      exact reads.members rfl members
  · exact isWritable_of_scalar read

theorem items_succ {text rest : Text} {found : List Json}
    (read : Json.items (fuel + 1) text = .ok (found, rest)) : itemsWritable found = true := by
  rw [Json.items.eq_def] at read
  obtain ⟨⟨item, behind⟩, isItem, others⟩ := Outcome.ok_of_bind read
  have first := reads.value isItem
  dsimp only at others
  split at others
  · cases others
    exact Bool.and_eq_true_iff.mpr ⟨first, rfl⟩
  · obtain ⟨_, more, same⟩ := Outcome.ok_of_bind others
    cases same
    exact Bool.and_eq_true_iff.mpr ⟨first, reads.items more⟩
  · cases others

theorem members_succ {seen found : List (Text × Json)} {text rest : Text}
    (writable : membersWritable seen = true)
    (read : Json.members (fuel + 1) seen text = .ok (found, rest)) :
    membersWritable found = true := by
  rw [Json.members.eq_def] at read
  dsimp only at read
  split at read
  · obtain ⟨⟨name, behind⟩, -, named⟩ := Outcome.ok_of_bind read
    dsimp only at named
    split at named
    · obtain ⟨⟨item, behind⟩, isItem, others⟩ := Outcome.ok_of_bind named
      have withItem : membersWritable (setEntry seen name item) = true :=
        membersWritable_setEntry writable (reads.value isItem)
      dsimp only at others
      split at others
      · cases others
        exact withItem
      · exact reads.members withItem others
      · cases others
    · cases named
  · cases read

end ReadsWritable

theorem readsWritable (fuel : Nat) : ReadsWritable fuel := by
  induction fuel with
  | zero => exact ⟨nofun, nofun, fun _ ↦ nofun⟩
  | succ fuel ih => exact ⟨ih.value_succ, ih.items_succ, ih.members_succ⟩

/-- All numbers of a value that is read from a text can be written. -/
theorem isWritable_of_parse {text : Text} {found : Json} (read : parse text = .ok found) :
    found.isWritable = true := by
  unfold parse at read
  split at read
  · cases read
  · obtain ⟨⟨value, rest⟩, isValue, ended⟩ := Outcome.ok_of_bind read
    dsimp only at ended
    split at ended
    · cases ended
      exact (readsWritable _).value isValue
    · cases ended

end Json

/-! ## Whole numbers of model data -/

namespace Intake

theorem isWritable_of_integerOfFloat {number : Number.Binary64} {value : Int}
    (read : integerOfFloat number = .valid value) : Number.isWritable value = true := by
  unfold integerOfFloat at read
  split at read
  · cases read
  split at read
  · cases read
  split at read
  · rename_i inside
    cases read
    have reach : 10 ^ 19 ≤ 10 ^ Number.maxDigits := Nat.pow_le_pow_right (by decide) (by decide)
    rw [Number.isWritable_iff]
    rw [wordBound] at inside
    omega
  · cases read

/-- A whole number that is read from a value that can be written can be written. -/
theorem isWritable_of_integer {data : Json} {value : Int} (writable : data.isWritable = true)
    (read : integer data = .valid value) : Number.isWritable value = true := by
  cases data with
  | int number =>
    cases read
    rwa [Json.isWritable] at writable
  | bool flag =>
    cases read
    cases flag <;> decide
  | float number => exact isWritable_of_integerOfFloat read
  | str text =>
    rw [integer, spelled, integerOfText] at read
    split at read
    · cases read
    split at read
    · rename_i found
      cases read
      exact Number.isWritable_ofText found
    · cases read
    · cases read
  | _ => cases read

end Intake

end DialectSql
