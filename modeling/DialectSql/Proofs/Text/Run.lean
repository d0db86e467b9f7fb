import DialectSql.Finder.Token
import Mathlib

/-!
# Runs of Code Points

A run of code points of one class ends where a code point outside the class follows.  Two texts
that start with such runs are therefore the same only if the runs are the same and what follows
them is the same.  Words and numerals are such runs, and a numeral determines its number.

A text may also lie within a class as a whole; then so do its parts, and texts made of such texts.
-/

namespace DialectSql.Text

/-- A text that is empty or starts with a code point outside the class. -/
def StartsOutside (kind : CodePoint → Bool) (text : Text) : Prop :=
  ∀ point ∈ text.head?, kind point = false

@[simp]
theorem startsOutside_nil (kind : CodePoint → Bool) : StartsOutside kind [] := by
  simp [StartsOutside]

@[simp]
theorem startsOutside_cons (kind : CodePoint → Bool) (point : CodePoint) (rest : Text) :
    StartsOutside kind (point :: rest) ↔ kind point = false := by
  simp [StartsOutside]

theorem StartsOutside.mono {kind wider : CodePoint → Bool} {text : Text}
    (outside : StartsOutside wider text) (le : ∀ point, kind point = true → wider point = true) :
    StartsOutside kind text := by
  intro point head
  have h := outside point head
  by_contra inside
  rw [le point (by simpa using inside)] at h
  cases h

/-- Two runs of one class end at the same place. -/
theorem run_append_inj {kind : CodePoint → Bool} {left right leftRest rightRest : Text}
    (leftRun : ∀ point ∈ left, kind point = true) (rightRun : ∀ point ∈ right, kind point = true)
    (leftStops : StartsOutside kind leftRest) (rightStops : StartsOutside kind rightRest)
    (same : left ++ leftRest = right ++ rightRest) :
    left = right ∧ leftRest = rightRest := by
  induction left generalizing right with
  | nil =>
    cases right with
    | nil => exact ⟨rfl, same⟩
    | cons point right =>
      simp only [List.nil_append, List.cons_append] at same
      rw [same, startsOutside_cons, rightRun point (by simp)] at leftStops
      cases leftStops
  | cons point left ih =>
    cases right with
    | nil =>
      simp only [List.nil_append, List.cons_append] at same
      rw [← same, startsOutside_cons, leftRun point (by simp)] at rightStops
      cases rightStops
    | cons other right =>
      simp only [List.cons_append, List.cons.injEq] at same
      obtain ⟨rfl, same⟩ := same
      obtain ⟨rfl, rest⟩ := ih (fun p mem ↦ leftRun p (by simp [mem]))
        (fun p mem ↦ rightRun p (by simp [mem])) same
      exact ⟨rfl, rest⟩

/-- Two runs of one class at the end of a text begin at the same place. -/
theorem append_run_inj {kind : CodePoint → Bool} {left right leftFront rightFront : Text}
    {leftPoint rightPoint : CodePoint}
    (leftRun : ∀ point ∈ left, kind point = true) (rightRun : ∀ point ∈ right, kind point = true)
    (leftStops : kind leftPoint = false) (rightStops : kind rightPoint = false)
    (same : leftFront ++ leftPoint :: left = rightFront ++ rightPoint :: right) :
    leftFront = rightFront ∧ left = right := by
  have mirrored := congrArg List.reverse same
  simp only [List.reverse_append, List.reverse_cons, List.append_assoc, List.cons_append,
    List.nil_append] at mirrored
  obtain ⟨runs, fronts⟩ := run_append_inj (by simpa using leftRun) (by simpa using rightRun)
    ((startsOutside_cons ..).mpr leftStops) ((startsOutside_cons ..).mpr rightStops) mirrored
  exact ⟨List.reverse_injective (List.cons.inj fronts).2, List.reverse_injective runs⟩

/-! ## Words -/

/-- A word: one or more ASCII letters, digits and underscores. -/
def IsWord (text : Text) : Prop :=
  text ≠ [] ∧ ∀ point ∈ text, Finder.isBodyChar point = true

instance (text : Text) : Decidable text.IsWord :=
  inferInstanceAs (Decidable (_ ∧ _))

/-- A word never starts where a word has ended. -/
theorem IsWord.not_startsOutside {word : Text} (isWord : word.IsWord) (rest : Text) :
    ¬StartsOutside Finder.isBodyChar (word ++ rest) := by
  obtain ⟨nonempty, points⟩ := isWord
  cases word with
  | nil => exact absurd rfl nonempty
  | cons point word => simp [points point (by simp)]

/-! ## Numerals -/

theorem ofString_injective {left right : String} (same : ofString left = ofString right) :
    left = right := by
  have inj : Function.Injective CodePoint.char := fun c d h ↦ CodePoint.char.inj h
  exact String.toList_injective (inj.list_map same)

/-- What numerals of whole numbers are written with. -/
def isNumeralPoint (point : CodePoint) : Bool :=
  point.isIn fun c ↦ c.isDigit || c == '-'

/-- The numeral of a natural number is written with digits. -/
theorem isDigit_of_mem_repr (count : Nat) :
    ∀ point ∈ ofString count.repr, point.isIn Char.isDigit = true := by
  intro point mem
  obtain ⟨c, digit, rfl⟩ := List.mem_map.mp mem
  rw [Nat.repr, String.toList_ofList] at digit
  exact Nat.isDigit_of_mem_toDigits (by decide) (by decide) digit

theorem isNumeralPoint_of_mem_repr (n : Int) :
    ∀ point ∈ ofString n.repr, isNumeralPoint point = true := by
  have digits (count : Nat) : ∀ point ∈ ofString count.repr, isNumeralPoint point = true := by
    intro point mem
    have isDigit := isDigit_of_mem_repr count point mem
    cases point with
    | char c => exact Bool.or_eq_true_iff.mpr (.inl isDigit)
    | half offset => cases isDigit
  cases n with
  | ofNat count => exact digits count
  | negSucc count =>
    intro point mem
    have split : ofString (Int.negSucc count).repr = .char '-' :: ofString (count + 1).repr := by
      simp [Int.repr, ofString]
    rw [split, List.mem_cons] at mem
    obtain rfl | mem := mem
    · rfl
    · exact digits _ point mem

/-! ## Texts within an alphabet -/

/-- A text all of whose code points are of a class. -/
def Within (alphabet : CodePoint → Bool) (text : Text) : Prop :=
  ∀ point ∈ text, alphabet point = true

instance (alphabet : CodePoint → Bool) (text : Text) : Decidable (text.Within alphabet) :=
  inferInstanceAs (Decidable (∀ point ∈ text, _))

variable {alphabet wider : CodePoint → Bool}

@[simp]
theorem within_append {left right : Text} :
    (left ++ right).Within alphabet ↔ left.Within alphabet ∧ right.Within alphabet :=
  List.forall_mem_append

theorem Within.mono {text : Text} (within : text.Within alphabet)
    (le : ∀ point, alphabet point = true → wider point = true) : text.Within wider :=
  fun point mem ↦ le point (within point mem)

theorem within_flatMap {α : Type} {row : α → Text} {xs : List α}
    (rows : ∀ x ∈ xs, (row x).Within alphabet) : Within alphabet (xs.flatMap row) := by
  intro point mem
  obtain ⟨x, isItem, inside⟩ := List.mem_flatMap.mp mem
  exact rows x isItem point inside

theorem within_joined {separator : Text} {texts : List Text} (apart : separator.Within alphabet)
    (inside : ∀ text ∈ texts, text.Within alphabet) : (joined separator texts).Within alphabet := by
  induction texts with
  | nil => simp [joined, Within]
  | cons text texts ih =>
    rw [List.forall_mem_cons] at inside
    cases texts with
    | nil => exact inside.1
    | cons other texts =>
      simp only [joined, within_append]
      exact ⟨⟨inside.1, apart⟩, ih inside.2⟩

end DialectSql.Text
