import DialectSql.Proofs.Text.Run
import DialectSql.Text.Blank

/-!
# Trimmed Texts

Trimming takes the code points of a class away from both ends of a text and leaves a text that
neither starts nor ends with one.  Such a text is not changed by trimming, so it is enough to trim
once.
-/

namespace DialectSql.Text

variable {drop : CodePoint → Bool}

/-- A text is what is left of it when it is trimmed, between code points that are removed. -/
theorem exists_trim (drop : CodePoint → Bool) (text : Text) :
    ∃ before after, text = before ++ (trim drop text ++ after) ∧
      (∀ point ∈ before, drop point = true) ∧ ∀ point ∈ after, drop point = true := by
  let behind := text.dropWhile drop
  refine ⟨text.takeWhile drop, (behind.reverse.takeWhile drop).reverse, ?_,
    fun _ ↦ List.mem_takeWhile_imp, fun _ mem ↦ List.mem_takeWhile_imp (List.mem_reverse.mp mem)⟩
  have split : behind = (behind.reverse.dropWhile drop).reverse ++
      (behind.reverse.takeWhile drop).reverse := by
    rw [← List.reverse_append, List.takeWhile_append_dropWhile, List.reverse_reverse]
  calc text = text.takeWhile drop ++ behind := List.takeWhile_append_dropWhile.symm
    _ = _ := congrArg (text.takeWhile drop ++ ·) split

/-- Trimming removes what stands around a text that neither starts nor ends with a code point that
is removed. -/
theorem trim_append {before core after : Text} (nonempty : core ≠ [])
    (dropBefore : ∀ point ∈ before, drop point = true)
    (dropAfter : ∀ point ∈ after, drop point = true)
    (starts : StartsOutside drop core) (ends : StartsOutside drop core.reverse) :
    trim drop (before ++ (core ++ after)) = core := by
  have keep {kept : Text} (nonempty : kept ≠ []) (outside : StartsOutside drop kept)
      (rest : Text) : (kept ++ rest).dropWhile drop = kept ++ rest := by
    obtain ⟨first, others, rfl⟩ := List.exists_cons_of_ne_nil nonempty
    rw [List.cons_append, List.dropWhile_cons_of_neg (by simpa using outside)]
  have dropReversed : ∀ point ∈ after.reverse, drop point = true :=
    fun point mem ↦ dropAfter point (List.mem_reverse.mp mem)
  have keptEnd : core.reverse.dropWhile drop = core.reverse := by
    simpa using keep (List.reverse_ne_nil_iff.mpr nonempty) ends []
  rw [trim, List.dropWhile_append_of_pos dropBefore, keep nonempty starts, List.reverse_append,
    List.dropWhile_append_of_pos dropReversed, keptEnd, List.reverse_reverse]

/-- A text that neither starts nor ends with a code point that is removed is left as it is. -/
theorem trim_eq_self {text : Text} (starts : StartsOutside drop text)
    (ends : StartsOutside drop text.reverse) : trim drop text = text := by
  by_cases empty : text = []
  · rw [empty]
    rfl
  · simpa using @trim_append drop [] text [] empty (by simp) (by simp) starts ends

theorem startsOutside_dropWhile (drop : CodePoint → Bool) (text : Text) :
    StartsOutside drop (text.dropWhile drop) := by
  intro point head
  have outside := List.head?_dropWhile_not drop text
  rw [Option.mem_def.mp head] at outside
  exact outside

/-- A trimmed text does not end with a code point that is removed. -/
theorem startsOutside_reverse_trim (drop : CodePoint → Bool) (text : Text) :
    StartsOutside drop (trim drop text).reverse := by
  rw [trim, List.reverse_reverse]
  exact startsOutside_dropWhile drop _

/-- A trimmed text does not start with a code point that is removed. -/
theorem startsOutside_trim (drop : CodePoint → Bool) (text : Text) :
    StartsOutside drop (trim drop text) := by
  -- What is left in the end stands in front of what is taken away last.
  let behind := text.dropWhile drop
  have front : trim drop text <+: behind := by
    rw [← List.reverse_suffix, trim, List.reverse_reverse]
    exact List.dropWhile_suffix drop
  obtain ⟨rest, whole⟩ := front
  cases trimmed : trim drop text with
  | nil => simp
  | cons point others =>
    have starts : StartsOutside drop behind := startsOutside_dropWhile drop text
    rw [← whole, trimmed] at starts
    simpa using starts

/-- Trimming once is enough. -/
theorem trim_trim (drop : CodePoint → Bool) (text : Text) :
    trim drop (trim drop text) = trim drop text :=
  trim_eq_self (startsOutside_trim drop text) (startsOutside_reverse_trim drop text)

end DialectSql.Text
