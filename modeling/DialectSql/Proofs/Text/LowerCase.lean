import DialectSql.Proofs.Text.AsciiCase
import DialectSql.Proofs.Text.Trim

/-!
# Lower Case of Lower Case

The images of the lower-case mapping are their own images, so a text in lower case is not changed
by the mapping.  Neither does the mapping make a blank of something else, so a stripped text stays
stripped.  The form in which names are compared is therefore reached in one step.

For the images outside ASCII both facts are read off the table of runs: no image lies in a run, and
none of them is a blank.
-/

namespace DialectSql.Text

/-- A code point that stands for itself in lower case, whatever its neighbours are. -/
def IsLower (point : CodePoint) : Prop :=
  point ≠ 'Σ' ∧ lowerPoint point = [point]

/-! ## The table -/

/-- The ranges of blanks. -/
def blankRanges : RangeTable :=
  (0x1C, 0x1F) :: whiteSpaceRanges

theorem isBlank_eq_has (point : CodePoint) : isBlank point = blankRanges.has point := by
  simp only [isBlank, isWhiteSpace, RangeTable.has, blankRanges, RangeTable.covers, List.any_cons]
  exact Bool.or_comm _ _

/-- The numbers that are no images: the two letters without a simple image, halves of surrogate
pairs and blanks. -/
def spared : RangeTable :=
  (0x130, 0x130) :: (0x3A3, 0x3A3) :: (0xD800, 0xDFFF) :: blankRanges

/-- Whether the images of a run lie in front of a range or behind it. -/
def imagesMiss (run : Nat × Nat × Nat × Nat) (range : Nat × Nat) : Bool :=
  (run.2.2.2 + (run.2.1 - run.1)).blt range.1 || range.2.blt run.2.2.2

/-- Whether the images of a run lie outside another run, or between its characters. -/
def imagesPass (run other : Nat × Nat × Nat × Nat) : Bool :=
  imagesMiss run (other.1, other.2.1) ||
    (other.2.2.1.beq 2 && (run.2.2.1.beq 2 || run.1.beq run.2.1) &&
      ((run.2.2.2 + other.1) % 2).beq 1)

/-- Whether the images of a run lie between the given bounds. -/
def imagesWithin (low high : Nat) (run : Nat × Nat × Nat × Nat) : Bool :=
  low.ble run.2.2.2 && (run.2.2.2 + (run.2.1 - run.1)).ble high

theorem lowerRuns_pass : lowerRuns.all (fun run ↦ lowerRuns.all (imagesPass run)) = true := by
  decide +kernel

theorem lowerRuns_miss : lowerRuns.all (fun run ↦ spared.all (imagesMiss run)) = true := by
  decide +kernel

/-- The images are small ASCII letters or characters outside ASCII. -/
theorem lowerRuns_within :
    lowerRuns.all (fun run ↦ imagesWithin 0x61 0x7A run || imagesWithin 0x80 0x10FFFF run) =
      true := by
  decide +kernel

/-! ## Single code points -/

/-- A number stays, or it lies in a run. -/
theorem lowerCode_cases (code : Nat) :
    lowerCode code = code ∨ ∃ first last step image, (first, last, step, image) ∈ lowerRuns ∧
      first ≤ code ∧ code ≤ last ∧ (code - first) % step = 0 ∧
      lowerCode code = image + (code - first) := by
  unfold lowerCode
  split
  · rename_i run found
    obtain ⟨first, last, step, image⟩ := run
    have inside := List.find?_some found
    simp only [Bool.and_eq_true, decide_eq_true_eq, beq_iff_eq] at inside
    obtain ⟨⟨low, high⟩, hits⟩ := inside
    exact .inr ⟨first, last, step, image, List.mem_of_find?_eq_some found, low, high, hits, rfl⟩
  · exact .inl rfl

/-- What the image of a number in a run is like. -/
structure IsImage (code : Nat) : Prop where
  stays : lowerCode code = code
  spares : ∀ range ∈ spared, ¬(range.1 ≤ code ∧ code ≤ range.2)
  within : 0x61 ≤ code ∧ code ≤ 0x7A ∨ 0x80 ≤ code ∧ code ≤ 0x10FFFF

theorem isImage_of_mem {first last step image code : Nat}
    (mem : (first, last, step, image) ∈ lowerRuns) (low : first ≤ code) (high : code ≤ last)
    (hits : (code - first) % step = 0) : IsImage (image + (code - first)) where
  stays := by
    rcases lowerCode_cases (image + (code - first)) with
      stays | ⟨otherFirst, otherLast, stride, _, other, otherLow, otherHigh, otherHits, -⟩
    · exact stays
    · -- In another run the image would be on one of its characters: the runs that hold images have
      -- a stride of two, and the images are at an odd distance from their first character.
      exfalso
      have passes := List.all_eq_true.mp (List.all_eq_true.mp lowerRuns_pass _ mem) _ other
      simp only [imagesPass, imagesMiss, Bool.or_eq_true, Bool.and_eq_true, Nat.blt_eq,
        Nat.beq_eq] at passes
      rcases passes with (before | behind) | ⟨⟨rfl, rfl | rfl⟩, odd⟩
      · omega
      · omega
      · omega
      · omega
  spares := by
    rintro ⟨rangeLow, rangeHigh⟩ range
    have misses := List.all_eq_true.mp (List.all_eq_true.mp lowerRuns_miss _ mem) _ range
    simp only [imagesMiss, Bool.or_eq_true, Nat.blt_eq] at misses
    omega
  within := by
    have within := List.all_eq_true.mp lowerRuns_within _ mem
    simp only [imagesWithin, Bool.or_eq_true, Bool.and_eq_true, Nat.ble_eq] at within
    omega

namespace IsImage

variable {code : Nat}

theorem toNat_ofNat (isImage : IsImage code) : (Char.ofNat code).toNat = code := by
  have noHalf := isImage.spares (0xD800, 0xDFFF) (by decide)
  have within := isImage.within
  rw [Char.toNat_ofNat, if_pos]
  unfold Nat.isValidChar
  omega

theorem not_isBlank (isImage : IsImage code) : isBlank (Char.ofNat code) = false := by
  rw [isBlank_eq_has, RangeTable.has, Bool.eq_false_iff]
  intro covered
  obtain ⟨range, isRange, inside⟩ := RangeTable.covers_iff.mp covered
  rw [CodePoint.code, isImage.toNat_ofNat] at inside
  exact isImage.spares range (by simp [spared, isRange]) inside

end IsImage

/-- A character outside ASCII whose number stays, and that is no letter without a simple image. -/
theorem isLower_of_stays {c : Char} (wide : 0x80 ≤ c.toNat) (notDotted : c.toNat ≠ 0x130)
    (notSigma : c ≠ 'Σ') (stays : lowerCode c.toNat = c.toNat) : IsLower c := by
  refine ⟨fun isSigma ↦ notSigma (CodePoint.char.inj isSigma), ?_⟩
  rw [lowerPoint, lowerChar, if_neg (by omega), if_neg notDotted, stays, Char.ofNat_toNat]

theorem IsImage.isLower {code : Nat} (isImage : IsImage code) : IsLower (Char.ofNat code) := by
  have number := isImage.toNat_ofNat
  rcases isImage.within with ⟨low, high⟩ | ⟨wide, -⟩
  · have letters : ∀ code < 0x7B, 0x61 ≤ code → (.char (Char.ofNat code) : CodePoint) ≠ 'Σ' ∧
        lowerPoint (Char.ofNat code) = [.char (Char.ofNat code)] := by
      decide
    exact letters code (by omega) low
  · have noDotted := isImage.spares (0x130, 0x130) (by decide)
    have noSigma := isImage.spares (0x3A3, 0x3A3) (by decide)
    apply isLower_of_stays
    · omega
    · omega
    · intro isSigma
      rw [isSigma] at number
      exact noSigma ⟨number.le, number.ge⟩
    · rw [number, isImage.stays]

/-- An image in lower case, which is a blank only if what it is the image of is one. -/
def Lowers (point image : CodePoint) : Prop :=
  IsLower image ∧ (isBlank image = true → isBlank point = true)

theorem lowers_ascii {point : CodePoint} (ascii : isAscii point = true) :
    Lowers point (point.mapChar Char.toLower) := by
  apply of_isAscii (fun point ↦ Lowers point (point.mapChar Char.toLower)) _ ascii
  unfold Lowers IsLower
  decide

theorem lowers_lowerCode {c : Char} (wide : 0x80 ≤ c.toNat) (notDotted : c.toNat ≠ 0x130)
    (notSigma : c ≠ 'Σ') : Lowers c (Char.ofNat (lowerCode c.toNat)) := by
  rcases lowerCode_cases c.toNat with stays | ⟨first, last, step, image, mem, low, high, hits, same⟩
  · rw [stays, Char.ofNat_toNat]
    exact ⟨isLower_of_stays wide notDotted notSigma stays, id⟩
  · have isImage := isImage_of_mem mem low high hits
    rw [same]
    refine ⟨isImage.isLower, fun blank ↦ ?_⟩
    rw [isImage.not_isBlank] at blank
    cases blank

/-- The images of a code point are in lower case. -/
theorem lowers_of_mem_lowerPoint {point image : CodePoint} (notSigma : point ≠ 'Σ')
    (mem : image ∈ lowerPoint point) : Lowers point image := by
  cases point with
  | half offset =>
    obtain rfl := List.mem_singleton.mp mem
    exact ⟨⟨notSigma, rfl⟩, id⟩
  | char c =>
    by_cases ascii : isAscii c = true
    · rw [lowerPoint_ascii ascii, List.mem_singleton] at mem
      exact mem ▸ lowers_ascii ascii
    have wide : ¬c.toNat < 0x80 := by simpa [isAscii, CodePoint.isIn] using ascii
    rw [lowerPoint, lowerChar, if_neg wide] at mem
    split at mem
    · -- The dotted capital has the small letter and a dot, which are no blanks.
      have dotted : ∀ image ∈ ([.char 'i', .char (Char.ofNat 0x307)] : Text),
          IsLower image ∧ isBlank image = false := by
        unfold IsLower
        decide +kernel
      obtain ⟨lower, visible⟩ := dotted image mem
      exact ⟨lower, by simp [visible]⟩
    · rename_i notDotted
      obtain rfl := List.mem_singleton.mp mem
      exact lowers_lowerCode (by omega) notDotted fun isSigma ↦ notSigma (isSigma ▸ rfl)

theorem lowerPoint_ne_nil (point : CodePoint) : lowerPoint point ≠ [] := by
  cases point with
  | half offset => simp [lowerPoint]
  | char c =>
    rw [lowerPoint, lowerChar]
    split_ifs <;> simp

/-- Both small forms of the sigma are in lower case. -/
theorem lowers_sigma (point : CodePoint) (final : Bool) :
    Lowers point (if final then 'ς' else 'σ') := by
  have isImage : ∀ code ∈ [0x3C2, 0x3C3], IsImage code := by
    intro code mem
    have stays : ∀ code ∈ [0x3C2, 0x3C3], lowerCode code = code := by decide +kernel
    have spares : ∀ code ∈ [0x3C2, 0x3C3], ∀ range ∈ spared,
        ¬(range.1 ≤ code ∧ code ≤ range.2) := by
      decide
    have within : ∀ code ∈ [0x3C2, 0x3C3], 0x80 ≤ code ∧ code ≤ 0x10FFFF := by decide
    exact ⟨stays code mem, spares code mem, .inr (within code mem)⟩
  have visible {code : Nat} (isImage : IsImage code) : Lowers point (Char.ofNat code) :=
    ⟨isImage.isLower, by simp [isImage.not_isBlank]⟩
  cases final with
  | false => exact visible (isImage 0x3C3 (by simp))
  | true => exact visible (isImage 0x3C2 (by simp))

/-! ## Texts -/

/-- The image of a code point between its neighbours. -/
def imageIn (afterCased : Bool) (point : CodePoint) (rest : Text) : Text :=
  if point = 'Σ' then [if afterCased && !startsCased rest then 'ς' else 'σ'] else lowerPoint point

theorem lowerFrom_cons (afterCased : Bool) (point : CodePoint) (rest : Text) :
    lowerFrom afterCased (point :: rest) = imageIn afterCased point rest ++
      lowerFrom (if caseIgnorableRanges.has point then afterCased else casedRanges.has point)
        rest :=
  rfl

theorem imageIn_ne_nil (afterCased : Bool) (point : CodePoint) (rest : Text) :
    imageIn afterCased point rest ≠ [] := by
  unfold imageIn
  split
  · simp
  · exact lowerPoint_ne_nil point

theorem lowers_of_mem_imageIn {afterCased : Bool} {point image : CodePoint} {rest : Text}
    (mem : image ∈ imageIn afterCased point rest) : Lowers point image := by
  unfold imageIn at mem
  split at mem
  · obtain rfl := List.mem_singleton.mp mem
    exact lowers_sigma point _
  · rename_i notSigma
    exact lowers_of_mem_lowerPoint notSigma mem

/-- Nothing but lower case is in a text in lower case. -/
theorem isLower_of_mem_lowerFrom {afterCased : Bool} {text : Text} {image : CodePoint}
    (mem : image ∈ lowerFrom afterCased text) : IsLower image := by
  induction text generalizing afterCased with
  | nil => cases mem
  | cons point rest ih =>
    rw [lowerFrom_cons, List.mem_append] at mem
    rcases mem with here | behind
    · exact (lowers_of_mem_imageIn here).1
    · exact ih behind

theorem lowerFrom_of_isLower {afterCased : Bool} {text : Text}
    (lower : ∀ point ∈ text, IsLower point) : lowerFrom afterCased text = text := by
  induction text generalizing afterCased with
  | nil => rfl
  | cons point rest ih =>
    obtain ⟨notSigma, stays⟩ := lower point (by simp)
    have others := @ih (if caseIgnorableRanges.has point then afterCased else casedRanges.has point)
      fun other mem ↦ lower other (by simp [mem])
    rw [lowerFrom_cons, imageIn, if_neg notSigma, stays, others, List.singleton_append]

/-- The lower-case form of a text is its own lower-case form. -/
theorem lower_lower (text : Text) : lower (lower text) = lower text :=
  lowerFrom_of_isLower fun _ mem ↦ isLower_of_mem_lowerFrom mem

/-- A text in lower case ends with the image of its last code point. -/
theorem exists_lowerFrom_concat (afterCased : Bool) (front : Text) (last : CodePoint) :
    ∃ before flag, lowerFrom afterCased (front ++ [last]) = before ++ imageIn flag last [] := by
  induction front generalizing afterCased with
  | nil => exact ⟨[], afterCased, by simp [lowerFrom_cons, lowerFrom]⟩
  | cons point front ih =>
    obtain ⟨before, flag, same⟩ :=
      ih (if caseIgnorableRanges.has point then afterCased else casedRanges.has point)
    exact ⟨imageIn afterCased point (front ++ [last]) ++ before, flag, by
      rw [List.cons_append, lowerFrom_cons, same, List.append_assoc]⟩

/-- No blank is among the images of what is no blank. -/
theorem startsOutside_of_images {point : CodePoint} {images rest : Text} (nonempty : images ≠ [])
    (lowers : ∀ image ∈ images, Lowers point image) (visible : isBlank point = false) :
    StartsOutside isBlank (images ++ rest) := by
  obtain ⟨image, others, rfl⟩ := List.exists_cons_of_ne_nil nonempty
  rw [List.cons_append, startsOutside_cons, Bool.eq_false_iff]
  intro blank
  rw [(lowers image (by simp)).2 blank] at visible
  cases visible

/-- Lower-casing keeps a text stripped. -/
theorem strip_lower_of_stripped {text : Text} (starts : StartsOutside isBlank text)
    (ends : StartsOutside isBlank text.reverse) : strip (lower text) = lower text := by
  apply trim_eq_self
  · cases text with
    | nil => simp [lower, lowerFrom]
    | cons point rest =>
      rw [lower, lowerFrom_cons]
      exact startsOutside_of_images (imageIn_ne_nil _ _ _) (fun _ ↦ lowers_of_mem_imageIn)
        (by simpa using starts)
  · rcases List.eq_nil_or_concat text with rfl | ⟨front, last, rfl⟩
    · simp [lower, lowerFrom]
    · rw [List.concat_eq_append] at ends ⊢
      obtain ⟨before, flag, same⟩ := exists_lowerFrom_concat false front last
      rw [lower, same, List.reverse_append]
      refine startsOutside_of_images (by simpa using imageIn_ne_nil _ _ _) ?_
        (by simpa using ends)
      exact fun image mem ↦ lowers_of_mem_imageIn (List.mem_reverse.mp mem)

/-- The form in which names are compared is reached in one step. -/
theorem lower_strip_lower_strip (text : Text) :
    lower (strip (lower (strip text))) = lower (strip text) := by
  have stripped : strip (lower (strip text)) = lower (strip text) :=
    strip_lower_of_stripped (startsOutside_trim isBlank text)
      (startsOutside_reverse_trim isBlank text)
  rw [stripped, lower_lower]

end DialectSql.Text
