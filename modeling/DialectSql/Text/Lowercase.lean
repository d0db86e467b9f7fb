import DialectSql.Text.CaseTable

/-!
# Lower Case

The full lower-case mapping of Unicode.  Every character has an image that does not depend on its
neighbours, except the capital sigma: it becomes the final form `ς` at the end of a word and `σ`
elsewhere.  Dialect names, aliases of dialects, rule words and column look-ups are compared in
this form.
-/

namespace DialectSql.Text

/-- The image of a code point outside ASCII under the first run that holds it. -/
def lowerCode (code : Nat) : Nat :=
  match lowerRuns.find? fun run ↦
      run.1 ≤ code && code ≤ run.2.1 && (code - run.1) % run.2.2.1 == 0 with
  | some run => run.2.2.2 + (code - run.1)
  | none => code

/-- The lower-case image of a character away from its neighbours; `İ` is the one letter whose
image has two characters. -/
def lowerChar (c : Char) : Text :=
  if c.toNat < 0x80 then [c.toLower]
  else if c.toNat = 0x130 then ['i', Char.ofNat 0x307]
  else [Char.ofNat (lowerCode c.toNat)]

/-- The lower-case image of a code point away from its neighbours. -/
def lowerPoint : CodePoint → Text
  | .char c => lowerChar c
  | .half offset => [.half offset]

/-- Whether the next code point that is not case-ignorable is a cased letter. -/
def startsCased (rest : Text) : Bool :=
  match rest.dropWhile caseIgnorableRanges.has with
  | [] => false
  | point :: _ => casedRanges.has point

/-- Lower-cases a text whose last code point before it that is not case-ignorable was a cased
letter, or was not. -/
def lowerFrom (afterCased : Bool) : Text → Text
  | [] => []
  | point :: rest =>
    let image : Text :=
      if point = 'Σ' then [if afterCased && !startsCased rest then 'ς' else 'σ']
      else lowerPoint point
    image ++ lowerFrom
      (if caseIgnorableRanges.has point then afterCased else casedRanges.has point) rest

/-- The lower-case form of a text. -/
def lower (text : Text) : Text :=
  lowerFrom false text

end DialectSql.Text
