import DialectSql.Error

/-!
# Finder Tokens

A finder descriptor such as `findAllByNameAndAgeBetween` is cut into an opening, the words of its
body and an end.  A word is a capital letter and all the small letters, digits and underscores
behind it; the body is searched for words from left to right, and what belongs to no word would be
passed over.  Words that spell a keyword of finders have a kind of their own; whether a keyword acts
as one is decided later.
-/

namespace DialectSql.Finder

/-- The kinds of tokens. -/
inductive TokenKind where
  | findBy
  | findAllBy
  | word
  | and
  | or
  | between
  | like
  | is
  | not
  | null
  | eof
  deriving DecidableEq, Repr, Inhabited

/-- The name of a kind of tokens. -/
def TokenKind.name : TokenKind → String
  | findBy => "FIND_BY"
  | findAllBy => "FIND_ALL_BY"
  | word => "WORD"
  | and => "AND"
  | or => "OR"
  | between => "BETWEEN"
  | like => "LIKE"
  | is => "IS"
  | not => "NOT"
  | null => "NULL"
  | eof => "EOF"

/-- A piece of a descriptor and the offset where it starts. -/
structure Token where
  kind : TokenKind
  text : Text
  position : Nat
  deriving DecidableEq, Repr, Inhabited

/-- The kind of a word. -/
def wordKind (word : Text) : TokenKind :=
  if word = "And" then .and
  else if word = "Or" then .or
  else if word = "Between" then .between
  else if word = "Like" then .like
  else if word = "Is" then .is
  else if word = "Not" then .not
  else if word = "Null" then .null
  else .word

/-- The opening that asks for one row. -/
def findBy : Text := "findBy"

/-- The opening that asks for all rows. -/
def findAllBy : Text := "findAllBy"

/-- The opening of a descriptor, and the body behind it. -/
def opening? (descriptor : Text) : Option (Token × Text) :=
  if findAllBy.isPrefixOf descriptor then
    some (⟨.findAllBy, findAllBy, 0⟩, descriptor.drop findAllBy.length)
  else if findBy.isPrefixOf descriptor then
    some (⟨.findBy, findBy, 0⟩, descriptor.drop findBy.length)
  else none

/-- The characters that a body may hold: ASCII letters, digits and the underscore. -/
def isBodyChar (point : CodePoint) : Bool :=
  point.isIn fun c ↦ c.isAlphanum || c == '_'

/-- Whether a code point is a capital ASCII letter. -/
def isCapital (point : CodePoint) : Bool :=
  point.isIn Char.isUpper

/-- Small letters, digits and the underscore, which stand behind the capital of a word. -/
def isWordTail (point : CodePoint) : Bool :=
  point.isIn fun c ↦ c.isLower || c.isDigit || c == '_'

/-- A word that has been found, and the offset where it starts. -/
structure Found where
  word : Text
  start : Nat
  deriving DecidableEq, Repr, Inhabited

/-- The longest word that a text starts with. -/
def wordAt? : Text → Option Text
  | [] => none
  | point :: rest =>
    if isCapital point then some (point :: rest.takeWhile isWordTail) else none

/-- Searches a text for words, from the given offset on.  So many points at its start belong to a
word that has been found already; behind them the next word is the first one that starts
somewhere. -/
def findWords : Nat → Nat → Text → List Found
  | _, _, [] => []
  | offset, taken + 1, _ :: rest => findWords (offset + 1) taken rest
  | offset, 0, point :: rest =>
    match wordAt? (point :: rest) with
    | some word => ⟨word, offset⟩ :: findWords (offset + 1) (word.length - 1) rest
    | none => findWords (offset + 1) 0 rest

/-- The token of a word in a body that starts at the given offset. -/
def Found.token (position : Nat) (found : Found) : Token :=
  ⟨wordKind found.word, found.word, position + found.start⟩

/-- The tokens of a descriptor. -/
def tokenize (descriptor : Text) : Except Error (List Token) :=
  match opening? descriptor with
  | none => .error (.finder descriptor .noPrefix)
  | some (opening, body) =>
    let position := opening.text.length
    if !body.all isBodyChar then .error (.finder descriptor (.strangeCharacter position))
    else if !(body.take 1).all isCapital then
      .error (.finder descriptor (.uncapitalised opening.text position))
    else
      .ok (opening :: (findWords 0 0 body).map (Found.token position) ++
        [⟨.eof, [], descriptor.length⟩])

end DialectSql.Finder
