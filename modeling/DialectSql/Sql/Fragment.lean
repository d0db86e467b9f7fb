import DialectSql.Text.CodePoint

/-!
# SQL Fragments

SQL under construction: a row of pieces.  A value never becomes text; it is a piece of its own, of
which the text shows a placeholder only.  Text and bind values are two views of the same row of
pieces, so the placeholders of a fragment and its bind values always line up.
-/

namespace DialectSql.Sql

/-- A value that is bound to a placeholder. -/
inductive Bind where
  | null
  | text (value : Text)
  | integer (value : Int)
  deriving DecidableEq, Repr, Inhabited

/-- A text, or null where there is none. -/
def Bind.ofText? : Option Text → Bind
  | some value => .text value
  | none => .null

/-- What a dialect writes on either side of an identifier. -/
structure Quotes where
  left : Text
  right : Text
  deriving DecidableEq, Repr, Inhabited

/-- A dialect without quotes writes identifiers as they are. -/
def Quotes.none : Quotes := ⟨"", ""⟩

/-- A piece of SQL. -/
inductive Piece where
  | text (content : Text)
  | name (identifier : Text)
  | bind (value : Bind)
  deriving DecidableEq, Repr, Inhabited

namespace Piece

/-- What a piece is in SQL. -/
def sql (quotes : Quotes) : Piece → Text
  | text content => content
  | name identifier => quotes.left ++ identifier ++ quotes.right
  | bind _ => "?"

/-- The bind value of a piece. -/
def bound? : Piece → Option Bind
  | bind value => some value
  | _ => none

end Piece

/-- A row of pieces. -/
abbrev Fragment := List Piece

namespace Fragment

/-- The text of a fragment. -/
def sql (quotes : Quotes) (fragment : Fragment) : Text :=
  fragment.flatMap (Piece.sql quotes)

/-- The bind values of a fragment, from left to right. -/
def binds (fragment : Fragment) : List Bind :=
  fragment.filterMap Piece.bound?

/-- Fragments with a text between them. -/
def join (separator : Text) (fragments : List Fragment) : Fragment :=
  [Piece.text separator].intercalate fragments

end Fragment

end DialectSql.Sql
