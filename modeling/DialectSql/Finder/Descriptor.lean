import DialectSql.Finder.Token
import DialectSql.Text.Lowercase

/-!
# Finder Descriptors

The meaning of a descriptor: a row of field expressions joined by `And` and `Or`.  A field
expression is one or more words and perhaps an operator behind them: `Between`, `Like`, `Is Null`
or `Is Not Null`.  A keyword counts as an operator only where it ends the field expression;
anywhere else it is a word of the column's name, which is the words in lower case without a gap.

The functions walk along what is left of the token list.  The end of the list acts like an end
token.
-/

namespace DialectSql.Finder

/-- One field of a descriptor, with the connector in front of it. -/
structure FieldExpr where
  column : Text
  operator : Operator
  connector : Connector
  deriving DecidableEq, Repr, Inhabited

end DialectSql.Finder

namespace DialectSql

open Finder

/-- A descriptor that has been read. -/
structure Finder where
  descriptor : Text
  allRows : Bool
  fields : List FieldExpr
  deriving DecidableEq, Repr, Inhabited

/-- The number of arguments that the fields take together. -/
def Finder.requiredArguments (finder : Finder) : Nat :=
  Operator.totalArity (finder.fields.map FieldExpr.operator)

end DialectSql

namespace DialectSql.Finder

/-- The kinds of tokens that end a field expression. -/
def TokenKind.endsField : TokenKind → Bool
  | .and => true
  | .or => true
  | .eof => true
  | _ => false

/-- The kind of the token at the given distance. -/
def kindAt (tokens : List Token) (distance : Nat) : TokenKind :=
  match tokens[distance]? with
  | some token => token.kind
  | none => .eof

/-- The operator that ends the field expression here, and the number of its tokens. -/
def operatorHere? (tokens : List Token) : Option (Operator × Nat) :=
  match kindAt tokens 0 with
  | .between => if (kindAt tokens 1).endsField then some (.between, 1) else none
  | .like => if (kindAt tokens 1).endsField then some (.like, 1) else none
  | .is =>
    if kindAt tokens 1 = .null ∧ (kindAt tokens 2).endsField then some (.isNull, 2)
    else if kindAt tokens 1 = .not ∧ kindAt tokens 2 = .null ∧ (kindAt tokens 3).endsField then
      some (.isNotNull, 3)
    else none
  | _ => none

/-- Reads the words and the operator of a field expression, and leaves what follows. -/
def scanField : List Token → List Text × Operator × List Token
  | [] => ([], .equals, [])
  | token :: rest =>
    if token.kind.endsField then ([], .equals, token :: rest)
    else
      match operatorHere? (token :: rest) with
      | some (operator, count) => ([], operator, (token :: rest).drop count)
      | none =>
        let (words, operator, left) := scanField rest
        (token.text :: words, operator, left)

theorem scanField_length_le (tokens : List Token) :
    (scanField tokens).2.2.length ≤ tokens.length := by
  induction tokens with
  | nil => simp [scanField]
  | cons token rest ih =>
    unfold scanField
    split
    · simp
    · split
      · simp
      · exact Nat.le_succ_of_le ih

/-- The offset at which the tokens start. -/
def positionOf (tokens : List Token) : Nat :=
  match tokens with
  | [] => 0
  | token :: _ => token.position

/-- The column that words name. -/
def columnOf (words : List Text) : Text :=
  Text.lower words.flatten

/-- Reads one field expression. -/
def parseField (descriptor : Text) (connector : Connector) (tokens : List Token) :
    Except Error (FieldExpr × List Token) :=
  let (words, operator, left) := scanField tokens
  if words.isEmpty then .error (.finder descriptor (.missingField (positionOf tokens)))
  else .ok (⟨columnOf words, operator, connector⟩, left)

theorem parseField_length_le {descriptor : Text} {connector : Connector}
    {tokens left : List Token} {field : FieldExpr}
    (found : parseField descriptor connector tokens = .ok (field, left)) :
    left.length ≤ tokens.length := by
  unfold parseField at found
  have bound := scanField_length_le tokens
  revert found
  generalize scanField tokens = scanned at bound
  obtain ⟨words, operator, rest⟩ := scanned
  simp only
  split
  · intro found; cases found
  · intro found
    simp only [Except.ok.injEq, Prod.mk.injEq] at found
    rw [← found.2]
    exact bound

/-- The connector that a token stands for. -/
def connectorOf? (token : Token) : Option Connector :=
  match token.kind with
  | .and => some .and
  | .or => some .or
  | _ => none

/-- Reads the field expressions behind the first one, each after its connector. -/
def parseMore (descriptor : Text) (tokens : List Token) :
    Except Error (List FieldExpr × List Token) :=
  match tokens with
  | [] => .ok ([], [])
  | token :: rest =>
    match connectorOf? token with
    | none => .ok ([], token :: rest)
    | some connector =>
      match found : parseField descriptor connector rest with
      | .error error => .error error
      | .ok (field, left) =>
        have := parseField_length_le found
        match parseMore descriptor left with
        | .error error => .error error
        | .ok (fields, left) => .ok (field :: fields, left)
termination_by tokens.length
decreasing_by
  simp only [List.length_cons]
  omega

/-- The tokens behind the first one; an end token is never passed. -/
def behindOpening : List Token → List Token
  | [] => []
  | token :: rest => if token.kind = .eof then token :: rest else rest

/-- Reads a descriptor from its tokens. -/
def parseTokens (descriptor : Text) (tokens : List Token) : Except Error Finder := do
  let (field, left) ← parseField descriptor .and (behindOpening tokens)
  let (fields, left) ← parseMore descriptor left
  match left with
  | [] => return ⟨descriptor, kindAt tokens 0 = .findAllBy, field :: fields⟩
  | token :: _ =>
    if token.kind = .eof then
      return ⟨descriptor, kindAt tokens 0 = .findAllBy, field :: fields⟩
    else
      .error (.finder descriptor (.unexpected token.text token.position))

/-- Reads a descriptor. -/
def parse (descriptor : Text) : Except Error Finder := do
  let tokens ← tokenize descriptor
  parseTokens descriptor tokens

end DialectSql.Finder
