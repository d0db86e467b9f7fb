import DialectSql.Proofs.Finder.Scanning
import DialectSql.Proofs.Trace

/-!
# A Cursor on the Tokens

A descriptor is read by a cursor that moves over its tokens.  At every step the cursor looks at the
token where it stands.  It sees three tokens further; where the list ends earlier it sees the last
token instead.  It passes the tokens of an operator without another look at what they are.

The list may be any list that ends with an end token.  The cursor then never looks behind the list,
every turn of one of its two loops takes it further, and it halts with what the tokens say.  It can
only fail for want of a field name.
-/

namespace DialectSql.Finder

/-- Where in its reading a cursor is. -/
inductive Stage where
  /-- In front of the opening. -/
  | opening
  /-- In front of a field expression. -/
  | entry (connector : Connector)
  /-- In the loop over words, behind those of a field expression that starts with the token. -/
  | words (connector : Connector) (start : Token) (read : List Text)
  /-- Behind a field expression. -/
  | closing (connector : Connector) (start : Token) (read : List Text) (operator : Operator)
  /-- In the loop over field expressions, behind the ones that have been read. -/
  | between

/-- The state of a cursor. -/
structure Cursor where
  position : Nat
  allRows : Bool
  fields : List FieldExpr
  stage : Stage

/-- What a cursor does at a step. -/
inductive Move where
  /-- It looks for a token behind the list. -/
  | overrun
  | goOn (next : Cursor)
  | halt (outcome : Except Error Finder)

/-- The tokens that a cursor sees: the one where it stands and the three behind it.  The last token
stands for those that are missing. -/
def seenFrom (tokens : List Token) (position : Nat) : List Token :=
  [0, 1, 2, 3].filterMap fun distance ↦ tokens[position + distance]?.or tokens.getLast?

/-- The place behind the token at a place.  An end token is never passed, and behind the list there
is no token to pass. -/
def advance? (tokens : List Token) (position : Nat) : Option Nat :=
  tokens[position]?.map fun token ↦ if token.kind = .eof then position else position + 1

/-- The place that is reached by passing the given number of tokens. -/
def advanceBy? (tokens : List Token) : Nat → Nat → Option Nat
  | 0, position => some position
  | count + 1, position => (advance? tokens position).bind (advanceBy? tokens count)

namespace Cursor

/-- The cursor in front of all tokens. -/
def start : Cursor :=
  ⟨0, false, [], .opening⟩

/-- Goes on in another stage at a place, if there is one. -/
def moveTo (cursor : Cursor) (stage : Stage) : Option Nat → Move
  | none => .overrun
  | some position => .goOn { cursor with position, stage }

/-- One step of a cursor. -/
def step (descriptor : Text) (tokens : List Token) (cursor : Cursor) : Move :=
  match tokens[cursor.position]? with
  | none => .overrun
  | some token =>
    match cursor.stage with
    | .opening =>
      { cursor with allRows := token.kind = TokenKind.findAllBy }.moveTo (.entry .and)
        (advance? tokens cursor.position)
    | .entry connector => .goOn { cursor with stage := .words connector token [] }
    | .words connector start read =>
      if token.kind.endsField then
        .goOn { cursor with stage := .closing connector start read .equals }
      else
        match operatorHere? (seenFrom tokens cursor.position) with
        | some (operator, count) =>
          cursor.moveTo (.closing connector start read operator)
            (advanceBy? tokens count cursor.position)
        | none =>
          cursor.moveTo (.words connector start (read ++ [token.text]))
            (advance? tokens cursor.position)
    | .closing connector start read operator =>
      if read.isEmpty then .halt (.error (.finder descriptor (.missingField start.position)))
      else
        .goOn { cursor with
          fields := cursor.fields ++ [⟨columnOf read, operator, connector⟩], stage := .between }
    | .between =>
      match connectorOf? token with
      | some connector => cursor.moveTo (.entry connector) (advance? tokens cursor.position)
      | none =>
        if token.kind = .eof then .halt (.ok ⟨descriptor, cursor.allRows, cursor.fields⟩)
        else .halt (.error (.finder descriptor (.unexpected token.text token.position)))

/-- At most the given number of steps. -/
def run (descriptor : Text) (tokens : List Token) : Nat → Cursor → Move
  | 0, cursor => .goOn cursor
  | count + 1, cursor =>
    match step descriptor tokens cursor with
    | .goOn next => run descriptor tokens count next
    | move => move

/-- A turn of one of the two loops begins: over words in front of a token that does not end the
field expression, over field expressions in front of a connector. -/
def AtTurn (tokens : List Token) (cursor : Cursor) : Prop :=
  match cursor.stage with
  | .words _ _ _ => (kindAt tokens cursor.position).endsField = false
  | .between => kindAt tokens cursor.position = .and ∨ kindAt tokens cursor.position = .or
  | _ => False

end Cursor

/-- What ends a field expression and is no connector is an end token. -/
theorem kind_eq_eof {token : Token} (ends : token.kind.endsField = true)
    (noConnector : connectorOf? token = none) : token.kind = .eof := by
  unfold connectorOf? at noConnector
  generalize token.kind = kind at ends noConnector ⊢
  cases kind with
  | eof => rfl
  | and => cases noConnector
  | or => cases noConnector
  | _ => cases ends

/-- A list of tokens that ends with an end token; others may stand in front of it. -/
def Closed (tokens : List Token) : Prop :=
  ∃ front last, tokens = front ++ [last] ∧ last.kind = .eof

/-! ## Looking ahead -/

theorem kindAt_drop (tokens : List Token) (position distance : Nat) :
    kindAt (tokens.drop position) distance = kindAt tokens (position + distance) := by
  rw [kindAt, kindAt, List.getElem?_drop]

theorem kindAt_of_getElem? {tokens : List Token} {position : Nat} {token : Token}
    (here : tokens[position]? = some token) : kindAt tokens position = token.kind := by
  rw [kindAt, here]

/-- Behind a token that is no end token there is another one. -/
theorem Closed.succ_lt {tokens : List Token} {position : Nat} (closed : Closed tokens)
    (goesOn : kindAt tokens position ≠ .eof) : position + 1 < tokens.length := by
  obtain ⟨front, last, rfl, isEnd⟩ := closed
  by_contra behind
  rw [List.length_append, List.length_singleton] at behind
  apply goesOn
  rcases Nat.lt_or_eq_of_le (by omega : front.length ≤ position) with past | rfl
  · rw [kindAt, List.getElem?_eq_none (by simpa using past)]
  · rw [kindAt_of_getElem? List.getElem?_concat_length, isEnd]

/-- A missing token is an end token, like the last one that the cursor sees in its place. -/
theorem Closed.kindAt_seenFrom {tokens : List Token} (closed : Closed tokens) (position : Nat)
    {distance : Nat} (near : distance < 4) :
    kindAt (seenFrom tokens position) distance = kindAt tokens (position + distance) := by
  obtain ⟨front, last, rfl, isEnd⟩ := closed
  have seen (distance : Nat) : ∃ token,
      (front ++ [last])[position + distance]?.or (front ++ [last]).getLast? = some token ∧
        token.kind = kindAt (front ++ [last]) (position + distance) := by
    cases here : (front ++ [last])[position + distance]? with
    | some token => exact ⟨token, rfl, (kindAt_of_getElem? here).symm⟩
    | none => exact ⟨last, by simp, by rw [kindAt, here, isEnd]⟩
  obtain ⟨first, isFirst, firstKind⟩ := seen 0
  obtain ⟨second, isSecond, secondKind⟩ := seen 1
  obtain ⟨third, isThird, thirdKind⟩ := seen 2
  obtain ⟨fourth, isFourth, fourthKind⟩ := seen 3
  have view : seenFrom (front ++ [last]) position = [first, second, third, fourth] := by
    simp only [seenFrom, List.filterMap_cons, List.filterMap_nil, isFirst, isSecond, isThird,
      isFourth]
  rw [view]
  match distance, near with
  | 0, _ => exact firstKind
  | 1, _ => exact secondKind
  | 2, _ => exact thirdKind
  | 3, _ => exact fourthKind

/-- Whether an operator stands here is decided by four tokens. -/
theorem operatorHere?_congr {left right : List Token}
    (same : ∀ distance < 4, kindAt left distance = kindAt right distance) :
    operatorHere? left = operatorHere? right := by
  simp only [operatorHere?, same 0 (by decide), same 1 (by decide), same 2 (by decide),
    same 3 (by decide)]

theorem Closed.operatorHere?_seenFrom {tokens : List Token} (closed : Closed tokens)
    (position : Nat) :
    operatorHere? (seenFrom tokens position) = operatorHere? (tokens.drop position) := by
  refine operatorHere?_congr fun distance near ↦ ?_
  rw [closed.kindAt_seenFrom position near, kindAt_drop]

/-- The tokens of an operator are no end tokens, and behind them the field expression ends. -/
theorem operatorHere?_eq_some {tokens : List Token} {operator : Operator} {count : Nat}
    (found : operatorHere? tokens = some (operator, count)) :
    0 < count ∧ (∀ distance < count, kindAt tokens distance ≠ .eof) ∧
      (kindAt tokens count).endsField = true := by
  unfold operatorHere? at found
  split at found
  · rename_i between
    split at found <;> cases found
    rename_i ends
    refine ⟨by decide, fun distance lt ↦ ?_, ends⟩
    match distance, lt with
    | 0, _ => simp [between]
  · rename_i like
    split at found <;> cases found
    rename_i ends
    refine ⟨by decide, fun distance lt ↦ ?_, ends⟩
    match distance, lt with
    | 0, _ => simp [like]
  · rename_i is
    split at found
    · rename_i tail
      cases found
      refine ⟨by decide, fun distance lt ↦ ?_, tail.2⟩
      match distance, lt with
      | 0, _ => simp [is]
      | 1, _ => simp [tail.1]
    · split at found <;> cases found
      rename_i tail
      refine ⟨by decide, fun distance lt ↦ ?_, tail.2.2⟩
      match distance, lt with
      | 0, _ => simp [is]
      | 1, _ => simp [tail.1]
      | 2, _ => simp [tail.2.1]
  · cases found

/-! ## Moving on -/

theorem advance?_eq {tokens : List Token} {position : Nat}
    (goesOn : kindAt tokens position ≠ .eof) : advance? tokens position = some (position + 1) := by
  rw [advance?]
  cases here : tokens[position]? with
  | none =>
    rw [kindAt, here] at goesOn
    exact absurd rfl goesOn
  | some token =>
    rw [kindAt_of_getElem? here] at goesOn
    rw [Option.map_some, if_neg goesOn]

theorem advanceBy?_eq {tokens : List Token} {position count : Nat}
    (goesOn : ∀ distance < count, kindAt tokens (position + distance) ≠ .eof) :
    advanceBy? tokens count position = some (position + count) := by
  induction count generalizing position with
  | zero => rfl
  | succ count ih =>
    have others : advanceBy? tokens count (position + 1) = some (position + 1 + count) := by
      refine ih fun distance lt ↦ ?_
      rw [Nat.add_right_comm]
      exact goesOn (distance + 1) (by omega)
    have first : advance? tokens position = some (position + 1) := advance?_eq (goesOn 0 (by omega))
    rw [advanceBy?, first, Option.bind_some, others, Nat.add_assoc, Nat.add_comm 1]

/-- As many tokens as are no end tokens can be passed without leaving the list. -/
theorem Closed.add_lt {tokens : List Token} {position count : Nat} (closed : Closed tokens)
    (some : 0 < count)
    (goesOn : ∀ distance < count, kindAt tokens (position + distance) ≠ .eof) :
    position + count < tokens.length := by
  have last := closed.succ_lt (goesOn (count - 1) (by omega))
  omega

/-! ## What is still to be read -/

/-- What comes of the field expressions so far and of the tokens that are left behind them. -/
def readRest (descriptor : Text) (allRows : Bool) (fields : List FieldExpr) (left : List Token) :
    Except Error Finder := do
  let (more, left) ← parseMore descriptor left
  match left with
  | [] => return ⟨descriptor, allRows, fields ++ more⟩
  | token :: _ =>
    if token.kind = .eof then return ⟨descriptor, allRows, fields ++ more⟩
    else .error (.finder descriptor (.unexpected token.text token.position))

/-- What comes of another field expression with the given words and operator, and of what is left
behind it. -/
def readClosed (descriptor : Text) (allRows : Bool) (fields : List FieldExpr)
    (connector : Connector) (start : Nat) (scanned : List Text × Operator × List Token) :
    Except Error Finder :=
  if scanned.1.isEmpty then .error (.finder descriptor (.missingField start))
  else
    readRest descriptor allRows (fields ++ [⟨columnOf scanned.1, scanned.2.1, connector⟩])
      scanned.2.2

theorem parseField_eq (descriptor : Text) (connector : Connector) (tokens : List Token) :
    parseField descriptor connector tokens =
      if (scanField tokens).1.isEmpty then
        .error (.finder descriptor (.missingField (positionOf tokens)))
      else
        .ok (⟨columnOf (scanField tokens).1, (scanField tokens).2.1, connector⟩,
          (scanField tokens).2.2) :=
  rfl

theorem parseTokens_eq (descriptor : Text) (tokens : List Token) :
    parseTokens descriptor tokens =
      readClosed descriptor (kindAt tokens 0 = .findAllBy) [] .and
        (positionOf (behindOpening tokens)) (scanField (behindOpening tokens)) := by
  rw [parseTokens, parseField_eq, readClosed]
  split
  · rfl
  · rfl

/-- Behind a connector another field expression is read. -/
theorem readRest_connector {descriptor : Text} {allRows : Bool} {fields : List FieldExpr}
    {token : Token} {rest : List Token} {connector : Connector}
    (joins : connectorOf? token = some connector) :
    readRest descriptor allRows fields (token :: rest) =
      readClosed descriptor allRows fields connector (positionOf rest) (scanField rest) := by
  have read := parseField_eq descriptor connector rest
  rw [readRest, readClosed]
  split at read
  · rename_i noWords
    rw [parseMore_error joins read, if_pos noWords]
    rfl
  · rename_i someWords
    rw [parseMore_ok joins read, if_neg someWords, readRest]
    cases parseMore descriptor (scanField rest).2.2 with
    | error error => rfl
    | ok more => simp [Bind.bind, Except.bind, List.append_assoc]

theorem readRest_eof {descriptor : Text} {allRows : Bool} {fields : List FieldExpr} {token : Token}
    {rest : List Token} (isEnd : token.kind = .eof) :
    readRest descriptor allRows fields (token :: rest) = .ok ⟨descriptor, allRows, fields⟩ := by
  have noConnector : connectorOf? token = none := by rw [connectorOf?, isEnd]
  rw [readRest, parseMore, noConnector]
  simp [Bind.bind, Except.bind, Pure.pure, Except.pure, isEnd]

namespace Cursor

variable {descriptor : Text} {tokens : List Token} {cursor next : Cursor}

/-- What comes of the reading of a cursor. -/
def answer (descriptor : Text) (tokens : List Token) (cursor : Cursor) : Except Error Finder :=
  let left := tokens.drop cursor.position
  match cursor.stage with
  | .opening => parseTokens descriptor left
  | .entry connector =>
    readClosed descriptor cursor.allRows cursor.fields connector (positionOf left) (scanField left)
  | .words connector start read =>
    readClosed descriptor cursor.allRows cursor.fields connector start.position
      (read ++ (scanField left).1, (scanField left).2)
  | .closing connector start read operator =>
    readClosed descriptor cursor.allRows cursor.fields connector start.position
      (read, operator, left)
  | .between => readRest descriptor cursor.allRows cursor.fields left

/-- What holds in each stage: a field expression starts with a token of the list, and the cursor has
left it in front of a token that ends it. -/
def StageHolds (tokens : List Token) (cursor : Cursor) : Prop :=
  match cursor.stage with
  | .opening => cursor.fields = []
  | .entry _ => True
  | .words _ start _ => start ∈ tokens
  | .closing _ start _ _ => start ∈ tokens ∧ (kindAt tokens cursor.position).endsField = true
  | .between => (kindAt tokens cursor.position).endsField = true

/-- The invariant of a cursor: it stands on a token. -/
structure Sound (tokens : List Token) (cursor : Cursor) : Prop where
  inside : cursor.position < tokens.length
  holds : cursor.StageHolds tokens

/-- How many stages are still to come at one place. -/
def rank (cursor : Cursor) : Nat :=
  match cursor.stage with
  | .opening => 4
  | .entry _ => 3
  | .words _ _ _ => 2
  | .closing _ _ _ _ => 1
  | .between => 0

/-- The steps that a cursor has left at most. -/
def weight (tokens : List Token) (cursor : Cursor) : Nat :=
  4 * (tokens.length - cursor.position) + cursor.rank

/-- Going further takes away weight, unless it leads back in front of an opening. -/
theorem weight_lt_of_further (inside : cursor.position < tokens.length)
    (further : cursor.position < next.position) (behind : next.rank < 4) :
    next.weight tokens < cursor.weight tokens := by
  unfold weight
  omega

/-- What a step that goes on keeps and what it changes. -/
structure Advances (descriptor : Text) (tokens : List Token) (cursor next : Cursor) : Prop where
  sound : next.Sound tokens
  answer : next.answer descriptor tokens = cursor.answer descriptor tokens
  le : cursor.position ≤ next.position
  lighter : next.weight tokens < cursor.weight tokens
  further : cursor.AtTurn tokens → cursor.position < next.position

/-- The want of a field name where some field expression starts. -/
def IsMissingField (descriptor : Text) (tokens : List Token) (error : Error) : Prop :=
  ∃ token ∈ tokens, error = .finder descriptor (.missingField token.position)

/-- What a step can do on a list that ends with an end token. -/
inductive Proceeds (descriptor : Text) (tokens : List Token) (cursor : Cursor) : Move → Prop
  | goOn {next : Cursor} (advances : Advances descriptor tokens cursor next) :
    Proceeds descriptor tokens cursor (.goOn next)
  | halt (missing : ∀ error, cursor.answer descriptor tokens = .error error →
      IsMissingField descriptor tokens error) :
    Proceeds descriptor tokens cursor (.halt (cursor.answer descriptor tokens))

theorem drop_eq_cons {position : Nat} {token : Token} (here : tokens[position]? = some token) :
    tokens.drop position = token :: tokens.drop (position + 1) := by
  obtain ⟨inside, rfl⟩ := List.getElem?_eq_some_iff.mp here
  exact List.drop_eq_getElem_cons inside

/-! ### The stages -/

section Stages

variable {token start : Token} {connector : Connector} {read : List Text} {operator : Operator}

theorem proceeds_opening (closed : Closed tokens) (sound : cursor.Sound tokens)
    (here : tokens[cursor.position]? = some token) (stage : cursor.stage = .opening) :
    Proceeds descriptor tokens cursor (step descriptor tokens cursor) := by
  have noFields : cursor.fields = [] := by simpa [StageHolds, stage] using sound.holds
  have kind := kindAt_of_getElem? here
  have left := drop_eq_cons here
  -- An end token in front is not passed: the field expression behind it starts there as well.
  by_cases isEnd : token.kind = .eof
  · have moved : step descriptor tokens cursor =
        .goOn { cursor with
          allRows := token.kind = TokenKind.findAllBy, stage := .entry .and } := by
      simp [step, here, stage, advance?, isEnd, moveTo]
    rw [moved]
    refine .goOn ⟨⟨sound.inside, trivial⟩, ?_, le_rfl, ?_, by simp [AtTurn, stage]⟩
    · simp [answer, stage, left, parseTokens_eq, behindOpening, isEnd, noFields]
    · simp [weight, rank, stage]
  · have behind := closed.succ_lt (kind ▸ isEnd)
    have moved : step descriptor tokens cursor =
        .goOn { cursor with
          position := cursor.position + 1, allRows := token.kind = TokenKind.findAllBy,
          stage := .entry .and } := by
      simp [step, here, stage, advance?, isEnd, moveTo]
    rw [moved]
    refine .goOn ⟨⟨behind, trivial⟩, ?_, Nat.le_succ _, ?_, by simp [AtTurn, stage]⟩
    · simp only [answer, stage, left, parseTokens_eq, behindOpening, isEnd, noFields, if_false]
      rfl
    · exact weight_lt_of_further sound.inside (Nat.lt_succ_self _) (by simp [rank])

theorem proceeds_entry (sound : cursor.Sound tokens) (here : tokens[cursor.position]? = some token)
    (stage : cursor.stage = .entry connector) :
    Proceeds descriptor tokens cursor (step descriptor tokens cursor) := by
  have moved : step descriptor tokens cursor =
      .goOn { cursor with stage := .words connector token [] } := by
    simp [step, here, stage]
  rw [moved]
  have mem := List.mem_of_getElem? here
  refine .goOn ⟨⟨sound.inside, mem⟩, ?_, le_rfl, ?_, by simp [AtTurn, stage]⟩
  · simp [answer, stage, drop_eq_cons here, positionOf]
  · simp [weight, rank, stage]

theorem Sound.start_mem (sound : cursor.Sound tokens)
    (stage : cursor.stage = .words connector start read) : start ∈ tokens := by
  simpa [StageHolds, stage] using sound.holds

/-- In front of a token that ends the field expression, the loop over words is left. -/
theorem proceeds_words_end (sound : cursor.Sound tokens)
    (here : tokens[cursor.position]? = some token)
    (stage : cursor.stage = .words connector start read)
    (ends : token.kind.endsField = true) :
    Proceeds descriptor tokens cursor (step descriptor tokens cursor) := by
  have mem := sound.start_mem stage
  have kind := kindAt_of_getElem? here
  have moved : step descriptor tokens cursor =
      .goOn { cursor with stage := .closing connector start read .equals } := by
    simp [step, here, stage, ends]
  rw [moved]
  refine .goOn ⟨⟨sound.inside, mem, kind ▸ ends⟩, ?_, le_rfl, ?_, ?_⟩
  · simp [answer, stage, drop_eq_cons here, scanField, ends]
  · simp [weight, rank, stage]
  · simp [AtTurn, stage, kind, ends]

/-- Where no operator stands, a token that does not end the field expression is a word. -/
theorem proceeds_words_word (closed : Closed tokens) (sound : cursor.Sound tokens)
    (here : tokens[cursor.position]? = some token)
    (stage : cursor.stage = .words connector start read)
    (goesOn : token.kind.endsField = false)
    (none : operatorHere? (tokens.drop cursor.position) = none) :
    Proceeds descriptor tokens cursor (step descriptor tokens cursor) := by
  have mem := sound.start_mem stage
  have notEnd : kindAt tokens cursor.position ≠ .eof := by
    rw [kindAt_of_getElem? here]
    intro isEnd
    rw [isEnd] at goesOn
    cases goesOn
  have moved : step descriptor tokens cursor =
      .goOn { cursor with
        position := cursor.position + 1,
        stage := .words connector start (read ++ [token.text]) } := by
    simp [step, here, stage, goesOn, closed.operatorHere?_seenFrom, none, advance?_eq notEnd,
      moveTo]
  rw [moved]
  refine .goOn ⟨⟨closed.succ_lt notEnd, mem⟩, ?_, Nat.le_succ _, ?_, fun _ ↦ Nat.lt_succ_self _⟩
  · have left := drop_eq_cons here
    rw [left] at none
    simp [answer, stage, left, scanField, goesOn, none]
  · exact weight_lt_of_further sound.inside (Nat.lt_succ_self _) (by simp [rank])

/-- The tokens of an operator are passed, and the loop over words is left. -/
theorem proceeds_words_operator {count : Nat} (closed : Closed tokens) (sound : cursor.Sound tokens)
    (here : tokens[cursor.position]? = some token)
    (stage : cursor.stage = .words connector start read)
    (goesOn : token.kind.endsField = false)
    (found : operatorHere? (tokens.drop cursor.position) = some (operator, count)) :
    Proceeds descriptor tokens cursor (step descriptor tokens cursor) := by
  have mem := sound.start_mem stage
  -- No token of an operator is an end token, so passing them one by one takes the cursor behind
  -- all of them.
  obtain ⟨positive, noEnd, stops⟩ := operatorHere?_eq_some found
  simp only [kindAt_drop] at noEnd stops
  have moved : step descriptor tokens cursor =
      .goOn { cursor with
        position := cursor.position + count, stage := .closing connector start read operator } := by
    simp [step, here, stage, goesOn, closed.operatorHere?_seenFrom, found, advanceBy?_eq noEnd,
      moveTo]
  rw [moved]
  refine .goOn ⟨⟨closed.add_lt positive noEnd, mem, stops⟩, ?_, Nat.le_add_right _ count, ?_,
    fun _ ↦ Nat.lt_add_of_pos_right positive⟩
  · have left := drop_eq_cons here
    have passed : tokens.drop (cursor.position + count) =
        (token :: tokens.drop (cursor.position + 1)).drop count := by
      rw [← left, List.drop_drop]
    rw [left] at found
    simp [answer, stage, left, passed, scanField, goesOn, found]
  · exact weight_lt_of_further sound.inside (Nat.lt_add_of_pos_right positive) (by simp [rank])

theorem proceeds_closing (sound : cursor.Sound tokens)
    (here : tokens[cursor.position]? = some token)
    (stage : cursor.stage = .closing connector start read operator) :
    Proceeds descriptor tokens cursor (step descriptor tokens cursor) := by
  obtain ⟨mem, ends⟩ : start ∈ tokens ∧ (kindAt tokens cursor.position).endsField = true := by
    simpa [StageHolds, stage] using sound.holds
  by_cases noWords : read = []
  · have answered : cursor.answer descriptor tokens =
        .error (.finder descriptor (.missingField start.position)) := by
      simp [answer, stage, readClosed, noWords]
    have stopped : step descriptor tokens cursor = .halt (cursor.answer descriptor tokens) := by
      simp [step, here, stage, noWords, answered]
    rw [stopped]
    refine .halt fun error failed ↦ ⟨start, mem, ?_⟩
    exact (Except.error.inj (answered.symm.trans failed)).symm
  · have moved : step descriptor tokens cursor =
        .goOn { cursor with
          fields := cursor.fields ++ [⟨columnOf read, operator, connector⟩]
          stage := .between } := by
      simp [step, here, stage, noWords]
    rw [moved]
    refine .goOn ⟨⟨sound.inside, ends⟩, ?_, le_rfl, ?_, by simp [AtTurn, stage]⟩
    · simp [answer, stage, readClosed, noWords]
    · simp [weight, rank, stage]

theorem proceeds_between (closed : Closed tokens) (sound : cursor.Sound tokens)
    (here : tokens[cursor.position]? = some token) (stage : cursor.stage = .between) :
    Proceeds descriptor tokens cursor (step descriptor tokens cursor) := by
  have kind := kindAt_of_getElem? here
  have left := drop_eq_cons here
  have ends : token.kind.endsField = true := by simpa [StageHolds, stage, kind] using sound.holds
  cases joins : connectorOf? token with
  | some connector =>
    have notEnd : kindAt tokens cursor.position ≠ .eof := by
      rw [kind]
      intro isEnd
      rw [connectorOf?, isEnd] at joins
      cases joins
    have moved : step descriptor tokens cursor =
        .goOn { cursor with position := cursor.position + 1, stage := .entry connector } := by
      simp [step, here, stage, joins, advance?_eq notEnd, moveTo]
    rw [moved]
    have behind := closed.succ_lt notEnd
    refine .goOn ⟨⟨behind, trivial⟩, ?_, Nat.le_succ _, ?_, fun _ ↦ Nat.lt_succ_self _⟩
    · simp [answer, stage, left, readRest_connector joins]
    · exact weight_lt_of_further sound.inside (Nat.lt_succ_self _) (by simp [rank])
  | none =>
    have isEnd := kind_eq_eof ends joins
    have answered : cursor.answer descriptor tokens =
        .ok ⟨descriptor, cursor.allRows, cursor.fields⟩ := by
      simp [answer, stage, left, readRest_eof isEnd]
    have stopped : step descriptor tokens cursor = .halt (cursor.answer descriptor tokens) := by
      simp [step, here, stage, joins, isEnd, answered]
    rw [stopped]
    refine .halt fun error failed ↦ ?_
    cases answered.symm.trans failed

end Stages

/-- Every step goes on inside the list or halts with what is to be read. -/
theorem proceeds (descriptor : Text) (closed : Closed tokens) (sound : cursor.Sound tokens) :
    Proceeds descriptor tokens cursor (step descriptor tokens cursor) := by
  obtain ⟨token, here⟩ : ∃ token, tokens[cursor.position]? = some token :=
    ⟨_, List.getElem?_eq_getElem sound.inside⟩
  cases stage : cursor.stage with
  | opening => exact proceeds_opening closed sound here stage
  | entry connector => exact proceeds_entry sound here stage
  | words connector start read =>
    cases ends : token.kind.endsField with
    | true => exact proceeds_words_end sound here stage ends
    | false =>
      cases found : operatorHere? (tokens.drop cursor.position) with
      | none => exact proceeds_words_word closed sound here stage ends found
      | some operatorAndCount => exact proceeds_words_operator closed sound here stage ends found
  | closing connector start read operator => exact proceeds_closing sound here stage
  | between => exact proceeds_between closed sound here stage

/-! ### Runs -/

/-- A run with a step to go takes it inside the list, or halts with what is to be read. -/
theorem run_succ_cases (descriptor : Text) (closed : Closed tokens) (sound : cursor.Sound tokens)
    (count : Nat) :
    (∃ next, Advances descriptor tokens cursor next ∧
      run descriptor tokens (count + 1) cursor = run descriptor tokens count next) ∨
    run descriptor tokens (count + 1) cursor = .halt (cursor.answer descriptor tokens) ∧
      ∀ error, cursor.answer descriptor tokens = .error error →
        IsMissingField descriptor tokens error := by
  have proceeding := proceeds descriptor closed sound
  simp only [run]
  generalize step descriptor tokens cursor = move at proceeding
  cases proceeding with
  | goOn advances => exact .inl ⟨_, advances, rfl⟩
  | halt missing => exact .inr ⟨rfl, missing⟩

/-- A cursor that is still on its way has stayed in the list and has not moved back. -/
theorem sound_of_run (closed : Closed tokens) (sound : cursor.Sound tokens) {count : Nat}
    (ran : run descriptor tokens count cursor = .goOn next) :
    next.Sound tokens ∧ cursor.position ≤ next.position := by
  induction count generalizing cursor with
  | zero =>
    cases ran
    exact ⟨sound, le_rfl⟩
  | succ count ih =>
    rcases run_succ_cases descriptor closed sound count with
      ⟨later, advances, same⟩ | ⟨halts, -⟩
    · obtain ⟨nextSound, le⟩ := ih advances.sound (same.symm.trans ran)
      exact ⟨nextSound, advances.le.trans le⟩
    · cases halts.symm.trans ran

/-- A run never looks behind the list. -/
theorem run_ne_overrun (closed : Closed tokens) (sound : cursor.Sound tokens) (count : Nat) :
    run descriptor tokens count cursor ≠ .overrun := by
  induction count generalizing cursor with
  | zero => simp [run]
  | succ count ih =>
    rcases run_succ_cases descriptor closed sound count with
      ⟨later, advances, same⟩ | ⟨halts, -⟩
    · rw [same]
      exact ih advances.sound
    · simp [halts]

/-- A run with enough steps halts with what is to be read, which fails for nothing but the want of a
field name. -/
theorem run_eq_halt (closed : Closed tokens) (sound : cursor.Sound tokens) {count : Nat}
    (enough : cursor.weight tokens < count) :
    run descriptor tokens count cursor = .halt (cursor.answer descriptor tokens) ∧
      ∀ error, cursor.answer descriptor tokens = .error error →
        IsMissingField descriptor tokens error := by
  induction count generalizing cursor with
  | zero => exact absurd enough (Nat.not_lt_zero _)
  | succ count ih =>
    rcases run_succ_cases descriptor closed sound count with ⟨later, advances, same⟩ | halts
    · -- The step keeps the answer and takes away weight, so the steps that are left are enough.
      have lighter := advances.lighter
      rw [same, ← advances.answer]
      exact ih advances.sound (by omega)
    · exact halts

/-- When a turn begins, the cursor stands further on at every later step. -/
theorem lt_of_run (closed : Closed tokens) (sound : cursor.Sound tokens)
    (turn : cursor.AtTurn tokens) {count : Nat}
    (ran : run descriptor tokens (count + 1) cursor = .goOn next) :
    cursor.position < next.position := by
  rcases run_succ_cases descriptor closed sound count with ⟨later, advances, same⟩ | ⟨halts, -⟩
  · have behind := (sound_of_run closed advances.sound (same.symm.trans ran)).2
    exact lt_of_lt_of_le (advances.further turn) behind
  · cases halts.symm.trans ran

theorem sound_start (closed : Closed tokens) : start.Sound tokens := by
  refine ⟨?_, rfl⟩
  obtain ⟨front, last, rfl, -⟩ := closed
  simp [start]

/-- On every list of tokens that ends with an end token, the cursor never looks behind the list,
each turn of its loops takes it further, and after at most four steps for each token and five more
it halts with what the tokens say.  The tokens fail to say anything only where a field name is
missing. -/
theorem run_halts_inside (descriptor : Text) {tokens : List Token} (closed : Closed tokens) :
    (∀ count, run descriptor tokens count start ≠ .overrun) ∧
      (∀ count cursor, run descriptor tokens count start = .goOn cursor →
        cursor.position < tokens.length ∧
          (cursor.AtTurn tokens → ∀ more next,
            run descriptor tokens (more + 1) cursor = .goOn next →
              cursor.position < next.position)) ∧
      run descriptor tokens (4 * tokens.length + 5) start = .halt (parseTokens descriptor tokens) ∧
      ∀ error, parseTokens descriptor tokens = .error error →
        ∃ token ∈ tokens, error = .finder descriptor (.missingField token.position) := by
  have sound := sound_start closed
  refine ⟨run_ne_overrun closed sound, fun count cursor ran ↦ ?_, ?_⟩
  · have later := (sound_of_run closed sound ran).1
    exact ⟨later.inside, fun turn more next ranOn ↦ lt_of_run closed later turn ranOn⟩
  · have light : start.weight tokens < 4 * tokens.length + 5 := by simp [weight, rank, start]
    exact run_eq_halt closed sound light

/-- Connectors, an operator and an end token where no descriptor has them. -/
def strayTokens : List Token :=
  [⟨.or, "Or", 0⟩, ⟨.null, "Null", 2⟩, ⟨.is, "Is", 6⟩, ⟨.not, "Not", 8⟩, ⟨.null, "Null", 11⟩,
    ⟨.and, "And", 15⟩, ⟨.findBy, "findBy", 18⟩, ⟨.eof, "", 24⟩, ⟨.and, "And", 24⟩,
    ⟨.eof, "", 27⟩]

/-- The connector in front is passed as an opening, and the end token in the middle is not
passed. -/
theorem run_halts_stray :
    Closed strayTokens ∧
      (∀ count, run "stray" strayTokens count start ≠ .overrun) ∧
      parseTokens "stray" strayTokens =
        .ok ⟨"stray", false, [⟨"null", .isNotNull, .and⟩, ⟨"findby", .equals, .and⟩]⟩ := by
  have closed : Closed strayTokens := ⟨strayTokens.dropLast, ⟨.eof, "", 27⟩, rfl, rfl⟩
  obtain ⟨stays, -, halts, -⟩ := run_halts_inside "stray" closed
  refine ⟨closed, stays, ?_⟩
  have ran : run "stray" strayTokens (4 * strayTokens.length + 5) start =
      .halt (.ok ⟨"stray", false, [⟨"null", .isNotNull, .and⟩, ⟨"findby", .equals, .and⟩]⟩) := by
    rfl
  exact Move.halt.inj (halts.symm.trans ran)

end Cursor

end DialectSql.Finder
