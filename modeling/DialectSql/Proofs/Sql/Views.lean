import DialectSql.Proofs.Text.Run
import DialectSql.Sql.Catalog

/-!
# The Two Views of a Fragment

The text and the bind values of a row of pieces, piece by piece, for dialects that quote nothing.
Two fragments are alike when both views agree.  What is alike can be read from the left: equal
texts cancel, texts of which neither starts the other never are alike, and equal positions hold
equal words and equal bind values.
-/

namespace DialectSql.Sql

/-- The dialects that are always known quote nothing. -/
theorem quotes_of_mem_builtIn {names : List Text} {dialect : Dialect}
    (known : (names, dialect) ∈ builtIn) : dialect.quotes = .none := by
  have all : ∀ entry ∈ builtIn, entry.2.quotes = .none := by decide
  exact all _ known

namespace Fragment

section
variable (quotes : Quotes) (left right : Fragment)

@[simp]
theorem sql_nil : sql quotes [] = [] := rfl

@[simp]
theorem sql_cons (piece : Piece) :
    sql quotes (piece :: left) = piece.sql quotes ++ sql quotes left := by
  simp [sql]

@[simp]
theorem sql_append : sql quotes (left ++ right) = sql quotes left ++ sql quotes right := by
  simp [sql]

@[simp]
theorem binds_nil : binds [] = [] := rfl

@[simp]
theorem binds_text (content : Text) : binds (.text content :: left) = binds left := rfl

@[simp]
theorem binds_name (identifier : Text) : binds (.name identifier :: left) = binds left := rfl

@[simp]
theorem binds_bind (value : Bind) : binds (.bind value :: left) = value :: binds left := rfl

@[simp]
theorem binds_append : binds (left ++ right) = binds left ++ binds right := by
  simp [binds]

end

@[simp]
theorem sql_text (quotes : Quotes) (content : Text) : Piece.sql quotes (.text content) = content :=
  rfl

@[simp]
theorem sql_name (identifier : Text) : Piece.sql .none (.name identifier) = identifier := by
  simp [Piece.sql, Quotes.none, Text.ofString]

@[simp]
theorem sql_bind (quotes : Quotes) (value : Bind) :
    Piece.sql quotes (.bind value) = [.char '?'] := by
  simp [Piece.sql, Text.ofString]

@[simp]
theorem join_nil (separator : Text) : join separator [] = [] := rfl

/-- A joined row is its first fragment and the others, each behind the separator. -/
@[simp]
theorem join_cons (separator : Text) (first : Fragment) (rest : List Fragment) :
    join separator (first :: rest) = first ++ rest.flatMap (Piece.text separator :: ·) := by
  induction rest generalizing first with
  | nil => simp [join, List.intercalate]
  | cons second rest ih =>
    have step : join separator (first :: second :: rest) =
        first ++ Piece.text separator :: join separator (second :: rest) := by
      simp [join, List.intercalate]
    rw [step, ih second]
    simp

/-- The text of a joined row is the texts of its fragments, joined. -/
theorem sql_join (quotes : Quotes) (separator : Text) (fragments : List Fragment) :
    sql quotes (join separator fragments) =
      Text.joined separator (fragments.map (sql quotes)) := by
  induction fragments with
  | nil => rfl
  | cons first rest ih =>
    cases rest with
    | nil => simp [Text.joined]
    | cons second rest =>
      simp only [join_cons, List.flatMap_cons, List.map_cons, sql_append] at ih ⊢
      simp [ih, Text.joined]

/-- The bind values of a joined row are those of its fragments. -/
theorem binds_join (separator : Text) (fragments : List Fragment) :
    binds (join separator fragments) = fragments.flatMap binds := by
  have behind (rest : List Fragment) :
      binds (rest.flatMap (Piece.text separator :: ·)) = rest.flatMap binds := by
    induction rest with
    | nil => rfl
    | cons next rest ih => simp [ih]
  cases fragments with
  | nil => rfl
  | cons first rest => simp [behind]

/-! ## Alike fragments -/

/-- Both views of two fragments agree. -/
def Alike (left right : Fragment) : Prop :=
  left.sql .none = right.sql .none ∧ left.binds = right.binds

namespace Alike

variable {left right : Fragment}

theorem symm (alike : Alike left right) : Alike right left :=
  ⟨alike.1.symm, alike.2.symm⟩

/-- What follows equal fragments is alike. -/
theorem cancel {shown : Fragment} (alike : Alike (shown ++ left) (shown ++ right)) :
    Alike left right := by
  obtain ⟨sameText, sameBinds⟩ := alike
  simp only [sql_append, binds_append] at sameText sameBinds
  exact ⟨List.append_cancel_left sameText, List.append_cancel_left sameBinds⟩

theorem text_cancel {content : Text}
    (alike : Alike (.text content :: left) (.text content :: right)) : Alike left right := by
  rw [← List.singleton_append, ← List.singleton_append (l := right)] at alike
  exact cancel alike

/-- Of two texts at the same place, one starts the other. -/
theorem text_prefix {content other : Text}
    (alike : Alike (.text content :: left) (.text other :: right)) :
    content <+: other ∨ other <+: content := by
  have same := alike.1
  simp only [sql_cons, sql_text] at same
  exact List.prefix_or_prefix_of_prefix ⟨_, same⟩ ⟨_, rfl⟩

theorem bind_cancel {value other : Bind}
    (alike : Alike (.bind value :: left) (.bind other :: right)) :
    value = other ∧ Alike left right := by
  obtain ⟨sameText, sameBinds⟩ := alike
  simp only [binds_bind, List.cons.injEq] at sameBinds
  simp only [sql_cons, sql_bind, List.cons_append, List.nil_append, List.cons.injEq,
    true_and] at sameText
  exact ⟨sameBinds.1, sameText, sameBinds.2⟩

/-- Two runs of one class at the same place are the same. -/
theorem run_cancel (kind : CodePoint → Bool) {run other : Text}
    (alike : Alike (.text run :: left) (.text other :: right))
    (runPoints : ∀ point ∈ run, kind point = true)
    (otherPoints : ∀ point ∈ other, kind point = true)
    (leftStops : Text.StartsOutside kind (left.sql .none))
    (rightStops : Text.StartsOutside kind (right.sql .none)) :
    run = other ∧ Alike left right := by
  obtain ⟨sameText, sameBinds⟩ := alike
  simp only [sql_cons, sql_text] at sameText
  obtain ⟨same, rest⟩ :=
    Text.run_append_inj runPoints otherPoints leftStops rightStops sameText
  exact ⟨same, rest, sameBinds⟩

/-- Two words at the same place are the same. -/
theorem name_cancel {word other : Text}
    (alike : Alike (.name word :: left) (.name other :: right))
    (isWord : word.IsWord) (isOther : other.IsWord)
    (leftStops : Text.StartsOutside Finder.isBodyChar (left.sql .none))
    (rightStops : Text.StartsOutside Finder.isBodyChar (right.sql .none)) :
    word = other ∧ Alike left right := by
  have asTexts : Alike (.text word :: left) (.text other :: right) := by
    simpa [Alike] using alike
  exact run_cancel Finder.isBodyChar asTexts isWord.2 isOther.2 leftStops rightStops

/-- No word stands where a text starts that does not start with a word. -/
theorem not_name {word content : Text} (isWord : word.IsWord)
    (outside : Text.StartsOutside Finder.isBodyChar (content ++ right.sql .none)) :
    ¬Alike (.name word :: left) (.text content :: right) := by
  intro alike
  have same := alike.1
  simp only [sql_cons, sql_name, sql_text] at same
  exact isWord.not_startsOutside _ (same ▸ outside)

end Alike

end Fragment

end DialectSql.Sql
