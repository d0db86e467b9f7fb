import DialectSql.Finder.Descriptor
import DialectSql.Proofs.Finder.Words

/-!
# The Grammar of Finders

What a descriptor means, said without tokens and without looking ahead.  The words of a body are cut
at every connector.  Each segment between two connectors is the words of a column with the words
of at most one operator behind them, and an operator is recognised by how the segment ends.

The scanner decides from left to right instead, as soon as an operator ends the segment.  Both agree
because no operator is spelled like the end of another one.
-/

namespace DialectSql

/-- The words that ask for an operator behind the words of a column. -/
def Operator.suffix : Operator → List Text
  | equals => []
  | between => ["Between"]
  | like => ["Like"]
  | isNull => ["Is", "Null"]
  | isNotNull => ["Is", "Not", "Null"]

/-- The word that joins two segments. -/
def Connector.word : Connector → Text
  | and => "And"
  | or => "Or"

namespace Finder

/-- The connector that a word stands for. -/
def connectorOfWord? (word : Text) : Option Connector :=
  [Connector.and, Connector.or].find? (·.word = word)

/-- Whether a word joins two segments. -/
def isConnectorWord (word : Text) : Bool :=
  (connectorOfWord? word).isSome

/-- The segments between the connectors. -/
def segmentsOf (words : List Text) : List (List Text) :=
  words.splitOnP isConnectorWord

/-- The operators that are asked for by words. -/
def suffixed : List Operator :=
  [.between, .like, .isNull, .isNotNull]

/-- The operator of a segment. -/
def operatorOf (segment : List Text) : Operator :=
  (suffixed.find? (·.suffix.isSuffixOf segment)).getD .equals

/-- The words of a segment in front of those of its operator. -/
def fieldWords (segment : List Text) : List Text :=
  segment.take (segment.length - (operatorOf segment).suffix.length)

/-- A descriptor of the grammar: an opening and a body whose cut leaves field words in every
segment. -/
structure IsDescriptor (descriptor : Text) (allRows : Bool) (words : List Text) : Prop where
  shape : ∃ body, descriptor = openingOf allRows ++ body ∧ IsBody body ∧ IsCut words body
  fields : ∀ segment ∈ segmentsOf words, fieldWords segment ≠ []

theorem isConnectorWord_iff {word : Text} :
    isConnectorWord word = true ↔ word = Connector.and.word ∨ word = Connector.or.word := by
  rw [isConnectorWord, connectorOfWord?, List.find?_isSome]
  simp [eq_comm (a := word)]

@[simp]
theorem connectorOfWord?_word (connector : Connector) :
    connectorOfWord? connector.word = some connector := by
  cases connector <;> decide

@[simp]
theorem isConnectorWord_word (connector : Connector) : isConnectorWord connector.word = true := by
  rw [isConnectorWord, connectorOfWord?_word]
  rfl

/-! ## Operators at the end of a segment -/

/-- No operator is spelled like the end of another one. -/
theorem eq_of_suffix_suffix {operator other : Operator} (isSuffixed : operator ∈ suffixed)
    (otherSuffixed : other ∈ suffixed) (ends : operator.suffix <:+ other.suffix) :
    operator = other := by
  have all : ∀ operator ∈ suffixed, ∀ other ∈ suffixed,
      operator.suffix <:+ other.suffix → operator = other := by decide
  exact all operator isSuffixed other otherSuffixed ends

theorem ends_of_find? {operator : Operator} {segment : List Text}
    (found : suffixed.find? (·.suffix.isSuffixOf segment) = some operator) :
    operator ∈ suffixed ∧ operator.suffix <:+ segment := by
  have ends : operator.suffix.isSuffixOf segment = true := by simpa using List.find?_some found
  exact ⟨List.mem_of_find?_eq_some found, List.isSuffixOf_iff_suffix.mp ends⟩

/-- A segment that ends with the words of an operator asks for that operator. -/
theorem operatorOf_eq {operator : Operator} {segment : List Text}
    (isSuffixed : operator ∈ suffixed) (ends : operator.suffix <:+ segment) :
    operatorOf segment = operator := by
  have some : (suffixed.find? (·.suffix.isSuffixOf segment)).isSome := by
    rw [List.find?_isSome]
    exact ⟨operator, isSuffixed, List.isSuffixOf_iff_suffix.mpr ends⟩
  obtain ⟨found, isFound⟩ := Option.isSome_iff_exists.mp some
  obtain ⟨foundSuffixed, foundEnds⟩ := ends_of_find? isFound
  rw [operatorOf, isFound, Option.getD_some]
  rcases List.suffix_or_suffix_of_suffix foundEnds ends with inside | around
  · exact eq_of_suffix_suffix foundSuffixed isSuffixed inside
  · exact (eq_of_suffix_suffix isSuffixed foundSuffixed around).symm

theorem operatorOf_eq_equals {segment : List Text}
    (none : ∀ operator ∈ suffixed, ¬operator.suffix <:+ segment) :
    operatorOf segment = .equals := by
  have missing : suffixed.find? (·.suffix.isSuffixOf segment) = Option.none := by
    rw [List.find?_eq_none]
    intro operator isSuffixed ends
    exact none operator isSuffixed (List.isSuffixOf_iff_suffix.mp ends)
  rw [operatorOf, missing, Option.getD_none]

/-- A segment ends with the words of its operator. -/
theorem suffix_operatorOf (segment : List Text) : (operatorOf segment).suffix <:+ segment := by
  unfold operatorOf
  cases found : suffixed.find? (·.suffix.isSuffixOf segment) with
  | none => exact List.nil_suffix
  | some operator => exact (ends_of_find? found).2

/-- A segment is its field words and the words of its operator. -/
theorem fieldWords_append (segment : List Text) :
    fieldWords segment ++ (operatorOf segment).suffix = segment := by
  obtain ⟨front, whole⟩ := suffix_operatorOf segment
  have isFront : fieldWords segment = front := by
    have long := congrArg List.length whole
    rw [List.length_append] at long
    rw [fieldWords, ← long, Nat.add_sub_cancel]
    conv => lhs; rw [← whole]
    exact List.take_left
  rw [isFront, whole]

theorem fieldWords_eq {front segment : List Text}
    (whole : front ++ (operatorOf segment).suffix = segment) : fieldWords segment = front :=
  List.append_cancel_right ((fieldWords_append segment).trans whole.symm)

theorem mem_suffixed {operator : Operator} : operator ∈ suffixed ↔ operator ≠ .equals := by
  cases operator <;> decide

/-- Words that are no operator as a whole leave the operator of what follows. -/
theorem operatorOf_cons {word : Text} {segment : List Text}
    (notWhole : ∀ operator ∈ suffixed, operator.suffix ≠ word :: segment) :
    operatorOf (word :: segment) = operatorOf segment := by
  by_cases plain : operatorOf segment = .equals
  · rw [plain]
    apply operatorOf_eq_equals
    intro operator isSuffixed ends
    rcases List.suffix_cons_iff.mp ends with whole | inside
    · exact notWhole operator isSuffixed whole
    · rw [operatorOf_eq isSuffixed inside] at plain
      exact mem_suffixed.mp isSuffixed plain
  · have inside := suffix_operatorOf segment
    exact operatorOf_eq (mem_suffixed.mpr plain) (inside.trans (List.suffix_cons word segment))

theorem fieldWords_cons {word : Text} {segment : List Text}
    (notWhole : ∀ operator ∈ suffixed, operator.suffix ≠ word :: segment) :
    fieldWords (word :: segment) = word :: fieldWords segment := by
  apply fieldWords_eq
  rw [operatorOf_cons notWhole, List.cons_append, fieldWords_append]

end Finder

end DialectSql
