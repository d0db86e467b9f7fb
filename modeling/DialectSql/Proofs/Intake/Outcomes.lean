import DialectSql.Intake.Record

/-!
# Outcomes of Reading

How the outcome of a record follows from those of its fields.  A record is valid if all its fields
are valid and nothing else is in the data.  It is refused for the reason of the first field that is
refused.  What is neither valid nor refused has at least one issue.
-/

namespace DialectSql.Intake

namespace Checked

variable {α β : Type}

/-! ## Valid outcomes -/

theorem map_eq_valid {f : α → β} {part : Checked α} {result : β} :
    f <$> part = .valid result ↔ ∃ value, part = .valid value ∧ f value = result := by
  cases part <;> simp [Functor.map, Checked.map]

theorem seq_eq_valid {left : Checked (α → β)} {right : Checked α} {result : β} :
    left <*> right = .valid result ↔
      ∃ f value, left = .valid f ∧ right = .valid value ∧ f value = result := by
  cases left <;> cases right <;> simp [Seq.seq, Checked.both]

theorem map₂_eq_valid {γ : Type} {f : α → β → γ} {first : Checked α} {second : Checked β}
    {result : γ} :
    f <$> first <*> second = .valid result ↔
      ∃ left right, first = .valid left ∧ second = .valid right ∧ f left right = result := by
  cases first <;> cases second <;> simp [Functor.map, Checked.map, Seq.seq, Checked.both]

theorem under_eq_valid {step : Step} {part : Checked α} {value : α} :
    part.under step = .valid value ↔ part = .valid value := by
  cases part <;> simp [Checked.under]

theorem andThen_eq_valid {first : Checked α} {rule : α → Checked β} {result : β} :
    first.andThen rule = .valid result ↔
      ∃ value, first = .valid value ∧ rule value = .valid result := by
  cases first <;> simp [Checked.andThen]

theorem ofExcept_eq_valid {rule : Except Error α} {value : α} :
    ofExcept rule = .valid value ↔ rule = .ok value := by
  unfold ofExcept
  split <;> simp [issue]

/-- What is read under a rule for the whole is what the parts give, if it passes the rule. -/
theorem andThen_rule_eq_valid {part : Checked α} {rule : α → Except Error α} {Passes : α → Prop}
    {value : α} (passes : ∀ found result, rule found = .ok result ↔ found = result ∧ Passes found) :
    part.andThen (ofExcept ∘ rule) = .valid value ↔ part = .valid value ∧ Passes value := by
  simp only [andThen_eq_valid, Function.comp_apply, ofExcept_eq_valid, passes]
  constructor
  · rintro ⟨_, valid, rfl, passed⟩
    exact ⟨valid, passed⟩
  · rintro ⟨valid, passed⟩
    exact ⟨value, valid, rfl, passed⟩

/-! ## Refusals -/

/-- The error that refuses the data, if one does. -/
def refusal? : Checked α → Option Error
  | refused error => some error
  | _ => none

theorem refusal?_eq_some {outcome : Checked α} {error : Error} :
    outcome.refusal? = some error ↔ outcome = .refused error := by
  cases outcome <;> simp [refusal?]

@[simp]
theorem refusal?_map (f : α → β) (part : Checked α) : (f <$> part).refusal? = part.refusal? := by
  cases part <;> rfl

/-- Of two parts the left one refuses first. -/
@[simp]
theorem refusal?_seq (left : Checked (α → β)) (right : Checked α) :
    (left <*> right).refusal? = left.refusal?.or right.refusal? := by
  cases left <;> cases right <;> rfl

@[simp]
theorem refusal?_under (step : Step) (part : Checked α) :
    (part.under step).refusal? = part.refusal? := by
  cases part <;> rfl

/-- The errors of a rule refuse, apart from the one that could not be put into words. -/
theorem ofExcept_eq_refused {rule : Except Error α} {error : Error} :
    ofExcept rule = .refused error ↔ rule = .error error ∧ error ≠ .numeralTooLong := by
  unfold ofExcept
  split
  · simp
  · refine iff_of_false nofun ?_
    rintro ⟨⟨⟩, worded⟩
    exact worded rfl
  · rename_i worded
    simp only [refused.injEq, Except.error.injEq, iff_self_and]
    rintro rfl
    exact worded

/-- A rule for the whole refuses valid parts only. -/
theorem andThen_ofExcept_eq_refused {first : Checked α} {rule : α → Except Error β}
    {error : Error} :
    first.andThen (ofExcept ∘ rule) = .refused error ↔
      first.refusal? = some error ∨
        ∃ value, first = .valid value ∧ rule value = .error error ∧ error ≠ .numeralTooLong := by
  cases first with
  | valid value => simp [andThen, refusal?, ofExcept_eq_refused]
  | _ => simp [andThen, refusal?]

/-! ## Settled outcomes -/

/-- An outcome is a value, or it has issues, or it is refused for one of the given reasons. -/
inductive Settles (reasons : Error → Prop) : Checked α → Prop
  | valid (value : α) : Settles reasons (.valid value)
  | flawed (first : Issue) (others : List Issue) : Settles reasons (.flawed (first :: others))
  | refused {error : Error} (reason : reasons error) : Settles reasons (.refused error)

namespace Settles

variable {reasons : Error → Prop} {part : Checked α}

theorem issue (kind : IssueKind) : (issue kind : Checked α).Settles reasons :=
  .flawed ⟨[], kind⟩ []

theorem map (f : α → β) (settles : part.Settles reasons) : (f <$> part).Settles reasons := by
  cases settles with
  | valid value => exact .valid (f value)
  | flawed first others => exact .flawed first others
  | refused reason => exact .refused reason

theorem seq {left : Checked (α → β)} (leftSettles : left.Settles reasons)
    (settles : part.Settles reasons) : (left <*> part).Settles reasons := by
  cases leftSettles with
  | refused reason => exact .refused reason
  | valid f =>
    cases settles with
    | valid value => exact .valid (f value)
    | flawed first others => exact .flawed first others
    | refused reason => exact .refused reason
  | flawed first others =>
    cases settles with
    | valid value => exact .flawed first others
    | flawed more behind => exact .flawed first (others ++ more :: behind)
    | refused reason => exact .refused reason

theorem under (step : Step) (settles : part.Settles reasons) :
    (part.under step).Settles reasons := by
  cases settles with
  | valid value => exact .valid value
  | flawed first others => exact .flawed _ _
  | refused reason => exact .refused reason

theorem andThen {rule : α → Checked β} (settles : part.Settles reasons)
    (ruleSettles : ∀ value, (rule value).Settles reasons) :
    (part.andThen rule).Settles reasons := by
  cases settles with
  | valid value => exact ruleSettles value
  | flawed first others => exact .flawed first others
  | refused reason => exact .refused reason

theorem ofExcept (rule : Except Error α) : (ofExcept rule).Settles fun _ ↦ True := by
  unfold Checked.ofExcept
  split
  · exact .valid _
  · exact .issue .oversizedNumber
  · exact .refused trivial

/-- What is not refused is valid or has an issue. -/
theorem valid_or_flawed (settles : part.Settles reasons) (accepted : part.refusal? = none) :
    (∃ value, part = .valid value) ∨ ∃ issues, issues ≠ [] ∧ part = .flawed issues := by
  cases settles with
  | valid value => exact .inl ⟨value, rfl⟩
  | flawed first others => exact .inr ⟨_, List.cons_ne_nil first others, rfl⟩
  | refused reason => cases accepted

theorem refusal?_eq_none (settles : part.Settles fun _ ↦ False) : part.refusal? = none := by
  cases settles with
  | refused never => exact never.elim
  | _ => rfl

end Settles

end Checked

open Checked

/-! ## Single values -/

section
variable {α : Type} {reasons : Error → Prop} {read : Json → Checked α}

theorem settles_text (data : Json) : (text data).Settles reasons := by
  cases data with
  | str written => exact .valid written
  | _ => exact .issue .notText

theorem settles_spelled {written : Text} {reading : Text → Checked α}
    (settles : (reading written).Settles reasons) : (spelled written reading).Settles reasons := by
  unfold spelled
  split
  · exact .issue .loneSurrogate
  · exact settles

theorem settles_orNull (settles : ∀ data, (read data).Settles reasons) (data : Json) :
    (orNull read data).Settles reasons := by
  cases data with
  | null => exact .valid none
  | _ => exact (settles _).map some

theorem settles_integerOfFloat (value : Number.Binary64) :
    (integerOfFloat value).Settles reasons := by
  unfold integerOfFloat
  cases value.truncate? with
  | none => exact .issue .infiniteInteger
  | some whole =>
    dsimp only
    split
    · exact .issue .fractionalInteger
    · split
      · exact .valid whole
      · exact .issue .oversizedInteger

theorem settles_integerOfText (written : Text) : (integerOfText written).Settles reasons := by
  unfold integerOfText
  split
  · exact .valid _
  · exact .issue .unreadableInteger
  · exact .issue .oversizedInteger

theorem settles_integer (data : Json) : (integer data).Settles reasons := by
  cases data with
  | int value => exact .valid value
  | bool value => exact .valid _
  | float value => exact settles_integerOfFloat value
  | str written => exact settles_spelled (settles_integerOfText written)
  | _ => exact .issue .notInteger

theorem settles_booleanOfInteger (value : Int) : (booleanOfInteger value).Settles reasons := by
  unfold booleanOfInteger
  split
  · exact .valid false
  · split
    · exact .valid true
    · split
      · exact .issue .unreadableBoolean
      · exact .issue .notBoolean

theorem settles_boolean (data : Json) : (boolean data).Settles reasons := by
  cases data with
  | bool value => exact .valid value
  | int value => exact settles_booleanOfInteger value
  | float value =>
    rw [boolean, booleanOfFloat]
    split
    · exact settles_booleanOfInteger _
    · exact .issue .notBoolean
  | str written =>
    apply settles_spelled
    unfold booleanOfText
    cases booleanWord? written with
    | some value => exact .valid value
    | none => exact .issue .unreadableBoolean
  | _ => exact .issue .notBoolean

theorem settles_named (ofName? : Text → Option α) (data : Json) :
    (named ofName? data).Settles reasons := by
  cases data with
  | str written =>
    apply settles_spelled
    cases ofName? written with
    | some value => exact .valid value
    | none => exact .issue .notMember
  | _ => exact .issue .notMember

theorem settles_list (settles : ∀ data, (read data).Settles reasons) (data : Json) :
    (list read data).Settles reasons := by
  have items (index : Nat) (items : List Json) :
      (Checked.list read index items).Settles reasons := by
    induction items generalizing index with
    | nil => exact .valid []
    | cons item items ih => exact (((settles item).under _).map _).seq (ih _)
  cases data with
  | arr elements => exact items 0 elements
  | _ => exact .issue .notList

/-! ## Fields -/

variable {members : Members} {name : Text}

theorem settles_field (settles : ∀ data, (read data).Settles reasons) :
    (field members name read).Settles reasons := by
  unfold field
  split
  · exact (settles _).under _
  · exact .flawed _ []

theorem settles_fieldOr (absent : α) (settles : ∀ data, (read data).Settles reasons) :
    (fieldOr members name absent read).Settles reasons := by
  unfold fieldOr
  split
  · exact (settles _).under _
  · exact .valid absent

/-- A field is refused when its data is. -/
theorem refusal?_field :
    (field members name read).refusal? =
      (members.lookup name).bind fun data ↦ (read data).refusal? := by
  unfold field
  cases members.lookup name with
  | none => rfl
  | some data => exact refusal?_under _ _

theorem refusal?_fieldOr (absent : α) :
    (fieldOr members name absent read).refusal? =
      (members.lookup name).bind fun data ↦ (read data).refusal? := by
  unfold fieldOr
  cases members.lookup name with
  | none => rfl
  | some data => exact refusal?_under _ _

/-- A field has a value: its data is read as the value, or there is no data and the value is the one
that an absent field has. -/
def FieldHas (members : Members) (name : Text) (absent : Option α) (read : Json → Checked α)
    (value : α) : Prop :=
  match members.lookup name with
  | some data => read data = .valid value
  | none => absent = some value

theorem field_eq_valid {value : α} :
    field members name read = .valid value ↔ FieldHas members name none read value := by
  unfold field FieldHas
  cases members.lookup name with
  | none => simp
  | some data => exact under_eq_valid

theorem fieldOr_eq_valid {absent value : α} :
    fieldOr members name absent read = .valid value ↔
      FieldHas members name (some absent) read value := by
  unfold fieldOr FieldHas
  cases members.lookup name with
  | none => simp
  | some data => exact under_eq_valid

/-- A field that is present has the value that its data is read as. -/
theorem fieldHas_of_lookup {absent : Option α} {value : α} {data : Json}
    (entry : members.lookup name = some data) :
    FieldHas members name absent read value ↔ read data = .valid value := by
  rw [FieldHas, entry]

theorem FieldHas.of_lookup {absent : Option α} {value : α} {data : Json}
    (entry : members.lookup name = some data) (valid : read data = .valid value) :
    FieldHas members name absent read value :=
  (fieldHas_of_lookup entry).mpr valid

/-! ## Records -/

variable {fields : List Text} {outcome : Checked α}

/-- Data is of the given fields only. -/
def OnlyFields (members : Members) (fields : List Text) : Prop :=
  ∀ member ∈ members, member.1 ∈ fields

instance : Decidable (OnlyFields members fields) :=
  inferInstanceAs (Decidable (∀ member ∈ members, _))

theorem OnlyFields.of_names (inside : (members.map Prod.fst).all fields.contains = true) :
    OnlyFields members fields := by
  intro member mem
  have found := List.all_eq_true.mp inside member.1 (List.mem_map_of_mem mem)
  simpa using found

theorem noOthers_eq_valid : noOthers members fields = .valid () ↔ OnlyFields members fields := by
  unfold noOthers
  split
  · rename_i others
    simpa [OnlyFields] using others
  · rename_i others
    refine iff_of_false (by simp) fun only ↦ others ?_
    simpa [OnlyFields] using only

theorem settles_noOthers : (noOthers members fields).Settles reasons := by
  unfold noOthers
  split
  · exact .valid ()
  · rename_i others
    cases found : members.filter fun member ↦ !fields.contains member.1 with
    | nil => exact absurd found others
    | cons first rest => exact .flawed _ _

theorem settles_closed (settles : outcome.Settles reasons) :
    (closed members fields outcome).Settles reasons := by
  unfold closed
  split
  · exact settles
  · split
    · exact .issue .loneSurrogate
    · exact (settles.map _).seq settles_noOthers

theorem seqLeft_eq {β : Type} (others : Checked β) :
    outcome <* others = Function.const β <$> outcome <*> others := rfl

/-- What else is in the data refuses nothing. -/
@[simp]
theorem refusal?_closed : (closed members fields outcome).refusal? = outcome.refusal? := by
  unfold closed
  split
  · rfl
  · rename_i accepted
    have none : outcome.refusal? = none := by
      cases outcome with
      | refused error => exact absurd rfl (accepted error)
      | _ => rfl
    have others : (noOthers members fields).Settles fun _ ↦ False := settles_noOthers
    split
    · exact none.symm
    · rw [seqLeft_eq, refusal?_seq, refusal?_map, none, others.refusal?_eq_none]
      rfl

/-- A record is valid if its fields are and nothing else is in the data. -/
theorem closed_eq_valid (plain : ∀ name ∈ fields, name.hasHalf = false) {value : α} :
    closed members fields outcome = .valid value ↔
      outcome = .valid value ∧ OnlyFields members fields := by
  have withOthers : outcome <* noOthers members fields = .valid value ↔
      outcome = .valid value ∧ OnlyFields members fields := by
    rw [seqLeft_eq, seq_eq_valid, ← noOthers_eq_valid]
    constructor
    · rintro ⟨_, _, wrapped, none, same⟩
      obtain ⟨found, valid, rfl⟩ := map_eq_valid.mp wrapped
      obtain rfl : found = value := same
      exact ⟨valid, none⟩
    · rintro ⟨valid, none⟩
      exact ⟨_, _, map_eq_valid.mpr ⟨_, valid, rfl⟩, none, rfl⟩
  unfold closed
  split
  · simp
  · split
    · rename_i half
      refine iff_of_false (by simp [issue]) fun ⟨_, only⟩ ↦ ?_
      obtain ⟨member, mem, hasHalf⟩ := List.any_eq_true.mp half
      rw [plain member.1 (only member mem)] at hasHalf
      cases hasHalf
    · exact withOthers

end

end DialectSql.Intake
