import DialectSql.Proofs.Compiler.PageCap
import DialectSql.Proofs.Json.WritableValues
import DialectSql.Proofs.Number.ParameterNumerals

/-!
# Pages that Requests Ask For

Two parameters of a request name the page that is wanted.  The value of either may be of any kind;
it asks for a whole number, it asks for the usual one, or it is at fault.

The main statement tells what becomes of every request under a configuration.  If both parameters
ask for numbers that make a page, the request gets this page, with its rows cut to the maximum; else
it is refused for the first thing that is wrong.  Further values of the two parameters do not count,
nor do other parameters.

What is wrong is shown in the words of the error.  A number with too many digits cannot be shown,
and then this is what is reported in place of the mistake.
-/

namespace DialectSql

/-- The whole part of a finite number is that of its magnitude, with its sign. -/
theorem Number.Binary64.truncate?_finite (negative : Bool) (significand : Nat) (exponent : Int) :
    truncate? (.finite negative significand exponent) =
      some (if negative then -(⌊(significand : ℚ) * 2 ^ exponent⌋₊ : Int)
        else ⌊(significand : ℚ) * 2 ^ exponent⌋₊) := by
  have whole : significand * power 2 exponent / power 2 (-exponent) =
      ⌊(significand : ℚ) * 2 ^ exponent⌋₊ := by
    obtain ⟨count, rfl | rfl⟩ := exponent.eq_nat_or_neg
    · have scaled : (significand : ℚ) * 2 ^ (count : Int) = (significand * 2 ^ count : Nat) := by
        push_cast
        rfl
      rw [scaled, Nat.floor_natCast]
      simp [power]
    · have scaled : (significand : ℚ) * 2 ^ (-(count : Int)) = significand / (2 ^ count : Nat) := by
        rw [zpow_neg, zpow_natCast, div_eq_mul_inv]
        push_cast
        rfl
      rw [scaled, Nat.floor_div_eq_div]
      simp [power]
  rw [truncate?, whole]

namespace Parameters

/-! ## Values of parameters -/

/-- The whole number that the value of a parameter asks for: the usual one if it is null or empty,
and else the one that it denotes.  The fraction of a number is cut off. -/
inductive AsksFor (usual : Int) : Json → Int → Prop
  | null : AsksFor usual .null usual
  | empty : AsksFor usual (.str []) usual
  | integer (number : Int) : AsksFor usual (.int number) number
  | flag (flag : Bool) : AsksFor usual (.bool flag) (if flag then 1 else 0)
  | fraction (negative : Bool) (significand : Nat) (exponent : Int) :
    AsksFor usual (.float (.finite negative significand exponent))
      (if negative then -⌊(significand : ℚ) * 2 ^ exponent⌋₊
        else ⌊(significand : ℚ) * 2 ^ exponent⌋₊)
  | text {text : Text} {number : Int} (denotes : Number.Denotes text number) :
    AsksFor usual (.str text) number

/-- What is reported of the value of a parameter that asks for no number: an infinite one is a fault
of its own, and one that holds a number with too many digits cannot be shown. -/
inductive ValueFault (name : Text) (usual : Int) : Json → Failure → Prop
  | infinite (negative : Bool) :
    ValueFault name usual (.float (.infinite negative)) .infiniteParameter
  | notInteger {value : Json} (finite : ∀ negative, value ≠ .float (.infinite negative))
    (nothing : ∀ number, ¬AsksFor usual value number) (short : ¬value.Overlong) :
    ValueFault name usual value (.refused (.parameterNotInteger name value))
  | overlong {value : Json} (nothing : ∀ number, ¬AsksFor usual value number)
    (long : value.Overlong) : ValueFault name usual value (.refused .numeralTooLong)

/-- The whole number that is read from the value of a parameter. -/
def requested (name : Text) (usual : Int) : Json → Except Failure Int
  | .null => .ok usual
  | .str [] => .ok usual
  | value => integerOf name value

variable {parameters : Parameters} {name : Text} {usual number : Int} {value : Json}
  {failure : Failure}

theorem map_getD_integer? (parameters : Parameters) (name : Text) (usual : Int) :
    (·.getD usual) <$> parameters.integer? name =
      requested name usual (parameters.firstValue name) := by
  rw [integer?]
  cases parameters.firstValue name with
  | null => rfl
  | str text =>
    cases text with
    | nil => rfl
    | cons point text => simp [requested, Functor.map_map]
  | _ => simp [requested, Functor.map_map]

theorem requested_of_asksFor (asks : AsksFor usual value number) :
    requested name usual value = .ok number := by
  cases asks with
  | null | empty | integer | flag => rfl
  | fraction negative significand exponent =>
    simp [requested, integerOf, Number.Binary64.truncate?_finite]
  | @text text number denotes =>
    obtain ⟨point, others, rfl⟩ := List.exists_cons_of_ne_nil denotes.ne_nil
    simp [requested, integerOf, Number.ofParameter?_eq_some.mpr denotes]

/-- A value of which no number is read asks for none; unless it is infinite, this is reported where
the value can be shown. -/
theorem valueFault_of_unread (finite : ∀ negative, value ≠ .float (.infinite negative))
    (unread : requested name usual value = .error failure) :
    ValueFault name usual value (.refused (Error.parameterNotInteger name value).raised) := by
  have nothing (number : Int) : ¬AsksFor usual value number := by
    intro asks
    rw [requested_of_asksFor asks] at unread
    cases unread
  cases shown : value.isWritable with
  | true =>
    rw [Error.raised_of_isWritable (by rwa [Error.isWritable])]
    exact .notInteger finite nothing (Json.isWritable_eq_true_iff.mp shown)
  | false =>
    rw [Error.raised_of_not_isWritable (by rwa [Error.isWritable])]
    exact .overlong nothing (Json.isWritable_eq_false_iff.mp shown)

/-- What is read of a value is the number that it asks for, or else its fault. -/
theorem requested_spec (name : Text) (usual : Int) (value : Json) :
    (∃ number, requested name usual value = .ok number ∧ AsksFor usual value number) ∨
      ∃ failure, requested name usual value = .error failure ∧
        ValueFault name usual value failure := by
  cases value with
  | null => exact .inl ⟨usual, rfl, .null⟩
  | bool flag => exact .inl ⟨_, rfl, .flag flag⟩
  | int number => exact .inl ⟨number, rfl, .integer number⟩
  | float number =>
    cases number with
    | finite negative significand exponent =>
      have asks : AsksFor usual _ _ := .fraction negative significand exponent
      exact .inl ⟨_, requested_of_asksFor asks, asks⟩
    | infinite negative => exact .inr ⟨_, rfl, .infinite negative⟩
    | notANumber => exact .inr ⟨_, rfl, valueFault_of_unread (by simp) rfl⟩
  | str text =>
    cases text with
    | nil => exact .inl ⟨usual, rfl, .empty⟩
    | cons point others =>
      cases read : Number.ofParameter? (point :: others) with
      | some number =>
        have asks : AsksFor usual _ _ := .text (Number.ofParameter?_eq_some.mp read)
        exact .inl ⟨number, requested_of_asksFor asks, asks⟩
      | none =>
        have unread : requested name usual (.str (point :: others)) =
            .error (.refused (Error.parameterNotInteger name (.str (point :: others))).raised) := by
          simp [requested, integerOf, read]
        exact .inr ⟨_, unread, valueFault_of_unread (by simp) unread⟩
  | arr items => exact .inr ⟨_, rfl, valueFault_of_unread (by simp) rfl⟩
  | obj members => exact .inr ⟨_, rfl, valueFault_of_unread (by simp) rfl⟩

theorem requested_eq_ok :
    requested name usual value = .ok number ↔ AsksFor usual value number := by
  refine ⟨fun read ↦ ?_, requested_of_asksFor⟩
  obtain ⟨other, found, asks⟩ | ⟨failure, unread, -⟩ := requested_spec name usual value
  · rwa [Except.ok.inj (read.symm.trans found)]
  · rw [read] at unread
    cases unread

theorem requested_eq_error :
    requested name usual value = .error failure ↔ ValueFault name usual value failure := by
  constructor
  · intro unread
    obtain ⟨number, read, -⟩ | ⟨other, found, fault⟩ := requested_spec name usual value
    · rw [read] at unread
      cases unread
    · rwa [Except.error.inj (unread.symm.trans found)]
  · intro fault
    cases fault with
    | infinite negative => rfl
    | notInteger finite nothing short =>
      obtain ⟨number, -, asks⟩ | ⟨other, found, otherFault⟩ := requested_spec name usual value
      · exact absurd asks (nothing number)
      · cases otherFault with
        | infinite negative => exact absurd rfl (finite negative)
        | notInteger => exact found
        | overlong _ long => exact absurd long short
    | overlong nothing long =>
      obtain ⟨number, -, asks⟩ | ⟨other, found, otherFault⟩ := requested_spec name usual value
      · exact absurd asks (nothing number)
      · cases otherFault with
        | infinite negative => exact absurd long (Json.not_overlong_float _)
        | notInteger _ _ short => exact absurd long short
        | overlong => exact found

/-! ## Plain wishes -/

/-- The ways to pass a natural number: as a number, or as its decimal numeral, with a plus sign,
zeros and white space around it or without them, that is not too long. -/
inductive Passes (count : Nat) : Json → Prop
  | number : Passes count (.int count)
  | decimal {before sign after : Text} (zeros : Nat)
    (spaceBefore : ∀ point ∈ before, Text.isWhiteSpace point = true)
    (isSign : Number.IsSign sign false) (short : zeros + count.repr.length ≤ Number.maxDigits)
    (spaceAfter : ∀ point ∈ after, Text.isWhiteSpace point = true) :
    Passes count (.str (before ++
      (sign ++ (List.replicate zeros (CodePoint.char '0') ++ count.repr) ++ after)))

/-- The parameter is absent or has nothing for its value. -/
inductive Unset (parameters : Parameters) (name : Text) : Prop
  | absent (entry : parameters.lookup name = none)
  | null (entry : parameters.lookup name = some .null)
  | emptyText (entry : parameters.lookup name = some (.str []))
  | emptyList (entry : parameters.lookup name = some (.arr []))

/-- The parameter passes a natural number, by its only value or by the first one of several. -/
inductive Carries (parameters : Parameters) (name : Text) (count : Nat) : Prop
  | alone {value : Json} (entry : parameters.lookup name = some value) (passes : Passes count value)
  | first {value : Json} {others : List Json}
    (entry : parameters.lookup name = some (.arr (value :: others))) (passes : Passes count value)

/-- A parameter wishes for a number: the usual one where it is unset, and else a natural number. -/
inductive Wishes (parameters : Parameters) (name : Text) (usual : Int) : Int → Prop
  | usual (unset : parameters.Unset name) : Wishes parameters name usual usual
  | number {count : Nat} (carries : parameters.Carries name count) :
    Wishes parameters name usual count

theorem Passes.asksFor {count : Nat} (passes : Passes count value) : AsksFor usual value count := by
  cases passes with
  | number => exact .integer count
  | decimal zeros spaceBefore isSign short spaceAfter =>
    exact .text (Number.denotes_decimal zeros count spaceBefore isSign short spaceAfter)

theorem Unset.asksFor (unset : parameters.Unset name) :
    AsksFor usual (parameters.firstValue name) usual := by
  unfold firstValue
  cases unset with
  | absent entry | null entry | emptyList entry => simpa only [entry] using .null
  | emptyText entry => simpa only [entry] using .empty

theorem Carries.asksFor {count : Nat} (carries : parameters.Carries name count) :
    AsksFor usual (parameters.firstValue name) count := by
  unfold firstValue
  cases carries with
  | first entry passes => simpa only [entry] using passes.asksFor
  | alone entry passes =>
    rw [entry]
    cases passes with
    | number => exact Passes.number.asksFor
    | decimal zeros spaceBefore isSign short spaceAfter =>
      exact (Passes.decimal zeros spaceBefore isSign short spaceAfter).asksFor

theorem Wishes.asksFor (wishes : parameters.Wishes name usual number) :
    AsksFor usual (parameters.firstValue name) number := by
  cases wishes with
  | usual unset => exact unset.asksFor
  | number carries => exact carries.asksFor

theorem Wishes.nonneg (wishes : parameters.Wishes name 0 number) : 0 ≤ number := by
  cases wishes with
  | usual => exact le_rfl
  | number => exact Int.natCast_nonneg _

end Parameters

/-! ## Pages of requests -/

/-- What keeps a request from getting a page: a fault of the first parameter, or one of the second
if the first asks for a number, or the bounds of the page that both ask for.  A number out of bounds
that has too many digits cannot be named. -/
inductive PagingPolicy.PageFault (policy : PagingPolicy) (parameters : Parameters) : Failure → Prop
  | offset {failure : Failure}
    (fault : Parameters.ValueFault "offset" 0 (parameters.firstValue "offset") failure) :
    PageFault policy parameters failure
  | limit {start : Int} {failure : Failure}
    (asksStart : Parameters.AsksFor 0 (parameters.firstValue "offset") start)
    (fault : Parameters.ValueFault "limit" policy.pageSize (parameters.firstValue "limit")
      failure) :
    PageFault policy parameters failure
  | bounds {start rows : Int} {error : Error}
    (asksStart : Parameters.AsksFor 0 (parameters.firstValue "offset") start)
    (asksRows : Parameters.AsksFor policy.pageSize (parameters.firstValue "limit") rows)
    (fault : Limit.BoundFault ⟨start, rows⟩ error) (named : error.isWritable = true) :
    PageFault policy parameters (.refused error)
  | overlongBounds {start rows : Int} {error : Error}
    (asksStart : Parameters.AsksFor 0 (parameters.firstValue "offset") start)
    (asksRows : Parameters.AsksFor policy.pageSize (parameters.firstValue "limit") rows)
    (fault : Limit.BoundFault ⟨start, rows⟩ error) (unnamed : error.isWritable = false) :
    PageFault policy parameters (.flawed [⟨[], .oversizedNumber⟩])

/-- A request is refused with an invalid statement, unless a parameter is an infinite number, or a
number with too many digits keeps the mistake from being shown: one that stands in a value, or one
below zero that a parameter asks for. -/
theorem PagingPolicy.PageFault.invalid_or_unshown {policy : PagingPolicy}
    {parameters : Parameters} {failure : Failure} (fault : policy.PageFault parameters failure) :
    (∃ error, failure = .refused error ∧ error.errorClass = .invalidStatement) ∨
      (failure = .infiniteParameter ∧ ∃ negative,
        parameters.firstValue "offset" = .float (.infinite negative) ∨
          parameters.firstValue "limit" = .float (.infinite negative)) ∨
      (failure = .refused .numeralTooLong ∧
        ((parameters.firstValue "offset").Overlong ∨ (parameters.firstValue "limit").Overlong)) ∨
      failure = .flawed [⟨[], .oversizedNumber⟩] ∧ ∃ number,
        10 ^ Number.maxDigits ≤ -number ∧
        (Parameters.AsksFor 0 (parameters.firstValue "offset") number ∨
          Parameters.AsksFor policy.pageSize (parameters.firstValue "limit") number) := by
  cases fault with
  | offset fault =>
    generalize parameters.firstValue "offset" = value at fault
    cases fault with
    | infinite negative => exact .inr (.inl ⟨rfl, negative, .inl rfl⟩)
    | notInteger => exact .inl ⟨_, rfl, rfl⟩
    | overlong nothing long => exact .inr (.inr (.inl ⟨rfl, .inl long⟩))
  | limit asksStart fault =>
    generalize parameters.firstValue "limit" = value at fault
    cases fault with
    | infinite negative => exact .inr (.inl ⟨rfl, negative, .inr rfl⟩)
    | notInteger => exact .inl ⟨_, rfl, rfl⟩
    | overlong nothing long => exact .inr (.inr (.inl ⟨rfl, .inr long⟩))
  | bounds asksStart asksRows fault named =>
    cases fault with
    | start | rows => exact .inl ⟨_, rfl, rfl⟩
  | overlongBounds asksStart asksRows fault unnamed =>
    refine .inr (.inr (.inr ⟨rfl, ?_⟩))
    cases fault with
    | start negative =>
      exact ⟨_, Number.le_neg_of_not_isWritable negative.le unnamed, .inl asksStart⟩
    | rows inside empty =>
      exact ⟨_, Number.le_neg_of_not_isWritable empty unnamed, .inr asksRows⟩

namespace UncheckedPaging

variable (policy : PagingPolicy) (parameters : Parameters)

theorem ofRows_int (start rows : Int) :
    Limit.ofRows start (.int rows) = .ofExcept (Limit.checkBounds ⟨start, rows⟩) := by
  rfl

theorem outcome_resolveLimit (limit : Limit) :
    (policy.unchecked.resolveLimit (some limit)).outcome =
      .ok (limit.clamp policy.pageSizeMax).loose := by
  by_cases more : policy.pageSizeMax < limit.rows
  · have exceeded : limit.exceeded? policy.unchecked.pageSizeMax = some policy.pageSizeMax :=
      Option.filter_some_pos (decide_eq_true more)
    rw [resolveLimit, exceeded, Limit.clamp, if_neg (not_le.mpr more)]
    simp only [Traced.outcome_bind, Limit.outcome_tellClamped, Limit.cut, exceeded]
    rfl
  · have inside : limit.exceeded? policy.unchecked.pageSizeMax = none :=
      Option.filter_some_neg (by simpa using more)
    rw [resolveLimit, inside, Limit.clamp, if_pos (not_lt.mp more)]
    rfl

theorem outcome_limitFrom :
    (policy.unchecked.limitFrom parameters).outcome = do
      let start ← Parameters.requested "offset" 0 (parameters.firstValue "offset")
      let rows ← Parameters.requested "limit" policy.pageSize (parameters.firstValue "limit")
      let limit ← (Intake.Checked.ofExcept (Limit.checkBounds ⟨start, rows⟩)).result
      return (limit.clamp policy.pageSizeMax).loose := by
  rw [← Parameters.map_getD_integer?, ← Parameters.map_getD_integer?]
  simp only [limitFrom, Traced.outcome_bind, Traced.outcome_ofExcept, outcome_resolveLimit,
    bind_map_left]
  congr 1
  funext start
  congr 1
  funext rows
  have given : (rows.map Json.int).getD policy.unchecked.pageSize =
      .int (rows.getD policy.pageSize) := by
    cases rows <;> rfl
  rw [given, ofRows_int]
  rfl

theorem result_checkBounds_eq_ok {page result : Limit} :
    (Intake.Checked.ofExcept page.checkBounds).result = .ok result ↔
      page = result ∧ page.Valid := by
  rw [← Limit.checkBounds_eq_ok, ← Intake.Checked.ofExcept_eq_valid]
  cases Intake.Checked.ofExcept page.checkBounds <;> simp [Intake.Checked.result]

/-- A page that is out of bounds is refused for the number that is wrong; if this cannot be named,
the page is flawed. -/
theorem result_checkBounds_eq_error {page : Limit} {failure : Failure} :
    (Intake.Checked.ofExcept page.checkBounds).result = .error failure ↔
      ∃ error, page.BoundFault error ∧
        (if error.isWritable then .refused error else .flawed [⟨[], .oversizedNumber⟩]) =
          failure := by
  constructor
  · intro failed
    cases checked : page.checkBounds with
    | ok result =>
      rw [checked] at failed
      cases failed
    | error met =>
      obtain ⟨error, fault, rfl⟩ := Limit.checkBounds_eq_error.mp checked
      refine ⟨error, fault, ?_⟩
      rw [checked] at failed
      cases named : error.isWritable with
      | true =>
        rw [Error.raised_of_isWritable named] at failed
        cases fault <;> exact Except.error.inj failed
      | false =>
        rw [Error.raised_of_not_isWritable named] at failed
        exact Except.error.inj failed
  · rintro ⟨error, fault, rfl⟩
    rw [Limit.checkBounds_eq_error.mpr ⟨error, fault, rfl⟩]
    cases named : error.isWritable with
    | true =>
      rw [Error.raised_of_isWritable named]
      cases fault <;> rfl
    | false =>
      rw [Error.raised_of_not_isWritable named]
      rfl

/-- A request gets a page if and only if both parameters ask for numbers that make one. -/
theorem limitFrom_eq_ok {served : LoosePage} :
    (policy.unchecked.limitFrom parameters).outcome = .ok served ↔
      ∃ page : Limit, Parameters.AsksFor 0 (parameters.firstValue "offset") page.start ∧
        Parameters.AsksFor policy.pageSize (parameters.firstValue "limit") page.rows ∧
        page.Valid ∧ served = (page.clamp policy.pageSizeMax).loose := by
  rw [outcome_limitFrom]
  constructor
  · intro succeeded
    obtain ⟨start, readStart, succeeded⟩ := Outcome.ok_of_bind succeeded
    obtain ⟨rows, readRows, succeeded⟩ := Outcome.ok_of_bind succeeded
    obtain ⟨page, checked, succeeded⟩ := Outcome.ok_of_bind succeeded
    obtain ⟨rfl, inside⟩ := result_checkBounds_eq_ok.mp checked
    exact ⟨⟨start, rows⟩, Parameters.requested_eq_ok.mp readStart,
      Parameters.requested_eq_ok.mp readRows, inside, (Except.ok.inj succeeded).symm⟩
  · rintro ⟨page, asksStart, asksRows, inside, rfl⟩
    rw [Parameters.requested_eq_ok.mpr asksStart, Parameters.requested_eq_ok.mpr asksRows]
    exact congrArg (· >>= fun limit ↦ .ok (limit.clamp policy.pageSizeMax).loose)
      (result_checkBounds_eq_ok.mpr ⟨rfl, inside⟩)

/-- A request is refused for the first thing that is wrong with it. -/
theorem limitFrom_eq_error {failure : Failure} :
    (policy.unchecked.limitFrom parameters).outcome = .error failure ↔
      policy.PageFault parameters failure := by
  rw [outcome_limitFrom]
  constructor
  · intro failed
    obtain failed | ⟨start, readStart, failed⟩ := Outcome.error_of_bind failed
    · exact .offset (Parameters.requested_eq_error.mp failed)
    have asksStart := Parameters.requested_eq_ok.mp readStart
    obtain failed | ⟨rows, readRows, failed⟩ := Outcome.error_of_bind failed
    · exact .limit asksStart (Parameters.requested_eq_error.mp failed)
    obtain failed | ⟨page, -, failed⟩ := Outcome.error_of_bind failed
    · obtain ⟨error, fault, rfl⟩ := result_checkBounds_eq_error.mp failed
      split
      · exact .bounds asksStart (Parameters.requested_eq_ok.mp readRows) fault ‹_›
      · exact .overlongBounds asksStart (Parameters.requested_eq_ok.mp readRows) fault
          (Bool.eq_false_of_not_eq_true ‹_›)
    · cases failed
  · intro fault
    cases fault with
    | offset fault =>
      rw [Parameters.requested_eq_error.mpr fault]
      rfl
    | limit asksStart fault =>
      rw [Parameters.requested_eq_ok.mpr asksStart, Parameters.requested_eq_error.mpr fault]
      rfl
    | bounds asksStart asksRows fault named =>
      rw [Parameters.requested_eq_ok.mpr asksStart, Parameters.requested_eq_ok.mpr asksRows]
      exact congrArg (· >>= fun limit ↦ .ok (limit.clamp policy.pageSizeMax).loose)
        (result_checkBounds_eq_error.mpr ⟨_, fault, if_pos named⟩)
    | overlongBounds asksStart asksRows fault unnamed =>
      rw [Parameters.requested_eq_ok.mpr asksStart, Parameters.requested_eq_ok.mpr asksRows]
      exact congrArg (· >>= fun limit ↦ .ok (limit.clamp policy.pageSizeMax).loose)
        (result_checkBounds_eq_error.mpr ⟨_, fault, if_neg (Bool.eq_false_iff.mp unnamed)⟩)

end UncheckedPaging

/-- The first values of two parameters settle what becomes of a request under a configuration.
Either the request gets the page that they ask for, with its rows cut to the maximum; this page can
be asked for and has no more rows than the maximum.  Or the request is refused for the first thing
that is wrong; this is reported as an invalid statement, unless one of the values is infinite, or a
number with too many digits keeps the mistake from being shown.  Where neither parameter is set, the
page is the first one of the usual size; and parameters that are unset, or pass natural numbers of
which the second is positive, always get their page. -/
theorem Settings.limitFrom_served_or_refused (settings : Settings) (parameters : Parameters) :
    (∀ others : Parameters, others.firstValue "offset" = parameters.firstValue "offset" →
      others.firstValue "limit" = parameters.firstValue "limit" →
      settings.paging.unchecked.limitFrom others =
        settings.paging.unchecked.limitFrom parameters) ∧
    (∀ served, (settings.paging.unchecked.limitFrom parameters).outcome = .ok served ↔
      ∃ page : Limit, Parameters.AsksFor 0 (parameters.firstValue "offset") page.start ∧
        Parameters.AsksFor settings.pageSize (parameters.firstValue "limit") page.rows ∧
        page.Valid ∧ served = Limit.loose ⟨page.start, min page.rows settings.pageSizeMax⟩) ∧
    (∀ failure, (settings.paging.unchecked.limitFrom parameters).outcome = .error failure ↔
      settings.paging.PageFault parameters failure) ∧
    (∀ served, (settings.paging.unchecked.limitFrom parameters).outcome = .ok served →
      ∃ page : Limit, served = page.loose ∧ page.Valid ∧ page.rows ≤ settings.pageSizeMax) ∧
    (∀ failure, (settings.paging.unchecked.limitFrom parameters).outcome = .error failure →
      (∃ error, failure = .refused error ∧ error.errorClass = .invalidStatement) ∨
      (failure = .infiniteParameter ∧ ∃ negative,
        parameters.firstValue "offset" = .float (.infinite negative) ∨
          parameters.firstValue "limit" = .float (.infinite negative)) ∨
      (failure = .refused .numeralTooLong ∧
        ((parameters.firstValue "offset").Overlong ∨ (parameters.firstValue "limit").Overlong)) ∨
      failure = .flawed [⟨[], .oversizedNumber⟩] ∧ ∃ number,
        10 ^ Number.maxDigits ≤ -number ∧
        (Parameters.AsksFor 0 (parameters.firstValue "offset") number ∨
          Parameters.AsksFor settings.pageSize (parameters.firstValue "limit") number)) ∧
    (parameters.Unset "offset" → parameters.Unset "limit" →
      (settings.paging.unchecked.limitFrom parameters).outcome =
        .ok (Limit.loose ⟨0, settings.pageSize⟩)) ∧
    ∀ start rows, parameters.Wishes "offset" 0 start →
      parameters.Wishes "limit" settings.pageSize rows → 1 ≤ rows →
      (settings.paging.unchecked.limitFrom parameters).outcome =
        .ok (Limit.loose ⟨start, min rows settings.pageSizeMax⟩) := by
  have servedIff (served : LoosePage) :
      (settings.paging.unchecked.limitFrom parameters).outcome = .ok served ↔
        ∃ page : Limit, Parameters.AsksFor 0 (parameters.firstValue "offset") page.start ∧
          Parameters.AsksFor settings.pageSize (parameters.firstValue "limit") page.rows ∧
          page.Valid ∧ served = Limit.loose ⟨page.start, min page.rows settings.pageSizeMax⟩ := by
    rw [UncheckedPaging.limitFrom_eq_ok]
    simp only [Limit.clamp_eq]
    rfl
  have wished {start rows : Int} (wishesStart : parameters.Wishes "offset" 0 start)
      (wishesRows : parameters.Wishes "limit" settings.pageSize rows) (oneRow : 1 ≤ rows) :
      (settings.paging.unchecked.limitFrom parameters).outcome =
        .ok (Limit.loose ⟨start, min rows settings.pageSizeMax⟩) :=
    (servedIff _).mpr ⟨⟨start, rows⟩, wishesStart.asksFor, wishesRows.asksFor,
      ⟨wishesStart.nonneg, oneRow⟩, rfl⟩
  refine ⟨fun others sameOffset sameLimit ↦ ?_, servedIff, fun failure ↦ ?_,
    fun served found ↦ ?_, fun failure failed ↦ ?_, fun noOffset noLimit ↦ ?_,
    fun start rows ↦ wished⟩
  · unfold UncheckedPaging.limitFrom Parameters.integer?
    rw [sameOffset, sameLimit]
  · exact UncheckedPaging.limitFrom_eq_error _ _
  · obtain ⟨page, -, -, inside, rfl⟩ := (servedIff served).mp found
    exact ⟨_, rfl, ⟨inside.1, le_min inside.2 settings.one_le_pageSizeMax⟩, min_le_right _ _⟩
  · exact ((UncheckedPaging.limitFrom_eq_error _ _).mp failed).invalid_or_unshown
  · have usualPage := wished (.usual noOffset) (.usual noLimit) settings.one_le_pageSize
    rwa [min_eq_left settings.pageSize_le_max] at usualPage

/-- A request for more rows than a page may have, whose first row is spelled with a space, a sign
and zeros, and comes with a second value. -/
def spelledRequest : Parameters :=
  [("offset", .arr [.str " +0050", .str "x"]), ("limit", .int 1000)]

/-- The spelled request gets its page with fewer rows, with further parameters too; a request
without parameters gets the first page, and one with two mistakes is refused for the first of
them. -/
theorem Settings.limitFrom_trial :
    let policy := unconfigured.paging.unchecked
    let mistaken : Parameters := [("limit", .float (.infinite false)), ("offset", .str "x")]
    (policy.limitFrom spelledRequest).outcome = .ok (Limit.loose ⟨50, 500⟩) ∧
      (∃ page : Limit, Limit.loose ⟨50, 500⟩ = page.loose ∧ page.Valid ∧ page.rows ≤ 500) ∧
      policy.limitFrom (("sort", .str "name") :: spelledRequest) =
        policy.limitFrom spelledRequest ∧
      (policy.limitFrom []).outcome = .ok (Limit.loose ⟨0, 25⟩) ∧
      (policy.limitFrom mistaken).outcome =
        .error (.refused (.parameterNotInteger "offset" (.str "x"))) := by
  intro policy mistaken
  obtain ⟨others, -, -, legal, -, -, wished⟩ :=
    unconfigured.limitFrom_served_or_refused spelledRequest
  obtain ⟨-, -, -, -, -, usualPage, -⟩ := unconfigured.limitFrom_served_or_refused []
  obtain ⟨-, -, refused, -, -, -, -⟩ := unconfigured.limitFrom_served_or_refused mistaken
  have numeral : Parameters.Passes 50 (.str " +0050") :=
    @Parameters.Passes.decimal 50 " " "+" "" 2 (by decide) .plus (by decide) (by decide)
  have served := wished 50 1000 (.number (.first rfl numeral)) (.number (.alone rfl .number))
    (by decide)
  have notInteger : Parameters.ValueFault "offset" 0 (.str "x")
      (.refused (.parameterNotInteger "offset" (.str "x"))) :=
    Parameters.requested_eq_error.mp rfl
  exact ⟨served, legal _ served, others _ rfl rfl, usualPage (.absent rfl) (.absent rfl),
    (refused _).mpr (.offset notInteger)⟩

/-- A natural number is not passed by its numeral behind whatever counts as white space elsewhere,
and not every mistake is an invalid statement: a first row far below zero and a list with a number
far above it are reported in other ways, though neither value is infinite. -/
theorem Settings.limitFrom_fails_otherwise :
    let policy := unconfigured.paging.unchecked
    let spaced : Parameters := [("offset", .str "\x1c5")]
    let below : Parameters := [("offset", .int (-10 ^ Number.maxDigits))]
    let nested : Parameters := [("offset", .arr [.arr [.int (10 ^ Number.maxDigits)]])]
    (Text.strip "\x1c5" = "5" ∧
      (policy.limitFrom spaced).outcome =
        .error (.refused (.parameterNotInteger "offset" (.str "\x1c5")))) ∧
      (policy.limitFrom below).outcome = .error (.flawed [⟨[], .oversizedNumber⟩]) ∧
      (policy.limitFrom nested).outcome = .error (.refused .numeralTooLong) ∧
      Error.numeralTooLong.errorClass ≠ .invalidStatement := by
  intro policy spaced below nested
  have unread : Parameters.ValueFault "offset" 0 (.str "\x1c5")
      (.refused (.parameterNotInteger "offset" (.str "\x1c5"))) :=
    Parameters.requested_eq_error.mp rfl
  have negative : (-10 ^ Number.maxDigits : Int) < 0 :=
    neg_neg_of_pos (pow_pos (by decide) _)
  have unnamed : (Error.negativeStart (-10 ^ Number.maxDigits)).isWritable = false := by
    rw [Error.isWritable, Number.isWritable_eq_false_iff]
    simp [Int.natAbs_neg, Int.natAbs_pow]
  have long : (Json.arr [.int (10 ^ Number.maxDigits)]).Overlong :=
    ⟨_, .item (List.mem_singleton_self _) .int, by simp [Int.natAbs_pow]⟩
  refine ⟨⟨by decide, ?_⟩, ?_, ?_, by decide⟩
  · exact (UncheckedPaging.limitFrom_eq_error _ _).mpr (.offset unread)
  · exact (UncheckedPaging.limitFrom_eq_error _ _).mpr
      (.overlongBounds (.integer _) .null (.start negative) unnamed)
  · exact (UncheckedPaging.limitFrom_eq_error _ _).mpr (.offset (.overlong nofun long))

end DialectSql
