import DialectSql.Proofs.Compiler.Runs
import DialectSql.Proofs.Json.WritableValues
import DialectSql.Proofs.Sql.Agreement

/-!
# Arguments of Finders

A finder takes its arguments from left to right.  The numbers of values are counted twice, first by
the finder, then by the dialect that writes the filter, and the two counts have to agree.

The main statement tells which numbers of arguments a finder takes, what the filter holds then, and
that every dialect that is always known writes the finder and binds the arguments in front of the
numbers of the page.  Surplus arguments, where they are tolerated, change nothing but the log.  What
can fail beyond the number of arguments is that an argument or a page has to be written that holds a
number with too many digits.
-/

namespace DialectSql

open Sql

/-- The field that an entry of a filter stands for, without its values. -/
def GroupedPredicate.field (item : GroupedPredicate) : Finder.FieldExpr :=
  ⟨item.predicate.column, item.predicate.operator, item.connector⟩

namespace Finder

/-- A finder takes exactly the arguments it needs, and more where surplus ones are tolerated. -/
def Accepts (finder : Finder) (strict : Bool) (given : Nat) : Prop :=
  given = finder.requiredArguments ∨ finder.requiredArguments < given ∧ strict = false

instance (finder : Finder) (strict : Bool) (given : Nat) :
    Decidable (finder.Accepts strict given) :=
  inferInstanceAs (Decidable (_ ∨ _))

/-- A filter holds arguments for a finder: its entries stand for the fields in order, and they
share out the arguments in order, each as many as its operator takes. -/
structure Holds (finder : Finder) (arguments : List Text) (group : PredicateGroup) : Prop where
  fields : group.items.map GroupedPredicate.field = finder.fields
  fitting : ∀ predicate ∈ group.predicates, predicate.values.length = predicate.operator.arity
  values : group.predicates.flatMap Predicate.values = arguments

/-! ## Sharing out arguments -/

section
variable (fields : List FieldExpr) (values : List Text)

theorem map_field_assign : (assign fields values).map GroupedPredicate.field = fields := by
  induction fields generalizing values with
  | nil => rfl
  | cons field fields ih => rw [assign, List.map_cons, ih, GroupedPredicate.field]

/-- The arguments that the fields take together are shared out, none is lost or taken twice. -/
theorem flatMap_assign :
    ((assign fields values).flatMap fun item ↦ item.predicate.values) =
      values.take (Operator.totalArity (fields.map FieldExpr.operator)) := by
  induction fields generalizing values with
  | nil => rfl
  | cons field fields ih =>
    let own := field.operator.arity
    let others := Operator.totalArity (fields.map FieldExpr.operator)
    calc ((assign (field :: fields) values).flatMap fun item ↦ item.predicate.values)
        = values.take own ++
            (assign fields (values.drop own)).flatMap fun item ↦ item.predicate.values :=
          List.flatMap_cons
      _ = values.take own ++ (values.drop own).take others := by rw [ih]
      _ = values.take (own + others) := List.take_add.symm

variable {fields values}

/-- Every field gets as many arguments as its operator takes if there are enough of them. -/
theorem length_values_assign
    (enough : Operator.totalArity (fields.map FieldExpr.operator) ≤ values.length) :
    ∀ item ∈ assign fields values,
      item.predicate.values.length = item.predicate.operator.arity := by
  induction fields generalizing values with
  | nil => simp [assign]
  | cons field fields ih =>
    rw [List.map_cons, Operator.totalArity] at enough
    rw [assign, List.forall_mem_cons]
    constructor
    · exact List.length_take_of_le (by omega)
    · apply ih
      rw [List.length_drop]
      omega

end

theorem Accepts.enough {finder : Finder} {strict : Bool} {given : Nat}
    (accepts : finder.Accepts strict given) : finder.requiredArguments ≤ given := by
  unfold Accepts at accepts
  omega

/-- The filter of a finder holds the values it is given if they are as many as it needs. -/
theorem holds_filterWith {finder : Finder} {values : List Text}
    (exact : values.length = finder.requiredArguments) :
    finder.Holds values (finder.filterWith values) where
  fields := map_field_assign finder.fields values
  fitting := List.forall_mem_map.mpr (length_values_assign exact.ge)
  values := by
    rw [PredicateGroup.predicates, List.flatMap_map]
    exact (flatMap_assign finder.fields values).trans (List.take_of_length_le exact.le)

/-! ## Consuming arguments -/

variable (finder : Finder) (table : Table) (arguments : List Json) (limit : Option Limit)
  (order : Option Order) (strict : Bool)

/-- The arguments that a finder needs. -/
def needed : List Json :=
  arguments.take finder.requiredArguments

/-- The values that a finder consumes: the arguments that it needs, in the form in which they are
shown. -/
def consumed : List Text :=
  (finder.needed arguments).map Json.display

theorem mapM_shown (values : List Json) :
    values.mapM Json.shown =
      if values.all Json.isWritable then .ok (values.map Json.display)
      else .error .numeralTooLong := by
  induction values with
  | nil => rfl
  | cons value values ih =>
    rw [List.mapM_cons, ih, Json.shown, List.all_cons]
    cases value.isWritable with
    | false => rfl
    | true => cases values.all Json.isWritable <;> rfl

variable {finder arguments} in
theorem consume_of_short (short : ∀ argument ∈ finder.needed arguments, ¬argument.Overlong) :
    finder.consume arguments = .ok (finder.consumed arguments) := by
  rw [consume, mapM_shown, if_pos]
  · rfl
  · exact List.all_eq_true.mpr fun argument mem ↦ Json.isWritable_eq_true_iff.mpr (short _ mem)

variable {finder arguments} in
theorem consume_of_long (long : ∃ argument ∈ finder.needed arguments, argument.Overlong) :
    finder.consume arguments = .error .numeralTooLong := by
  obtain ⟨argument, mem, overlong⟩ := long
  rw [consume, mapM_shown, if_neg]
  rw [List.all_eq_true]
  intro writable
  exact Json.isWritable_eq_true_iff.mp (writable argument mem) overlong

variable {finder arguments} in
theorem eq_consumed_of_consume {values : List Text}
    (consumes : finder.consume arguments = .ok values) : values = finder.consumed arguments := by
  rw [consume, mapM_shown] at consumes
  split at consumes
  · exact (Except.ok.inj consumes).symm
  · cases consumes

variable {finder arguments} in
theorem length_consumed (enough : finder.requiredArguments ≤ arguments.length) :
    (finder.consumed arguments).length = finder.requiredArguments := by
  rw [consumed, needed, List.length_map, List.length_take_of_le enough]

/-! ## Binding -/

theorem conditions_request (values : List Text) (page : Limit) :
    (finder.request table values page order).conditions = assign finder.fields values :=
  Select.conditions_of_group rfl rfl

theorem checkCount_eq (given : Nat) :
    finder.checkCount given strict =
      if finder.Accepts strict given then .ok ()
      else .error (.finder finder.descriptor
        (.argumentCount finder.requiredArguments given)) := by
  have refused : (given < finder.requiredArguments ∨
      strict = true ∧ finder.requiredArguments < given) ↔ ¬finder.Accepts strict given := by
    unfold Accepts
    grind
  unfold checkCount
  by_cases accepted : finder.Accepts strict given
  · rw [if_pos accepted]
    exact if_neg fun few ↦ refused.mp few accepted
  · rw [if_neg accepted]
    exact if_pos (refused.mpr accepted)

/-- The page of a finder, where the first page holds the given number of rows. -/
def pageFor (limit : Option Limit) (pageSize : Int) : Limit :=
  if finder.allRows then limit.getD ⟨0, pageSize⟩ else ⟨0, 1⟩

theorem pageOf_eq {pageSize : Int} (sized : 1 ≤ pageSize) :
    finder.pageOf limit (Limit.checkBounds ⟨0, pageSize⟩) =
      .ok (finder.pageFor limit pageSize) := by
  rw [Limit.checkBounds_eq_ok.mpr ⟨rfl, le_rfl, sized⟩]
  unfold pageOf pageFor
  cases finder.allRows with
  | false => rfl
  | true => cases limit <;> rfl

section
variable {finder arguments strict} {pageSize : Int}

/-- A finder that takes so many arguments is bound if those that it needs can be shown. -/
theorem bind_of_short (sized : 1 ≤ pageSize) (accepted : finder.Accepts strict arguments.length)
    (short : ∀ argument ∈ finder.needed arguments, ¬argument.Overlong) :
    finder.bind table arguments limit order strict pageSize =
      .ok (finder.request table (finder.consumed arguments) (finder.pageFor limit pageSize)
        order) := by
  apply bindWith_eq_ok.mpr
  refine ⟨?_, _, consume_of_short short, _, finder.pageOf_eq limit sized, rfl⟩
  rw [checkCount_eq, if_pos accepted]

theorem bind_of_long (accepted : finder.Accepts strict arguments.length)
    (long : ∃ argument ∈ finder.needed arguments, argument.Overlong) :
    finder.bind table arguments limit order strict pageSize = .error .numeralTooLong := by
  rw [bind, bindWith, checkCount_eq, if_pos accepted, consume_of_long long]
  rfl

theorem bind_of_refused (refused : ¬finder.Accepts strict arguments.length) :
    finder.bind table arguments limit order strict pageSize =
      .error (.finder finder.descriptor
        (.argumentCount finder.requiredArguments arguments.length)) := by
  rw [bind, bindWith, checkCount_eq, if_neg refused]
  rfl

/-- What a finder that is bound has been given. -/
theorem bind_eq_ok (sized : 1 ≤ pageSize) {select : Select}
    (bound : finder.bind table arguments limit order strict pageSize = .ok select) :
    finder.Accepts strict arguments.length ∧
      (∀ argument ∈ finder.needed arguments, ¬argument.Overlong) ∧
      select = finder.request table (finder.consumed arguments) (finder.pageFor limit pageSize)
        order := by
  by_cases accepted : finder.Accepts strict arguments.length
  · by_cases long : ∃ argument ∈ finder.needed arguments, argument.Overlong
    · rw [bind_of_long table limit order accepted long] at bound
      cases bound
    · push Not at long
      rw [bind_of_short table limit order sized accepted long] at bound
      exact ⟨accepted, long, (Except.ok.inj bound).symm⟩
  · rw [bind_of_refused table limit order accepted] at bound
    cases bound

end

/-- With surplus arguments tolerated, a finder is bound like with the arguments it needs only. -/
theorem bindWith_take {ε : Type} (refuse : Error → ε) (firstPage : Except ε Limit) :
    finder.bindWith refuse table arguments limit order false firstPage =
      finder.bindWith refuse table (finder.needed arguments) limit order strict firstPage := by
  have counted : finder.checkCount arguments.length false =
      finder.checkCount (finder.needed arguments).length strict := by
    rw [checkCount_eq, checkCount_eq, needed, List.length_take]
    by_cases enough : finder.requiredArguments ≤ arguments.length
    · have tolerated : finder.Accepts false arguments.length :=
        (Nat.eq_or_lt_of_le enough).imp Eq.symm fun surplus ↦ ⟨surplus, rfl⟩
      rw [Nat.min_eq_left enough, if_pos tolerated, if_pos (.inl rfl)]
    · -- Of too few arguments none is cut off, so the same number is reported.
      have refused (strict : Bool) : ¬finder.Accepts strict arguments.length :=
        fun accepts ↦ enough accepts.enough
      rw [Nat.min_eq_right (by omega), if_neg (refused _), if_neg (refused _)]
  have consumes : finder.consume arguments = finder.consume (finder.needed arguments) := by
    rw [consume, consume, needed, List.take_take, Nat.min_self]
  simp only [bindWith, counted, consumes]

end Finder

namespace Sql

/-- A filter can be written if every operator has as many values as it takes. -/
theorem misfitOf_eq_none {items : List GroupedPredicate} :
    misfitOf items = none ↔
      ∀ item ∈ items, item.predicate.values.length = item.predicate.operator.arity := by
  simp [misfitOf, List.find?_eq_none, Predicate.isComplete]

namespace Dialect

section
variable (dialect : Dialect) (finder : Finder) (table : Table) (order : Option Order)

/-- The request of a finder that has the values it needs is complete. -/
theorem misfit?_request {values : List Text} (exact : values.length = finder.requiredArguments)
    (page : Limit) :
    (Statement.select (finder.request table values page order)).misfit? = none := by
  rw [Statement.misfit?, Finder.conditions_request]
  exact misfitOf_eq_none.mpr (Finder.length_values_assign exact.ge)

/-- A finder that has the values it needs can be written, with the values bound in front of the
numbers of the page. -/
theorem render_request {values : List Text} (exact : values.length = finder.requiredArguments)
    {page : Limit} (fits : dialect.paging.fits page = true) :
    ∃ compiled, dialect.render (.select (finder.request table values page order)) =
        .ok compiled ∧
      compiled.params = values.map .text ++ dialect.paging.numbers page := by
  let request := finder.request table values page order
  have complete := misfit?_request finder table order exact page
  have whole : values.take (Operator.totalArity (finder.fields.map Finder.FieldExpr.operator)) =
      values :=
    List.take_of_length_le exact.le
  refine ⟨_, render_of_fault?_eq_none (Statement.fault?_of_fits complete rfl fits), ?_⟩
  calc (selectLayout dialect.paging request).binds
      = request.filterValues.map .text ++ dialect.paging.numbers page :=
        binds_selectLayout rfl complete dialect.paging
    _ = values.map .text ++ dialect.paging.numbers page := by
        rw [Select.filterValues, Finder.conditions_request, Finder.flatMap_assign, whole]

/-- A dialect that writes row numbers cannot write a page with too long ones. -/
theorem render_request_unfit {values : List Text}
    (exact : values.length = finder.requiredArguments) {page : Limit}
    (unfit : dialect.paging.fits page = false) :
    dialect.render (.select (finder.request table values page order)) =
      .error .numeralTooLong :=
  render_of_fault?_eq_some
    (Statement.fault?_of_page (misfit?_request finder table order exact page) rfl unfit)

/-- Nothing else keeps a finder that has the values it needs from being written. -/
theorem render_request_eq_error {values : List Text}
    (exact : values.length = finder.requiredArguments) {page : Limit} {error : Error} :
    dialect.render (.select (finder.request table values page order)) = .error error ↔
      error = .numeralTooLong ∧ dialect.paging = .rowNumber ∧ page.Overlong := by
  by_cases overlong : dialect.paging = .rowNumber ∧ page.Overlong
  · rw [render_request_unfit dialect finder table order exact
      (Paging.fits_eq_false_iff.mpr overlong), Except.error.injEq, eq_comm]
    exact (and_iff_left overlong).symm
  · obtain ⟨compiled, rendered, -⟩ := dialect.render_request finder table order exact
      (Paging.fits_eq_true_iff.mpr overlong)
    rw [rendered]
    exact iff_of_false nofun fun fault ↦ overlong fault.2

/-- A finder that is bound is rendered, with the values that it consumes bound in front of the
numbers of the page, unless the page has too long row numbers for the dialect. -/
theorem renderFinder_of_bound {arguments : List Json} {limit : Option Limit} {strict : Bool}
    {pageSize : Int} (sized : 1 ≤ pageSize) {select : Select}
    (bound : finder.bind table arguments limit order strict pageSize = .ok select) :
    (dialect.paging = .rowNumber ∧ (finder.pageFor limit pageSize).Overlong ∧
      (dialect.renderFinder id finder table arguments limit order strict
        (Limit.checkBounds ⟨0, pageSize⟩)).outcome = .error .numeralTooLong) ∨
    (¬(dialect.paging = .rowNumber ∧ (finder.pageFor limit pageSize).Overlong) ∧
      ∃ compiled, (dialect.renderFinder id finder table arguments limit order strict
          (Limit.checkBounds ⟨0, pageSize⟩)).outcome = .ok compiled ∧
        compiled.params = (finder.consumed arguments).map .text ++
          dialect.paging.numbers (finder.pageFor limit pageSize)) := by
  obtain ⟨accepted, -, rfl⟩ := Finder.bind_eq_ok table limit order sized bound
  have exact := Finder.length_consumed accepted.enough
  rw [outcome_renderFinder]
  change finder.bindWith id table arguments limit order strict
    (Limit.checkBounds ⟨0, pageSize⟩) = _ at bound
  rw [bound]
  by_cases overlong : dialect.paging = .rowNumber ∧ (finder.pageFor limit pageSize).Overlong
  · exact .inl ⟨overlong.1, overlong.2, dialect.render_request_unfit finder table order exact
      (Paging.fits_eq_false_iff.mpr overlong)⟩
  · exact .inr ⟨overlong, dialect.render_request finder table order exact
      (Paging.fits_eq_true_iff.mpr overlong)⟩

end

end Dialect

end Sql

namespace Finder

/-- A finder consumes its arguments exactly once and in order.  It is bound if it takes so many
arguments and those that it needs hold no number with too many digits; else the number of arguments
is reported, or that a number is too long.  A filter that it is bound to holds the arguments it
needs, in the form in which they are shown, and every dialect that is always known writes the
finder and binds these arguments in front of the numbers of the page, unless it would have to write
row numbers that are too long.  With surplus arguments tolerated, all of this is as with the
arguments it needs only. -/
theorem bind_consumes_arguments (finder : Finder) (table : Table) (arguments : List Json)
    (limit : Option Limit) (order : Option Order) (strict : Bool) {pageSize : Int}
    (sized : 1 ≤ pageSize) :
    let needed := arguments.take finder.requiredArguments
    let consumed := needed.map Json.display
    let page := finder.pageFor limit pageSize
    ((∃ select, finder.bind table arguments limit order strict pageSize = .ok select) ↔
        finder.Accepts strict arguments.length ∧ ∀ argument ∈ needed, ¬argument.Overlong) ∧
      (¬finder.Accepts strict arguments.length →
        finder.bind table arguments limit order strict pageSize =
          .error (.finder finder.descriptor
            (.argumentCount finder.requiredArguments arguments.length))) ∧
      (finder.Accepts strict arguments.length → (∃ argument ∈ needed, argument.Overlong) →
        finder.bind table arguments limit order strict pageSize = .error .numeralTooLong) ∧
      (∀ select, finder.bind table arguments limit order strict pageSize = .ok select →
        (∃ group, select.predicateGroup = some group ∧ finder.Holds consumed group) ∧
          ∀ entry ∈ builtIn,
            (entry.2.paging = .rowNumber ∧ page.Overlong ∧
              (entry.2.renderFinder id finder table arguments limit order strict
                (Limit.checkBounds ⟨0, pageSize⟩)).outcome = .error .numeralTooLong) ∨
            (¬(entry.2.paging = .rowNumber ∧ page.Overlong) ∧ ∃ compiled,
              (entry.2.renderFinder id finder table arguments limit order strict
                (Limit.checkBounds ⟨0, pageSize⟩)).outcome = .ok compiled ∧
              compiled.params = consumed.map .text ++ entry.2.paging.numbers page)) ∧
      finder.bind table arguments limit order false pageSize =
        finder.bind table needed limit order strict pageSize ∧
      ∀ dialect : Dialect,
        (dialect.renderFinder id finder table arguments limit order false
            (Limit.checkBounds ⟨0, pageSize⟩)).outcome =
          (dialect.renderFinder id finder table needed limit order strict
            (Limit.checkBounds ⟨0, pageSize⟩)).outcome := by
  intro needed consumed page
  have tolerated := finder.bindWith_take table arguments limit order strict id
    (Limit.checkBounds ⟨0, pageSize⟩)
  refine ⟨⟨?_, ?_⟩, bind_of_refused table limit order, bind_of_long table limit order,
    fun select bound ↦ ⟨?_, fun entry _ ↦
      entry.2.renderFinder_of_bound finder table order sized bound⟩, tolerated, fun dialect ↦ ?_⟩
  · rintro ⟨select, bound⟩
    obtain ⟨accepted, short, -⟩ := bind_eq_ok table limit order sized bound
    exact ⟨accepted, short⟩
  · rintro ⟨accepted, short⟩
    exact ⟨_, bind_of_short table limit order sized accepted short⟩
  · obtain ⟨accepted, -, rfl⟩ := bind_eq_ok table limit order sized bound
    exact ⟨_, rfl, holds_filterWith (length_consumed accepted.enough)⟩
  · rw [Dialect.outcome_renderFinder, Dialect.outcome_renderFinder, tolerated]
    rfl

/-- Of four arguments, the last is surplus; the two bounds are numbers. -/
theorem bind_consumes_arguments_surplus :
    let finder : Finder := ⟨"findAllByAgeBetweenOrNameIsNullAndCityLike", true,
      [⟨"age", .between, .and⟩, ⟨"name", .isNull, .or⟩, ⟨"city", .like, .and⟩]⟩
    let table : Table := ⟨"hr", "users", "id", []⟩
    let arguments := [Json.int 18, .int 30, .str "B%", .str "x"]
    (1 : Int) ≤ 25 ∧ ∃ compiled,
      (Dialect.renderFinder id ⟨"derby", .offsetFetch, .none⟩ finder table arguments none none false
        (Limit.checkBounds ⟨0, 25⟩)).outcome = .ok compiled ∧
      compiled.params = [.text "18", .text "30", .text "B%", .integer 0, .integer 25] := by
  intro finder table arguments
  have sized : (1 : Int) ≤ 25 := by decide
  have short : ∀ argument ∈ finder.needed arguments, ¬argument.Overlong := by
    intro argument mem
    have writable : (finder.needed arguments).all Json.isWritable = true := by decide
    exact Json.isWritable_eq_true_iff.mp (List.all_eq_true.mp writable argument mem)
  obtain ⟨bound, -, -, written, -⟩ := finder.bind_consumes_arguments table arguments none none
    false sized
  obtain ⟨select, found⟩ := bound.mpr ⟨.inr ⟨by decide, rfl⟩, short⟩
  obtain ⟨-, written⟩ := written select found
  obtain ⟨numbered, -⟩ | ⟨-, served⟩ :=
    written (["derby"], ⟨"derby", .offsetFetch, .none⟩) (by decide)
  · cases numbered
  · exact ⟨sized, served⟩

/-- A finder that takes its argument is not rendered in every dialect for the farthest page, nor is
it bound to a number that is too long. -/
theorem bind_consumes_arguments_fails :
    let finder : Finder := ⟨"findAllByName", true, [⟨"name", .equals, .and⟩]⟩
    let table : Table := ⟨"hr", "users", "id", []⟩
    finder.Accepts true 1 ∧
      (∃ select, finder.bind table [.str "Ada"] (some .farthest) none true 25 = .ok select) ∧
      (Dialect.renderFinder id ⟨"oracle", .rowNumber, .none⟩ finder table [.str "Ada"]
        (some .farthest) none true (Limit.checkBounds ⟨0, 25⟩)).outcome =
          .error .numeralTooLong ∧
      finder.bind table [.int (10 ^ Number.maxDigits : Nat)] none none true 25 =
        .error .numeralTooLong := by
  intro finder table
  have accepted : finder.Accepts true 1 := .inl rfl
  have bound : finder.bind table [.str "Ada"] (some .farthest) none true 25 = .ok _ :=
    bind_of_short table _ none (by decide) accepted
      (List.forall_mem_singleton.mpr (Json.not_overlong_str _))
  refine ⟨accepted, ⟨_, bound⟩, ?_, bind_of_long table none none accepted
    ⟨_, List.mem_singleton_self _, _, .int, le_rfl⟩⟩
  obtain ⟨-, -, failed⟩ | ⟨fits, -⟩ := Dialect.renderFinder_of_bound
    ⟨"oracle", .rowNumber, .none⟩ finder table none (by decide) bound
  · exact failed
  · exact absurd ⟨rfl, Limit.overlong_farthest⟩ fits

end Finder

end DialectSql
