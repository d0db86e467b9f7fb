import DialectSql.Finder.Descriptor
import DialectSql.Intake.Model
import DialectSql.Trace

/-!
# Binding Finders

A finder becomes a request for rows once it has a table and arguments.  Its fields take the
arguments from left to right, each as many as its operator needs.  A finder for one row asks for
the first row only; a finder for all rows asks for the page it is given, else for the first page.
-/

namespace DialectSql.Finder

/-- Gives the fields their arguments, from left to right. -/
def assign : List FieldExpr → List Text → List GroupedPredicate
  | [], _ => []
  | field :: fields, arguments =>
    ⟨⟨field.column, field.operator, arguments.take field.operator.arity⟩, field.connector⟩ ::
      assign fields (arguments.drop field.operator.arity)

/-- The arguments that a finder consumes, as texts. -/
def consume (finder : Finder) (arguments : List Json) : Except Error (List Text) :=
  (arguments.take finder.requiredArguments).mapM Json.shown

/-- The fields with their arguments as a filter. -/
def filterWith (finder : Finder) (arguments : List Text) : PredicateGroup :=
  ⟨assign finder.fields arguments⟩

/-- A finder takes exactly the arguments it needs; more of them only if surplus ones are
tolerated. -/
def checkCount (finder : Finder) (given : Nat) (strict : Bool) : Except Error Unit :=
  let expected := finder.requiredArguments
  if given < expected ∨ (strict = true ∧ expected < given) then
    .error (.finder finder.descriptor (.argumentCount expected given))
  else .ok ()

/-- The page of a finder.  The first page is looked at only where it is needed. -/
def pageOf {ε : Type} (finder : Finder) (limit : Option Limit) (firstPage : Except ε Limit) :
    Except ε Limit :=
  if finder.allRows then
    match limit with
    | some limit => .ok limit
    | none => firstPage
  else .ok ⟨0, 1⟩

/-- The request for rows that a finder makes of a table and arguments, where `refuse` embeds the
errors of the finder itself. -/
def bindWith {ε : Type} (refuse : Error → ε) (finder : Finder) (table : Table)
    (arguments : List Json) (limit : Option Limit) (order : Option Order) (strict : Bool)
    (firstPage : Except ε Limit) : Except ε Select := do
  (finder.checkCount arguments.length strict).mapError refuse
  let values ← (finder.consume arguments).mapError refuse
  let page ← finder.pageOf limit firstPage
  return {
    table := table
    columns := []
    predicate := none
    predicateGroup := some (finder.filterWith values)
    limit := some page
    order := some (order.getD (Order.byPrimaryKey table)) }

/-- The request for rows that a finder makes of a table and arguments. -/
def bind (finder : Finder) (table : Table) (arguments : List Json) (limit : Option Limit)
    (order : Option Order) (strict : Bool) (pageSize : Int) : Except Error Select :=
  finder.bindWith id table arguments limit order strict (Limit.checkBounds ⟨0, pageSize⟩)

/-! ## Log -/

/-- Reads a descriptor and reports how many fields it has. -/
def parseTraced (descriptor : Text) : Traced Error Finder := do
  let finder ← Traced.ofExcept (parse descriptor)
  Traced.tell .debug
    ("Parsed finder " ++ descriptor ++ " into " ++ finder.fields.length.repr ++
      " field expression(s)")
  return finder

/-- Reports arguments that are left over. -/
def tellSurplus {ε : Type} (finder : Finder) (given : Nat) : Traced ε Unit :=
  let surplus := given - finder.requiredArguments
  if surplus = 0 then pure ()
  else
    Traced.tell .warning
      ("Finder " ++ finder.descriptor ++ " ignores " ++ surplus.repr ++ " surplus argument(s)")

/-- Binds a finder and reports arguments that are left over. -/
def bindTraced {ε : Type} (refuse : Error → ε) (finder : Finder) (table : Table)
    (arguments : List Json) (limit : Option Limit) (order : Option Order) (strict : Bool)
    (firstPage : Except ε Limit) : Traced ε Select := do
  Traced.ofExcept ((finder.checkCount arguments.length strict).mapError refuse)
  finder.tellSurplus arguments.length
  Traced.ofExcept
    (finder.bindWith refuse table arguments limit order strict firstPage)

end DialectSql.Finder
