import DialectSql.Failure
import DialectSql.Intake.Model
import DialectSql.Trace

/-!
# Paging Policy

How the wish of a request for a page becomes the page that is served.  Without a wish it is the
first page of the usual size; no page has more rows than the maximum.  A request names the page by
the parameters `offset` and `limit` and the ordering by `sort` and `dir`; of a parameter that
occurs several times the first value counts.

A policy can also be handed over unchecked.  Its page size is then read like the number of rows of
any page, wherever a page is made of it; its maximum is compared with the rows of a page and takes
their place as it is.
-/

namespace DialectSql

/-- The usual and the largest page size. -/
structure PagingPolicy where
  pageSize : Int
  pageSizeMax : Int
  deriving DecidableEq, Repr, Inhabited

/-- The largest page size where nothing else is configured. -/
def defaultPageSizeMax : Int := 500

namespace Limit

/-- Reports that a page is cut.  There is no record of a number that cannot be written. -/
def tellClamped {ε : Type} (rows maximum : Int) : Traced ε Unit :=
  if Number.isWritable rows && Number.isWritable maximum then
    Traced.tell .debug ("Clamped page of " ++ rows.repr ++ " rows to " ++ maximum.repr)
  else pure ()

/-- A page cut to a maximum; the log tells when it is cut. -/
def clampTraced {ε : Type} (limit : Limit) (maximum : Int) : Traced ε Limit :=
  if limit.rows ≤ maximum then pure limit
  else do
    tellClamped limit.rows maximum
    return limit.clamp maximum

/-- Reads the number of rows of the page with the given first row. -/
def ofRows (start : Int) (rows : Json) : Intake.Checked Limit :=
  ofJson (.obj [("start", .int start), ("rows", rows)])

end Limit

namespace PagingPolicy

/-- The policy where nothing is configured. -/
def usual : PagingPolicy :=
  ⟨defaultPageSize, defaultPageSizeMax⟩

/-- The first page. -/
def defaultLimit (policy : PagingPolicy) : Except Error Limit :=
  Limit.checkBounds ⟨0, policy.pageSize⟩

/-- The page for a wish. -/
def resolveLimit (policy : PagingPolicy) : Option Limit → Traced Error Limit
  | none => .ofExcept policy.defaultLimit
  | some limit => limit.clampTraced policy.pageSizeMax

end PagingPolicy

/-! ## Request parameters -/

/-- The parameters of a request. -/
abbrev Parameters := List (Text × Json)

namespace Parameters

/-- The first value of a parameter; null if there is none. -/
def firstValue (parameters : Parameters) (name : Text) : Json :=
  match parameters.lookup name with
  | none => .null
  | some (.arr []) => .null
  | some (.arr (first :: _)) => first
  | some value => value

/-- The whole number that the value of a parameter denotes; a fraction is cut off. -/
def integerOf (name : Text) (value : Json) : Except Failure Int :=
  match value with
  | .int number => .ok number
  | .bool flag => .ok (if flag then 1 else 0)
  | .float (.infinite _) => .error .infiniteParameter
  | .float number =>
    match number.truncate? with
    | some whole => .ok whole
    | none => .error (.refused (Error.parameterNotInteger name value).raised)
  | .str text =>
    match Number.ofParameter? text with
    | some number => .ok number
    | none => .error (.refused (Error.parameterNotInteger name value).raised)
  | _ => .error (.refused (Error.parameterNotInteger name value).raised)

/-- The whole number of a parameter, if the parameter is neither null nor empty. -/
def integer? (parameters : Parameters) (name : Text) : Except Failure (Option Int) :=
  match parameters.firstValue name with
  | .null => .ok none
  | .str [] => .ok none
  | value => some <$> integerOf name value

/-- The ordering that request parameters ask for. -/
def order (parameters : Parameters) (primaryKey : Json) : Intake.Checked Order :=
  let sort := parameters.firstValue "sort"
  let direction := parameters.firstValue "dir"
  Order.ofJson (.obj
    [("column", if sort.isEmpty then primaryKey else sort),
      ("direction", if direction.isEmpty then .str Direction.ascending.name else direction)])

end Parameters

/-- The ordering for a wish; without one, by the given primary key. -/
def Order.resolve (order : Option Order) (primaryKey : Json) : Intake.Checked Order :=
  match order with
  | some order => .valid order
  | none => Order.ofJson (.obj [("column", primaryKey)])

/-- A page whose number of rows has been taken over as it was given. -/
structure LoosePage where
  start : Int
  rows : Json

/-- A page with its number of rows as a value. -/
def Limit.loose (limit : Limit) : LoosePage :=
  ⟨limit.start, .int limit.rows⟩

/-- The fields of a page. -/
def LoosePage.toJson (page : LoosePage) : Json :=
  .obj [("start", .int page.start), ("rows", page.rows)]

/-- The whole number that a maximum amounts to; a fraction is cut off. -/
def wholeMaximum? : Json → Option Int
  | .int maximum => some maximum
  | .bool flag => some (if flag then 1 else 0)
  | .float maximum => maximum.truncate?
  | _ => none

/-- The whole number that a maximum amounts to, if a page has more rows. -/
def Limit.exceeded? (limit : Limit) (maximum : Json) : Option Int :=
  (wholeMaximum? maximum).filter (· < limit.rows)

/-- A page cut to a maximum, which is taken over as it is. -/
def Limit.cut (limit : Limit) (maximum : Json) : LoosePage :=
  if (limit.exceeded? maximum).isSome then ⟨limit.start, maximum⟩ else limit.loose

/-- A policy as it is handed over: both sizes may be any value. -/
structure UncheckedPaging where
  pageSize : Json
  pageSizeMax : Json

/-- The policy with its sizes as values. -/
def PagingPolicy.unchecked (policy : PagingPolicy) : UncheckedPaging :=
  ⟨.int policy.pageSize, .int policy.pageSizeMax⟩

namespace UncheckedPaging

/-- The first page. -/
def defaultLimit (policy : UncheckedPaging) : Except Failure Limit :=
  (Limit.ofRows 0 policy.pageSize).result

/-- The page for a wish; the log tells when it is cut. -/
def resolveLimit (policy : UncheckedPaging) : Option Limit → Traced Failure LoosePage
  | none => Limit.loose <$> Traced.ofExcept policy.defaultLimit
  | some limit => do
    match limit.exceeded? policy.pageSizeMax with
    | none => return limit.loose
    | some maximum =>
      Limit.tellClamped limit.rows maximum
      return limit.cut policy.pageSizeMax

/-- The page that request parameters ask for. -/
def limitFrom (policy : UncheckedPaging) (parameters : Parameters) :
    Traced Failure LoosePage := do
  let start ← .ofExcept (parameters.integer? "offset")
  let rows ← .ofExcept (parameters.integer? "limit")
  let limit ← .ofExcept
    (Limit.ofRows (start.getD 0) ((rows.map Json.int).getD policy.pageSize)).result
  policy.resolveLimit (some limit)

end UncheckedPaging

end DialectSql
