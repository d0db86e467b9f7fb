import DialectSql.Json.Reader
import DialectSql.OrderedMap
import DialectSql.Predicate

/-!
# Errors

Why a request cannot be served.  Each cause is a constructor that carries what went wrong; its
class, its wording and its details follow from it.

An error quotes numbers that come from outside, and a number with too many digits cannot be turned
into text.  Where that happens another error is met, which says so and nothing else.
-/

namespace DialectSql

/-- The class of an error, by which a client tells errors apart. -/
inductive ErrorClass where
  | configuration
  | resourceNotFound
  | invalidStatement
  | invalidFinder
  | unsupportedDialect
  | unsupportedOperation
  /-- A number could not be turned into text. -/
  | conversion
  deriving DecidableEq, Repr, Inhabited

/-- The code of an error class. -/
def ErrorClass.code : ErrorClass → String
  | configuration => "CONFIGURATION_ERROR"
  | resourceNotFound => "RESOURCE_NOT_FOUND"
  | invalidStatement => "INVALID_STATEMENT"
  | invalidFinder => "INVALID_FINDER"
  | unsupportedDialect => "UNSUPPORTED_DIALECT"
  | unsupportedOperation => "UNSUPPORTED_OPERATION"
  | conversion => "ValueError"

/-- Why a finder descriptor cannot be read. -/
inductive FinderFault where
  /-- It starts with neither of the two prefixes. -/
  | noPrefix
  /-- Its body holds a character that no field name has. -/
  | strangeCharacter (position : Nat)
  /-- Its body does not start with a capital letter behind the given prefix. -/
  | uncapitalised (opening : Text) (position : Nat)
  /-- A field expression without a field name starts at the position. -/
  | missingField (position : Nat)
  /-- A token stands where the descriptor should end. -/
  | unexpected (text : Text) (position : Nat)
  /-- It takes another number of arguments than it was given. -/
  | argumentCount (expected given : Nat)
  deriving DecidableEq, Repr, Inhabited

/-- Why a request cannot be served. -/
inductive Error where
  | schemaMissing (schema table : Text)
  | tableNameMissing (schema table : Text)
  | pageSizeTooSmall (pageSize : Int)
  | maximumTooSmall (pageSize maximum : Int)
  | aliasUnknown (aliasName : Text) (aliases : List Text)
  | schemaUndetermined (table url : Text)
  | aliasSchemaNeeded (aliasName : Text) (cause : Error)
  | resourceMissing (aliasName resource : Text)
  | negativeStart (start : Int)
  | nonPositiveRows (rows : Int)
  | unknownDirection (text : Text)
  | bothFilters (table : Text)
  | noValues (operation table : Text)
  | noKeyValue (operation table primaryKey : Text)
  | procedureNameMissing
  | payloadMalformed (procedure : Text) (complaint : Json.Complaint) (place : Json.Place)
  | payloadNotArray (procedure : Text)
  | parameterNotInteger (parameter : Text) (value : Json)
  | finder (descriptor : Text) (fault : FinderFault)
  | dialectUnknown (dialect : Option Text) (registered : List Text) (aliasName : Option Text)
  | valueCount (column : Text) (operator : Operator) (given : Nat)
  | columnUnknown (clause table column : Text) (columns : List Text)
  | statementUnknown (typeName : Text)
  /-- A whole number with more digits than may be written was to be turned into text. -/
  | numeralTooLong
  deriving Inhabited

namespace FinderFault

/-- The wording of a fault in the given descriptor. -/
def message (descriptor : Text) : FinderFault → Text
  | noPrefix => "Finder '" ++ descriptor ++ "' must start with 'findBy' or 'findAllBy'."
  | strangeCharacter _ =>
    "Finder '" ++ descriptor ++ "' contains characters other than letters, digits and '_'."
  | uncapitalised opening _ =>
    "Finder '" ++ descriptor ++ "' must continue with a capitalised field name after '" ++
      opening ++ "'."
  | missingField position =>
    "Missing field name in finder '" ++ descriptor ++ "' at position " ++ position.repr ++ "."
  | unexpected text position =>
    "Unexpected '" ++ text ++ "' in finder '" ++ descriptor ++ "' at position " ++
      position.repr ++ "."
  | argumentCount expected given =>
    "Finder '" ++ descriptor ++ "' takes " ++ expected.repr ++ " argument(s), got " ++
      given.repr ++ "."

/-- The position that a fault names. -/
def position? : FinderFault → Option Nat
  | noPrefix => none
  | strangeCharacter position => some position
  | uncapitalised _ position => some position
  | missingField position => some position
  | unexpected _ position => some position
  | argumentCount _ _ => none

/-- What a fault reports beside the descriptor. -/
def details (fault : FinderFault) : List (Text × Json) :=
  match fault with
  | argumentCount expected given => [("expected", .int expected), ("given", .int given)]
  | fault => match fault.position? with
    | some position => [("position", .int position)]
    | none => []

end FinderFault

namespace Error

/-- The class of an error. -/
def errorClass : Error → ErrorClass
  | schemaMissing .. => .configuration
  | tableNameMissing .. => .configuration
  | pageSizeTooSmall .. => .configuration
  | maximumTooSmall .. => .configuration
  | aliasUnknown .. => .configuration
  | schemaUndetermined .. => .configuration
  | aliasSchemaNeeded .. => .configuration
  | resourceMissing .. => .resourceNotFound
  | negativeStart .. => .invalidStatement
  | nonPositiveRows .. => .invalidStatement
  | unknownDirection .. => .invalidStatement
  | bothFilters .. => .invalidStatement
  | noValues .. => .invalidStatement
  | noKeyValue .. => .invalidStatement
  | procedureNameMissing => .invalidStatement
  | payloadMalformed .. => .invalidStatement
  | payloadNotArray .. => .invalidStatement
  | parameterNotInteger .. => .invalidStatement
  | finder .. => .invalidFinder
  | dialectUnknown .. => .unsupportedDialect
  | valueCount .. => .unsupportedOperation
  | columnUnknown .. => .unsupportedOperation
  | statementUnknown .. => .unsupportedOperation
  | numeralTooLong => .conversion

/-- The code of an error. -/
def code (error : Error) : String :=
  error.errorClass.code

/-- The part of a wording that tells for which alias a dialect was wanted. -/
def aliasContext : Option Text → Text
  | none => ""
  | some aliasName => if aliasName.isEmpty then "" else " for alias '" ++ aliasName ++ "'"

/-- The wording of an error. -/
def message : Error → Text
  | schemaMissing _ table => "Table '" ++ table ++ "' requires a schema name."
  | tableNameMissing _ _ => "A table name is required."
  | pageSizeTooSmall pageSize => "page_size must be at least 1, got " ++ pageSize.repr ++ "."
  | maximumTooSmall pageSize maximum =>
    "page_size_max (" ++ maximum.repr ++ ") is smaller than page_size (" ++ pageSize.repr ++ ")."
  | aliasUnknown aliasName _ => "Database alias '" ++ aliasName ++ "' is not configured."
  | schemaUndetermined table _ =>
    "No schema given for table '" ++ table ++ "' and the engine reports none."
  | aliasSchemaNeeded aliasName cause =>
    "Alias '" ++ aliasName ++ "' needs a configured schema: " ++ cause.message
  | resourceMissing aliasName resource =>
    "Resource '" ++ resource ++ "' does not exist for alias '" ++ aliasName ++ "'."
  | negativeStart start => "Limit start must be non-negative, got " ++ start.repr ++ "."
  | nonPositiveRows rows => "Limit rows must be positive, got " ++ rows.repr ++ "."
  | unknownDirection text => "Unknown order direction '" ++ text ++ "'. Use ASC or DESC."
  | bothFilters _ => "A Select takes either a predicate or a predicate group, not both."
  | noValues operation table =>
    operation ++ " on '" ++ table ++ "' requires at least one column value."
  | noKeyValue operation table _ =>
    operation ++ " on '" ++ table ++ "' requires a primary key value."
  | procedureNameMissing => "A stored procedure name is required."
  | payloadMalformed procedure complaint place =>
    "Invalid JSON payload for procedure '" ++ procedure ++ "': " ++ complaint.located place
  | payloadNotArray procedure =>
    "Payload for procedure '" ++ procedure ++ "' must be a JSON array."
  | parameterNotInteger parameter value =>
    "Parameter '" ++ parameter ++ "' must be an integer, got '" ++ value.display ++ "'."
  | finder descriptor fault => fault.message descriptor
  | dialectUnknown dialect registered aliasName =>
    "Unsupported dialect '" ++ dialect.getD "None" ++ "'" ++ aliasContext aliasName ++
      ". Registered dialects: " ++ Text.quotedList registered ++ "."
  | valueCount column operator given =>
    operator.name ++ " on column '" ++ column ++ "' needs " ++ operator.arity.repr ++
      " value(s), got " ++ given.repr ++ "."
  | columnUnknown _ table column _ =>
    "Column '" ++ column ++ "' does not exist on '" ++ table ++ "'."
  | statementUnknown typeName => "Unknown statement type: " ++ typeName
  | numeralTooLong =>
    "Exceeds the limit (" ++ Number.maxDigits.repr ++ " digits) for integer string conversion; " ++
      "use sys.set_int_max_str_digits() to increase the limit"

/-- A text, or null where there is none. -/
def textOrNull : Option Text → Json
  | some text => .str text
  | none => .null

/-- A list of texts. -/
def textList (texts : List Text) : Json :=
  .arr (texts.map .str)

/-- What an error reports beside its wording. -/
def details : Error → List (Text × Json)
  | schemaMissing schema table => [("schema", .str schema), ("table", .str table)]
  | tableNameMissing schema table => [("schema", .str schema), ("table", .str table)]
  | pageSizeTooSmall pageSize => [("page_size", .int pageSize)]
  | maximumTooSmall pageSize maximum =>
    [("page_size", .int pageSize), ("page_size_max", .int maximum)]
  | aliasUnknown aliasName aliases => [("alias", .str aliasName), ("aliases", textList aliases)]
  | schemaUndetermined table url => [("table", .str table), ("url", .str url)]
  | aliasSchemaNeeded aliasName cause => setEntry cause.details "alias" (.str aliasName)
  | resourceMissing aliasName resource => [("alias", .str aliasName), ("resource", .str resource)]
  | negativeStart start => [("start", .int start)]
  | nonPositiveRows rows => [("rows", .int rows)]
  | unknownDirection text => [("direction", .str text)]
  | bothFilters table => [("table", .str table)]
  | noValues _ table => [("table", .str table)]
  | noKeyValue _ table primaryKey => [("table", .str table), ("primary_key", .str primaryKey)]
  | procedureNameMissing => []
  | payloadMalformed procedure _ _ => [("procedure", .str procedure)]
  | payloadNotArray procedure => [("procedure", .str procedure)]
  | parameterNotInteger parameter value => [("parameter", .str parameter), ("value", value)]
  | finder descriptor fault => ("descriptor", .str descriptor) :: fault.details
  | dialectUnknown dialect registered aliasName =>
    [("alias", textOrNull aliasName), ("dialect", textOrNull dialect),
      ("registered", textList registered)]
  | valueCount column operator given =>
    [("clause", .str "WHERE"), ("column", .str column), ("operator", .str operator.name),
      ("expected", .int operator.arity), ("given", .int given)]
  | columnUnknown clause table column columns =>
    [("clause", .str clause), ("table", .str table), ("column", .str column),
      ("allowed_columns", textList columns)]
  | statementUnknown _ => [("clause", .str "statement")]
  | numeralTooLong => []

/-- Whether the numbers that an error quotes can be written. -/
def isWritable : Error → Bool
  | pageSizeTooSmall pageSize => Number.isWritable pageSize
  | maximumTooSmall pageSize maximum => Number.isWritable maximum && Number.isWritable pageSize
  | negativeStart start => Number.isWritable start
  | nonPositiveRows rows => Number.isWritable rows
  | parameterNotInteger _ value => value.isWritable
  | _ => true

/-- The error that is met where an error is put into words. -/
def raised (error : Error) : Error :=
  if error.isWritable then error else numeralTooLong

end Error

/-- The text of a whole number. -/
def Number.decimal (value : Int) : Except Error Text :=
  if isWritable value then .ok value.repr else .error .numeralTooLong

/-- The text of a value shown on its own. -/
def Json.shown (value : Json) : Except Error Text :=
  if value.isWritable then .ok value.display else .error .numeralTooLong

end DialectSql
