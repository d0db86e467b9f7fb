import DialectSql.Failure
import DialectSql.Intake.Record
import DialectSql.Policy.Access
import DialectSql.Policy.Paging
import DialectSql.Sql.Catalog
import DialectSql.Text.Split

/-!
# Settings

The configuration of a deployment: page sizes, the dialect of each alias, access rules, and whether
surplus finder arguments are an error.  It comes from keywords and from environment variables, whose
names are read in letters of either case.  A variable names its setting behind a common stem.  A
setting that is a map is given as JSON; two underscores behind its name lead into the map, and such
a variable sets one entry: to its text, or to the map that the text is in JSON where the entry is a
map.  Keywords take the place of variables, but maps are merged entry by entry.
-/

namespace DialectSql

open Intake

/-- The values of a configuration, whatever they are. -/
structure SettingValues where
  pageSize : Int
  pageSizeMax : Int
  dialects : OrderedMap Text
  acl : OrderedMap Text
  aclRules : OrderedMap (OrderedMap Text)
  strictFinderArguments : Bool

/-- A configuration: a page has at least one row, and the usual page is no larger than the
largest. -/
structure Settings extends SettingValues where
  one_le_pageSize : 1 ≤ pageSize
  pageSize_le_max : pageSize ≤ pageSizeMax

namespace Settings

/-- The configuration with the given values. -/
def ofValues (values : SettingValues) : Except Error Settings :=
  if low : values.pageSize < 1 then .error (Error.pageSizeTooSmall values.pageSize).raised
  else if high : values.pageSizeMax < values.pageSize then
    .error (Error.maximumTooSmall values.pageSize values.pageSizeMax).raised
  else
    .ok {
      toSettingValues := values
      one_le_pageSize := by omega
      pageSize_le_max := by omega }

/-- Reads the dialects of aliases. -/
def dialectsOfJson (data : Json) : Checked (OrderedMap Text) :=
  (fun dialects ↦ Sql.Aliases.normalise dialects.entries) <$> map text data

/-- Reads a configuration.  Other members do not count. -/
def ofMembers (members : Members) : Checked Settings :=
  let read : Checked SettingValues :=
    SettingValues.mk <$> fieldOr members "page_size" defaultPageSize integer
      <*> fieldOr members "page_size_max" defaultPageSizeMax integer
      <*> fieldOr members "dialects" .empty dialectsOfJson
      <*> fieldOr members "acl" .empty (map text)
      <*> fieldOr members "acl_rules" .empty (map (map text))
      <*> fieldOr members "strict_finder_arguments" true boolean
  read.andThen fun values ↦ .ofExcept (ofValues values)

/-- The paging policy of a configuration. -/
def paging (settings : Settings) : PagingPolicy :=
  ⟨settings.pageSize, settings.pageSizeMax⟩

/-- The access rules of a configuration. -/
def access (settings : Settings) : AccessPolicy :=
  ⟨settings.acl.mapValues some, settings.aclRules.mapValues (·.mapValues some)⟩

/-- The dialects of aliases in a configuration. -/
def aliases (settings : Settings) : Sql.Aliases :=
  .ofEntries settings.dialects.entries

/-! ## Environment variables -/

mutual

/-- A value over another one: two objects are merged, else the upper value stands. -/
def overlayValue (lower : Option Json) : Json → Json
  | .obj members =>
    match lower with
    | some (.obj old) => .obj (overlay old members)
    | _ => .obj members
  | value => value

/-- The members of an object over those of another one. -/
def overlay (lower : Members) : Members → Members
  | [] => lower
  | (name, value) :: members =>
    overlay (setEntry lower name (overlayValue (lower.lookup name) value)) members

end

/-- Sets the value at a path of names.  Where something that is no object is in the way, the value
is dropped. -/
def setPath (members : Members) : List Text → Json → Members
  | [], _ => members
  | [name], value => setEntry members name value
  | name :: names, value =>
    match members.lookup name with
    | none => setEntry members name (.obj (setPath [] names value))
    | some (.obj inner) => setEntry members name (.obj (setPath inner names value))
    | some _ => members

/-- The value of an entry of a map that is nested to the given depth.  Where the entry is itself a
map, its text is read as JSON if it can be. -/
def entryValue (depth : Nat) (path : List Text) (text : Text) : Json :=
  if path.length < depth ∧ text ≠ [] then
    match Json.parse text with
    | .ok value => value
    | .error _ => .str text
  else .str text

/-- The entries that variables set in the map whose variable has the given name. -/
def nestedEntries (environment : OrderedMap Text) (depth : Nat) (name : Text) : Members :=
  let opening := name ++ "__"
  environment.entries.foldl (fun members entry ↦
    if opening.isPrefixOf entry.1 then
      let path := Text.splitDoubleUnderscores (entry.1.drop opening.length)
      setPath members path (entryValue depth path entry.2)
    else members) []

/-- How a variable gives a setting. -/
inductive VariableForm where
  /-- By a text that stands for the value. -/
  | plain
  /-- By JSON and by variables for the entries of a map of maps, nested to the given depth. -/
  | map (depth : Nat)
  deriving DecidableEq, Repr, Inhabited

/-- The value that variables give to a map, if any. -/
def mapVariable (environment : OrderedMap Text) (stem setting : Text) (depth : Nat) :
    Except Failure (Option Json) :=
  let name := stem ++ setting
  let nested := nestedEntries environment depth name
  match environment.get? name with
  | none => .ok (if nested.isEmpty then none else some (.obj nested))
  | some value =>
    match Json.parse value with
    | .error _ => .error (.unreadableVariable setting)
    | .ok .null => .ok none
    | .ok (.obj members) => .ok (some (.obj (overlay members nested)))
    | .ok found => .ok (some found)

/-- The value that variables give to a setting, if any. -/
def settingValue (environment : OrderedMap Text) (stem setting : Text) :
    VariableForm → Except Failure (Option Json)
  | .plain => .ok ((environment.get? (stem ++ setting)).map .str)
  | .map depth => mapVariable environment stem setting depth

/-- The settings, with the form in which a variable gives each of them. -/
def variableForms : List (Text × VariableForm) :=
  [("page_size", .plain), ("page_size_max", .plain), ("dialects", .map 1), ("acl", .map 1),
    ("acl_rules", .map 2), ("strict_finder_arguments", .plain)]

/-- The settings that variables give. -/
def ofVariables (environment : OrderedMap Text) (stem : Text) : Except Failure Members := do
  let found ← variableForms.mapM fun setting ↦ do
    let value ← settingValue environment stem setting.1 setting.2
    return value.map fun value ↦ (setting.1, value)
  return found.filterMap id

/-- The settings that keywords give; of several spellings of a name the first one counts. -/
def ofKeywords (keywords : Members) : Members :=
  keywords.foldl (fun members keyword ↦
    let name := Text.lower keyword.1
    if hasField members name then members else members ++ [(name, keyword.2)]) []

/-- Reads the configuration that environment variables and keywords give together. -/
def read (stem : Text) (environment : List (Text × Text)) (keywords : Members) :
    Except Failure Settings := do
  let named := OrderedMap.ofList (environment.map fun entry ↦ (Text.lower entry.1, entry.2))
  let given ← ofVariables named (Text.lower stem)
  (ofMembers (overlay given (ofKeywords keywords))).result

end Settings

end DialectSql
